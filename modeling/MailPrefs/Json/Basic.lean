import MailPrefs.Json.Number

namespace MailPrefs

inductive Json where
  | null
  | bool (value : Bool)
  | number (value : Json.Number)
  | string (value : String)
  | array (items : List Json)
  | object (members : List (String × Json))
deriving Repr, Inhabited

namespace Json

abbrev Members := List (String × Json)

def Members.get? (key : String) (members : Members) : Option Json :=
  members.lookup key

def Members.keys (members : Members) : List String :=
  members.map (·.1)

/-- Replaces the value of a key in its place, or appends the member. -/
def Members.insert (key : String) (value : Json) : Members → Members
  | [] => [(key, value)]
  | (k, v) :: rest =>
    if k = key then (k, value) :: rest else (k, v) :: Members.insert key value rest

/-- Whether a value counts as a yes: all but null, false, zero and the empty string. -/
def isTruthy : Json → Bool
  | .null => false
  | .bool b => b
  | .number n => !n.isZero
  | .string s => !s.isEmpty
  | .array _ => true
  | .object _ => true

def ofNat (n : Nat) : Json := .number (.integer n)

end Json

end MailPrefs
