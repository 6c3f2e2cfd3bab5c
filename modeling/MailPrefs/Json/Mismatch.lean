import MailPrefs.Json.Printer
import MailPrefs.Text.Quoted

namespace MailPrefs.Json

inductive Expected where
  | text
  | map
  | structure (name : String)
deriving DecidableEq, Repr

def Expected.description : Expected → String
  | .text => "a string"
  | .map => "a map"
  | .structure name => "struct " ++ name

inductive Mismatch where
  | kind (found : Json) (expected : Expected)
  | tooLong (length : Nat)

/-- Names the kind of a value, and a scalar's value with it. -/
def describe : Json → String
  | .null => "null"
  | .bool true => "boolean \x60true\x60"
  | .bool false => "boolean \x60false\x60"
  | .number (.integer i) => "integer \x60" ++ String.ofList (Number.integer i).text ++ "\x60"
  | .number (.real x) => "floating point \x60" ++ String.ofList (Number.real x).text ++ "\x60"
  | .string s => "string " ++ Text.quoted s
  | .array _ => "sequence"
  | .object _ => "map"

def Mismatch.message : Mismatch → String
  | .kind found expected =>
    "invalid type: " ++ found.describe ++ ", expected " ++ expected.description
  | .tooLong n => "invalid length " ++ toString n ++ ", expected fewer elements in array"

def asString : Json → Except Mismatch String
  | .string s => .ok s
  | x => .error (.kind x .text)

def asOptionalString : Json → Except Mismatch (Option String)
  | .null => .ok none
  | .string s => .ok (some s)
  | x => .error (.kind x .text)

/-- The members of an object; null stands for the empty one. -/
def asOptionalMembers : Json → Except Mismatch Members
  | .null => .ok []
  | .object ms => .ok ms
  | x => .error (.kind x .map)

end MailPrefs.Json
