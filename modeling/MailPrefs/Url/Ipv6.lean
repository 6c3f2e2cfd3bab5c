import MailPrefs.Text.Digits
import MailPrefs.Text.Split

namespace MailPrefs

structure Ipv6 where
  pieces : List Nat
deriving DecidableEq, Repr

namespace Ipv6

def piece? (digits : List Char) : Option Nat :=
  if digits.isEmpty || 4 < digits.length then none else Text.number? 16 digits

def byte? (digits : List Char) : Option Nat :=
  if digits.isEmpty || (1 < digits.length && digits.head? = some '0') then none
  else (Text.number? 10 digits).filter (· < 256)

def dotted? (s : List Char) : Option (List Nat) := do
  match ← (Text.splitWhere (· = '.') s).mapM byte? with
  | [a, b, c, d] => some [a * 256 + b, c * 256 + d]
  | _ => none

def group? (s : List Char) : Option (List Nat) :=
  if s.contains '.' then dotted? s else (piece? s).map ([·])

/-- The pieces of groups between colons, of which only the
last one may be dotted; none for no text. -/
def groups? (mayEndDotted : Bool) (s : List Char) : Option (List Nat) :=
  if s.isEmpty then some []
  else do
    let groups := Text.splitWhere (· = ':') s
    let first ← groups.dropLast.mapM piece?
    let last ← groups.getLast?
    let last ← if mayEndDotted then group? last else (piece? last).map ([·])
    some (first ++ last)

def splitGap? : List Char → Option (List Char × List Char)
  | ':' :: ':' :: rest => some ([], rest)
  | c :: rest => (splitGap? rest).map fun (left, right) => (c :: left, right)
  | [] => none

def parse? (s : List Char) : Option Ipv6 := do
  match splitGap? s with
  | none =>
    let pieces ← groups? true s
    if pieces.length = 8 then some ⟨pieces⟩ else none
  | some (left, right) =>
    let left ← groups? false left
    let right ← groups? true right
    let given := left.length + right.length
    if given < 8 then some ⟨left ++ List.replicate (8 - given) 0 ++ right⟩ else none

def zeros (pieces : List Nat) : Nat :=
  (pieces.takeWhile (· = 0)).length

/-- The first of the longest runs of zeros: where it starts and how long it is. -/
def longestZeros (pieces : List Nat) : Nat × Nat :=
  (List.range pieces.length).foldl (fun best i =>
    let n := zeros (pieces.drop i)
    if best.2 < n then (i, n) else best) (0, 0)

def groupsText (pieces : List Nat) : String :=
  ":".intercalate (pieces.map fun p => String.ofList (Nat.toDigits 16 p))

/-- The pieces in lower case, with a double colon for the first longest run of two or more zeros. -/
def text (a : Ipv6) : String :=
  let (start, size) := longestZeros a.pieces
  if size < 2 then groupsText a.pieces
  else groupsText (a.pieces.take start) ++ "::" ++ groupsText (a.pieces.drop (start + size))

end Ipv6

end MailPrefs
