namespace MailPrefs.Template

inductive Piece where
  | char (c : Char)
  | percent
  | next
  | numbered (digits : List Char)
deriving DecidableEq, Repr

def isDigit (c : Char) : Bool :=
  '0' ≤ c && c ≤ '9'

/-- The piece at the front of a text that goes on after a percent sign, and the number of characters
it takes there; a percent sign that starts no place stands for itself and takes none. -/
def directive (cs : List Char) : Piece × Nat :=
  match cs with
  | '%' :: _ => (.percent, 1)
  | 's' :: _ => (.next, 1)
  | cs =>
    let digits := cs.takeWhile isDigit
    match digits.isEmpty, cs.drop digits.length with
    | false, '$' :: 's' :: _ => (.numbered digits, digits.length + 2)
    | _, _ => (.char '%', 0)

def pieces (cs : List Char) : List Piece :=
  match cs with
  | [] => []
  | '%' :: cs =>
    let (piece, size) := directive cs
    piece :: pieces (cs.drop size)
  | c :: cs => .char c :: pieces cs
termination_by cs.length
decreasing_by
  · simp only [List.length_cons, List.length_drop]
    omega
  · simp only [List.length_cons]
    omega

def Piece.source : Piece → List Char
  | .char c => [c]
  | .percent => ['%', '%']
  | .next => ['%', 's']
  | .numbered digits => '%' :: digits ++ ['$', 's']

def digitValue (d : Char) : Nat :=
  d.toNat - '0'.toNat

/-- The number that goes on with one more digit, unless it no longer fits into 64 bits. -/
def pushDigit? (n : Nat) (d : Char) : Option Nat :=
  let n := n * 10 + digitValue d
  if n < UInt64.size then some n else none

def number? (digits : List Char) : Option Nat :=
  digits.foldlM pushDigit? 0

def nth? (args : List String) (n : Nat) : Option String :=
  if n = 0 then none else args[n - 1]?

/-- The pieces with the arguments put in; `seen` counts the places that took the next argument. -/
def fill (args : List String) : Nat → List Piece → List Char
  | _, [] => []
  | seen, .char c :: ps => c :: fill args seen ps
  | seen, .percent :: ps => '%' :: fill args seen ps
  | seen, .next :: ps =>
    ((args[seen]?).elim Piece.next.source String.toList) ++ fill args (seen + 1) ps
  | seen, .numbered digits :: ps =>
    (((number? digits).bind (nth? args)).elim (Piece.numbered digits).source String.toList) ++
      fill args seen ps

def format (template : String) (args : List String) : String :=
  String.ofList (fill args 0 (pieces template.toList))

end MailPrefs.Template
