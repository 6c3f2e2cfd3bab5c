import MailPrefs.Decimal.Shortest

namespace MailPrefs.Json

inductive Number where
  | integer (value : Int)
  | real (value : Double)
deriving DecidableEq, Repr

namespace Number

def maxInteger : Nat := Nat.pow 2 64 - 1

def isZero : Number → Bool
  | .integer i => i == 0
  | .real x => x.isZero

/-- Doubles are positional while the first digit stands between
10 ^ -5 and 10 ^ 15. Exponents have two digits or more. -/
def realNotation : Double.Notation := ⟨-5, 15, 2⟩

def text : Number → List Char
  | .integer i => (if i < 0 then ['-'] else []) ++ Nat.toDigits 10 i.natAbs
  | .real x => x.text realNotation

def appendDigits : Nat → List Nat → Nat × List Nat
  | n, [] => (n, [])
  | n, d :: ds => if n * 10 + d ≤ maxInteger then appendDigits (n * 10 + d) ds else (n, d :: ds)

def scaleDown (x : Double) (e : Nat) : Option Double :=
  if e ≤ 308 then do x.div? (← Double.pow10? e)
  else if x.isZero then some x
  else do
    match x.div? (← Double.pow10? 308) with
    | none => none
    | some y => scaleDown y (e - 308)
termination_by e

def scaleUp (x : Double) (e : Nat) : Option Double :=
  if e ≤ 308 then do x.mul? (← Double.pow10? e)
  else if x.isZero then some x
  else none

/-- The double for `n * 10 ^ e`: `n` is rounded first, then
its product or quotient with a power of ten. -/
def scaled (negative : Bool) (n : Nat) (e : Int) : Option Double := do
  let x ← Double.round? negative n 1
  if e < 0 then scaleDown x (-e).toNat else scaleUp x e.toNat

structure Literal where
  negative : Bool
  whole : List Nat
  fraction : Option (List Nat)
  exponent : Option Int

/-- The number that a literal denotes, none if it is past the greatest double. Digits that do not
fit `maxInteger` are dropped, before the point with their weight. A negative zero is a double. -/
def ofLiteral? (l : Literal) : Option Number :=
  let (n, dropped) := appendDigits 0 l.whole
  match l.fraction, l.exponent with
  | none, none =>
    if dropped.isEmpty && !l.negative then some (.integer n)
    else if dropped.isEmpty && 0 < n && n ≤ Nat.pow 2 63 then some (.integer (-n))
    else .real <$> scaled l.negative n dropped.length
  | fraction, exponent =>
    let fraction := fraction.getD []
    let (m, rest) := appendDigits n fraction
    let places := fraction.length - rest.length
    .real <$> scaled l.negative m (dropped.length - places + exponent.getD 0)

end Number

end MailPrefs.Json
