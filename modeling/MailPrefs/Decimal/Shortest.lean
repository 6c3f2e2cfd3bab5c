import MailPrefs.Decimal.Double

namespace MailPrefs.Double

structure Decimal where
  digits : Nat
  exponent : Int
deriving DecidableEq, Repr

/-- The reals that round to `x`, as bounds in units of `2 ^ (x.exponent - 2)`; both bounds belong to
it if `x.mantissa` is even. Below a power of two the gap is half as wide. -/
def lowerBound (x : Double) : Nat :=
  if x.mantissa = Nat.pow 2 52 ∧ x.exponent ≠ -1074 then 4 * x.mantissa - 1 else 4 * x.mantissa - 2

def upperBound (x : Double) : Nat :=
  4 * x.mantissa + 2

def comparable (x : Double) (n : Nat) (d : Nat) (k : Int) : Nat × Nat :=
  let e := x.exponent - 2
  (n * Nat.pow 2 e.toNat * Nat.pow 10 (-k).toNat, d * Nat.pow 10 k.toNat * Nat.pow 2 (-e).toNat)

def readsBack (x : Double) (d : Nat) (k : Int) : Bool :=
  let (low, v) := x.comparable x.lowerBound d k
  let (high, _) := x.comparable x.upperBound d k
  if x.mantissa % 2 = 0 then low ≤ v && v ≤ high else low < v && v < high

def floorAt (x : Double) (k : Int) : Nat :=
  let (n, unit) := x.comparable (4 * x.mantissa) 1 k
  n / unit

/-- Of the two neighbours of `x` on the grid of multiples of
`10 ^ k`, the nearer one, an even one of two. -/
def nearestAt (x : Double) (k : Int) : Nat :=
  let (n, unit) := x.comparable (4 * x.mantissa) 1 k
  roundHalfEven n unit

def leadingExponent (x : Double) : Int :=
  ((Nat.toDigits 10 (x.floorAt (-340))).length : Int) - 341

def candidate? (x : Double) (n : Nat) : Option Decimal :=
  let k := x.leadingExponent + 1 - n
  let near := x.nearestAt k
  let low := x.floorAt k
  -- At a power of two the nearer neighbour can be out of bounds where the other one is not.
  let far := if near = low then low + 1 else low
  if x.readsBack near k then some ⟨near, k⟩
  else if x.readsBack far k then some ⟨far, k⟩
  else none

/-- The decimal with the fewest digits that reads back as
`x`, which is not zero; 17 digits always do. -/
def shortest (x : Double) : Decimal :=
  ((List.range 17).findSome? fun n => x.candidate? (n + 1)).getD
    ⟨x.nearestAt (x.leadingExponent - 16), x.leadingExponent - 16⟩

def Decimal.significant (d : Decimal) : List Char × Int :=
  let ds := Nat.toDigits 10 d.digits
  ((ds.reverse.dropWhile (· = '0')).reverse, d.exponent + ds.length - 1)

/-- Where the text of a double changes from positional to scientific, by the exponent of its first
digit, and how many digits the exponent has at least. -/
structure Notation where
  leastPositional : Int
  greatestPositional : Int
  exponentWidth : Nat

def positional (ds : List Char) (exponent : Int) : List Char :=
  if exponent < 0 then ['0', '.'] ++ List.replicate (-exponent - 1).toNat '0' ++ ds
  else
    let places := exponent.toNat + 1
    let whole := ds.take places ++ List.replicate (places - ds.length) '0'
    let fraction := ds.drop places
    whole ++ '.' :: (if fraction.isEmpty then ['0'] else fraction)

def scientific (width : Nat) (ds : List Char) (exponent : Int) : List Char :=
  let point := if (ds.drop 1).isEmpty then [] else '.' :: ds.drop 1
  let digits := Nat.toDigits 10 exponent.natAbs
  ds.take 1 ++ point ++ ['e', if exponent < 0 then '-' else '+'] ++
    List.replicate (width - digits.length) '0' ++ digits

def text (n : Notation) (x : Double) : List Char :=
  let sign := if x.negative then ['-'] else []
  if x.isZero then sign ++ ['0', '.', '0']
  else
    let (ds, e) := x.shortest.significant
    sign ++
      if n.leastPositional ≤ e ∧ e ≤ n.greatestPositional then positional ds e
      else scientific n.exponentWidth ds e

end MailPrefs.Double
