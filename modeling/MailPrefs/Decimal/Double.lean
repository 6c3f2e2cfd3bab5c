namespace MailPrefs

/-- The finite double `mantissa * 2 ^ exponent`, negated if `negative`. The values that `round?`
builds have `mantissa < 2 ^ 53`, and `2 ^ 52 ≤ mantissa` unless `exponent = -1074`. -/
structure Double where
  negative : Bool
  mantissa : Nat
  exponent : Int
deriving DecidableEq, Repr

namespace Double

def zero (negative : Bool) : Double := ⟨negative, 0, -1074⟩

def isZero (x : Double) : Bool := x.mantissa == 0

def roundHalfEven (num den : Nat) : Nat :=
  let q := num / den
  let r := num % den
  if 2 * r > den || (2 * r == den && q % 2 == 1) then q + 1 else q

def shifted (num den : Nat) (exponent : Int) : Nat × Nat :=
  if exponent < 0 then (num * Nat.pow 2 (-exponent).toNat, den)
  else (num, den * Nat.pow 2 exponent.toNat)

/-- The exponent at which the integral part of `num / den`
has 53 binary digits, if it is not below the least one. -/
def exponentOf (num den : Nat) : Int :=
  let low : Int := max (-1074) ((num.log2 : Int) - (den.log2 : Int) - 53)
  let (n, d) := shifted num den low
  if Nat.pow 2 53 ≤ n / d then low + 1 else low

/-- The double nearest to `num / den`, a tie going to the
even mantissa; none if that is past the greatest one. -/
def round? (negative : Bool) (num den : Nat) : Option Double :=
  if num = 0 then some (zero negative)
  else
    let e := exponentOf num den
    let (n, d) := shifted num den e
    let m := roundHalfEven n d
    let (m, e) := if m = Nat.pow 2 53 then (Nat.pow 2 52, e + 1) else (m, e)
    if e ≤ 971 then some ⟨negative, m, e⟩ else none

def roundScaled? (negative : Bool) (num den : Nat) (exponent : Int) : Option Double :=
  let (n, d) := shifted num den (-exponent)
  round? negative n d

def pow10? (n : Nat) : Option Double :=
  round? false (Nat.pow 10 n) 1

def mul? (x y : Double) : Option Double :=
  roundScaled? (x.negative != y.negative) (x.mantissa * y.mantissa) 1 (x.exponent + y.exponent)

def div? (x y : Double) : Option Double :=
  if y.mantissa = 0 then none
  else roundScaled? (x.negative != y.negative) x.mantissa y.mantissa (x.exponent - y.exponent)

end Double

end MailPrefs
