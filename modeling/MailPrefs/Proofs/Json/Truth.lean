import Mathlib.Algebra.Order.Ring.Rat
import Mathlib.Tactic.NormNum
import MailPrefs.Report

namespace MailPrefs

def Double.value (x : Double) : ℚ :=
  (if x.negative then -1 else 1) * x.mantissa * 2 ^ x.exponent

theorem Double.isZero_iff {x : Double} : x.isZero = true ↔ x.value = 0 := by
  have hs : (if x.negative then -1 else 1 : ℚ) ≠ 0 := by split <;> norm_num
  have hp : (2 : ℚ) ^ x.exponent ≠ 0 := zpow_ne_zero _ two_ne_zero
  rw [isZero, beq_iff_eq, value, mul_eq_zero, mul_eq_zero, or_iff_left hp, or_iff_right hs,
    Nat.cast_eq_zero]

namespace Json

def Number.value : Number → ℚ
  | .integer i => i
  | .real x => x.value

theorem Number.isZero_iff {n : Number} : n.isZero = true ↔ n.value = 0 := by
  cases n with
  | integer i => rw [isZero, beq_iff_eq, value, Int.cast_eq_zero]
  | real x => exact Double.isZero_iff

/-- The value counts as a yes. -/
structure IsYes (x : Json) : Prop where
  not_null : x ≠ .null
  not_false : x ≠ .bool false
  not_zero : ∀ n, x = .number n → n.value ≠ 0
  not_empty : x ≠ .string ""

theorem isTruthy_iff {x : Json} : x.isTruthy = true ↔ x.IsYes := by
  cases x with
  | null => exact iff_of_false nofun fun h => h.not_null rfl
  | bool b =>
    cases b with
    | false => exact iff_of_false nofun fun h => h.not_false rfl
    | true => exact iff_of_true rfl ⟨nofun, nofun, nofun, nofun⟩
  | number n =>
    rw [isTruthy, Bool.not_eq_true', Bool.eq_false_iff, Ne, Number.isZero_iff]
    constructor
    · intro h
      refine ⟨nofun, nofun, ?_, nofun⟩
      rintro _ ⟨⟩
      exact h
    · exact fun h => h.not_zero n rfl
  | string s =>
    rw [isTruthy, Bool.not_eq_true', Bool.eq_false_iff, Ne, String.isEmpty_iff]
    constructor
    · intro h
      refine ⟨nofun, nofun, nofun, ?_⟩
      rintro ⟨⟩
      exact h rfl
    · rintro h rfl
      exact h.not_empty rfl
  | array | object => exact iff_of_true rfl ⟨nofun, nofun, nofun, nofun⟩

end Json

/-- The report holds a value for the list that counts as a yes. -/
def Report.Affirms (r : Report) (key : String) : Prop :=
  ∃ x, Json.Members.get? key r.mailingLists = some x ∧ x.IsYes

theorem Report.isSubscribed_iff_affirms {r : Report} {key : String} :
    r.isSubscribed key = true ↔ r.Affirms key := by
  rw [isSubscribed, Affirms]
  cases Json.Members.get? key r.mailingLists with
  | none => exact ⟨nofun, nofun⟩
  | some x => simp only [Json.isTruthy_iff, Option.some.injEq, exists_eq_left']

instance (r : Report) (key : String) : Decidable (r.Affirms key) :=
  decidable_of_iff _ Report.isSubscribed_iff_affirms

end MailPrefs
