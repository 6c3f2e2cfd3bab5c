import Mathlib.Logic.Basic
import MailPrefs.HttpError
import MailPrefs.Report
import MailPrefs.Proofs.Except

namespace MailPrefs

namespace Json

def isObject : Json → Bool
  | .object _ => true
  | _ => false

def isText : Json → Bool
  | .string _ => true
  | _ => false

def isNull : Json → Bool
  | .null => true
  | _ => false

def text? : Json → Option String
  | .string s => some s
  | _ => none

def members? : Json → Option Members
  | .object ms => some ms
  | _ => none

/-- The fields that a value gives to a structure: an object its members, a list that is not too long
its items, under the names in their order. -/
def fields? (names : List String) : Json → Option Members
  | .object ms => some ms
  | .array xs => if xs.length ≤ names.length then some (names.zip xs) else none
  | _ => none

def Members.last? (key : String) : Members → Option Json
  | [] => none
  | (k, x) :: ms => (Members.last? key ms).or (if k = key then some x else none)

theorem Members.last?_cons_self (key : String) (x : Json) (ms : Members) :
    Members.last? key ((key, x) :: ms) = some ((Members.last? key ms).getD x) := by
  rw [last?, if_pos rfl]
  cases Members.last? key ms <;> rfl

theorem Members.last?_cons_of_ne {key k : String} (h : k ≠ key) (x : Json) (ms : Members) :
    Members.last? key ((k, x) :: ms) = Members.last? key ms := by
  rw [last?, if_neg h, Option.or_none]

theorem Members.elim_last?_cons_self {α : Type} (key : String) (x : Json) (ms : Members) (a : α)
    (f : Json → α) :
    (Members.last? key ((key, x) :: ms)).elim a f = (Members.last? key ms).elim (f x) f := by
  rw [last?_cons_self]
  cases Members.last? key ms <;> rfl

theorem Members.mem_of_last? {key : String} {x : Json} {ms : Members}
    (h : Members.last? key ms = some x) : (key, x) ∈ ms := by
  induction ms with
  | nil => cases h
  | cons m ms ih =>
    obtain ⟨k, y⟩ := m
    rcases eq_or_ne k key with rfl | hk
    · rw [last?_cons_self] at h
      cases hl : Members.last? k ms with
      | none =>
        rw [hl] at h
        cases h
        exact List.mem_cons_self
      | some z =>
        rw [hl] at h ih
        exact List.mem_cons_of_mem _ (ih h)
    · rw [last?_cons_of_ne hk] at h
      exact List.mem_cons_of_mem _ (ih h)

theorem Members.last?_of_mem {key : String} {x : Json} {ms : Members} (hd : (keys ms).Nodup)
    (h : (key, x) ∈ ms) : Members.last? key ms = some x := by
  induction ms with
  | nil => cases h
  | cons m ms ih =>
    obtain ⟨hm, hd⟩ := List.nodup_cons.mp hd
    rcases List.mem_cons.mp h with rfl | h
    · rw [last?_cons_self]
      cases hl : Members.last? key ms with
      | none => rfl
      | some y => exact absurd (List.mem_map_of_mem (mem_of_last? hl)) hm
    · have hk : m.1 ≠ key := by
        rintro rfl
        exact hm (List.mem_map.mpr ⟨_, h, rfl⟩)
      exact (last?_cons_of_ne hk m.2 ms).trans (ih hd h)

theorem exists_of_isText {x : Json} (h : x.isText = true) : ∃ s, x = .string s := by
  cases x with
  | string s => exact ⟨s, rfl⟩
  | _ => cases h

theorem asString_eq_ok_iff {x : Json} {s : String} : x.asString = .ok s ↔ x = .string s := by
  cases x with
  | string t => rw [asString, Except.ok.injEq, Json.string.injEq]
  | _ => exact ⟨nofun, nofun⟩

theorem asOptionalString_eq_ok_iff {x : Json} {s : Option String} :
    x.asOptionalString = .ok s ↔ (x.isText = true ∨ x.isNull = true) ∧ s = x.text? := by
  cases x with
  | null | string =>
    rw [asOptionalString, Except.ok.injEq, eq_comm]
    simp [isText, isNull, text?]
  | _ => exact ⟨nofun, nofun⟩

theorem asOptionalMembers_eq_ok_iff {x : Json} {ms : Members} :
    x.asOptionalMembers = .ok ms ↔
      (x.isObject = true ∨ x.isNull = true) ∧ ms = x.members?.getD [] := by
  cases x with
  | null | object =>
    rw [asOptionalMembers, Except.ok.injEq, eq_comm]
    simp [isObject, isNull, members?]
  | _ => exact ⟨nofun, nofun⟩

end Json

open Json (Members)

namespace ApiError

def fieldNames : List String := [errorTypeKey, messageShortKey, messageLongKey]

/-- Whether a field has the right type: a string for the type of the error, a string or null for a
message, and anything under another name. -/
def FieldFits (key : String) (x : Json) : Prop :=
  (key = errorTypeKey → x.isText = true) ∧
    (key = messageShortKey ∨ key = messageLongKey → x.isText = true ∨ x.isNull = true)

def Fits (ms : Members) : Prop :=
  ∀ m ∈ ms, FieldFits m.1 m.2

instance (key : String) (x : Json) : Decidable (FieldFits key x) :=
  inferInstanceAs (Decidable (_ ∧ _))

instance (ms : Members) : Decidable (Fits ms) :=
  inferInstanceAs (Decidable (∀ m ∈ ms, FieldFits m.1 m.2))

def ofFields (ms : Members) : ApiError where
  errorType := ((Members.last? errorTypeKey ms).bind Json.text?).getD ""
  messageShort := (Members.last? messageShortKey ms).bind Json.text?
  messageLong := (Members.last? messageLongKey ms).bind Json.text?

/-- An error in which fields take the places of those that were there. -/
def overlay (e : ApiError) (ms : Members) : ApiError where
  errorType := (Members.last? errorTypeKey ms).elim e.errorType fun x => x.text?.getD ""
  messageShort := (Members.last? messageShortKey ms).elim e.messageShort Json.text?
  messageLong := (Members.last? messageLongKey ms).elim e.messageLong Json.text?

theorem overlay_empty (ms : Members) : overlay {} ms = ofFields ms := by
  rw [overlay, ofFields]
  congr 1
  · cases Members.last? errorTypeKey ms <;> rfl
  · cases Members.last? messageShortKey ms <;> rfl
  · cases Members.last? messageLongKey ms <;> rfl

theorem fieldFits_errorType {x : Json} : FieldFits errorTypeKey x ↔ x.isText = true := by
  have hs : errorTypeKey ≠ messageShortKey := by decide
  have hl : errorTypeKey ≠ messageLongKey := by decide
  simp only [FieldFits, hs, hl, forall_const, or_self, false_implies, and_true]

theorem fieldFits_messageShort {x : Json} :
    FieldFits messageShortKey x ↔ x.isText = true ∨ x.isNull = true := by
  have he : messageShortKey ≠ errorTypeKey := by decide
  simp only [FieldFits, he, false_implies, true_and, true_or, forall_const]

theorem fieldFits_messageLong {x : Json} :
    FieldFits messageLongKey x ↔ x.isText = true ∨ x.isNull = true := by
  have he : messageLongKey ≠ errorTypeKey := by decide
  simp only [FieldFits, he, false_implies, true_and, or_true, forall_const]

section Overlay

variable (e : ApiError) (x : Json) (ms : Members)

theorem overlay_errorType :
    e.overlay ((errorTypeKey, x) :: ms) =
      overlay { e with errorType := x.text?.getD "" } ms := by
  rw [overlay, overlay, Members.elim_last?_cons_self, Members.last?_cons_of_ne (by decide),
    Members.last?_cons_of_ne (by decide)]

theorem overlay_messageShort :
    e.overlay ((messageShortKey, x) :: ms) = overlay { e with messageShort := x.text? } ms := by
  rw [overlay, overlay, Members.elim_last?_cons_self, Members.last?_cons_of_ne (by decide),
    Members.last?_cons_of_ne (by decide)]

theorem overlay_messageLong :
    e.overlay ((messageLongKey, x) :: ms) = overlay { e with messageLong := x.text? } ms := by
  rw [overlay, overlay, Members.elim_last?_cons_self, Members.last?_cons_of_ne (by decide),
    Members.last?_cons_of_ne (by decide)]

end Overlay

/-- Members are taken up if they have the right types, and then come to stand over what was there.
The induction goes along the members and changes the error that they are taken up into. -/
theorem withMembers_eq_ok_iff {ms : Members} {e a : ApiError} :
    withMembers ms e = .ok a ↔ Fits ms ∧ a = e.overlay ms := by
  induction ms generalizing e with
  | nil =>
    rw [withMembers, Except.ok.injEq, eq_comm]
    exact (and_iff_right nofun).symm
  | cons m ms ih =>
    obtain ⟨k, x⟩ := m
    rw [Fits, List.forall_mem_cons, ← Fits, withMembers]
    split
    · next hk =>
      subst hk
      simp only [bind_eq_ok_iff, fieldFits_errorType, overlay_errorType, ih,
        Json.asString_eq_ok_iff, and_assoc]
      constructor
      · rintro ⟨s, rfl, h⟩
        exact ⟨rfl, h⟩
      · rintro ⟨hx, h⟩
        obtain ⟨s, rfl⟩ := Json.exists_of_isText hx
        exact ⟨s, rfl, h⟩
    split
    · next hk =>
      subst hk
      simp only [bind_eq_ok_iff, fieldFits_messageShort, overlay_messageShort, ih,
        Json.asOptionalString_eq_ok_iff, and_assoc, exists_eq_left, exists_and_left]
    split
    · next hk =>
      subst hk
      simp only [bind_eq_ok_iff, fieldFits_messageLong, overlay_messageLong, ih,
        Json.asOptionalString_eq_ok_iff, and_assoc, exists_eq_left, exists_and_left]
    · next he hs hl =>
      have hf : FieldFits k x := ⟨fun h => absurd h he, fun h => absurd h (not_or.mpr ⟨hs, hl⟩)⟩
      rw [ih, and_iff_right hf, overlay, overlay, Members.last?_cons_of_ne he,
        Members.last?_cons_of_ne hs, Members.last?_cons_of_ne hl]

theorem ofItems_eq_withMembers {xs : List Json} (h : xs.length ≤ fieldNames.length) :
    ofItems xs = withMembers (fieldNames.zip xs) {} := by
  match xs with
  | [] => rfl
  | [t] => rfl
  | [t, s] => rfl
  | [t, s, l] => rfl
  | t :: s :: l :: x :: rest =>
    simp only [fieldNames, List.length_cons, List.length_nil] at h
    omega

theorem ofItems_ne_ok {xs : List Json} (h : ¬xs.length ≤ fieldNames.length) (a : ApiError) :
    ofItems xs ≠ .ok a := by
  match xs with
  | [] | [_] | [_, _] | [_, _, _] => exact absurd (by simp [fieldNames]) h
  | t :: s :: l :: x :: rest =>
    intro ha
    simp only [ofItems, bind_eq_ok_iff] at ha
    obtain ⟨_, _, _, _, _, _, ha⟩ := ha
    cases ha

/-- What gives fields of the right types is decoded as the error that they make up, and nothing
else is decoded. -/
theorem ofJson_eq_ok_iff {v : Json} {a : ApiError} :
    ofJson v = .ok a ↔ ∃ ms, v.fields? fieldNames = some ms ∧ Fits ms ∧ a = ofFields ms := by
  cases v with
  | object ms =>
    simp only [ofJson, Json.fields?, withMembers_eq_ok_iff, overlay_empty, Option.some.injEq,
      exists_eq_left']
  | array xs =>
    rw [ofJson, Json.fields?]
    by_cases h : xs.length ≤ fieldNames.length
    · simp only [ofItems_eq_withMembers h, withMembers_eq_ok_iff, overlay_empty, if_pos h,
        Option.some.injEq, exists_eq_left']
    · simp only [if_neg h, reduceCtorEq, false_and, exists_false, iff_false]
      exact ofItems_ne_ok h a
  | _ => simp only [ofJson, Json.fields?, reduceCtorEq, false_and, exists_false]

end ApiError

namespace Report

def fieldNames : List String := [mailingListsKey]

def Fits (ms : Members) : Prop :=
  ∀ x ∈ Members.get? mailingListsKey ms, x.isObject = true ∨ x.isNull = true

instance (ms : Members) : Decidable (Fits ms) :=
  inferInstanceAs (Decidable (∀ x ∈ Members.get? mailingListsKey ms, _))

def ofFields (ms : Members) : Report :=
  ⟨((Members.get? mailingListsKey ms).bind Json.members?).getD []⟩

theorem ofJson_object_eq_ok_iff {ms : Members} {r : Report} :
    ofJson (.object ms) = .ok r ↔ Fits ms ∧ r = ofFields ms := by
  rw [ofJson, Fits, ofFields]
  cases hx : Members.get? mailingListsKey ms with
  | none =>
    rw [Except.ok.injEq, eq_comm]
    exact (and_iff_right nofun).symm
  | some x =>
    simp only [map_eq_ok_iff, Json.asOptionalMembers_eq_ok_iff, Option.some.injEq, forall_eq',
      Option.bind_some, Option.mem_def, and_assoc, exists_and_left, exists_eq_left]

theorem ofItems_eq_ofJson {xs : List Json} (h : xs.length ≤ fieldNames.length) :
    ofJson (.array xs) = ofJson (.object (fieldNames.zip xs)) := by
  match xs with
  | [] => rfl
  | [x] => cases x <;> rfl
  | x :: y :: rest =>
    simp only [fieldNames, List.length_cons, List.length_nil] at h
    omega

theorem ofItems_ne_ok {xs : List Json} (h : ¬xs.length ≤ fieldNames.length) (r : Report) :
    ofJson (.array xs) ≠ .ok r := by
  match xs with
  | [] | [_] => exact absurd (by simp [fieldNames]) h
  | x :: y :: rest =>
    intro hr
    obtain ⟨_, _, hr⟩ := bind_eq_ok_iff.mp hr
    cases hr

theorem ofJson_eq_ok_iff {v : Json} {r : Report} :
    ofJson v = .ok r ↔ ∃ ms, v.fields? fieldNames = some ms ∧ Fits ms ∧ r = ofFields ms := by
  cases v with
  | object ms =>
    simp only [ofJson_object_eq_ok_iff, Json.fields?, Option.some.injEq, exists_eq_left']
  | array xs =>
    rw [Json.fields?]
    by_cases h : xs.length ≤ fieldNames.length
    · simp only [ofItems_eq_ofJson h, ofJson_object_eq_ok_iff, if_pos h, Option.some.injEq,
        exists_eq_left']
    · simp only [if_neg h, reduceCtorEq, false_and, exists_false, iff_false]
      exact ofItems_ne_ok h r
  | _ => exact ⟨nofun, nofun⟩

end Report

/-- The server has said what was wrong: a body without success gives the fields of this error. -/
def HttpError.Carries (e : HttpError) (a : ApiError) : Prop :=
  ∃ code v ms, e = .status code (some v) ∧ v.fields? ApiError.fieldNames = some ms ∧
    ApiError.Fits ms ∧ a = ApiError.ofFields ms

theorem HttpError.apiError?_eq_some_iff {e : HttpError} {a : ApiError} :
    e.apiError? = some a ↔ e.Carries a := by
  rw [Carries]
  cases e with
  | status code body =>
    cases body with
    | none => exact ⟨nofun, nofun⟩
    | some v =>
      have ho : (ApiError.ofJson v).toOption = some a ↔ ApiError.ofJson v = .ok a := by
        cases ApiError.ofJson v with
        | error m => exact ⟨nofun, nofun⟩
        | ok b => rw [Except.toOption, Option.some.injEq, Except.ok.injEq]
      rw [apiError?, ho, ApiError.ofJson_eq_ok_iff]
      constructor
      · rintro ⟨ms, h⟩
        exact ⟨code, v, ms, rfl, h⟩
      · rintro ⟨_, _, ms, ⟨⟩, h⟩
        exact ⟨ms, h⟩
  | _ => exact ⟨nofun, nofun⟩

theorem HttpError.any_isNotSubscribed_iff {e : HttpError} :
    e.apiError?.any (·.isNotSubscribed) = true ↔
      ∃ a, e.Carries a ∧ a.errorType = ApiError.notSubscribedType := by
  simp only [Option.any_eq_true, apiError?_eq_some_iff, ApiError.isNotSubscribed, beq_iff_eq]

end MailPrefs
