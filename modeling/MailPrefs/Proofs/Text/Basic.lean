import Mathlib.Data.List.DropRight
import MailPrefs.Text.Blank
import MailPrefs.Text.Split

namespace MailPrefs.Text

variable {α : Type} {p : α → Bool}

theorem splitWhere_ne_nil (xs : List α) : splitWhere p xs ≠ [] := by
  cases xs with
  | nil => exact List.cons_ne_nil _ _
  | cons x xs =>
    rw [splitWhere]
    split
    · exact List.cons_ne_nil _ _
    · split <;> exact List.cons_ne_nil _ _

theorem splitWhere_cons_of_pos {x : α} (hx : p x = true) (xs : List α) :
    splitWhere p (x :: xs) = [] :: splitWhere p xs :=
  if_pos hx

theorem splitWhere_cons_of_neg {x : α} (hx : p x = false) {xs : List α} {part : List α}
    {parts : List (List α)} (h : splitWhere p xs = part :: parts) :
    splitWhere p (x :: xs) = (x :: part) :: parts := by
  rw [splitWhere, if_neg (by rw [hx]; decide), h]

theorem splitWhere_append_cons {x : α} (hx : p x = true) (xs ys : List α) :
    splitWhere p (xs ++ x :: ys) = splitWhere p xs ++ splitWhere p ys := by
  induction xs with
  | nil => exact splitWhere_cons_of_pos hx ys
  | cons a xs ih =>
    cases ha : p a with
    | true => rw [List.cons_append, splitWhere_cons_of_pos ha, splitWhere_cons_of_pos ha, ih]; rfl
    | false =>
      obtain ⟨part, parts, hp⟩ := List.exists_cons_of_ne_nil (splitWhere_ne_nil (p := p) xs)
      rw [splitWhere_cons_of_neg ha hp]
      rw [hp] at ih
      exact splitWhere_cons_of_neg ha ih

theorem splitWhere_of_not_sep {xs : List α} (h : ∀ x ∈ xs, p x = false) :
    splitWhere p xs = [xs] := by
  induction xs with
  | nil => rfl
  | cons x xs ih =>
    apply splitWhere_cons_of_neg (h x List.mem_cons_self)
    exact ih fun y hy => h y (List.mem_cons_of_mem x hy)

theorem splitWhere_intercalate {sep : α} (hs : p sep = true) {parts : List (List α)}
    (hn : parts ≠ []) (h : ∀ part ∈ parts, ∀ x ∈ part, p x = false) :
    splitWhere p ([sep].intercalate parts) = parts := by
  induction parts with
  | nil => exact absurd rfl hn
  | cons part parts ih =>
    have hp := splitWhere_of_not_sep (h part List.mem_cons_self)
    cases parts with
    | nil => rw [List.intercalate_singleton, hp]
    | cons next parts =>
      have hr := ih (List.cons_ne_nil _ _) fun q hq => h q (List.mem_cons_of_mem part hq)
      rw [List.intercalate_cons_cons, List.append_assoc, List.singleton_append,
        splitWhere_append_cons hs, hp, hr, List.singleton_append]

/-- What holds no separator goes to the last part of what it follows. -/
theorem splitWhere_append {ys : List α} (hy : ∀ y ∈ ys, p y = false) (xs : List α) :
    ∃ parts last, splitWhere p xs = parts ++ [last] ∧
      splitWhere p (xs ++ ys) = parts ++ [last ++ ys] := by
  induction xs with
  | nil => exact ⟨[], [], rfl, splitWhere_of_not_sep hy⟩
  | cons a xs ih =>
    obtain ⟨parts, last, hx, hxy⟩ := ih
    cases ha : p a with
    | true =>
      refine ⟨[] :: parts, last, ?_, ?_⟩
      · rw [splitWhere_cons_of_pos ha, hx, List.cons_append]
      · rw [List.cons_append, splitWhere_cons_of_pos ha, hxy, List.cons_append]
    | false =>
      cases parts with
      | nil =>
        exact ⟨[], a :: last, splitWhere_cons_of_neg ha hx, splitWhere_cons_of_neg ha hxy⟩
      | cons part parts =>
        exact ⟨(a :: part) :: parts, last, splitWhere_cons_of_neg ha hx,
          splitWhere_cons_of_neg ha hxy⟩

theorem not_sep_of_mem_splitWhere {xs part : List α} (h : part ∈ splitWhere p xs) :
    ∀ x ∈ part, p x = false := by
  induction xs generalizing part with
  | nil =>
    rw [List.mem_singleton.mp h]
    exact fun x hx => absurd hx List.not_mem_nil
  | cons a xs ih =>
    cases ha : p a with
    | true =>
      rw [splitWhere_cons_of_pos ha] at h
      rcases List.mem_cons.mp h with rfl | h
      · exact fun x hx => absurd hx List.not_mem_nil
      · exact ih h
    | false =>
      obtain ⟨part', parts, hp⟩ := List.exists_cons_of_ne_nil (splitWhere_ne_nil (p := p) xs)
      rw [splitWhere_cons_of_neg ha hp] at h
      rw [hp] at ih
      rcases List.mem_cons.mp h with rfl | h
      · intro x hx
        rcases List.mem_cons.mp hx with rfl | hx
        · exact ha
        · exact ih List.mem_cons_self x hx
      · exact ih (List.mem_cons_of_mem _ h)

theorem trimEnd_append_replicate {x : α} (hx : p x = true) (xs : List α) (k : Nat) :
    trimEnd p (xs ++ List.replicate k x) = trimEnd p xs := by
  induction k with
  | zero => rw [List.replicate_zero, List.append_nil]
  | succ k ih =>
    rw [List.replicate_succ', ← List.append_assoc]
    exact (List.rdropWhile_concat_pos p _ x hx).trans ih

theorem length_trimEnd_le (p : α → Bool) (xs : List α) : (trimEnd p xs).length ≤ xs.length :=
  (List.rdropWhile_prefix p xs).length_le

theorem trimBoth_eq_nil_iff {xs : List α} : trimBoth p xs = [] ↔ ∀ x ∈ xs, p x = true := by
  have hr : trimBoth p xs = [] ↔ ∀ x ∈ xs.dropWhile p, p x = true := List.rdropWhile_eq_nil_iff
  rw [hr]
  constructor
  · intro h
    have hd : xs.dropWhile p = [] := by
      rw [← List.dropWhile_eq_nil_iff] at h
      rwa [List.dropWhile_idempotent] at h
    exact List.dropWhile_eq_nil_iff.mp hd
  · intro h x hx
    exact h x ((List.dropWhile_sublist p).subset hx)

theorem dropWhile_of_head {xs : List α} (h : ∀ x ∈ xs.head?, p x = false) :
    xs.dropWhile p = xs := by
  cases xs with
  | nil => rfl
  | cons x xs =>
    have hx := h x rfl
    exact List.dropWhile_cons_of_neg (by simp [hx])

theorem trimBoth_append {left xs right : List α} (hl : ∀ x ∈ left, p x = true)
    (hr : ∀ x ∈ right, p x = true) (hf : ∀ x ∈ xs.head?, p x = false)
    (he : ∀ x ∈ xs.getLast?, p x = false) : trimBoth p (left ++ xs ++ right) = xs := by
  have hright : (xs ++ right).reverse.dropWhile p = xs.reverse := by
    rw [List.reverse_append, List.dropWhile_append_of_pos fun x hx => hr x (List.mem_reverse.mp hx)]
    apply dropWhile_of_head
    rw [List.head?_reverse]
    exact he
  rw [trimBoth, List.append_assoc, List.dropWhile_append_of_pos hl]
  cases xs with
  | nil =>
    have hn : right.dropWhile p = [] := List.dropWhile_eq_nil_iff.mpr hr
    rw [List.nil_append, hn]
    rfl
  | cons x xs =>
    have hf' : (x :: xs ++ right).dropWhile p = x :: xs ++ right := dropWhile_of_head hf
    rw [hf', trimEnd, hright, List.reverse_reverse]

theorem head_trimBoth (xs : List α) : ∀ x ∈ (trimBoth p xs).head?, p x = false := by
  intro x hx
  obtain ⟨ys, hys⟩ := List.head?_eq_some_iff.mp hx
  have hpre : trimBoth p xs <+: xs.dropWhile p := List.rdropWhile_prefix p _
  rw [hys] at hpre
  obtain ⟨zs, hzs⟩ := hpre
  have hd := List.head?_dropWhile_not p xs
  rw [← hzs] at hd
  exact hd

theorem last_trimBoth (xs : List α) : ∀ x ∈ (trimBoth p xs).getLast?, p x = false := by
  intro x hx
  have hd := List.head?_dropWhile_not p (xs.dropWhile p).reverse
  rw [trimBoth, trimEnd, List.getLast?_reverse, Option.mem_def] at hx
  rw [hx] at hd
  exact hd

theorem mem_of_mem_trimBoth {x : α} {xs : List α} (h : x ∈ trimBoth p xs) : x ∈ xs := by
  have hpre : trimBoth p xs <+: xs.dropWhile p := List.rdropWhile_prefix p _
  exact (List.dropWhile_sublist p).subset (hpre.subset h)

theorem trim_eq_empty_iff {s : String} : trim s = "" ↔ allBlank s = true := by
  rw [trim, allBlank, List.all_eq_true, ← trimBoth_eq_nil_iff, ← String.toList_inj,
    String.toList_ofList]
  rfl

theorem splitFirst?_eq_none_iff {xs : List α} :
    splitFirst? p xs = none ↔ ∀ x ∈ xs, p x = false := by
  induction xs with
  | nil => exact iff_of_true rfl fun x hx => absurd hx List.not_mem_nil
  | cons a xs ih =>
    cases ha : p a with
    | true => simp [splitFirst?, ha]
    | false => simpa [splitFirst?, ha] using ih

theorem splitFirst?_eq_some_iff {xs left right : List α} :
    splitFirst? p xs = some (left, right) ↔
      ∃ x, xs = left ++ x :: right ∧ p x = true ∧ ∀ y ∈ left, p y = false := by
  induction xs generalizing left with
  | nil => simp [splitFirst?]
  | cons a xs ih =>
    rw [splitFirst?]
    split
    · next ha =>
      constructor
      · intro h
        cases h
        exact ⟨a, rfl, ha, fun _ hy => by cases hy⟩
      · rintro ⟨x, he, hx, hl⟩
        cases left with
        | nil => cases he; rfl
        | cons b left =>
          cases he
          cases ha.symm.trans (hl a List.mem_cons_self)
    · next ha =>
      rw [Option.map_eq_some_iff]
      constructor
      · rintro ⟨⟨left', right'⟩, h, hp⟩
        cases hp
        obtain ⟨x, rfl, hx, hl⟩ := ih.mp h
        refine ⟨x, rfl, hx, fun y hy => ?_⟩
        rcases List.mem_cons.mp hy with rfl | hy
        · exact Bool.eq_false_iff.mpr ha
        · exact hl y hy
      · rintro ⟨x, he, hx, hl⟩
        cases left with
        | nil => cases he; exact absurd hx ha
        | cons b left =>
          cases he
          exact ⟨_, ih.mpr ⟨x, rfl, hx, fun y hy => hl y (List.mem_cons_of_mem _ hy)⟩, rfl⟩

theorem splitLast?_concat {x : α} (hx : p x = false) (xs : List α) :
    splitLast? p (xs ++ [x]) =
      (splitLast? p xs).map fun (left, right) => (left, right ++ [x]) := by
  have hn : ¬p x = true := by
    rw [hx]
    decide
  rw [splitLast?, List.reverse_append, List.reverse_singleton, List.singleton_append, splitFirst?,
    if_neg hn, splitLast?]
  cases splitFirst? p xs.reverse with
  | none => rfl
  | some parts => simp

/-- What ends in something else than `x` is not cut into where copies of `x` are taken off. -/
theorem append_replicate_eq_append {xs ys zs : List α} {x y : α} {k : Nat} (hy : y ≠ x)
    (h : xs ++ List.replicate k x = (ys ++ [y]) ++ zs) :
    ∃ rest, xs = (ys ++ [y]) ++ rest ∧ zs = rest ++ List.replicate k x := by
  rcases List.append_eq_append_iff.mp h with ⟨as, hxs, hr⟩ | ⟨rest, hxs, hzs⟩
  · rcases List.eq_nil_or_concat as with rfl | ⟨as, a, rfl⟩
    · rw [List.append_nil] at hxs
      exact ⟨[], by rw [hxs, List.append_nil], hr.symm⟩
    · rw [List.concat_eq_append, ← List.append_assoc] at hxs
      have ha : y = a := (List.append_singleton_inj.mp hxs).2
      have hm : a ∈ List.replicate k x := by
        rw [hr]
        simp
      exact absurd (ha.trans (List.eq_of_mem_replicate hm)) hy
  · exact ⟨rest, hxs, hzs⟩

theorem forall_of_all {q : α → Prop} [DecidablePred q] {xs : List α}
    (h : (xs.all fun x => q x) = true) : ∀ x ∈ xs, q x := by
  intro x hx
  exact of_decide_eq_true (List.all_eq_true.mp h x hx)

/-- Controls and the space are so few that what holds of all of them can be checked. -/
theorem of_le_space {P : Char → Prop} (h : ∀ n < 0x21, P (.ofNat n)) {c : Char}
    (hc : c.toNat ≤ 0x20) : P c := by
  rw [← Char.ofNat_toNat c]
  exact h c.toNat (Nat.lt_succ_of_le hc)

theorem ne_of_le_space {c d : Char} (hc : c.toNat ≤ 0x20) (hd : 0x20 < d.toNat) : c ≠ d := by
  rintro rfl
  omega

theorem utf8EncodeChar_ne_nil (c : Char) : String.utf8EncodeChar c ≠ [] := by
  rw [← List.length_pos_iff, String.length_utf8EncodeChar]
  exact c.utf8Size_pos

theorem flatMap_toList_of_fromUTF8? {bytes : List UInt8} {s : String}
    (h : String.fromUTF8? ⟨bytes.toArray⟩ = some s) :
    s.toList.flatMap String.utf8EncodeChar = bytes := by
  rw [String.fromUTF8?] at h
  split at h
  · next hv =>
    obtain rfl := Option.some.inj h
    have hb : (String.fromUTF8 ⟨bytes.toArray⟩ hv).toByteArray = ⟨bytes.toArray⟩ := rfl
    rw [← String.utf8Encode_toList, List.utf8Encode] at hb
    have hd := congrArg (·.data.toList) hb
    simpa only [List.data_toByteArray] using hd
  · cases h

end MailPrefs.Text
