import MailPrefs.Proofs.Template.Pieces
import MailPrefs.Proofs.Text.Ascii
import MailPrefs.Template.Pass

namespace MailPrefs.Template

open Json

variable {args : List String} {cs digits : List Char} {bs : Bytes} {i j : Nat} {a b w n : UInt64}
  {d : UInt8}

theorem exists_word {m : Nat} (h : m < UInt64.size) : ∃ w : UInt64, w.toNat = m :=
  ⟨UInt64.ofNat m, UInt64.toNat_ofNat_of_lt' h⟩

/-- A result that would be wrapped around is right if it is only taken where it fits into a word. -/
theorem fits_eq_some_iff {m : Nat} {result : UInt64} (hr : result.toNat = m % UInt64.size) :
    (if m < UInt64.size then some result else none) = some w ↔ w.toNat = m := by
  constructor
  · intro h
    split at h
    · next hfits =>
      obtain rfl := Option.some.inj h
      rw [hr, Nat.mod_eq_of_lt hfits]
    · cases h
  · intro h
    have hfits : m < UInt64.size := h ▸ w.toNat_lt
    rw [if_pos hfits, Option.some.injEq, ← UInt64.toNat_inj, hr, Nat.mod_eq_of_lt hfits, h]

theorem add?_eq_some_iff : add? a b = some w ↔ w.toNat = a.toNat + b.toNat :=
  fits_eq_some_iff (UInt64.toNat_add a b)

theorem mul?_eq_some_iff : mul? a b = some w ↔ w.toNat = a.toNat * b.toNat :=
  fits_eq_some_iff (UInt64.toNat_mul a b)

theorem sub?_eq_some_iff : sub? a b = some w ↔ w.toNat + b.toNat = a.toNat := by
  rw [sub?]
  constructor
  · intro h
    split at h
    · next hle =>
      obtain rfl := Option.some.inj h
      rw [UInt64.toNat_sub_of_le _ _ hle]
      exact Nat.sub_add_cancel (UInt64.le_iff_toNat_le.mp hle)
    · cases h
  · intro h
    have hle : b ≤ a := by
      apply UInt64.le_iff_toNat_le.mpr
      omega
    rw [if_pos hle, Option.some.injEq, ← UInt64.toNat_inj, UInt64.toNat_sub_of_le _ _ hle]
    omega

def value (digits : Bytes) : Nat :=
  Nat.ofDigits 10 (digits.map fun d => d.toNat - 0x30).reverse

theorem value_concat (digits : Bytes) (d : UInt8) :
    value (digits ++ [d]) = value digits * 10 + (d.toNat - 0x30) := by
  rw [value, List.map_append, List.map_singleton, List.reverse_concat, Nat.ofDigits_cons,
    Nat.add_comm, Nat.mul_comm]
  rfl

theorem pushDigitByte?_eq_some_iff (hd : isDigitByte d = true) :
    pushDigitByte? n d = some w ↔ w.toNat = n.toNat * 10 + (d.toNat - 0x30) := by
  rw [isDigitByte, Bool.and_eq_true, decide_eq_true_eq, decide_eq_true_eq] at hd
  have hten : (10 : UInt64).toNat = 10 := rfl
  have hdigit : (d - 0x30).toUInt64.toNat = d.toNat - 0x30 := by
    rw [UInt8.toNat_toUInt64, UInt8.toNat_sub_of_le _ _ hd.1]
    rfl
  simp only [pushDigitByte?, Option.bind_eq_bind, Option.bind_eq_some_iff, mul?_eq_some_iff,
    add?_eq_some_iff, hten, hdigit]
  constructor
  · rintro ⟨m, hm, hw⟩
    rw [hw, hm]
  · intro hw
    have hfits : n.toNat * 10 < UInt64.size :=
      Nat.lt_of_le_of_lt (hw ▸ Nat.le_add_right _ _) w.toNat_lt
    obtain ⟨m, hm⟩ := exists_word hfits
    exact ⟨m, hm, by rw [hw, hm]⟩

/-- A word is the number that its digits denote, and digits that denote no word give none. -/
theorem word?_eq_some_iff (h : ∀ d ∈ bs, isDigitByte d = true) :
    word? bs = some w ↔ w.toNat = value bs := by
  induction bs using List.reverseRecOn generalizing w with
  | nil =>
    rw [word?, List.foldlM_nil, Option.pure_def, Option.some.injEq, eq_comm, ← UInt64.toNat_inj]
    rfl
  | append_singleton bs d ih =>
    have hbs : ∀ d ∈ bs, isDigitByte d = true := fun d hd => h d (List.mem_append_left _ hd)
    have hd : isDigitByte d = true := h d List.mem_concat_self
    have hw : word? (bs ++ [d]) = (word? bs).bind fun n => pushDigitByte? n d := by
      rw [word?, List.foldlM_append]
      simp only [List.foldlM_cons, List.foldlM_nil, bind_pure]
      rfl
    simp only [hw, Option.bind_eq_some_iff, ih hbs, pushDigitByte?_eq_some_iff hd, value_concat]
    constructor
    · rintro ⟨n, hn, hw⟩
      rw [hw, hn]
    · intro hw
      have hle : value bs ≤ w.toNat := by omega
      have hfits : value bs < UInt64.size := Nat.lt_of_le_of_lt hle w.toNat_lt
      obtain ⟨n, hn⟩ := exists_word hfits
      exact ⟨n, hn, by rw [hw, hn]⟩

/-- The number zero and a number that is no word have no index, all others have the one below. -/
theorem index?_eq_some_iff (h : ∀ d ∈ bs, isDigitByte d = true) :
    index? bs = some n ↔ value bs < UInt64.size ∧ n.toNat + 1 = value bs := by
  have hone : (1 : UInt64).toNat = 1 := rfl
  simp only [index?, Option.bind_eq_bind, Option.bind_eq_some_iff, word?_eq_some_iff h,
    sub?_eq_some_iff, hone]
  constructor
  · rintro ⟨w, hw, hn⟩
    exact ⟨hw ▸ w.toNat_lt, hn.trans hw⟩
  · rintro ⟨hfits, hn⟩
    obtain ⟨w, hw⟩ := exists_word hfits
    exact ⟨w, hw, hn.trans hw.symm⟩

theorem isDigit_lt (c : Char) (h : isDigit c = true) : c.toNat < 0x80 := by
  rw [isDigit, Bool.and_eq_true, decide_eq_true_eq, decide_eq_true_eq] at h
  exact Nat.lt_of_le_of_lt h.2 (by decide)

theorem isDigitByte_lt (b : UInt8) (h : isDigitByte b = true) : b.toNat < 0x80 := by
  rw [isDigitByte, Bool.and_eq_true, decide_eq_true_eq, decide_eq_true_eq] at h
  exact Nat.lt_of_le_of_lt (UInt8.le_iff_toNat_le.mp h.2) (by decide)

theorem isDigitByte_asciiByte (c : Char) (hc : c.toNat < 0x80) :
    isDigitByte (asciiByte c) = isDigit c := by
  rw [Bool.eq_iff_iff, isDigitByte, isDigit]
  simp only [Bool.and_eq_true, decide_eq_true_eq, UInt8.le_iff_toNat_le, toNat_asciiByte hc]
  rfl

theorem takeWhile_digitBytes (cs : List Char) :
    (utf8 cs).takeWhile isDigitByte = utf8 (cs.takeWhile isDigit) :=
  takeWhile_utf8 isDigit_lt isDigitByte_lt isDigitByte_asciiByte cs

theorem drop_digitBytes (cs : List Char) :
    (utf8 cs).drop (utf8 (cs.takeWhile isDigit)).length = utf8 (cs.dropWhile isDigit) := by
  have hcs : utf8 cs = utf8 (cs.takeWhile isDigit) ++ utf8 (cs.dropWhile isDigit) := by
    rw [← utf8_append, List.takeWhile_append_dropWhile]
  rw [hcs, List.drop_left]

theorem takeWhile_of_digits (hd : ∀ d ∈ digits, isDigit d = true) :
    (utf8 digits).takeWhile isDigitByte = utf8 digits := by
  rw [takeWhile_digitBytes, List.takeWhile_eq_self_iff.mpr hd]

theorem value_utf8 (hd : ∀ d ∈ digits, isDigit d = true) :
    value (utf8 digits) = denoted digits := by
  have hascii : ∀ d ∈ digits, d.toNat < 0x80 := fun d h => isDigit_lt d (hd d h)
  rw [value, denoted, utf8_ascii hascii, List.map_map]
  congr 2
  apply List.map_congr_left
  intro d h
  rw [Function.comp_apply, toNat_asciiByte (hascii d h)]
  rfl

theorem index?_bind (args : List String) (hd : ∀ d ∈ digits, isDigit d = true) :
    (index? (utf8 digits)).bind (args[·.toNat]?) = (number? digits).bind (nth? args) := by
  have hbytes : ∀ b ∈ utf8 digits, isDigitByte b = true := by
    rw [← takeWhile_of_digits hd]
    exact fun b hb => List.mem_takeWhile_imp hb
  have hindex {n : UInt64} := index?_eq_some_iff (n := n) hbytes
  rw [value_utf8 hd] at hindex
  rw [number?_eq]
  cases hi : index? (utf8 digits) with
  | some n =>
    obtain ⟨hfits, hn⟩ := hindex.mp hi
    have hone : 1 ≤ denoted digits := by omega
    have hsub : denoted digits - 1 = n.toNat := by omega
    rw [if_pos hfits, Option.bind_some, Option.bind_some, nth?_eq_getElem? hone, hsub]
  | none =>
    split
    · next hfits =>
      have hzero : denoted digits = 0 := by
        by_contra hz
        obtain ⟨n, hn⟩ := exists_word (Nat.lt_of_le_of_lt (Nat.sub_le _ 1) hfits)
        have hsucc : n.toNat + 1 = denoted digits := by omega
        have hsome := hindex.mpr ⟨hfits, hsucc⟩
        rw [hi] at hsome
        cases hsome
      rw [hzero]
      rfl
    · rfl

theorem isBoundary_append_left (c : Char) (bs : Bytes)
    (hi : i < (String.utf8EncodeChar c).length) :
    isBoundary (String.utf8EncodeChar c ++ bs) i = true ↔ i = 0 := by
  rw [isBoundary, List.getElem?_append_left hi, List.getElem?_eq_getElem hi]
  simp only [decide_eq_true_eq]
  exact UInt8.isUTF8FirstByte_getElem_utf8EncodeChar

theorem isBoundary_append_right (as bs : Bytes) (i : Nat) :
    isBoundary (as ++ bs) (as.length + i) = isBoundary bs i := by
  rw [isBoundary, isBoundary, List.getElem?_append_right (Nat.le_add_right _ _),
    Nat.add_sub_cancel_left, List.length_append]
  simp only [Nat.add_left_cancel_iff]

/-- The boundaries in a text are the offsets behind so many of its characters. -/
theorem isBoundary_iff : isBoundary (utf8 cs) i = true ↔
    ∃ front back, cs = front ++ back ∧ i = (utf8 front).length := by
  induction cs generalizing i with
  | nil =>
    rw [utf8_nil, isBoundary, List.getElem?_nil]
    simp only [List.length_nil, decide_eq_true_eq]
    constructor
    · rintro rfl
      exact ⟨[], [], rfl, rfl⟩
    · rintro ⟨front, back, h, rfl⟩
      rw [(List.append_eq_nil_iff.mp h.symm).1]
      rfl
  | cons c cs ih =>
    rw [utf8_cons]
    -- Inside the first character the only boundary is its start.
    by_cases hi : i < (String.utf8EncodeChar c).length
    · rw [isBoundary_append_left c _ hi]
      constructor
      · rintro rfl
        exact ⟨[], c :: cs, rfl, rfl⟩
      · rintro ⟨front, back, h, rfl⟩
        cases front with
        | nil => rfl
        | cons d front =>
          injection h with hc _
          rw [← hc, utf8_cons, List.length_append] at hi
          exact absurd hi (Nat.not_lt_of_le (Nat.le_add_right _ _))
    · obtain ⟨k, rfl⟩ := Nat.exists_eq_add_of_le (Nat.le_of_not_lt hi)
      rw [isBoundary_append_right, ih]
      constructor
      · rintro ⟨front, back, rfl, rfl⟩
        exact ⟨c :: front, back, rfl, by rw [utf8_cons, List.length_append]⟩
      · rintro ⟨front, back, h, hk⟩
        cases front with
        | nil =>
          have hpos := List.length_pos_iff.mpr (@String.utf8EncodeChar_ne_nil c)
          rw [utf8_nil, List.length_nil] at hk
          omega
        | cons d front =>
          injection h with hc h
          subst hc
          rw [utf8_cons, List.length_append, Nat.add_left_cancel_iff] at hk
          exact ⟨front, back, h, hk⟩

theorem slice?_utf8 (left mid right : List Char) (hbs : bs = utf8 (left ++ (mid ++ right)))
    (hi : i = (utf8 left).length) (hj : j = i + (utf8 mid).length) :
    slice? bs i j = some (utf8 mid) := by
  have hleft : isBoundary bs i = true := by
    rw [hbs]
    exact isBoundary_iff.mpr ⟨left, mid ++ right, rfl, hi⟩
  have hmid : isBoundary bs j = true := by
    rw [hbs]
    apply isBoundary_iff.mpr
    refine ⟨left ++ mid, right, (List.append_assoc _ _ _).symm, ?_⟩
    rw [hj, hi, utf8_append, List.length_append]
  have hle : i ≤ j := by omega
  rw [slice?, if_pos ⟨hle, hleft, hmid⟩, hbs, hj, hi, utf8_append, utf8_append]
  rw [List.drop_take, List.drop_left, Nat.add_sub_cancel_left, List.take_left]

end MailPrefs.Template
