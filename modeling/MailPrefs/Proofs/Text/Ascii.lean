import MailPrefs.Proofs.Json.Strings

namespace MailPrefs

namespace Json

variable {c : Char} {cs : List Char} {b : UInt8} {bs : Bytes}

theorem toUTF8_toList (s : String) : s.toUTF8.toList = utf8 s.toList := by
  rw [← toUTF8_ofList s.toList, String.ofList_toList]

theorem utf8_cons_ascii (hc : c.toNat < 0x80) (cs : List Char) :
    utf8 (c :: cs) = asciiByte c :: utf8 cs := by
  rw [utf8_cons, utf8EncodeChar_ascii hc, List.singleton_append]

theorem asciiByte_inj {d : Char} (hc : c.toNat < 0x80) (hd : d.toNat < 0x80)
    (h : asciiByte c = asciiByte d) : c = d := by
  rw [← Char.ofNat_toNat c, ← toNat_asciiByte hc, h, toNat_asciiByte hd, Char.ofNat_toNat]

theorem asciiByte_mem_encode_iff (hc : c.toNat < 0x80) (d : Char) :
    asciiByte c ∈ String.utf8EncodeChar d ↔ c = d := by
  constructor
  · intro hm
    by_cases hd : d.toNat < 0x80
    · rw [utf8EncodeChar_ascii hd, List.mem_singleton] at hm
      exact asciiByte_inj hc hd hm
    · exact absurd (le_of_mem_utf8EncodeChar hd _ hm) (Nat.not_le_of_lt (toNat_asciiByte hc ▸ hc))
  · rintro rfl
    rw [utf8EncodeChar_ascii hc]
    exact List.mem_singleton_self _

theorem asciiByte_mem_utf8_iff (hc : c.toNat < 0x80) (cs : List Char) :
    asciiByte c ∈ utf8 cs ↔ c ∈ cs := by
  simp only [utf8, List.mem_flatMap, asciiByte_mem_encode_iff hc, exists_eq_right']

/-- A byte of ASCII at the front of a text is its first character. -/
theorem utf8_eq_cons_iff (hc : c.toNat < 0x80) (cs : List Char) (bs : Bytes) :
    utf8 cs = asciiByte c :: bs ↔ ∃ ds, cs = c :: ds ∧ bs = utf8 ds := by
  constructor
  · intro h
    cases cs with
    | nil => cases h
    | cons d ds =>
      obtain ⟨b, front, hb⟩ := List.exists_cons_of_ne_nil (@String.utf8EncodeChar_ne_nil d)
      rw [utf8_cons, hb, List.cons_append] at h
      injection h with hbc h
      have hm : asciiByte c ∈ String.utf8EncodeChar d := by
        rw [hb, hbc]
        exact List.mem_cons_self
      obtain rfl := (asciiByte_mem_encode_iff hc d).mp hm
      rw [utf8EncodeChar_ascii hc] at hb
      injection hb with _ hfront
      subst hfront
      exact ⟨ds, rfl, h.symm⟩
  · rintro ⟨ds, rfl, rfl⟩
    exact utf8_cons_ascii hc ds

/-- The longest front of characters of one kind is that of their bytes, if they are ASCII. -/
theorem takeWhile_utf8 {p : Char → Bool} {q : UInt8 → Bool}
    (hp : ∀ c, p c = true → c.toNat < 0x80) (hq : ∀ b, q b = true → b.toNat < 0x80)
    (hpq : ∀ c, c.toNat < 0x80 → q (asciiByte c) = p c) (cs : List Char) :
    (utf8 cs).takeWhile q = utf8 (cs.takeWhile p) := by
  induction cs with
  | nil => rfl
  | cons c cs ih =>
    by_cases hc : c.toNat < 0x80
    · rw [utf8_cons_ascii hc, List.takeWhile_cons, List.takeWhile_cons, hpq c hc, ih]
      cases p c with
      | true => exact (utf8_cons_ascii hc _).symm
      | false => rfl
    · have hpc : ¬p c = true := fun h => hc (hp c h)
      obtain ⟨b, front, hb⟩ := List.exists_cons_of_ne_nil (@String.utf8EncodeChar_ne_nil c)
      have hqb : ¬q b = true := by
        intro h
        apply Nat.not_le_of_lt (hq b h)
        apply le_of_mem_utf8EncodeChar hc
        rw [hb]
        exact List.mem_cons_self
      rw [utf8_cons, hb, List.cons_append, List.takeWhile_cons_of_neg hqb,
        List.takeWhile_cons_of_neg hpc]
      rfl

theorem utf8_ascii (h : ∀ c ∈ cs, c.toNat < 0x80) : utf8 cs = cs.map asciiByte := by
  induction cs with
  | nil => rfl
  | cons c cs ih =>
    rw [utf8_cons_ascii (h c List.mem_cons_self), List.map_cons,
      ih fun d hd => h d (List.mem_cons_of_mem _ hd)]

end Json

end MailPrefs
