import Mathlib.Tactic.SplitIfs
import MailPrefs.Json.Printer
import MailPrefs.Json.Scan

namespace MailPrefs.Json

def utf8 (cs : List Char) : Bytes :=
  cs.flatMap String.utf8EncodeChar

@[simp]
theorem utf8_nil : utf8 [] = [] :=
  rfl

@[simp]
theorem utf8_cons (c : Char) (cs : List Char) :
    utf8 (c :: cs) = String.utf8EncodeChar c ++ utf8 cs :=
  List.flatMap_cons

@[simp]
theorem utf8_append (cs cs' : List Char) : utf8 (cs ++ cs') = utf8 cs ++ utf8 cs' :=
  List.flatMap_append

theorem toList_loop (b : ByteArray) (i : Nat) (bs : Bytes) :
    ByteArray.toList.loop b i bs = bs.reverse ++ b.data.toList.drop i := by
  fun_induction ByteArray.toList.loop b i bs with
  | case1 i bs hi ih =>
    have hd : b.data.toList.drop i = b.get! i :: b.data.toList.drop (i + 1) := by
      have hl : i < b.data.toList.length := hi
      rw [List.drop_eq_getElem_cons hl]
      congr 1
      exact (getElem!_pos b.data i hi).symm
    rw [ih, hd, List.reverse_cons, List.append_assoc]
    rfl
  | case2 i bs hi =>
    have hl : b.data.toList.length ≤ i := Nat.le_of_not_lt hi
    rw [List.drop_of_length_le hl, List.append_nil]

theorem toList_eq_data (b : ByteArray) : b.toList = b.data.toList :=
  toList_loop b 0 []

theorem toUTF8_ofList (cs : List Char) : (String.ofList cs).toUTF8.toList = utf8 cs := by
  have hb : (String.ofList cs).toUTF8 = cs.utf8Encode := String.toByteArray_ofList
  rw [hb, toList_eq_data, List.utf8Encode, List.data_toByteArray]
  rfl

theorem fromUTF8?_utf8 (s : String) : String.fromUTF8? ⟨(utf8 s.toList).toArray⟩ = some s := by
  have hb : (⟨(utf8 s.toList).toArray⟩ : ByteArray) = s.toByteArray := by
    rw [← String.utf8Encode_toList]
    apply ByteArray.ext
    rw [List.utf8Encode, List.data_toByteArray]
    rfl
  have hv : s.toByteArray.IsValidUTF8 := s.isValidUTF8
  rw [hb, String.fromUTF8?, dif_pos hv]
  rfl

section Ascii

variable {c : Char}

def asciiByte (c : Char) : UInt8 :=
  UInt8.ofNat c.toNat

theorem utf8EncodeChar_ascii (hc : c.toNat < 0x80) : String.utf8EncodeChar c = [asciiByte c] :=
  if_pos (Nat.le_of_lt_succ hc)

theorem toNat_asciiByte (hc : c.toNat < 0x80) : (asciiByte c).toNat = c.toNat :=
  UInt8.toNat_ofNat_of_lt' (Nat.lt_trans hc (by decide))

theorem le_of_mem_utf8EncodeChar (hc : ¬c.toNat < 0x80) :
    ∀ b ∈ String.utf8EncodeChar c, 0x80 ≤ b.toNat := by
  have hlong {n : Nat} (hn : n < 256) (h : 0x80 ≤ n) : 0x80 ≤ (UInt8.ofNat n).toNat := by
    rwa [UInt8.toNat_ofNat_of_lt' hn]
  have hc' : ¬c.val.toNat ≤ 127 := fun h => hc (Nat.lt_succ_of_le h)
  intro b hm
  rw [String.utf8EncodeChar.eq_def] at hm
  simp only [if_neg hc'] at hm
  split_ifs at hm
  all_goals
    simp only [List.mem_cons, List.not_mem_nil, or_false] at hm
    rcases hm with rfl | hm
    · exact hlong (by omega) (by omega)
  · subst hm
    exact hlong (by omega) (by omega)
  · rcases hm with rfl | rfl <;> exact hlong (by omega) (by omega)
  · rcases hm with rfl | rfl | rfl <;> exact hlong (by omega) (by omega)

end Ascii

namespace Bytes

variable {b : UInt8} {c : Char}

/-- Inside a string this byte stands for itself. -/
structure Plain (b : UInt8) : Prop where
  not_quote : b ≠ 0x22
  not_backslash : b ≠ 0x5C
  not_control : ¬b < 0x20

theorem stringContent_plain (h : Plain b) (bs : Bytes) :
    stringContent (b :: bs) = prepend [b] (stringContent bs) := by
  rw [stringContent.eq_def]
  simp only [if_neg h.not_quote, if_neg h.not_backslash, if_neg h.not_control]

theorem stringContent_simple {e : UInt8} (he : e ≠ 0x75) (h : simpleEscape? e = some c)
    (bs : Bytes) :
    stringContent (0x5C :: e :: bs) = prepend (String.utf8EncodeChar c) (stringContent bs) := by
  have hq : (0x5C : UInt8) ≠ 0x22 := by decide
  rw [stringContent.eq_def]
  simp only [if_neg hq, if_true, if_neg he, h]

theorem stringContent_unicode {bs rest : Bytes} (h : unicodeEscape bs = .ok (c, rest)) :
    stringContent (0x5C :: 0x75 :: bs) =
      prepend (String.utf8EncodeChar c) (stringContent rest) := by
  have hq : (0x5C : UInt8) ≠ 0x22 := by decide
  rw [stringContent.eq_def]
  simp only [if_neg hq, if_true]
  split
  · next he =>
    rw [h] at he
    cases he
  · next he =>
    rw [h] at he
    cases he
    rfl

theorem prepend_nil (r : Except Fault (Bytes × Bytes)) : prepend [] r = r := by
  cases r <;> rfl

theorem prepend_append (front front' : Bytes) (r : Except Fault (Bytes × Bytes)) :
    prepend front (prepend front' r) = prepend (front ++ front') r := by
  cases r with
  | error e => rfl
  | ok p => simp only [prepend, List.append_assoc]

theorem stringContent_plains {front : Bytes} (h : ∀ b ∈ front, Plain b) (bs : Bytes) :
    stringContent (front ++ bs) = prepend front (stringContent bs) := by
  induction front with
  | nil => exact (prepend_nil _).symm
  | cons b front ih =>
    rw [List.cons_append, stringContent_plain (h b List.mem_cons_self),
      ih fun b hb => h b (List.mem_cons_of_mem _ hb), prepend_append, List.singleton_append]

theorem plain_of_toNat (hc : 0x20 ≤ b.toNat) (hq : b.toNat ≠ 0x22) (hb : b.toNat ≠ 0x5C) :
    Plain b := by
  refine ⟨?_, ?_, fun hl => Nat.not_lt_of_le hc (UInt8.lt_iff_toNat_lt.mp hl)⟩
  · rintro rfl
    exact hq rfl
  · rintro rfl
    exact hb rfl

theorem plain_utf8EncodeChar (hq : c ≠ '"') (hb : c ≠ '\\') (hc : ¬c.toNat < 0x20) :
    ∀ b ∈ String.utf8EncodeChar c, Plain b := by
  intro b hm
  by_cases ha : c.toNat < 0x80
  · rw [utf8EncodeChar_ascii ha, List.mem_singleton] at hm
    have ht : b.toNat = c.toNat := hm ▸ toNat_asciiByte ha
    have hne {d : Char} (hd : c ≠ d) : b.toNat ≠ d.toNat := fun h => hd (Char.toNat_inj.mp (ht ▸ h))
    exact plain_of_toNat (ht ▸ Nat.le_of_not_lt hc) (hne hq) (hne hb)
  · have hle := le_of_mem_utf8EncodeChar ha b hm
    exact plain_of_toNat (by omega) (by omega) (by omega)

theorem utf8EncodeChar_digitChar :
    ∀ n < 16, String.utf8EncodeChar (Nat.digitChar n) = [(Nat.digitChar n).val.toUInt8] ∧
      hexValue? (Nat.digitChar n).val.toUInt8 = some n := by
  decide

theorem unicodeEscape_control (hc : c.toNat < 0x20) (bs : Bytes) :
    unicodeEscape (utf8 ['0', '0', hexDigit (c.toNat / 16), hexDigit c.toNat] ++ bs) =
      .ok (c, bs) := by
  obtain ⟨hu, hv⟩ := utf8EncodeChar_digitChar (c.toNat / 16 % 16) (Nat.mod_lt _ (by decide))
  obtain ⟨hu', hv'⟩ := utf8EncodeChar_digitChar (c.toNat % 16) (Nat.mod_lt _ (by decide))
  have hz : hexValue? 0x30 = some 0 := rfl
  have hunit : hexUnit (utf8 ['0', '0', hexDigit (c.toNat / 16), hexDigit c.toNat] ++ bs) =
      .ok (c.toNat, bs) := by
    have hn : ((0 * 16 + 0) * 16 + c.toNat / 16 % 16) * 16 + c.toNat % 16 = c.toNat := by omega
    have h0 : String.utf8EncodeChar '0' = [0x30] := rfl
    simp only [utf8_cons, utf8_nil, hexDigit, hu, hu', h0, List.cons_append, List.nil_append,
      hexUnit, hz, hv, hv', hn]
  have hl : isLeadingSurrogate c.toNat = false := by
    have hlt : ¬0xD800 ≤ c.toNat := by omega
    simp only [isLeadingSurrogate, decide_eq_false hlt, Bool.false_and]
  have ht : isTrailingSurrogate c.toNat = false := by
    have hlt : ¬0xDC00 ≤ c.toNat := by omega
    simp only [isTrailingSurrogate, decide_eq_false hlt, Bool.false_and]
  simp only [unicodeEscape, hunit, hl, ht, Bool.false_eq_true, if_false, Char.ofNat_toNat]

/-- One character comes back from how it stands inside a string. -/
theorem stringContent_escape (c : Char) (bs : Bytes) :
    stringContent (utf8 (escape c) ++ bs) =
      prepend (String.utf8EncodeChar c) (stringContent bs) := by
  rw [escape]
  split_ifs with hq hb _ _ _ _ _ hc
  -- Seven characters have an escape of one letter.
  iterate 7
    · subst c
      exact stringContent_simple (by decide) rfl bs
  · exact stringContent_unicode (unicodeEscape_control hc bs)
  · rw [utf8_cons, utf8_nil, List.append_nil]
    exact stringContent_plains (plain_utf8EncodeChar hq hb hc) bs

theorem stringContent_escapes (cs : List Char) (rest : Bytes) :
    stringContent (utf8 (cs.flatMap escape) ++ 0x22 :: rest) = .ok (utf8 cs, rest) := by
  induction cs with
  | nil =>
    rw [List.flatMap_nil, utf8_nil, List.nil_append, stringContent.eq_def]
    rfl
  | cons c cs ih =>
    rw [List.flatMap_cons, utf8_append, List.append_assoc, stringContent_escape, ih, utf8_cons]
    rfl

/-- What follows the opening quote of a printed string is read as that string. -/
theorem string_escapes (s : String) (rest : Bytes) :
    string (utf8 (s.toList.flatMap escape) ++ 0x22 :: rest) = .ok (s, rest) := by
  rw [string, stringContent_escapes]
  simp only [fromUTF8?_utf8]

theorem utf8_printString (s : String) :
    utf8 (printString s) = 0x22 :: (utf8 (s.toList.flatMap escape) ++ [0x22]) := by
  rw [printString, utf8_append, utf8_cons]
  rfl

end Bytes

end MailPrefs.Json
