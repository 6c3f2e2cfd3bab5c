import MailPrefs.Proofs.Text.Composition
import MailPrefs.Url.Domain

namespace MailPrefs

variable {c : Char} (hc : c.toNat ≤ 0x20)
include hc

/-- No longer sequence of bytes ends in one that stands for itself. -/
theorem eq_of_getLast?_utf8 {d : Char}
    (h : (String.utf8EncodeChar d).getLast? = (String.utf8EncodeChar c).getLast?) : d = c := by
  have hone : String.utf8EncodeChar c = [UInt8.ofNat c.toNat] :=
    if_pos (Nat.le_trans hc (by decide))
  have hlt {m n : Nat} (hm : m < 256) (hn : n < 256)
      (h : some (UInt8.ofNat m) = some (UInt8.ofNat n)) : m = n := by
    have hb := congrArg UInt8.toNat (Option.some.inj h)
    rwa [UInt8.toNat_ofNat_of_lt' hm, UInt8.toNat_ofNat_of_lt' hn] at hb
  have hlong {n : Nat} : some (UInt8.ofNat (n % 64 + 128)) ≠ some (UInt8.ofNat c.toNat) := by
    intro h
    have he := hlt (by omega) (by omega) h
    omega
  rw [hone, String.utf8EncodeChar] at h
  split at h
  · next hd =>
    have he : d.toNat = c.toNat := hlt (Nat.lt_of_le_of_lt hd (by decide)) (by omega) h
    exact Char.toNat_inj.mp he
  · split at h
    · exact absurd h hlong
    · split at h
      · exact absurd h hlong
      · exact absurd h hlong

theorem eq_concat_of_utf8 {cs : List Char} {bytes : List UInt8}
    (h : cs.flatMap String.utf8EncodeChar = bytes ++ String.utf8EncodeChar c) :
    ∃ cs', cs = cs' ++ [c] := by
  rcases List.eq_nil_or_concat cs with rfl | ⟨cs', d, rfl⟩
  · exact absurd (List.append_eq_nil_iff.mp h.symm).2 (Text.utf8EncodeChar_ne_nil c)
  · rw [List.concat_eq_append, List.flatMap_append, List.flatMap_singleton] at h
    have hl := congrArg List.getLast? h
    rw [List.getLast?_append_of_ne_nil _ (Text.utf8EncodeChar_ne_nil d),
      List.getLast?_append_of_ne_nil _ (Text.utf8EncodeChar_ne_nil c)] at hl
    exact ⟨cs', by rw [eq_of_getLast?_utf8 hc hl, List.concat_eq_append]⟩

theorem Punycode.decode?_concat_space (code : List Char) :
    Punycode.decode? (code ++ [c]) = none := by
  have hd : Punycode.digit? c = none :=
    Text.of_le_space (P := fun c => Punycode.digit? c = none) (by decide) hc
  have hr : ∀ (steps : List Char) (r : Punycode.Reader),
      (steps ++ [c]).foldlM Punycode.Reader.read? r = none := by
    intro steps r
    have hs : ∀ r, Punycode.Reader.read? r c = none := by simp [Punycode.Reader.read?, hd]
    simp [List.foldlM_append, hs]
  have hm : decide (c = '-') = false := decide_eq_false (Text.ne_of_le_space hc (by decide))
  rw [Punycode.decode?, Text.splitLast?_concat (p := (· = '-')) hm]
  cases Text.splitLast? (· = '-') code with
  | none =>
    simp only [hr, Option.map_none, Option.bind_eq_bind, Option.bind_some, Option.bind_none]
    rfl
  | some parts =>
    obtain ⟨basics, steps⟩ := parts
    cases basics with
    | nil => rfl
    | cons b basics =>
      simp only [hr, Option.map_some, Option.bind_eq_bind, Option.bind_some, Option.bind_none]
      split <;> rfl

namespace Domain

omit hc in
theorem mapM_concat_eq_some {α β : Type} {f : α → Option β} {xs : List α} {x : α} {ys : List β}
    (h : (xs ++ [x]).mapM f = some ys) : ∃ ys' y, f x = some y ∧ ys = ys' ++ [y] := by
  rw [List.mapM_append] at h
  cases hxs : xs.mapM f with
  | none => simp [hxs] at h
  | some ys' =>
    cases hx : f x with
    | none => simp [hxs, hx] at h
    | some y =>
      simp only [hxs, List.mapM_cons, hx, List.mapM_nil] at h
      exact ⟨ys', y, rfl, (Option.some.inj h).symm⟩

theorem map?_space : map? c = some [c] := by
  have hl : c.toLower = c := Text.of_le_space (P := fun c => c.toLower = c) (by decide) hc
  have ha : c.toNat < 0x80 := by omega
  rw [map?, if_pos ha, hl]

theorem mapped?_concat_space {s mapped : List Char} (h : mapped? (s ++ [c]) = some mapped) :
    ∃ t, mapped = t ++ [c] := by
  rw [mapped?] at h
  cases hs : (s ++ [c]).mapM map? with
  | none => simp [hs] at h
  | some parts =>
    obtain ⟨parts', part, hp, rfl⟩ := mapM_concat_eq_some hs
    obtain rfl := Option.some.inj ((map?_space hc).symm.trans hp)
    have hf : (parts' ++ [[c]]).flatten = parts'.flatten ++ [c] := by simp
    simp only [hs] at h
    obtain rfl := Option.some.inj h
    rw [hf]
    split
    · exact ⟨_, rfl⟩
    · exact Text.composed_concat_space hc _

theorem decodeLabel?_concat_space (code : List Char) : decodeLabel? (code ++ [c]) = none := by
  simp [decodeLabel?, Punycode.decode?_concat_space hc]

/-- A label is read as it is or not at all. -/
theorem readable?_concat_space {label read : List Char}
    (h : readable? (label ++ [c]) = some read) : read = label ++ [c] := by
  rw [readable?] at h
  split at h
  · next hp =>
    obtain ⟨code, hcode⟩ := List.isPrefixOf_iff_prefix.mp hp
    rcases List.eq_nil_or_concat code with rfl | ⟨code, d, rfl⟩
    · have hm : ['x', 'n', '-'] ++ ['-'] = label ++ [c] := hcode
      have hd := (List.append_singleton_inj.mp hm).2
      exact absurd hd.symm (Text.ne_of_le_space hc (by decide))
    · rw [List.concat_eq_append] at hcode
      have hd : d = c := (List.append_singleton_inj.mp ((List.append_assoc ..).trans hcode)).2
      rw [← hcode, List.drop_left, hd, decodeLabel?_concat_space hc] at h
      cases h
  · exact (Option.some.inj h).symm

theorem isValidLabel_concat_space (label : List Char) : isValidLabel (label ++ [c]) = false := by
  have hf : isForbidden c = true := by simp [isForbidden, hc]
  have ha : (label ++ [c]).any isForbidden = true := by
    rw [List.any_append, List.any_cons, hf, Bool.true_or, Bool.or_true]
  rw [isValidLabel, ha]
  rfl

theorem toAscii?_concat_space (bytes : List UInt8) :
    toAscii? (bytes ++ String.utf8EncodeChar c) = none := by
  rw [toAscii?]
  cases hs : String.fromUTF8? ⟨(bytes ++ String.utf8EncodeChar c).toArray⟩ with
  | none => rfl
  | some s =>
    obtain ⟨cs, hcs⟩ := eq_concat_of_utf8 hc (Text.flatMap_toList_of_fromUTF8? hs)
    cases hm : mapped? s.toList with
    | none => simp [hm]
    | some mapped =>
      rw [hcs] at hm
      obtain ⟨t, rfl⟩ := mapped?_concat_space hc hm
      have hd : ∀ x ∈ [c], decide (x = '.') = false := by
        intro x hx
        rw [List.mem_singleton.mp hx]
        exact decide_eq_false (Text.ne_of_le_space hc (by decide))
      obtain ⟨parts, last, -, hsplit⟩ := Text.splitWhere_append (p := (· = '.')) hd t
      cases hl : (Text.splitWhere (· = '.') (t ++ [c])).mapM readable? with
      | none => simp [hcs, hm, hl]
      | some labels =>
        rw [hsplit] at hl
        obtain ⟨labels', label, hr, rfl⟩ := mapM_concat_eq_some hl
        have hv : (labels' ++ [label]).all isValidLabel = false := by
          rw [readable?_concat_space hc hr, List.all_append, List.all_cons,
            isValidLabel_concat_space hc, Bool.false_and, Bool.and_false]
        simp only [Option.bind_eq_bind, Option.bind_some, hcs, hm, hsplit, hl, hv, Bool.false_and]
        rfl

end Domain

end MailPrefs
