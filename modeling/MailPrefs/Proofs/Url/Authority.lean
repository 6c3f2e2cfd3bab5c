import MailPrefs.Proofs.Url.Domain
import MailPrefs.Url.Authority

namespace MailPrefs

variable {c : Char} (hc : c.toNat ≤ 0x20)
include hc

theorem hexDigit?_space : Text.hexDigit? c = none :=
  Text.of_le_space (P := fun c => Text.hexDigit? c = none) (by decide) hc

theorem number?_concat_space (base : Nat) (digits : List Char) :
    Text.number? base (digits ++ [c]) = none := by
  have hd : Text.digit? base c = none := by
    rw [Text.digit?, hexDigit?_space hc]
    rfl
  simp [Text.number?, List.foldlM_append, hd]

theorem decode_concat_space (s : List Char) :
    Percent.decode (s ++ [c]) = Percent.decode s ++ String.utf8EncodeChar c := by
  have hh := hexDigit?_space hc
  fun_induction Percent.decode s with
  | case1 => simp [Percent.decode]
  | case2 a b rest high low ha hb ih =>
    simp only [List.cons_append, Percent.decode, ha, hb, ih]
  | case3 a b rest h ih =>
    have hs : Percent.decode ('%' :: a :: b :: (rest ++ [c])) =
        '%'.toUInt8 :: Percent.decode (a :: b :: (rest ++ [c])) := by
      rw [Percent.decode]
      split
      · next high low ha hb => exact absurd hb (h high low ha)
      · rfl
    exact hs.trans (congrArg _ ih)
  | case4 a rest h ih =>
    rw [List.append_assoc, ← ih]
    have hne : a = '%' → Percent.decode (a :: (rest ++ [c])) =
        String.utf8EncodeChar a ++ Percent.decode (rest ++ [c]) := by
      rintro rfl
      -- Only two characters behind a percent sign are read as digits, and `c` is none.
      match rest with
      | [] => exact Percent.decode.eq_3 '%' [c] (by simp)
      | [b] =>
        rw [List.singleton_append, Percent.decode, hh]
        split
        · next h => cases h
        · rfl
      | b :: b' :: rest => exact absurd rfl (h b b' rest rfl)
    by_cases ha : a = '%'
    · exact hne ha
    · exact Percent.decode.eq_3 a (rest ++ [c]) fun _ _ _ he _ => ha he

/-- An opening bracket that is not closed at the end makes no address of what follows it. -/
theorem Host.ofBrackets_concat_space (s : List Char) :
    (Host.ofBrackets (s ++ [c])).toOption = none := by
  have hb : c ≠ ']' := Text.ne_of_le_space hc (by decide)
  rw [Host.ofBrackets, List.reverse_append, List.reverse_singleton, List.singleton_append]
  split
  · next h => exact absurd (List.cons.inj h).1 hb
  · rfl

theorem Host.parse_concat_space (s : List Char) : (Host.parse (s ++ [c])).toOption = none := by
  rw [Host.parse.eq_def]
  split
  · next rest h =>
    cases s with
    | nil =>
      have hb : c ≠ '[' := Text.ne_of_le_space hc (by decide)
      exact absurd (List.cons.inj h).1 hb
    | cons a s =>
      rw [← (List.cons.inj h).2]
      exact ofBrackets_concat_space hc s
  · rw [decode_concat_space hc, Domain.toAscii?_concat_space hc]
    rfl

namespace Authority

omit hc in
theorem splitPort_append (inBrackets : Bool) (s : List Char) :
    (splitPort inBrackets s).1 ++ (splitPort inBrackets s).2 = s := by
  fun_induction splitPort inBrackets s with
  | case1 => rfl
  | case2 => rfl
  | case3 inBrackets c cs h host port hs ih =>
    rw [hs] at ih
    exact congrArg (c :: ·) ih

theorem parsePort_concat_space (a : Char) (digits : List Char) :
    (parsePort (a :: digits ++ [c])).toOption = none := by
  rw [List.cons_append, parsePort.eq_def]
  split
  · next h => cases h
  · next h => simp at h
  · next h => 
    obtain ⟨-, rfl⟩ := List.cons.inj h
    rw [number?_concat_space hc]
    rfl

omit hc in
theorem splitPort_snd (inBrackets : Bool) (s : List Char) :
    (splitPort inBrackets s).2 = [] ∨ ∃ digits, (splitPort inBrackets s).2 = ':' :: digits := by
  fun_induction splitPort inBrackets s with
  | case1 => exact .inl rfl
  | case2 inBrackets c cs h =>
    rw [Bool.and_eq_true] at h
    exact .inr ⟨cs, congrArg (· :: cs) (of_decide_eq_true h.1)⟩
  | case3 inBrackets c cs h host port hs ih =>
    rw [hs] at ih
    exact ih

/-- The last character is the host's or the port's. -/
theorem parseHost_or_parsePort (s : List Char) :
    (Host.parse (splitPort false (s ++ [c])).1).toOption = none ∨
      (parsePort (splitPort false (s ++ [c])).2).toOption = none := by
  have ha := splitPort_append false (s ++ [c])
  rcases splitPort_snd false (s ++ [c]) with hp | ⟨digits, hp⟩
  · rw [hp, List.append_nil] at ha
    rw [ha]
    exact .inl (Host.parse_concat_space hc s)
  · rw [hp] at ha ⊢
    rcases List.eq_nil_or_concat digits with rfl | ⟨digits, d, rfl⟩
    · have hd : ':' = c := (List.append_singleton_inj.mp ha).2
      exact absurd hd.symm (Text.ne_of_le_space hc (by decide))
    · rw [List.concat_eq_append, ← List.cons_append, ← List.append_assoc] at ha
      have hd : d = c := (List.append_singleton_inj.mp ha).2
      rw [List.concat_eq_append, hd, ← List.cons_append]
      exact .inr (parsePort_concat_space hc ':' digits)

theorem parse_concat_space (s : List Char) : (Authority.parse (s ++ [c])).toOption = none := by
  obtain ⟨userinfo, s', hs⟩ : ∃ userinfo s',
      (Text.splitLast? (· = '@') (s ++ [c])).getD ([], s ++ [c]) = (userinfo, s' ++ [c]) := by
    have ha : decide (c = '@') = false := decide_eq_false (Text.ne_of_le_space hc (by decide))
    rw [Text.splitLast?_concat (p := (· = '@')) ha]
    cases Text.splitLast? (· = '@') s with
    | none => exact ⟨[], s, rfl⟩
    | some parts => exact ⟨parts.1, parts.2, rfl⟩
  have hn := parseHost_or_parsePort hc s'
  rw [Authority.parse, hs]
  simp only
  cases hh : Host.parse (splitPort false (s' ++ [c])).1 with
  | error e => rfl
  | ok host =>
    cases hp : parsePort (splitPort false (s' ++ [c])).2 with
    | error e => rfl
    | ok port =>
      rw [hh, hp] at hn
      rcases hn with h | h <;> cases h

end Authority

end MailPrefs
