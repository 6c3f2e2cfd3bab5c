import MailPrefs.Proofs.Except
import MailPrefs.Proofs.Json.Grammar
import MailPrefs.Proofs.Text.Basic

namespace MailPrefs.Json.Bytes

open Grammar

variable {bs rest : Bytes} {b : UInt8}

/-- The text does not go on with such a byte. -/
def Stops (p : UInt8 → Bool) (bs : Bytes) : Prop :=
  ∀ b ∈ bs.head?, p b = false

theorem stops_nil (p : UInt8 → Bool) : Stops p [] := nofun

theorem stops_cons {p : UInt8 → Bool} : Stops p (b :: bs) ↔ p b = false := by
  simp [Stops]

theorem Stops.mono {p q : UInt8 → Bool} (h : Stops p bs) (hpq : ∀ b, q b = true → p b = true) :
    Stops q bs := by
  intro b hb
  cases hq : q b with
  | false => rfl
  | true => rw [← h b hb, hpq b hq]

section Span

variable {p : UInt8 → Bool} {t : Bytes}

theorem takeWhile_append (ht : ∀ b ∈ t, p b = true) (hr : Stops p rest) :
    (t ++ rest).takeWhile p = t := by
  rw [List.takeWhile_append_of_pos ht]
  cases rest with
  | nil => exact List.append_nil t
  | cons b rest =>
    rw [List.takeWhile_cons_of_neg, List.append_nil]
    rw [stops_cons.mp hr]
    decide

theorem dropWhile_append (ht : ∀ b ∈ t, p b = true) (hr : Stops p rest) :
    (t ++ rest).dropWhile p = rest := by
  rw [List.dropWhile_append_of_pos ht]
  cases rest with
  | nil => rfl
  | cons b rest =>
    rw [List.dropWhile_cons_of_neg]
    rw [stops_cons.mp hr]
    decide

theorem stops_dropWhile (p : UInt8 → Bool) (bs : Bytes) : Stops p (bs.dropWhile p) := by
  intro b hb
  have h := List.head?_dropWhile_not p bs
  rw [Option.mem_def.mp hb] at h
  exact h

end Span

theorem isBlank_iff : isBlank b = true ↔ b = 0x20 ∨ b = 0x0A ∨ b = 0x09 ∨ b = 0x0D := by
  simp only [isBlank, Bool.or_eq_true, beq_iff_eq, or_assoc]

theorem skipBlanks_cons (h : isBlank b = false) (bs : Bytes) :
    skipBlanks (b :: bs) = b :: bs :=
  dropWhile_append (t := []) nofun (stops_cons.mpr h)

theorem skipBlanks_append {w : Bytes} (hw : Blanks w) (bs : Bytes) :
    skipBlanks (w ++ bs) = skipBlanks bs :=
  List.dropWhile_append_of_pos hw

theorem exists_blanks (bs : Bytes) : ∃ w, Blanks w ∧ bs = w ++ skipBlanks bs :=
  ⟨bs.takeWhile isBlank, fun _ => List.mem_takeWhile_imp, List.takeWhile_append_dropWhile.symm⟩

theorem skipBlanks_eq_nil_iff : skipBlanks bs = [] ↔ Blanks bs :=
  List.dropWhile_eq_nil_iff

theorem skipBlanks_eq_cons_iff :
    skipBlanks bs = b :: rest ↔ isBlank b = false ∧ ∃ w, Blanks w ∧ bs = w ++ b :: rest := by
  constructor
  · intro h
    have hs := stops_dropWhile isBlank bs
    obtain ⟨w, hw, hbs⟩ := exists_blanks bs
    rw [h] at hbs
    rw [skipBlanks] at h
    rw [h] at hs
    exact ⟨stops_cons.mp hs, w, hw, hbs⟩
  · rintro ⟨hb, w, hw, rfl⟩
    rw [skipBlanks_append hw, skipBlanks_cons hb]

theorem blanks_nil : Blanks [] := nofun

theorem blanks_append {w w' : Bytes} (hw : Blanks w) (hw' : Blanks w') : Blanks (w ++ w') := by
  intro b hb
  rcases List.mem_append.mp hb with hb | hb
  · exact hw b hb
  · exact hw' b hb

theorem word_eq_ok_iff {w : Bytes} : word w bs = .ok ((), rest) ↔ bs = w ++ rest := by
  induction w generalizing bs with
  | nil =>
    rw [word, Except.ok.injEq, Prod.mk.injEq, List.nil_append]
    exact ⟨fun h => h.2, fun h => ⟨rfl, h⟩⟩
  | cons a w ih =>
    cases bs with
    | nil => exact ⟨nofun, nofun⟩
    | cons b bs =>
      rw [word, List.cons_append, List.cons.injEq, ← ih]
      split
      · next h => exact ⟨fun hw => ⟨h, hw⟩, fun hw => hw.2⟩
      · next h => exact ⟨nofun, fun hw => absurd hw.1 h⟩

theorem constant_eq_ok_iff {α : Type} {tail : Bytes} {x y : α} :
    constant tail x bs = .ok (y, rest) ↔ y = x ∧ bs = tail ++ rest := by
  rw [constant, ← word_eq_ok_iff]
  split
  · next h =>
    rw [h]
    exact ⟨nofun, nofun⟩
  · next h =>
    rw [h, Except.ok.injEq, Except.ok.injEq, Prod.mk.injEq, Prod.mk.injEq, eq_comm]
    exact and_congr_right fun _ => ⟨fun he => ⟨rfl, he⟩, fun he => he.2⟩

section Number

variable {ds : List Nat}

theorem digits_eq_ok_iff :
    digits bs = .ok (ds, rest) ↔
      ∃ t, Digits t ∧ ds = List.map digit t ∧ bs = t ++ rest ∧ Stops isDigit rest := by
  constructor
  · intro h
    cases bs with
    | nil => cases h
    | cons b bs =>
      rw [digits] at h
      split at h
      · next hb =>
        cases h
        refine ⟨(b :: bs).takeWhile isDigit, ⟨?_, fun _ => List.mem_takeWhile_imp⟩, rfl,
          List.takeWhile_append_dropWhile.symm, stops_dropWhile isDigit _⟩
        rw [List.takeWhile_cons_of_pos hb]
        exact List.cons_ne_nil _ _
      · cases h
  · rintro ⟨t, ht, rfl, rfl, hr⟩
    have htake := takeWhile_append ht.isDigit hr
    have hdrop := dropWhile_append ht.isDigit hr
    obtain ⟨b, t, rfl⟩ := List.exists_cons_of_ne_nil ht.ne_nil
    rw [List.cons_append] at htake hdrop ⊢
    rw [digits, if_pos (ht.isDigit b List.mem_cons_self), htake, hdrop]

theorem wholeDigits_eq_ok_iff :
    wholeDigits bs = .ok (ds, rest) ↔
      ∃ t, Whole t ∧ ds = List.map digit t ∧ bs = t ++ rest ∧ Stops isDigit rest := by
  constructor
  · intro h
    rw [wholeDigits.eq_def] at h
    split at h
    · split at h
      · cases h
        exact ⟨[0x30], .zero, rfl, rfl, stops_nil _⟩
      · next b rest' =>
        split at h
        · cases h
        · next hb =>
          cases h
          exact ⟨[0x30], .zero, rfl, rfl, stops_cons.mpr (Bool.eq_false_iff.mpr hb)⟩
    · next hz =>
      obtain ⟨t, ht, hds, rfl, hr⟩ := digits_eq_ok_iff.mp h
      refine ⟨t, .digits ht fun hh => ?_, hds, rfl, hr⟩
      obtain ⟨t', rfl⟩ := List.head?_eq_some_iff.mp hh
      exact hz (t' ++ rest) rfl
  · rintro ⟨t, ht, rfl, rfl, hr⟩
    cases ht with
    | zero =>
      cases rest with
      | nil => rfl
      | cons b rest =>
        have hb : ¬isDigit b = true := Bool.eq_false_iff.mp (stops_cons.mp hr)
        change (if isDigit b = true then _ else _) = _
        rw [if_neg hb]
        rfl
    | digits ht hz =>
      have hd := digits_eq_ok_iff.mpr ⟨t, ht, rfl, rfl, hr⟩
      obtain ⟨b, t, rfl⟩ := List.exists_cons_of_ne_nil ht.ne_nil
      have hb : b ≠ 0x30 := fun h => hz (congrArg some h)
      rw [List.cons_append] at hd ⊢
      rw [wholeDigits.eq_def]
      split
      · next h => exact absurd (List.cons.inj h).1 hb
      · exact hd

theorem isExponentMark_iff : isExponentMark b = true ↔ b = 0x65 ∨ b = 0x45 := by
  rw [isExponentMark, Bool.or_eq_true, beq_iff_eq, beq_iff_eq]

/-- A byte that goes on with a number that stands before it. -/
def goesOn (b : UInt8) : Bool :=
  isDigit b || b == 0x2E || isExponentMark b

variable {t : Bytes} {f : Option (List Nat)} {e : Option Int}

theorem fraction_sound (h : fraction bs = .ok (f, rest)) : ∃ t, Fraction t f ∧ bs = t ++ rest := by
  rw [fraction.eq_def] at h
  split at h
  · obtain ⟨⟨ds, rest'⟩, hd, he⟩ := bind_eq_ok_iff.mp h
    cases he
    obtain ⟨t, ht, rfl, rfl, _⟩ := digits_eq_ok_iff.mp hd
    exact ⟨0x2E :: t, .present ht, rfl⟩
  · cases h
    exact ⟨[], .absent, rfl⟩

theorem fraction_complete (h : Fraction t f) (hr : Stops (fun b => isDigit b || b == 0x2E) rest) :
    fraction (t ++ rest) = .ok (f, rest) := by
  cases h with
  | absent =>
    rw [List.nil_append, fraction.eq_2]
    intro bs hbs
    rw [hbs] at hr
    cases stops_cons.mp hr
  | present hd =>
    have hs := hr.mono (q := isDigit) fun b hb => by rw [hb]; rfl
    have hds := digits_eq_ok_iff.mpr ⟨_, hd, rfl, rfl, hs⟩
    rw [List.cons_append, fraction, hds]
    rfl

theorem exponent_sound (h : exponent bs = .ok (e, rest)) : ∃ t, Exponent t e ∧ bs = t ++ rest := by
  cases bs with
  | nil =>
    cases h
    exact ⟨[], .absent, rfl⟩
  | cons b bs =>
    rw [exponent.eq_def] at h
    dsimp only at h
    split at h
    · next hb =>
      split at h
      · obtain ⟨⟨ds, rest'⟩, hd, he⟩ := bind_eq_ok_iff.mp h
        cases he
        obtain ⟨t, ht, rfl, rfl, _⟩ := digits_eq_ok_iff.mp hd
        exact ⟨b :: 0x2D :: t, .minus hb ht, rfl⟩
      · obtain ⟨⟨ds, rest'⟩, hd, he⟩ := bind_eq_ok_iff.mp h
        cases he
        obtain ⟨t, ht, rfl, hbs, _⟩ := digits_eq_ok_iff.mp hd
        by_cases hp : bs.head? = some 0x2B
        · obtain ⟨bs, rfl⟩ := List.head?_eq_some_iff.mp hp
          rw [if_pos hp, List.tail_cons] at hbs
          exact ⟨b :: 0x2B :: t, .plus hb ht, by rw [hbs]; rfl⟩
        · rw [if_neg hp] at hbs
          exact ⟨b :: t, .unsigned hb ht, by rw [hbs]; rfl⟩
    · cases h
      exact ⟨[], .absent, rfl⟩

theorem exponent_complete (h : Exponent t e) (hr : Stops goesOn rest) :
    exponent (t ++ rest) = .ok (e, rest) := by
  have hs := hr.mono (q := isDigit) fun b hb => by rw [goesOn, hb]; rfl
  have hread {ds : Bytes} (hd : Digits ds) : digits (ds ++ rest) = .ok (List.map digit ds, rest) :=
    digits_eq_ok_iff.mpr ⟨ds, hd, rfl, rfl, hs⟩
  rw [exponent.eq_def]
  cases h with
  | absent =>
    cases rest with
    | nil => rfl
    | cons b rest =>
      have hb : ¬isExponentMark b = true := by
        intro hb
        have hg := stops_cons.mp hr
        rw [goesOn, hb, Bool.or_true] at hg
        cases hg
      exact if_neg hb
  | @unsigned b ds hm hd =>
    -- The first digit is not taken for a sign.
    have hh (c : UInt8) (hc : isDigit c = false) : (ds ++ rest).head? ≠ some c := by
      intro h
      obtain ⟨d, ds, rfl⟩ := List.exists_cons_of_ne_nil hd.ne_nil
      obtain rfl := Option.some.inj h
      rw [hd.isDigit d List.mem_cons_self] at hc
      cases hc
    rw [List.cons_append]
    dsimp only
    rw [if_pos hm]
    split
    · next h => exact absurd (congrArg List.head? h) (hh 0x2D rfl)
    · rw [if_neg (hh 0x2B rfl), hread hd]
      rfl
  | plus hm hd =>
    refine (if_pos hm).trans ?_
    change (digits (_ ++ rest) >>= _) = _
    rw [hread hd]
    rfl
  | minus hm hd =>
    refine (if_pos hm).trans ?_
    change (digits (_ ++ rest) >>= _) = _
    rw [hread hd]
    rfl

theorem fraction_stops (h : Fraction t f) (hr : Stops isDigit rest) :
    Stops isDigit (t ++ rest) := by
  cases h with
  | absent => exact hr
  | present => exact stops_cons.mpr rfl

theorem exponent_stops (h : Exponent t e) (hr : Stops goesOn rest) :
    Stops (fun b => isDigit b || b == 0x2E) (t ++ rest) := by
  have hm {b : UInt8} (hb : isExponentMark b = true) : (isDigit b || b == 0x2E) = false := by
    rcases isExponentMark_iff.mp hb with rfl | rfl <;> rfl
  cases h with
  | absent => exact hr.mono fun b hb => by rw [goesOn, hb]; rfl
  | unsigned hb | plus hb | minus hb => exact stops_cons.mpr (hm hb)

def magnitude (negative : Bool) (bs : Bytes) : Except Fault (Number.Literal × Bytes) := do
  let (whole, bs) ← wholeDigits bs
  let (fraction, bs) ← fraction bs
  let (exponent, bs) ← exponent bs
  .ok (⟨negative, whole, fraction, exponent⟩, bs)

theorem literal_minus (bs : Bytes) : literal (0x2D :: bs) = magnitude true bs := rfl

theorem literal_of_ne (h : bs.head? ≠ some 0x2D) : literal bs = magnitude false bs := by
  simp only [literal, magnitude, if_neg h, decide_eq_false h]

variable {negative : Bool} {l : Number.Literal}

theorem magnitude_sound (h : magnitude negative bs = .ok (l, rest)) :
    ∃ t, Magnitude negative t l ∧ bs = t ++ rest := by
  obtain ⟨⟨ds, bs₁⟩, hwhole, h⟩ := bind_eq_ok_iff.mp h
  obtain ⟨⟨f, bs₂⟩, hfraction, h⟩ := bind_eq_ok_iff.mp h
  obtain ⟨⟨e, bs₃⟩, hexponent, h⟩ := bind_eq_ok_iff.mp h
  cases h
  obtain ⟨w, hw, rfl, rfl, _⟩ := wholeDigits_eq_ok_iff.mp hwhole
  obtain ⟨f, hf, rfl⟩ := fraction_sound hfraction
  obtain ⟨e, he, rfl⟩ := exponent_sound hexponent
  exact ⟨w ++ (f ++ e), .mk hw hf he, by simp only [List.append_assoc]⟩

theorem magnitude_complete (h : Magnitude negative t l) (hr : Stops goesOn rest) :
    magnitude negative (t ++ rest) = .ok (l, rest) := by
  obtain ⟨hw, hf, he⟩ := h
  have hstop := exponent_stops he hr
  have hread := fraction_complete hf hstop
  have hwhole := wholeDigits_eq_ok_iff.mpr
    ⟨_, hw, rfl, rfl, fraction_stops hf (hstop.mono fun b hb => by rw [hb]; rfl)⟩
  rw [List.append_assoc, List.append_assoc]
  simp only [magnitude, bind, Except.bind, hwhole, hread, exponent_complete he hr]

theorem literal_sound (h : literal bs = .ok (l, rest)) : ∃ t, Numeral t l ∧ bs = t ++ rest := by
  by_cases hm : bs.head? = some 0x2D
  · obtain ⟨bs, rfl⟩ := List.head?_eq_some_iff.mp hm
    rw [literal_minus] at h
    obtain ⟨t, ht, rfl⟩ := magnitude_sound h
    exact ⟨0x2D :: t, .negative ht, rfl⟩
  · rw [literal_of_ne hm] at h
    obtain ⟨t, ht, rfl⟩ := magnitude_sound h
    exact ⟨t, .unsigned ht, rfl⟩

theorem head_whole (h : Whole t) : ∃ b bs, t = b :: bs ∧ isDigit b = true := by
  cases h with
  | zero => exact ⟨0x30, [], rfl, rfl⟩
  | digits h =>
    obtain ⟨b, bs, rfl⟩ := List.exists_cons_of_ne_nil h.ne_nil
    exact ⟨b, bs, rfl, h.isDigit b List.mem_cons_self⟩

theorem head_magnitude (h : Magnitude negative t l) : ∃ b bs, t = b :: bs ∧ isDigit b = true := by
  obtain ⟨hw, _, _⟩ := h
  obtain ⟨b, bs, rfl, hb⟩ := head_whole hw
  exact ⟨b, _, rfl, hb⟩

theorem literal_complete (h : Numeral t l) (hr : Stops goesOn rest) :
    literal (t ++ rest) = .ok (l, rest) := by
  cases h with
  | unsigned h =>
    rw [literal_of_ne, magnitude_complete h hr]
    obtain ⟨b, bs, rfl, hb⟩ := head_magnitude h
    rintro hh
    obtain rfl := Option.some.inj hh
    cases hb
  | negative h => exact magnitude_complete h hr

theorem number_sound {n : Number} (h : number bs = .ok (n, rest)) :
    ∃ t l, Numeral t l ∧ Number.ofLiteral? l = some n ∧ bs = t ++ rest := by
  obtain ⟨⟨l, rest'⟩, hl, h⟩ := bind_eq_ok_iff.mp h
  dsimp only at h
  split at h
  · next hn =>
    cases h
    obtain ⟨t, ht, rfl⟩ := literal_sound hl
    exact ⟨t, l, ht, hn, rfl⟩
  · cases h

theorem number_complete {n : Number} (h : Numeral t l) (hn : Number.ofLiteral? l = some n)
    (hr : Stops goesOn rest) : number (t ++ rest) = .ok (n, rest) := by
  simp only [number, bind, Except.bind, literal_complete h hr, hn]

theorem head_numeral (h : Numeral t l) : ∃ b bs, t = b :: bs ∧ startsNumber b = true := by
  cases h with
  | unsigned h =>
    obtain ⟨b, bs, rfl, hb⟩ := head_magnitude h
    exact ⟨b, bs, rfl, by rw [startsNumber, hb, Bool.or_true]⟩
  | negative h => exact ⟨0x2D, _, rfl, rfl⟩

end Number

section String

variable {h content : Bytes} {n : Nat} {c : Char} {s : String}

theorem hexUnit_eq_ok_iff : hexUnit bs = .ok (n, rest) ↔ ∃ h, Hex h n ∧ bs = h ++ rest := by
  constructor
  · intro hu
    rw [hexUnit.eq_def] at hu
    split at hu
    · split at hu
      · next hi hj hk hl =>
        cases hu
        exact ⟨_, .mk hi hj hk hl, rfl⟩
      · cases hu
    · cases hu
  · rintro ⟨h, ⟨hi, hj, hk, hl⟩, rfl⟩
    simp only [List.cons_append, List.nil_append, hexUnit, hi, hj, hk, hl]

theorem trailingUnit_eq_ok_iff :
    trailingUnit bs = .ok (n, rest) ↔
      ∃ h, Hex h n ∧ isTrailingSurrogate n = true ∧ bs = 0x5C :: 0x75 :: (h ++ rest) := by
  constructor
  · intro hu
    rw [trailingUnit.eq_def] at hu
    split at hu
    · cases hu
    · split at hu
      · cases hu
      · next hb =>
        split at hu
        · cases hu
        · split at hu
          · cases hu
          · next hb' =>
            split at hu
            · cases hu
            · next hh =>
              split at hu
              · next ht =>
                cases hu
                obtain ⟨h, hx, rfl⟩ := hexUnit_eq_ok_iff.mp hh
                exact ⟨h, hx, ht, by rw [not_not.mp hb, not_not.mp hb']⟩
              · cases hu
  · rintro ⟨h, hx, ht, rfl⟩
    have hh : hexUnit (h ++ rest) = .ok (n, rest) := hexUnit_eq_ok_iff.mpr ⟨h, hx, rfl⟩
    simp [trailingUnit, hh, ht]

theorem isTrailingSurrogate_of_leading (h : isLeadingSurrogate n = true) :
    isTrailingSurrogate n = false := by
  simp only [isLeadingSurrogate, Bool.and_eq_true, decide_eq_true_eq] at h
  simp only [isTrailingSurrogate, Bool.and_eq_false_iff, decide_eq_false_iff_not]
  omega

theorem unicodeEscape_eq_ok_iff :
    unicodeEscape bs = .ok (c, rest) ↔ ∃ t, Unicode t c ∧ bs = t ++ rest := by
  constructor
  · intro hu
    rw [unicodeEscape] at hu
    split at hu
    · cases hu
    · next n bs' hh =>
      obtain ⟨h, hx, rfl⟩ := hexUnit_eq_ok_iff.mp hh
      split at hu
      · cases hu
      · next ht =>
        split at hu
        · next hl =>
          split at hu
          · cases hu
          · next m rest' hm =>
            obtain ⟨rfl, rfl⟩ := Prod.mk.inj (Except.ok.inj hu)
            obtain ⟨h', hx', ht', rfl⟩ := trailingUnit_eq_ok_iff.mp hm
            exact ⟨_, .pair hx hx' hl ht', by rw [List.append_assoc]; rfl⟩
        · next hl =>
          cases hu
          exact ⟨h, .single hx (Bool.eq_false_iff.mpr hl) (Bool.eq_false_iff.mpr ht), rfl⟩
  · rintro ⟨t, hu, rfl⟩
    cases hu with
    | @single _ n hx hl ht =>
      have hh : hexUnit (t ++ rest) = .ok (n, rest) := hexUnit_eq_ok_iff.mpr ⟨t, hx, rfl⟩
      simp only [unicodeEscape, hh, hl, ht, Bool.false_eq_true, if_false]
    | @pair h h' n m hx hx' hl ht =>
      have hh : hexUnit (h ++ 0x5C :: 0x75 :: (h' ++ rest)) = .ok (n, _) :=
        hexUnit_eq_ok_iff.mpr ⟨h, hx, rfl⟩
      have hm : trailingUnit (0x5C :: 0x75 :: (h' ++ rest)) = .ok (m, rest) :=
        trailingUnit_eq_ok_iff.mpr ⟨h', hx', ht, rfl⟩
      rw [List.append_assoc, List.cons_append, List.cons_append]
      simp only [unicodeEscape, hh, hm, hl, isTrailingSurrogate_of_leading hl, Bool.false_eq_true,
        if_false, if_true]

theorem prepend_eq_ok {front : Bytes} {r : Except Fault (Bytes × Bytes)}
    (h : prepend front r = .ok (content, rest)) :
    ∃ content', r = .ok (content', rest) ∧ content = front ++ content' := by
  cases r with
  | error e => cases h
  | ok p =>
    cases h
    exact ⟨_, rfl, rfl⟩

theorem stringContent_sound (h : stringContent bs = .ok (content, rest)) :
    ∃ t, Content t content ∧ bs = t ++ 0x22 :: rest := by
  fun_induction stringContent bs generalizing content with
  | case1 | case3 | case4 | case7 | case8 => cases h
  | case2 =>
    cases h
    exact ⟨[], .nil, rfl⟩
  | case5 bs c rest' hread _ ih =>
    obtain ⟨content, hc, rfl⟩ := prepend_eq_ok h
    obtain ⟨t, ht, rfl⟩ := ih hc
    obtain ⟨u, hu, rfl⟩ := unicodeEscape_eq_ok_iff.mp hread
    exact ⟨_, .unicode hu ht, by simp only [List.cons_append, List.append_assoc]⟩
  | case6 e bs _ c he _ ih =>
    obtain ⟨content, hc, rfl⟩ := prepend_eq_ok h
    obtain ⟨t, ht, rfl⟩ := ih hc
    exact ⟨_, .simple he ht, rfl⟩
  | case9 b bs hq hb hc ih =>
    obtain ⟨content, hs, rfl⟩ := prepend_eq_ok h
    obtain ⟨t, ht, rfl⟩ := ih hs
    exact ⟨_, .plain ⟨hq, hb, hc⟩ ht, rfl⟩

theorem stringContent_complete {t : Bytes} (h : Content t content) :
    stringContent (t ++ 0x22 :: rest) = .ok (content, rest) := by
  induction h with
  | nil =>
    rw [List.nil_append, stringContent.eq_def]
    rfl
  | plain hb _ ih =>
    rw [List.cons_append, stringContent_plain hb, ih]
    rfl
  | @simple e c bs content he _ ih =>
    have hu : e ≠ 0x75 := by
      rintro rfl
      cases he
    rw [List.cons_append, List.cons_append, stringContent_simple hu he, ih]
    rfl
  | @unicode h c bs content hu _ ih =>
    have hr : unicodeEscape (h ++ (bs ++ 0x22 :: rest)) = .ok (c, bs ++ 0x22 :: rest) :=
      unicodeEscape_eq_ok_iff.mpr ⟨h, hu, rfl⟩
    rw [List.cons_append, List.cons_append, List.append_assoc, stringContent_unicode hr, ih]
    rfl

/-- The closing quote is read with the string. -/
theorem string_eq_ok_iff :
    string bs = .ok (s, rest) ↔ ∃ t, Content t (utf8 s.toList) ∧ bs = t ++ 0x22 :: rest := by
  constructor
  · intro h
    rw [string] at h
    split at h
    · cases h
    · next hc =>
      split at h
      · next hs =>
        cases h
        obtain ⟨t, ht, rfl⟩ := stringContent_sound hc
        rw [← Text.flatMap_toList_of_fromUTF8? hs] at ht
        exact ⟨t, ht, rfl⟩
      · cases h
  · rintro ⟨t, ht, rfl⟩
    simp only [string, stringContent_complete ht, fromUTF8?_utf8]

theorem key_eq_ok_iff :
    key bs = .ok (s, rest) ↔ ∃ w t, Blanks w ∧ Quoted t s ∧ bs = w ++ (t ++ rest) := by
  constructor
  · intro h
    rw [key] at h
    split at h
    · cases h
    · next hb =>
      split at h
      · next hq =>
        subst hq
        obtain ⟨_, w, hw, rfl⟩ := skipBlanks_eq_cons_iff.mp hb
        obtain ⟨t, ht, rfl⟩ := string_eq_ok_iff.mp h
        exact ⟨w, _, hw, .mk ht, by simp only [List.cons_append, List.append_assoc,
          List.nil_append]⟩
      · cases h
  · rintro ⟨w, _, hw, ⟨ht⟩, rfl⟩
    have hs : string (_ ++ 0x22 :: rest) = .ok (s, rest) := string_eq_ok_iff.mpr ⟨_, ht, rfl⟩
    rw [key, skipBlanks_append hw, List.cons_append, List.append_assoc]
    exact hs

theorem colon_eq_ok_iff :
    colon bs = .ok ((), rest) ↔ ∃ w, Blanks w ∧ bs = w ++ 0x3A :: rest := by
  constructor
  · intro h
    rw [colon] at h
    split at h
    · cases h
    · next hb =>
      split at h
      · next hc =>
        subst hc
        cases h
        exact (skipBlanks_eq_cons_iff.mp hb).2
      · cases h
  · rintro ⟨w, hw, rfl⟩
    rw [colon, skipBlanks_append hw]
    rfl

end String

end MailPrefs.Json.Bytes
