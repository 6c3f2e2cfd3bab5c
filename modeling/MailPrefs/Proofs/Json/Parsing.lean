import MailPrefs.Proofs.Json.Tokens
import MailPrefs.Proofs.Preferences

namespace MailPrefs.Json

open Bytes Grammar

variable {α β σ : Type} {bs rest : Bytes}

/-- What is read from the front of a text is what the grammar has there, blanks before it being
skipped. A part can be told from a closing bracket by its first byte. -/
structure Reads (read : Bytes → Except Fault (α × Bytes)) (part : Bytes → α → Prop) : Prop where
  sound : ∀ {bs x rest}, read bs = .ok (x, rest) →
    ∃ w t, Blanks w ∧ part t x ∧ bs = w ++ (t ++ rest)
  complete : ∀ {w t x rest}, Blanks w → part t x → Stops goesOn rest →
    read (w ++ (t ++ rest)) = .ok (x, rest)
  head : ∀ {t x}, part t x → ∃ b bs, t = b :: bs ∧ isBlank b = false ∧ b ≠ 0x5D ∧ b ≠ 0x7D

/-- A reader that skips blanks is judged by what it does at their end. -/
theorem reads_of_front {read : Bytes → Except Fault (α × Bytes)} {part : Bytes → α → Prop}
    (happend : ∀ {w}, Blanks w → ∀ bs, read (w ++ bs) = read bs)
    (hsound : ∀ {bs x rest}, read bs = .ok (x, rest) → Stops isBlank bs →
      ∃ t, part t x ∧ bs = t ++ rest)
    (hcomplete : ∀ {t x rest}, part t x → Stops goesOn rest →
      ∃ b bs, t = b :: bs ∧ isBlank b = false ∧ b ≠ 0x5D ∧ b ≠ 0x7D ∧
        read (t ++ rest) = .ok (x, rest)) :
    Reads read part where
  sound {bs x rest} h := by
    obtain ⟨w, hw, hbs⟩ := exists_blanks bs
    rw [hbs, happend hw] at h
    obtain ⟨t, ht, ht'⟩ := hsound h (stops_dropWhile isBlank bs)
    exact ⟨w, t, hw, ht, by rw [hbs, ht']⟩
  complete hw ht hs := by
    obtain ⟨_, _, _, _, _, _, hread⟩ := hcomplete ht hs
    rw [happend hw, hread]
  head ht := by
    obtain ⟨b, bs, hbs, hb, harray, hobject, _⟩ := hcomplete ht (stops_nil goesOn)
    exact ⟨b, bs, hbs, hb, harray, hobject⟩

def mapped (read : Bytes → Except Fault (α × Bytes)) (f : α → β) (bs : Bytes) :
    Except Fault (β × Bytes) :=
  match read bs with
  | .error e => .error e
  | .ok (x, rest) => .ok (f x, rest)

theorem mapped_eq_ok_iff {read : Bytes → Except Fault (α × Bytes)} {f : α → β} {y : β} :
    mapped read f bs = .ok (y, rest) ↔ ∃ x, read bs = .ok (x, rest) ∧ y = f x := by
  rw [mapped]
  cases read bs with
  | error e => exact ⟨nofun, nofun⟩
  | ok p =>
    constructor
    · intro h
      cases h
      exact ⟨p.1, rfl, rfl⟩
    · rintro ⟨x, hp, rfl⟩
      cases hp
      rfl

def each (read : Bytes → Except Fault (α × Bytes)) (step : σ → α → σ) (s : σ) :
    Bytes → Except Fault (σ × Bytes) :=
  mapped read (step s)

section Sequence

variable {read : Bytes → Except Fault (α × Bytes)} {part : Bytes → α → Prop}
variable {t : Bytes} {x : α} {xs : List α}

theorem Grammar.Listed.blanks_front {w : Bytes} (hw : Blanks w) (h : Listed part t xs) :
    Listed part (w ++ t) xs := by
  have hspaced {t : Bytes} {x : α} (h : Spaced part t x) : Spaced part (w ++ t) x := by
    obtain ⟨hw₁, hx, hw₂⟩ := h
    rw [← List.append_assoc]
    exact .mk (blanks_append hw hw₁) hx hw₂
  cases h with
  | one h => exact .one (hspaced h)
  | more h hs =>
    rw [← List.append_assoc]
    exact .more (hspaced h) hs

theorem Grammar.Listed.length_le (hr : Reads read part) (h : Listed part t xs) :
    xs.length ≤ t.length := by
  have hpos {t : Bytes} {x : α} (h : Spaced part t x) : 1 ≤ t.length := by
    obtain ⟨_, hx, _⟩ := h
    obtain ⟨b, bs, rfl, _⟩ := hr.head hx
    simp only [List.length_append, List.length_cons]
    omega
  induction h with
  | one h => exact hpos h
  | more h _ ih =>
    simp only [List.length_append, List.length_cons]
    omega

theorem Grammar.Listed.exists_front (hr : Reads read part) (h : Listed part t xs) :
    ∃ w b bs, Blanks w ∧ t = w ++ b :: bs ∧ isBlank b = false ∧ b ≠ 0x5D ∧ b ≠ 0x7D ∧
      Listed part (b :: bs) xs := by
  have hspaced {t : Bytes} {x : α} (h : Spaced part t x) : ∃ w b bs, Blanks w ∧ t = w ++ b :: bs ∧
      isBlank b = false ∧ b ≠ 0x5D ∧ b ≠ 0x7D ∧ Spaced part (b :: bs) x := by
    obtain ⟨hw, hx, hw'⟩ := h
    obtain ⟨b, bs, rfl, hb, harray, hobject⟩ := hr.head hx
    exact ⟨_, b, _, hw, rfl, hb, harray, hobject, .mk blanks_nil hx hw'⟩
  cases h with
  | one h =>
    obtain ⟨w, b, bs, hw, rfl, hb, harray, hobject, h⟩ := hspaced h
    exact ⟨w, b, bs, hw, rfl, hb, harray, hobject, .one h⟩
  | more h hs =>
    obtain ⟨w, b, bs, hw, rfl, hb, harray, hobject, h⟩ := hspaced h
    exact ⟨w, b, _, hw, List.append_assoc .., hb, harray, hobject, .more h hs⟩

variable {close : UInt8} {step : σ → α → σ} {s s' : σ} {fuel : Nat}

theorem foldItems_sound (hr : Reads read part)
    (h : foldItems close (each read step) fuel s bs = .ok (s', rest)) :
    ∃ t xs, Listed part t xs ∧ bs = t ++ close :: rest ∧ s' = xs.foldl step s := by
  induction fuel generalizing s bs with
  | zero => cases h
  | succ fuel ih =>
    rw [foldItems] at h
    split at h
    · cases h
    · next s₁ bs₁ hstep =>
      obtain ⟨x, hx, rfl⟩ := mapped_eq_ok_iff.mp hstep
      obtain ⟨w, t, hw, ht, rfl⟩ := hr.sound hx
      split at h
      · cases h
      · next b rest₁ hb =>
        obtain ⟨_, w', hw', rfl⟩ := skipBlanks_eq_cons_iff.mp hb
        have hone : Spaced part (w ++ (t ++ w')) x := .mk hw ht hw'
        split at h
        · next hc =>
          subst hc
          cases h
          exact ⟨_, [x], .one hone, by simp only [List.append_assoc], rfl⟩
        · split at h
          · next hc =>
            subst hc
            split at h
            · cases h
            · next hb' =>
              obtain ⟨_, w'', hw'', rfl⟩ := skipBlanks_eq_cons_iff.mp hb'
              split at h
              · cases h
              · obtain ⟨t', xs, ht', hbs, rfl⟩ := ih h
                exact ⟨_, x :: xs, .more hone (ht'.blanks_front hw''),
                  by rw [hbs]; simp only [List.append_assoc, List.cons_append], rfl⟩
          · cases h

def Closes (b : UInt8) : Prop :=
  b = 0x5D ∨ b = 0x7D

theorem Closes.isBlank (h : Closes close) : isBlank close = false := by
  rcases h with rfl | rfl <;> rfl

theorem Closes.ne_comma (h : Closes close) : 0x2C ≠ close := by
  rcases h with rfl | rfl <;> decide

theorem Closes.goesOn (h : Closes close) : goesOn close = false := by
  rcases h with rfl | rfl <;> rfl

theorem Closes.ne (h : Closes close) {b : UInt8} (ha : b ≠ 0x5D) (ho : b ≠ 0x7D) :
    b ≠ close := by
  rcases h with rfl | rfl
  · exact ha
  · exact ho

theorem goesOn_of_isBlank {b : UInt8} (h : isBlank b = true) : goesOn b = false := by
  rcases isBlank_iff.mp h with rfl | rfl | rfl | rfl <;> rfl

theorem stops_append {w : Bytes} (hw : Blanks w) (hs : Stops goesOn rest) :
    Stops goesOn (w ++ rest) := by
  cases w with
  | nil => exact hs
  | cons b w => exact stops_cons.mpr (goesOn_of_isBlank (hw b List.mem_cons_self))

theorem foldItems_complete (hr : Reads read part) (hc : Closes close) (h : Listed part t xs)
    (hf : xs.length ≤ fuel) :
    foldItems close (each read step) fuel s (t ++ close :: rest) =
      .ok (xs.foldl step s, rest) := by
  induction xs generalizing t s fuel with
  | nil => cases h
  | cons x xs ih =>
    have hstep {t : Bytes} (tail : Bytes) (ht : Spaced part t x) (hs : Stops goesOn tail) :
        ∃ w, Blanks w ∧ each read step s (t ++ tail) = .ok (step s x, w ++ tail) := by
      obtain ⟨hw, hx, hw'⟩ := ht
      refine ⟨_, hw', mapped_eq_ok_iff.mpr ⟨x, ?_, rfl⟩⟩
      rw [List.append_assoc, List.append_assoc]
      exact hr.complete hw hx (stops_append hw' hs)
    cases fuel with
    | zero => cases hf
    | succ fuel =>
      rw [foldItems]
      cases h with
      | one h =>
        obtain ⟨w, hw, hstep⟩ := hstep (close :: rest) h (stops_cons.mpr hc.goesOn)
        simp only [hstep, skipBlanks_append hw, skipBlanks_cons hc.isBlank, if_true]
        rfl
      | @more t t' _ _ h hs =>
        obtain ⟨w, b, bs, hb, rfl, hblank, harray, hobject, hs⟩ := hs.exists_front hr
        obtain ⟨w', hw', hstep⟩ :=
          hstep (0x2C :: (w ++ b :: bs ++ close :: rest)) h (stops_cons.mpr rfl)
        have hcomma : isBlank 0x2C = false := rfl
        rw [List.append_assoc, List.cons_append, hstep]
        simp only [skipBlanks_append hw', skipBlanks_cons hcomma, if_neg hc.ne_comma, if_true,
          List.append_assoc, List.cons_append, skipBlanks_append hb, skipBlanks_cons hblank,
          if_neg (hc.ne harray hobject)]
        exact ih hs (Nat.le_of_succ_le_succ hf)

theorem foldSequence_sound (hr : Reads read part)
    (h : foldSequence close (each read step) s bs = .ok (s', rest)) :
    ∃ t xs, Sequence part t xs ∧ bs = t ++ close :: rest ∧ s' = xs.foldl step s := by
  rw [foldSequence] at h
  split at h
  · cases h
  · next b bs' hb =>
    obtain ⟨_, w, hw, rfl⟩ := skipBlanks_eq_cons_iff.mp hb
    split at h
    · next hc =>
      subst hc
      cases h
      exact ⟨w, [], .empty hw, rfl, rfl⟩
    · obtain ⟨t, xs, ht, hbs, rfl⟩ := foldItems_sound hr h
      exact ⟨w ++ t, xs, .items (ht.blanks_front hw), by rw [hbs, List.append_assoc], rfl⟩

theorem foldSequence_complete (hr : Reads read part) (hc : Closes close) (h : Sequence part t xs) :
    foldSequence close (each read step) s (t ++ close :: rest) = .ok (xs.foldl step s, rest) := by
  rw [foldSequence]
  cases h with
  | empty hw =>
    simp only [skipBlanks_append hw, skipBlanks_cons hc.isBlank, if_true]
    rfl
  | items h =>
    obtain ⟨w, b, bs, hw, rfl, hb, harray, hobject, h⟩ := h.exists_front hr
    have hl := h.length_le hr
    simp only [List.append_assoc, List.cons_append, skipBlanks_append hw, skipBlanks_cons hb,
      if_neg (hc.ne harray hobject)]
    refine foldItems_complete hr hc h (hl.trans ?_)
    simp only [List.length_append, List.length_cons]
    omega

end Sequence

theorem head_quoted {t : Bytes} {k : String} (h : Quoted t k) :
    ∃ bs, t = 0x22 :: bs := by
  obtain ⟨_⟩ := h
  exact ⟨_, rfl⟩

theorem Reads.member {read : Bytes → Except Fault (α × Bytes)} {part : Bytes → α → Prop}
    (hr : Reads read part) : Reads (Bytes.member read) (Member part) where
  sound {bs m rest} h := by
    obtain ⟨⟨k, bs₁⟩, hkey, h⟩ := bind_eq_ok_iff.mp h
    obtain ⟨⟨⟨⟩, bs₂⟩, hcolon, h⟩ := bind_eq_ok_iff.mp h
    obtain ⟨⟨x, bs₃⟩, hvalue, h⟩ := bind_eq_ok_iff.mp h
    cases h
    obtain ⟨w, q, hw, hq, rfl⟩ := key_eq_ok_iff.mp hkey
    obtain ⟨w', hw', rfl⟩ := colon_eq_ok_iff.mp hcolon
    obtain ⟨w'', t, hw'', ht, rfl⟩ := hr.sound hvalue
    exact ⟨w, _, hw, .mk hq hw' hw'' ht, by simp only [List.append_assoc, List.cons_append]⟩
  complete {w t m rest} hw h hs := by
    cases h with
    | @mk q w' w'' bs k x hq hw' hw'' ht =>
      have htext : w ++ (q ++ (w' ++ 0x3A :: (w'' ++ bs)) ++ rest) =
          w ++ (q ++ (w' ++ 0x3A :: (w'' ++ (bs ++ rest)))) := by
        simp only [List.append_assoc, List.cons_append]
      rw [htext, Bytes.member, key_eq_ok_iff.mpr ⟨w, q, hw, hq, rfl⟩]
      simp only [bind, Except.bind, colon_eq_ok_iff.mpr ⟨w', hw', rfl⟩, hr.complete hw'' ht hs]
  head {t m} h := by
    obtain ⟨hq, _, _, _⟩ := h
    obtain ⟨bs, rfl⟩ := head_quoted hq
    exact ⟨0x22, _, rfl, rfl, by decide, by decide⟩

def scalar (b : UInt8) (rest : Bytes) : Except Fault (Json × Bytes) :=
  if b = 0x6E then constant nullTail .null rest
  else if b = 0x74 then constant trueTail (.bool true) rest
  else if b = 0x66 then constant falseTail (.bool false) rest
  else if b = 0x22 then mapped Bytes.string .string rest
  else if startsNumber b then mapped Bytes.number .number (b :: rest)
  else .error .malformed

theorem scalar_sound {b : UInt8} {x : Json} (h : scalar b bs = .ok (x, rest)) :
    ∃ t, Scalar t x ∧ b :: bs = t ++ rest := by
  rw [scalar] at h
  split at h
  · next hb =>
    obtain ⟨rfl, rfl⟩ := constant_eq_ok_iff.mp h
    exact ⟨_, .null, by rw [hb]; rfl⟩
  split at h
  · next hb =>
    obtain ⟨rfl, rfl⟩ := constant_eq_ok_iff.mp h
    exact ⟨_, .true, by rw [hb]; rfl⟩
  split at h
  · next hb =>
    obtain ⟨rfl, rfl⟩ := constant_eq_ok_iff.mp h
    exact ⟨_, .false, by rw [hb]; rfl⟩
  split at h
  · next hb =>
    obtain ⟨s, hs, rfl⟩ := mapped_eq_ok_iff.mp h
    obtain ⟨t, ht, rfl⟩ := string_eq_ok_iff.mp hs
    exact ⟨_, .string (.mk ht), by rw [hb, List.cons_append, List.append_assoc]; rfl⟩
  split at h
  · obtain ⟨n, hn, rfl⟩ := mapped_eq_ok_iff.mp h
    obtain ⟨t, l, ht, hl, hbs⟩ := number_sound hn
    exact ⟨t, .number ht hl, hbs⟩
  · cases h

structure Leads (b : UInt8) : Prop where
  not_blank : isBlank b = false
  not_array : b ≠ 0x5B
  not_object : b ≠ 0x7B
  not_array_end : b ≠ 0x5D
  not_object_end : b ≠ 0x7D

theorem leads_of_startsNumber {b : UInt8} (h : startsNumber b = true) : Leads b := by
  constructor
  · cases hb : isBlank b with
    | false => rfl
    | true => rcases isBlank_iff.mp hb with rfl | rfl | rfl | rfl <;> cases h
  all_goals
    rintro rfl
    cases h

theorem scalar_startsNumber {b : UInt8} (h : startsNumber b = true) (bs : Bytes) :
    scalar b bs = mapped Bytes.number .number (b :: bs) := by
  have hne {c : UInt8} (hc : startsNumber c = false) : b ≠ c := by
    rintro rfl
    rw [hc] at h
    cases h
  rw [scalar, if_neg (hne rfl), if_neg (hne rfl), if_neg (hne rfl), if_neg (hne rfl), if_pos h]

theorem scalar_complete {t : Bytes} {x : Json} (h : Scalar t x) (hs : Stops goesOn rest) :
    ∃ b bs, t = b :: bs ∧ Leads b ∧ scalar b (bs ++ rest) = .ok (x, rest) := by
  cases h with
  | null | true | false =>
    refine ⟨_, _, rfl, ?_, rfl⟩
    constructor <;> decide
  | string h =>
    obtain ⟨h⟩ := h
    refine ⟨_, _, rfl, by constructor <;> decide, ?_⟩
    rw [List.append_assoc]
    exact mapped_eq_ok_iff.mpr ⟨_, string_eq_ok_iff.mpr ⟨_, h, rfl⟩, rfl⟩
  | number h hn =>
    obtain ⟨b, bs, rfl, hb⟩ := head_numeral h
    refine ⟨b, bs, rfl, leads_of_startsNumber hb, ?_⟩
    rw [scalar_startsNumber hb]
    exact mapped_eq_ok_iff.mpr ⟨_, number_complete h hn hs, rfl⟩

variable {n : Nat} {x : Json}

theorem value_append {w : Bytes} (hw : Blanks w) (bs : Bytes) :
    value n (w ++ bs) = value n bs := by
  cases n with
  | zero => rfl
  | succ n => rw [value, value, skipBlanks_append hw]

theorem value_scalar {b : UInt8} (hb : isBlank b = false) (ha : b ≠ 0x5B) (ho : b ≠ 0x7B) :
    value (n + 1) (b :: bs) = scalar b bs := by
  rw [value, skipBlanks_cons hb, scalar, mapped, mapped]
  simp only [if_neg ha, if_neg ho]
  cases Bytes.string bs <;> cases Bytes.number (b :: bs) <;> rfl

theorem item_eq_each (read : Bytes → Except Fault (Json × Bytes)) :
    value.item read = each read fun xs x => x :: xs := by
  funext xs bs
  rw [value.item, each, mapped]
  cases read bs with
  | error e => rfl
  | ok p => rfl

theorem insertMember_eq_each (read : Bytes → Except Fault (Json × Bytes)) :
    value.insertMember read = each (member read) fun ms m => Members.insert m.1 m.2 ms := by
  funext ms bs
  rw [value.insertMember, each, mapped]
  cases member read bs with
  | error e => rfl
  | ok p => rfl

theorem value_array :
    value (n + 2) (0x5B :: bs) =
      mapped (foldSequence 0x5D (each (value (n + 1)) fun xs x => x :: xs) [])
        (fun xs => .array xs.reverse) bs := by
  rw [value, skipBlanks_cons rfl, item_eq_each, mapped]
  dsimp only
  cases foldSequence 0x5D (each (value (n + 1)) fun xs x => x :: xs) [] bs <;> rfl

theorem value_object :
    value (n + 2) (0x7B :: bs) =
      mapped (foldSequence 0x7D
        (each (member (value (n + 1))) fun ms m => Members.insert m.1 m.2 ms) []) .object bs := by
  rw [value, skipBlanks_cons rfl, insertMember_eq_each, mapped]
  dsimp only
  cases foldSequence 0x7D (each (member (value (n + 1))) _) [] bs <;> rfl

theorem reverse_foldl_cons (xs : List α) : (xs.foldl (fun xs x => x :: xs) []).reverse = xs := by
  simp

theorem value_complete_scalar {t : Bytes} (h : Scalar t x) (hs : Stops goesOn rest) :
    ∃ b bs, t = b :: bs ∧ isBlank b = false ∧ b ≠ 0x5D ∧ b ≠ 0x7D ∧
      value (n + 1) (t ++ rest) = .ok (x, rest) := by
  obtain ⟨b, bs, rfl, hb, hread⟩ := scalar_complete h hs
  refine ⟨b, bs, rfl, hb.not_blank, hb.not_array_end, hb.not_object_end, ?_⟩
  rw [List.cons_append, value_scalar hb.not_blank hb.not_array hb.not_object, hread]

/-- A value that nests less deep than the reader allows is read. -/
theorem reads_value (n : Nat) : Reads (value (n + 1)) (Nested n) := by
  -- The induction is on the depth, since what stands between brackets nests one less.
  induction n with
  | zero =>
    refine reads_of_front value_append (fun {bs x rest} h hb => ?_) value_complete_scalar
    cases bs with
    | nil => cases h
    | cons b bs =>
      by_cases ha : b = 0x5B
      · subst ha
        cases h
      by_cases ho : b = 0x7B
      · subst ho
        cases h
      rw [value_scalar (stops_cons.mp hb) ha ho] at h
      exact scalar_sound h
  | succ n ih =>
    refine reads_of_front value_append (fun {bs x rest} h hb => ?_) fun {t x rest} h hs => ?_
    · cases bs with
      | nil => cases h
      | cons b bs =>
        by_cases ha : b = 0x5B
        · subst ha
          rw [value_array] at h
          obtain ⟨xs, hread, rfl⟩ := mapped_eq_ok_iff.mp h
          obtain ⟨t, xs, ht, rfl, rfl⟩ := foldSequence_sound ih hread
          rw [reverse_foldl_cons]
          exact ⟨_, .inr (.array ht), by rw [List.cons_append, List.append_assoc]; rfl⟩
        by_cases ho : b = 0x7B
        · subst ho
          rw [value_object] at h
          obtain ⟨ms, hread, rfl⟩ := mapped_eq_ok_iff.mp h
          obtain ⟨t, ms, ht, rfl, rfl⟩ := foldSequence_sound ih.member hread
          exact ⟨_, .inr (.object ht), by rw [List.cons_append, List.append_assoc]; rfl⟩
        rw [value_scalar (stops_cons.mp hb) ha ho] at h
        obtain ⟨t, ht, hbs⟩ := scalar_sound h
        exact ⟨t, .inl ht, hbs⟩
    · rcases h with h | h
      · exact value_complete_scalar h hs
      · cases h with
        | array h =>
          refine ⟨_, _, rfl, rfl, by decide, by decide, ?_⟩
          rw [List.cons_append, List.append_assoc, value_array]
          refine mapped_eq_ok_iff.mpr ⟨_, foldSequence_complete ih (.inl rfl) h, ?_⟩
          rw [reverse_foldl_cons]
        | object h =>
          refine ⟨_, _, rfl, rfl, by decide, by decide, ?_⟩
          rw [List.cons_append, List.append_assoc, value_object]
          exact mapped_eq_ok_iff.mpr ⟨_, foldSequence_complete ih.member (.inr rfl) h, rfl⟩

theorem finish_eq_ok_iff {r : Except Fault (α × Bytes)} {y : α} :
    finish r = .ok y ↔ ∃ rest, r = .ok (y, rest) ∧ Blanks rest := by
  cases r with
  | error e => exact ⟨nofun, nofun⟩
  | ok p =>
    have hb : (skipBlanks p.2).isEmpty = true ↔ Blanks p.2 := by
      rw [List.isEmpty_iff, skipBlanks_eq_nil_iff]
    rw [finish]
    constructor
    · intro h
      split at h
      · next he =>
        cases h
        exact ⟨p.2, rfl, hb.mp he⟩
      · cases h
    · rintro ⟨rest, h, hrest⟩
      cases h
      exact if_pos (hb.mpr hrest)

/-- A text is read exactly if it is a JSON text, as the value that it denotes. -/
theorem parse_eq_ok_iff : parse bs = .ok x ↔ Denotes bs x := by
  have hr := reads_value maxLevels
  rw [parse, finish_eq_ok_iff]
  constructor
  · rintro ⟨w', h, hw'⟩
    obtain ⟨w, t, hw, ht, rfl⟩ := hr.sound h
    exact .mk hw ht hw'
  · rintro ⟨hw, ht, hw'⟩
    have hs := stops_append hw' (stops_nil goesOn)
    rw [List.append_nil] at hs
    exact ⟨_, hr.complete hw ht hs, hw'⟩

theorem Denotes.unique {y : Json} (hx : Denotes bs x) (hy : Denotes bs y) : x = y := by
  have h := (parse_eq_ok_iff.mpr hx).symm.trans (parse_eq_ok_iff.mpr hy)
  exact Except.ok.inj h

theorem Grammar.nodup_merge (ms : Members) : (merge ms).keys.Nodup := by
  have h : ∀ found : Members, found.keys.Nodup →
      (ms.foldl (fun found m => Members.insert m.1 m.2 found) found).keys.Nodup := by
    induction ms with
    | nil => exact fun _ h => h
    | cons m ms ih => exact fun found h => ih _ (Members.nodup_insert h)
  exact h [] List.nodup_nil

/-- No key comes twice in an object that a text denotes. -/
theorem Denotes.nodup_keys {ms : Members} (h : Denotes bs (.object ms)) : ms.keys.Nodup := by
  obtain ⟨_, h, _⟩ := h
  rcases h with h | h
  · cases h
  · cases h with
    | object => exact nodup_merge _

end MailPrefs.Json
