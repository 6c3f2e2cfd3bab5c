import Mathlib.Logic.Relation
import MailPrefs.Proofs.Template.Bytes
import MailPrefs.Proofs.Template.Escaping

namespace MailPrefs.Template

open Json

variable {args : List String} {cs front ds digits : List Char}

theorem utf8_percent (ds : List Char) : utf8 ('%' :: ds) = 0x25 :: utf8 ds :=
  rfl

theorem percent_mem_utf8_iff (cs : List Char) : 0x25 ∈ utf8 cs ↔ '%' ∈ cs :=
  asciiByte_mem_utf8_iff (c := '%') (by decide) cs

theorem idxOf?_percent (hf : '%' ∉ front) (ds : List Char) :
    (utf8 (front ++ '%' :: ds)).idxOf? 0x25 = some (utf8 front).length := by
  have hn : 0x25 ∉ utf8 front := (percent_mem_utf8_iff front).not.mpr hf
  rw [utf8_append, utf8_percent, List.idxOf?_eq_some_iff]
  have hlt : (utf8 front).length < (utf8 front ++ 0x25 :: utf8 ds).length := by
    rw [List.length_append, List.length_cons]
    omega
  refine ⟨hlt, ?_, fun j hj he => hn ?_⟩
  · simp only [List.getElem_append_right (Nat.le_refl _), Nat.sub_self, List.getElem_cons_zero]
  · rw [List.getElem_append_left hj] at he
    exact he ▸ List.getElem_mem hj

namespace Cursor

variable {c : Cursor}

def copy (c : Cursor) (front : List Char) : Cursor :=
  { c with written := c.written ++ utf8 front }

/-- A turn copies what stands in front of the first percent sign and reads on behind it. -/
theorem turn?_eq (hc : c.rest = utf8 (front ++ '%' :: ds)) (hf : '%' ∉ front) :
    c.turn? args =
      ((c.copy front).follow? args (utf8 front).length (utf8 ds)).map .goOn := by
  have hpos : c.rest.idxOf? 0x25 = some (utf8 front).length := by rw [hc, idxOf?_percent hf]
  have hfront : slice? c.rest 0 (utf8 front).length = some (utf8 front) :=
    slice?_utf8 [] front _ hc rfl (Nat.zero_add _).symm
  have hbehind : slice? c.rest ((utf8 front).length + 1) c.rest.length = some (utf8 ds) := by
    apply slice?_utf8 (front ++ ['%']) ds []
    · rw [hc, List.append_nil, List.append_assoc, List.singleton_append]
    · rw [utf8_append, List.length_append]
      rfl
    · rw [hc, utf8_append, utf8_percent, List.length_append, List.length_cons]
      omega
  simp only [turn?, hpos, Option.bind_eq_bind, hfront, hbehind, Option.bind_some]
  rfl

theorem turn?_of_plain (hc : c.rest = utf8 cs) (hn : '%' ∉ cs) :
    c.turn? args = some (.finish (c.written ++ utf8 cs)) := by
  have hpos : c.rest.idxOf? 0x25 = none := by
    rw [hc, List.idxOf?_eq_none_iff, percent_mem_utf8_iff]
    exact hn
  rw [turn?, hpos, hc]

theorem follow?_percent (pos : Nat) (ds : List Char) :
    c.follow? args pos (utf8 ('%' :: ds)) = some (c.percent (utf8 ds)) :=
  rfl

theorem follow?_next (pos : Nat) (ds : List Char) :
    c.follow? args pos (utf8 ('s' :: ds)) =
      some { c.fill args[c.seen]? [0x25, 0x73] (utf8 ds) with seen := c.seen + 1 } :=
  rfl

theorem follow?_other (pos : Nat) (hp : ∀ es, ds ≠ '%' :: es) (hs : ∀ es, ds ≠ 's' :: es) :
    c.follow? args pos (utf8 ds) = c.numbered? args pos (utf8 ds) := by
  apply follow?.eq_3
  · intro rest h
    obtain ⟨es, hes, _⟩ := (utf8_eq_cons_iff (c := '%') (by decide) ds rest).mp h
    exact hp es hes
  · intro rest h
    obtain ⟨es, hes, _⟩ := (utf8_eq_cons_iff (c := 's') (by decide) ds rest).mp h
    exact hs es hes

theorem numbered?_of_place (hc : c.rest = utf8 (front ++ '%' :: (digits ++ '$' :: 's' :: ds)))
    (hne : digits ≠ []) (hd : ∀ d ∈ digits, isDigit d = true) :
    c.numbered? args (utf8 front).length (utf8 (digits ++ '$' :: 's' :: ds)) =
      some (c.fill ((number? digits).bind (nth? args)) (utf8 (Piece.numbered digits).source)
        (utf8 ds)) := by
  have hsize : ((utf8 (digits ++ '$' :: 's' :: ds)).takeWhile isDigitByte).length =
      (utf8 digits).length := by
    rw [takeWhile_digitBytes, takeWhile_digits hd]
  have hpos : (utf8 digits).length ≠ 0 := by
    rw [utf8_ascii fun d h => isDigit_lt d (hd d h), List.length_map]
    exact fun h => hne (List.length_eq_zero_iff.mp h)
  have hbehind : slice? (utf8 (digits ++ '$' :: 's' :: ds)) (utf8 digits).length
      (utf8 (digits ++ '$' :: 's' :: ds)).length = some (utf8 ('$' :: 's' :: ds)) := by
    apply slice?_utf8 digits ('$' :: 's' :: ds) [] _ rfl
    · rw [utf8_append, List.length_append]
    · rw [List.append_nil]
  have hplace : slice? c.rest (utf8 front).length
      ((utf8 front).length + 1 + (utf8 digits).length + 2) =
        some (utf8 (Piece.numbered digits).source) := by
    apply slice?_utf8 front (Piece.numbered digits).source ds _ rfl
    · rw [Piece.source, List.cons_append, utf8_percent, utf8_append, List.length_cons,
        List.length_append, Nat.add_assoc, Nat.add_assoc, Nat.add_comm 1]
      rfl
    · rw [hc, Piece.source, List.cons_append, List.cons_append, List.append_assoc]
      rfl
  have hdigits : slice? (utf8 (digits ++ '$' :: 's' :: ds)) 0 (utf8 digits).length =
      some (utf8 digits) :=
    slice?_utf8 [] digits _ rfl rfl (Nat.zero_add _).symm
  have hrest : slice? (utf8 (digits ++ '$' :: 's' :: ds)) ((utf8 digits).length + 2)
      (utf8 (digits ++ '$' :: 's' :: ds)).length = some (utf8 ds) := by
    apply slice?_utf8 (digits ++ ['$', 's']) ds []
    · rw [List.append_nil, List.append_assoc]
      rfl
    · rw [utf8_append, List.length_append]
      rfl
    · rw [utf8_append, List.length_append, Nat.add_assoc, Nat.add_comm 2]
      rfl
  have hprefix : [0x24, 0x73] <+: utf8 ('$' :: 's' :: ds) := ⟨utf8 ds, rfl⟩
  simp only [numbered?, hsize, if_neg hpos, hbehind, hplace, hdigits, hrest, Option.bind_eq_bind,
    Option.bind_some, if_pos hprefix, index?_bind args hd]

theorem exists_of_dollar_s (h : [0x24, 0x73] <+: utf8 cs) : ∃ es, cs = '$' :: 's' :: es := by
  obtain ⟨rest, hrest⟩ := h
  obtain ⟨ds, rfl, hds⟩ :=
    (utf8_eq_cons_iff (c := '$') (by decide) cs (0x73 :: rest)).mp hrest.symm
  obtain ⟨es, rfl, _⟩ := (utf8_eq_cons_iff (c := 's') (by decide) ds rest).mp hds.symm
  exact ⟨es, rfl⟩

theorem numbered?_of_lone (pos : Nat) (hn : ¬Continues ds) :
    c.numbered? args pos (utf8 ds) = some (c.percent (utf8 ds)) := by
  rw [numbered?, takeWhile_digitBytes]
  split
  · rfl
  · next hpos =>
    have hbehind : slice? (utf8 ds) (utf8 (ds.takeWhile isDigit)).length (utf8 ds).length =
        some (utf8 (ds.dropWhile isDigit)) := by
      apply slice?_utf8 (ds.takeWhile isDigit) (ds.dropWhile isDigit) [] _ rfl
      · rw [← List.length_append, ← utf8_append, List.takeWhile_append_dropWhile]
      · rw [List.append_nil, List.takeWhile_append_dropWhile]
    rw [hbehind, Option.bind_eq_bind, Option.bind_some, if_neg]
    intro hprefix
    obtain ⟨es, hes⟩ := exists_of_dollar_s hprefix
    apply hn
    rw [← List.takeWhile_append_dropWhile (p := isDigit) (l := ds), hes]
    apply Continues.numbered
    · intro hnil
      rw [hnil] at hpos
      exact hpos rfl
    · exact fun d hd => List.mem_takeWhile_imp hd

/-- What a pass has written and what the pieces of the text that is left come to. -/
def whole (c : Cursor) (args : List String) (cs : List Char) : Bytes :=
  c.written ++ utf8 (Template.fill args c.seen (pieces cs))

theorem whole_copy (c : Cursor) (args : List String) (hf : '%' ∉ front) (ds : List Char) :
    (c.copy front).whole args ds = c.whole args (front ++ ds) := by
  have hpieces : pieces (front ++ ds) = front.map literal ++ pieces ds := by
    rw [← pieces_escaped_append, flatMap_doubled hf]
  rw [whole, whole, hpieces, fill_literals, utf8_append, ← List.append_assoc]
  rfl

theorem whole_percent (c : Cursor) (ds : List Char) :
    (c.percent (utf8 ds)).whole args ds =
      c.written ++ utf8 ('%' :: Template.fill args c.seen (pieces ds)) :=
  List.append_assoc _ _ _

theorem written_fill (c : Cursor) (argument : Option String) (place : List Char) (rest : Bytes) :
    (c.fill argument (utf8 place) rest).written =
      c.written ++ utf8 (argument.elim place String.toList) := by
  cases argument with
  | none => rfl
  | some s =>
    rw [fill, Option.elim_some, Option.elim_some, toUTF8_toList]

/-- What follows a percent sign can always be read, up to a character that starts a text, and what
is written for it is what it comes to. -/
theorem exists_follow (args : List String) (hc : c.rest = utf8 (front ++ '%' :: ds)) :
    ∃ c' es, c.follow? args (utf8 front).length (utf8 ds) = some c' ∧ c'.rest = utf8 es ∧
      c'.whole args es = c.whole args ('%' :: ds) := by
  by_cases hcont : Continues ds
  · cases hcont with
    | percent es =>
      have hp : pieces ('%' :: '%' :: es) = .percent :: pieces es := pieces_directive rfl
      refine ⟨_, es, follow?_percent _ es, rfl, ?_⟩
      rw [whole_percent, whole, hp]
      rfl
    | next es =>
      have hp : pieces ('%' :: 's' :: es) = .next :: pieces es := pieces_directive rfl
      refine ⟨_, es, follow?_next _ es, rfl, ?_⟩
      rw [whole, whole, hp, Template.fill, utf8_append, ← List.append_assoc]
      exact congrArg (· ++ _) (written_fill c args[c.seen]? ['%', 's'] (utf8 es))
    | @numbered digits es hne hd =>
      have hp : pieces ('%' :: (digits ++ '$' :: 's' :: es)) = .numbered digits :: pieces es := by
        rw [pieces_directive (directive_numbered hne hd es), ← List.drop_drop, List.drop_left]
        rfl
      obtain ⟨d, tail, rfl⟩ := List.exists_cons_of_ne_nil hne
      -- A digit is neither a percent sign nor the letter of a place.
      have hdigit : isDigit d = true := hd d List.mem_cons_self
      refine ⟨_, es, (follow?_other _ ?_ ?_).trans (numbered?_of_place hc hne hd), rfl, ?_⟩
      · rintro _ ⟨⟩
        exact absurd hdigit (by decide)
      · rintro _ ⟨⟩
        exact absurd hdigit (by decide)
      · rw [whole, whole, hp, Template.fill, utf8_append, ← List.append_assoc, written_fill]
        rfl
  · refine ⟨_, ds, (follow?_other _ ?_ ?_).trans (numbered?_of_lone _ hcont), rfl, ?_⟩
    · rintro es rfl
      exact hcont (.percent es)
    · rintro es rfl
      exact hcont (.next es)
    · rw [whole_percent, whole, pieces_directive (directive_lone hcont)]
      rfl

theorem exists_turn (args : List String) (hc : c.rest = utf8 cs) :
    c.turn? args = some (.finish (c.whole args cs)) ∨
      ∃ c' ds, c.turn? args = some (.goOn c') ∧ c'.rest = utf8 ds ∧
        c'.whole args ds = c.whole args cs := by
  by_cases hp : '%' ∈ cs
  · obtain ⟨front, ds, rfl, hf⟩ := List.eq_append_cons_of_mem hp
    have hcopy : (c.copy front).rest = utf8 (front ++ '%' :: ds) := hc
    obtain ⟨c', es, hfollow, hrest, hwhole⟩ := exists_follow args hcopy
    refine .inr ⟨c', es, ?_, hrest, hwhole.trans (whole_copy c args hf _)⟩
    rw [turn?_eq hc hf, hfollow, Option.map_some]
  · have hend : c.whole args cs = c.written ++ utf8 cs := by
      have hcopy := whole_copy c args hp []
      rw [List.append_nil] at hcopy
      rw [← hcopy, whole, pieces]
      exact List.append_nil _
    rw [turn?_of_plain hc hp, hend]
    exact .inl rfl

theorem pass?_of_finish {text : Bytes} (h : c.turn? args = some (.finish text)) :
    c.pass? args = some text := by
  rw [pass?.eq_def]
  split
  · next ht => rw [h] at ht; cases ht
  · next ht => rw [h] at ht; cases ht; rfl
  · next ht => rw [h] at ht; cases ht

theorem pass?_of_goOn {c' : Cursor} (h : c.turn? args = some (.goOn c')) :
    c.pass? args = c'.pass? args := by
  rw [pass?.eq_def]
  split
  · next ht => rw [h] at ht; cases ht
  · next ht => rw [h] at ht; cases ht
  · next ht => rw [h] at ht; cases ht; rfl

theorem pass?_eq (args : List String) (hc : c.rest = utf8 cs) :
    c.pass? args = some (c.whole args cs) := by
  -- A turn leaves less to read, and leaves alone what text and rest come to as a whole.
  induction hn : c.rest.length using Nat.strong_induction_on generalizing c cs with
  | _ n ih =>
    rcases exists_turn args hc with ht | ⟨c', ds, ht, hds, hwhole⟩
    · exact pass?_of_finish ht
    · have hlt : c'.rest.length < n := hn ▸ turn?_length_lt ht
      rw [pass?_of_goOn ht, ih _ hlt hds rfl, hwhole]

def Reaches (args : List String) : Cursor → Cursor → Prop :=
  Relation.ReflTransGen fun c c' => c.turn? args = some (.goOn c')

theorem Reaches.exists_text {c' : Cursor} (h : Reaches args c c') (hc : c.rest = utf8 cs) :
    ∃ ds, c'.rest = utf8 ds := by
  induction h with
  | refl => exact ⟨cs, hc⟩
  | tail _ hstep ih =>
    obtain ⟨ds, hds⟩ := ih
    rcases exists_turn args hds with ht | ⟨c', es, ht, hes, _⟩
    · rw [ht] at hstep
      cases hstep
    · rw [ht] at hstep
      cases hstep
      exact ⟨es, hes⟩

def behindSign (c : Cursor) (pos : Nat) : Bytes :=
  c.rest.drop (pos + 1)

def digitRun (c : Cursor) (pos : Nat) : Bytes :=
  (c.behindSign pos).takeWhile isDigitByte

/-- All offsets that are counted from the percent sign at an offset are boundaries, those behind a
numbered place if there is one. -/
structure Cuts (c : Cursor) (pos : Nat) : Prop where
  sign : isBoundary c.rest pos = true
  behind : isBoundary c.rest (pos + 1) = true
  digits : isBoundary (c.behindSign pos) (c.digitRun pos).length = true
  place : [0x24, 0x73] <+: (c.behindSign pos).drop (c.digitRun pos).length →
    isBoundary c.rest (pos + 1 + (c.digitRun pos).length + 2) = true ∧
      isBoundary (c.behindSign pos) ((c.digitRun pos).length + 2) = true

/-- The digits behind a percent sign are read as the number that they denote or, beyond all words,
as none, and one is taken from every number but zero. -/
structure Counts (c : Cursor) (pos : Nat) : Prop where
  word : ∀ w, word? (c.digitRun pos) = some w ↔ w.toNat = value (c.digitRun pos)
  index : ∀ n, index? (c.digitRun pos) = some n ↔
    value (c.digitRun pos) < UInt64.size ∧ n.toNat + 1 = value (c.digitRun pos)

theorem counts (c : Cursor) (pos : Nat) : c.Counts pos := by
  have hdigits : ∀ d ∈ c.digitRun pos, isDigitByte d = true := fun d hd => List.mem_takeWhile_imp hd
  constructor
  · intro w
    exact word?_eq_some_iff hdigits
  · intro n
    exact index?_eq_some_iff hdigits

theorem cuts_of_percent (hc : c.rest = utf8 (front ++ '%' :: ds)) :
    c.Cuts (utf8 front).length := by
  have hbehind : c.behindSign (utf8 front).length = utf8 ds := by
    rw [behindSign, hc, utf8_append, utf8_percent, ← List.drop_drop, List.drop_left]
    rfl
  have hdigits : c.digitRun (utf8 front).length = utf8 (ds.takeWhile isDigit) := by
    rw [digitRun, hbehind, takeWhile_digitBytes]
  constructor
  · rw [hc]
    exact isBoundary_iff.mpr ⟨front, _, rfl, rfl⟩
  · rw [hc]
    apply isBoundary_iff.mpr
    refine ⟨front ++ ['%'], ds, List.append_cons front '%' ds, ?_⟩
    rw [utf8_append, List.length_append]
    rfl
  · rw [hbehind, hdigits]
    exact isBoundary_iff.mpr ⟨_, _, List.takeWhile_append_dropWhile.symm, rfl⟩
  · intro hplace
    rw [hbehind, hdigits, drop_digitBytes] at hplace
    rw [hbehind, hdigits]
    obtain ⟨es, hes⟩ := exists_of_dollar_s hplace
    have hds : ds = ds.takeWhile isDigit ++ ['$', 's'] ++ es := by
      rw [List.append_assoc, List.cons_append, List.singleton_append, ← hes,
        List.takeWhile_append_dropWhile]
    constructor
    · rw [hc]
      apply isBoundary_iff.mpr
      refine ⟨front ++ '%' :: (ds.takeWhile isDigit ++ ['$', 's']), es, ?_, ?_⟩
      · rw [List.append_assoc, List.cons_append, ← hds]
      · rw [utf8_append, utf8_percent, utf8_append, List.length_append, List.length_cons,
          List.length_append]
        have htwo : (utf8 ['$', 's']).length = 2 := rfl
        omega
    · apply isBoundary_iff.mpr
      refine ⟨ds.takeWhile isDigit ++ ['$', 's'], es, hds, ?_⟩
      rw [utf8_append, List.length_append]
      rfl

/-- A pass can take its next turn from here: it is at a text, cuts it between characters only, reads
its numbers as they are, and does not fail but has less to read afterwards. -/
structure Safe (args : List String) (c : Cursor) : Prop where
  text : ∃ cs, c.rest = utf8 cs
  cuts : ∀ pos, c.rest.idxOf? 0x25 = some pos → c.Cuts pos
  counts : ∀ pos, c.rest.idxOf? 0x25 = some pos → c.Counts pos
  turns : ∃ t, c.turn? args = some t
  shorter : ∀ c', c.turn? args = some (.goOn c') → c'.rest.length < c.rest.length

theorem safe_of_text (args : List String) (hc : c.rest = utf8 cs) : c.Safe args where
  text := ⟨cs, hc⟩
  cuts := by
    intro pos hpos
    have hp : '%' ∈ cs := by
      rw [← percent_mem_utf8_iff, ← hc]
      by_contra hn
      rw [List.idxOf?_eq_none_iff.mpr hn] at hpos
      cases hpos
    obtain ⟨front, ds, rfl, hf⟩ := List.eq_append_cons_of_mem hp
    rw [hc, idxOf?_percent hf, Option.some.injEq] at hpos
    rw [← hpos]
    exact cuts_of_percent hc
  counts := fun pos _ => counts c pos
  turns := by
    rcases exists_turn args hc with ht | ⟨c', ds, ht, _⟩
    · exact ⟨_, ht⟩
    · exact ⟨_, ht⟩
  shorter := fun _ h => turn?_length_lt h

end Cursor

/-- From every cursor that a pass over a template gets to it can take its next turn, and in the end
it has written the formatted text. -/
theorem turns_safe (template : String) (args : List String) :
    (∀ c, Cursor.Reaches args (.start template) c → c.Safe args) ∧
      (Cursor.start template).pass? args = some (format template args).toUTF8.toList := by
  have hstart : (Cursor.start template).rest = utf8 template.toList := toUTF8_toList template
  constructor
  · intro c hreaches
    obtain ⟨cs, hc⟩ := hreaches.exists_text hstart
    exact Cursor.safe_of_text args hc
  · rw [Cursor.pass?_eq args hstart, format, toUTF8_ofList]
    rfl

/-- Characters of two and three bytes around places, one of them with a number beyond all words. -/
theorem turns_safe_multibyte :
    let args := ["ñ"]
    let start := Cursor.start "é%1$sß%18446744073709551617$s€%ü%0$s%"
    let c : Cursor :=
      { written := "éñ".toUTF8.toList, rest := "ß%18446744073709551617$s€%ü%0$s%".toUTF8.toList }
    start.turn? args = some (.goOn c) ∧ c.Safe args ∧ c.rest.idxOf? 0x25 = some 2 ∧ c.Cuts 2 ∧
      index? (c.digitRun 2) = none ∧
      start.pass? args = some "éñß%18446744073709551617$s€%ü%0$s%".toUTF8.toList := by
  intro args start c
  have hturn : start.turn? args = some (.goOn c) := by decide +kernel
  have hpos : c.rest.idxOf? 0x25 = some 2 := by decide +kernel
  have hindex : index? (c.digitRun 2) = none := by decide +kernel
  have hformat : format "é%1$sß%18446744073709551617$s€%ü%0$s%" args =
      "éñß%18446744073709551617$s€%ü%0$s%" := by decide +kernel
  obtain ⟨hsafe, hpass⟩ := turns_safe "é%1$sß%18446744073709551617$s€%ü%0$s%" args
  have hc := hsafe c (.single hturn)
  rw [hformat] at hpass
  exact ⟨hturn, hc, hpos, hc.cuts 2 hpos, hindex, hpass⟩

end MailPrefs.Template
