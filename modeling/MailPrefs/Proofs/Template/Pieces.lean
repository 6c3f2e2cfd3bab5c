import Mathlib.Data.List.TakeWhile
import Mathlib.Data.Nat.Digits.Lemmas
import MailPrefs.Template

namespace MailPrefs.Template

/-- What can follow a percent sign that is more than a percent sign. -/
inductive Continues : List Char → Prop where
  | percent (cs : List Char) : Continues ('%' :: cs)
  | next (cs : List Char) : Continues ('s' :: cs)
  | numbered {digits : List Char} (cs : List Char) : digits ≠ [] →
    (∀ d ∈ digits, isDigit d = true) → Continues (digits ++ '$' :: 's' :: cs)

/-- A text reads, from left to right, as these pieces. The digits of a number are as many as
there are, since the dollar sign that ends them is none. -/
inductive ReadsAs : List Char → List Piece → Prop where
  | nil : ReadsAs [] []
  | percent {cs : List Char} {ps : List Piece} :
    ReadsAs cs ps → ReadsAs ('%' :: '%' :: cs) (.percent :: ps)
  | next {cs : List Char} {ps : List Piece} :
    ReadsAs cs ps → ReadsAs ('%' :: 's' :: cs) (.next :: ps)
  | numbered {cs digits : List Char} {ps : List Piece} : digits ≠ [] →
    (∀ d ∈ digits, isDigit d = true) →
      ReadsAs cs ps → ReadsAs ('%' :: (digits ++ '$' :: 's' :: cs)) (.numbered digits :: ps)
  | lone {cs : List Char} {ps : List Piece} : ¬Continues cs →
    ReadsAs cs ps → ReadsAs ('%' :: cs) (.char '%' :: ps)
  | char {c : Char} {cs : List Char} {ps : List Piece} : c ≠ '%' →
    ReadsAs cs ps → ReadsAs (c :: cs) (.char c :: ps)

variable {cs digits : List Char} {ps qs : List Piece} {args : List String}

theorem ReadsAs.source (h : ReadsAs cs ps) : ps.flatMap Piece.source = cs := by
  induction h with
  | nil => rfl
  | numbered _ _ _ ih =>
    rw [List.flatMap_cons, ih, Piece.source]
    simp only [List.cons_append, List.append_assoc, List.nil_append]
  | percent _ ih | next _ ih | lone _ _ ih | char _ _ ih =>
    rw [List.flatMap_cons, ih]
    rfl

theorem exists_readsAs (cs : List Char) : ∃ ps, ReadsAs cs ps := by
  induction hn : cs.length using Nat.strong_induction_on generalizing cs with
  | _ n ih =>
    cases cs with
    | nil => exact ⟨[], .nil⟩
    | cons c cs =>
      have hshort {rest : List Char} (h : rest.length ≤ cs.length) : ∃ ps, ReadsAs rest ps :=
        ih rest.length (hn ▸ Nat.lt_succ_of_le h) rest rfl
      obtain ⟨ps, hps⟩ := hshort (Nat.le_refl cs.length)
      by_cases hc : c = '%'
      · subst hc
        by_cases hcont : Continues cs
        · cases hcont with
          | percent rest =>
            obtain ⟨ps, hps⟩ := hshort (Nat.le_succ rest.length)
            exact ⟨_, hps.percent⟩
          | next rest =>
            obtain ⟨ps, hps⟩ := hshort (Nat.le_succ rest.length)
            exact ⟨_, hps.next⟩
          | @numbered digits rest hne hd =>
            have hle : rest.length ≤ (digits ++ '$' :: 's' :: rest).length := by
              simp only [List.length_append, List.length_cons]
              omega
            obtain ⟨ps, hps⟩ := hshort hle
            exact ⟨_, hps.numbered hne hd⟩
        · exact ⟨_, hps.lone hcont⟩
      · exact ⟨_, hps.char hc⟩

theorem takeWhile_digits (hd : ∀ d ∈ digits, isDigit d = true) (cs : List Char) :
    (digits ++ '$' :: cs).takeWhile isDigit = digits := by
  rw [List.takeWhile_append_of_pos hd, List.takeWhile_cons_of_neg (by decide), List.append_nil]

theorem directive_numbered (hne : digits ≠ []) (hd : ∀ d ∈ digits, isDigit d = true)
    (cs : List Char) :
    directive (digits ++ '$' :: 's' :: cs) = (.numbered digits, digits.length + 2) := by
  have hw := takeWhile_digits hd ('s' :: cs)
  obtain ⟨d, ds, rfl⟩ := List.exists_cons_of_ne_nil hne
  have hdigit : isDigit d = true := hd d List.mem_cons_self
  rw [directive]
  · simp only [hw, List.isEmpty_cons, List.drop_left]
  · rintro _ ⟨⟩
    exact absurd hdigit (by decide)
  · rintro _ ⟨⟩
    exact absurd hdigit (by decide)

theorem directive_lone (h : ¬Continues cs) : directive cs = (.char '%', 0) := by
  rw [directive.eq_def]
  split
  · exact absurd (.percent _) h
  · exact absurd (.next _) h
  · dsimp only
    split
    · next rest he hdrop =>
      have hcs : cs = cs.takeWhile isDigit ++ '$' :: 's' :: rest := by
        rw [← hdrop]
        exact (List.prefix_iff_eq_append.mp (List.takeWhile_prefix isDigit)).symm
      have hne : cs.takeWhile isDigit ≠ [] := by simpa using he
      have hd : ∀ d ∈ cs.takeWhile isDigit, isDigit d = true := fun d hd =>
        List.mem_takeWhile_imp hd
      rw [hcs] at h
      exact absurd (.numbered rest hne hd) h
    · rfl

theorem pieces_directive {piece : Piece} {size : Nat} (h : directive cs = (piece, size)) :
    pieces ('%' :: cs) = piece :: pieces (cs.drop size) := by
  rw [pieces, h]

theorem ReadsAs.pieces_eq (h : ReadsAs cs ps) : pieces cs = ps := by
  induction h with
  | nil => rw [pieces]
  | percent _ ih =>
    rw [pieces_directive rfl]
    exact congrArg _ ih
  | next _ ih =>
    rw [pieces_directive rfl]
    exact congrArg _ ih
  | @numbered cs digits ps hne hd _ ih =>
    rw [pieces_directive (directive_numbered hne hd cs), ← List.drop_drop, List.drop_left]
    exact congrArg _ ih
  | lone hc _ ih =>
    rw [pieces_directive (directive_lone hc)]
    exact congrArg _ ih
  | char hc _ ih => rw [pieces.eq_3 _ _ hc, ih]

theorem readsAs_iff : ReadsAs cs ps ↔ ps = pieces cs := by
  constructor
  · exact fun h => h.pieces_eq.symm
  · rintro rfl
    obtain ⟨ps, h⟩ := exists_readsAs cs
    rw [h.pieces_eq]
    exact h

def denoted (digits : List Char) : Nat :=
  Nat.ofDigits 10 (digits.map digitValue).reverse

theorem denoted_concat (digits : List Char) (d : Char) :
    denoted (digits ++ [d]) = denoted digits * 10 + digitValue d := by
  rw [denoted, List.map_append, List.map_singleton, List.reverse_concat, Nat.ofDigits_cons,
    Nat.add_comm, Nat.mul_comm]
  rfl

/-- A number that fits is read as it is, and one that does not fit is no number. -/
theorem number?_eq (digits : List Char) :
    number? digits = if denoted digits < UInt64.size then some (denoted digits) else none := by
  induction digits using List.reverseRecOn with
  | nil => rfl
  | append_singleton digits d ih =>
    rw [number?] at ih
    rw [number?, List.foldlM_append, ih, denoted_concat]
    by_cases hfits : denoted digits < UInt64.size
    · rw [if_pos hfits, Option.bind_eq_bind, Option.bind_some, List.foldlM_cons]
      simp only [List.foldlM_nil, pushDigit?]
      exact bind_pure _
    · -- What was too large stays so.
      rw [if_neg hfits, if_neg (by omega)]
      rfl

def Piece.text (args : List String) (before : Nat) : Piece → List Char
  | .char c => [c]
  | .percent => ['%']
  | .next => if h : before < args.length then args[before].toList else Piece.next.source
  | .numbered digits =>
    if h : 1 ≤ denoted digits ∧ denoted digits ≤ args.length then
      (args.get ⟨denoted digits - 1, Nat.sub_one_lt_of_le h.1 h.2⟩).toList
    else (Piece.numbered digits).source

theorem next_text (args : List String) (before : Nat) :
    (args[before]?).elim Piece.next.source String.toList = Piece.next.text args before := by
  rw [Piece.text]
  split
  · next h => rw [List.getElem?_eq_getElem h, Option.elim_some]
  · next h => rw [List.getElem?_eq_none (Nat.le_of_not_lt h), Option.elim_none]

theorem nth?_eq_getElem? {n : Nat} (h : 1 ≤ n) : nth? args n = args[n - 1]? :=
  if_neg (Nat.ne_of_gt h)

theorem nth?_eq_none {n : Nat} (h : ¬(1 ≤ n ∧ n ≤ args.length)) : nth? args n = none := by
  rw [nth?]
  split
  · rfl
  · exact List.getElem?_eq_none (by omega)

theorem numbered_text (h : args.length < UInt64.size) (digits : List Char) (before : Nat) :
    ((number? digits).bind (nth? args)).elim (Piece.numbered digits).source String.toList =
      (Piece.numbered digits).text args before := by
  by_cases hn : 1 ≤ denoted digits ∧ denoted digits ≤ args.length
  · have hfits : denoted digits < UInt64.size := Nat.lt_of_le_of_lt hn.2 h
    have hindex : denoted digits - 1 < args.length := by omega
    rw [Piece.text, dif_pos hn, number?_eq, if_pos hfits, Option.bind_some, nth?_eq_getElem? hn.1,
      List.getElem?_eq_getElem hindex, Option.elim_some, List.get_eq_getElem]
  · have hnone : (number? digits).bind (nth? args) = none := by
      rw [number?_eq]
      split
      · exact nth?_eq_none hn
      · rfl
    rw [hnone, Piece.text, dif_neg hn, Option.elim_none]

theorem fill_cons (h : args.length < UInt64.size) (seen : Nat) (p : Piece) (ps : List Piece) :
    fill args seen (p :: ps) = p.text args seen ++ fill args (seen + [p].count .next) ps := by
  cases p with
  | next => rw [fill, next_text, List.count_singleton_self]
  | numbered digits => exact congrArg (· ++ fill args seen ps) (numbered_text h digits seen)
  | char | percent => rfl

/-- The pieces with their texts put in, each behind those before it. -/
theorem fill_eq (h : args.length < UInt64.size) (seen : Nat) (ps : List Piece) :
    fill args seen ps =
      (ps.mapIdx fun i p => p.text args (seen + (ps.take i).count .next)).flatten := by
  induction ps generalizing seen with
  | nil => rfl
  | cons p ps ih =>
    have hcount (i : Nat) : ((p :: ps).take (i + 1)).count .next =
        [p].count .next + (ps.take i).count .next := by
      rw [List.take_succ_cons, ← List.singleton_append, List.count_append]
    rw [fill_cons h, ih, List.mapIdx_cons]
    simp only [hcount, List.flatten_cons, List.take_zero, List.count_nil, Nat.add_zero,
      Nat.add_assoc]

/-- A text reads as pieces in one way, which as they are written make up the text, and formatting
puts their texts in their places: the next argument for a place that asks for one, by the number of
such places before it, the argument with its number for a numbered one, both as they are, and the
place itself if there is no such argument. -/
theorem format_eq_pieces (template : String) (args : List String) (h : args.length < UInt64.size) :
    ∃ ps, (∀ qs, ReadsAs template.toList qs ↔ qs = ps) ∧
      ps.flatMap Piece.source = template.toList ∧
      (format template args).toList =
        (ps.mapIdx fun i p => p.text args ((ps.take i).count .next)).flatten := by
  have hreads : ReadsAs template.toList (pieces template.toList) := readsAs_iff.mpr rfl
  refine ⟨pieces template.toList, fun qs => readsAs_iff, hreads.source, ?_⟩
  rw [format, String.toList_ofList, fill_eq h]
  simp only [Nat.zero_add]

/-- Both kinds of places, one without an argument, a number beyond all machine words, an argument
with a percent sign, and a percent sign that starts nothing. -/
theorem format_eq_pieces_mixed :
    let template := "%s, %02$s%%: %s%18446744073709551617$s%"
    let args := ["50%s", "of"]
    ∃ ps, args.length < UInt64.size ∧ ReadsAs template.toList ps ∧
      ps.flatMap Piece.source = template.toList ∧
      (ps.mapIdx fun i p => p.text args ((ps.take i).count .next)).flatten =
        "50%s, of%: of%18446744073709551617$s%".toList := by
  intro template args
  have hl : args.length < UInt64.size := by decide
  obtain ⟨ps, hreads, hsource, htext⟩ := format_eq_pieces template args hl
  refine ⟨ps, hl, (hreads ps).mpr rfl, hsource, ?_⟩
  rw [← htext]
  decide +kernel

end MailPrefs.Template
