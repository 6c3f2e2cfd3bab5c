import MailPrefs.Catalog
import MailPrefs.Proofs.Text.Basic

namespace MailPrefs.Catalog

variable {c : Catalog} {ks : List String} {k : String}

structure BlankFirstAt (ks : List String) (index : Nat) : Prop where
  blank : ∃ k, ks[index]? = some k ∧ Text.trim k = ""
  first : ∀ i < index, ∀ k, ks[i]? = some k → Text.trim k ≠ ""

/-- The catalog holds each key of a list once, and in the order in which the keys come first. -/
structure Lists (c : Catalog) (ks : List String) : Prop where
  mem : ∀ k, k ∈ c.keys ↔ k ∈ ks
  contains : ∀ k, c.contains k = true ↔ k ∈ ks
  get : ∀ k, c.get? k = if k ∈ ks then some k else none
  nodup : c.keys.Nodup
  sublist : c.keys.Sublist ks
  order : c.keys.Pairwise fun a b => ks.idxOf a < ks.idxOf b

/-- One pass over a list, after `n` keys of which these were kept. -/
def gather : Nat → List String → List String → Except BlankKey (List String)
  | _, kept, [] => .ok kept
  | n, kept, k :: ks =>
    if Text.trim k = "" then .error ⟨n⟩
    else gather (n + 1) (if k ∈ kept then kept else kept ++ [k]) ks

def newIn (kept ks : List String) : List String :=
  (distinct ks).filter (· ∉ kept)

theorem newIn_nil (ks : List String) : newIn [] ks = distinct ks :=
  List.filter_eq_self.mpr fun _ _ => decide_eq_true List.not_mem_nil

theorem newIn_cons_of_mem {kept : List String} (h : k ∈ kept) (ks : List String) :
    newIn kept (k :: ks) = newIn kept ks := by
  have hk : ¬decide (k ∉ kept) = true := fun hd => of_decide_eq_true hd h
  rw [newIn, distinct, List.filter_cons_of_neg (p := fun a => decide (a ∉ kept)) hk,
    List.filter_filter]
  apply List.filter_congr
  intro a _
  by_cases ha : a ∈ kept
  · simp [ha]
  · have hne : a ≠ k := fun he => ha (he ▸ h)
    simp [ha, hne]

theorem newIn_cons_of_not_mem {kept : List String} (h : k ∉ kept) (ks : List String) :
    newIn kept (k :: ks) = k :: newIn (kept ++ [k]) ks := by
  have hk : decide (k ∉ kept) = true := decide_eq_true h
  rw [newIn, distinct, List.filter_cons_of_pos (p := fun a => decide (a ∉ kept)) hk,
    List.filter_filter, newIn]
  congr 1
  apply List.filter_congr
  intro a _
  simp only [List.mem_append, List.mem_singleton, not_or, Bool.decide_and]

theorem firstBlank?_cons_of_blank (h : Text.trim k = "") (ks : List String) :
    firstBlank? (k :: ks) = some 0 := by
  rw [firstBlank?, List.findIdx?_cons, if_pos (Text.trim_eq_empty_iff.mp h)]

theorem firstBlank?_cons_of_not_blank (h : Text.trim k ≠ "") (ks : List String) :
    firstBlank? (k :: ks) = (firstBlank? ks).map (· + 1) := by
  have hk : ¬Text.allBlank k = true := fun hb => h (Text.trim_eq_empty_iff.mpr hb)
  rw [firstBlank?, List.findIdx?_cons, if_neg hk, firstBlank?]

/-- The induction goes along the list, with any keys kept and any number of keys passed. -/
theorem gather_eq (n : Nat) (kept ks : List String) :
    gather n kept ks =
      match firstBlank? ks with
      | some index => .error ⟨n + index⟩
      | none => .ok (kept ++ newIn kept ks) := by
  induction ks generalizing n kept with
  | nil => exact congrArg Except.ok (List.append_nil kept).symm
  | cons k ks ih =>
    rw [gather]
    by_cases hk : Text.trim k = ""
    · rw [if_pos hk, firstBlank?_cons_of_blank hk]
      rfl
    · rw [if_neg hk, ih, firstBlank?_cons_of_not_blank hk]
      cases firstBlank? ks with
      | some index =>
        simp only [Option.map_some]
        rw [Nat.add_right_comm, Nat.add_assoc]
      | none =>
        by_cases hm : k ∈ kept
        · simp only [Option.map_none, if_pos hm, newIn_cons_of_mem hm]
        · simp only [Option.map_none, if_neg hm, newIn_cons_of_not_mem hm, List.append_assoc,
            List.singleton_append]

theorem ofKeys_eq_ok_iff :
    ofKeys ks = .ok c ↔ firstBlank? ks = none ∧ c.keys = distinct ks := by
  rw [ofKeys]
  split
  · next index h => simp [h]
  · next h =>
    rw [and_iff_right h, Except.ok.injEq]
    constructor
    · rintro rfl
      rfl
    · intro hc
      cases c
      cases hc
      rfl

theorem ofKeys_eq_error_iff {e : BlankKey} :
    ofKeys ks = .error e ↔ firstBlank? ks = some e.index := by
  rw [ofKeys]
  split
  · next index h =>
    rw [h, Except.error.injEq, Option.some.injEq]
    constructor
    · rintro rfl
      rfl
    · rintro rfl
      rfl
  · next h => simp [h]

theorem map_keys_ofKeys (ks : List String) : (ofKeys ks).map keys = gather 0 [] ks := by
  rw [gather_eq]
  cases h : ofKeys ks with
  | error e =>
    simp only [ofKeys_eq_error_iff.mp h, Nat.zero_add]
    rfl
  | ok c =>
    obtain ⟨hn, hc⟩ := ofKeys_eq_ok_iff.mp h
    rw [hn, newIn_nil, List.nil_append, ← hc]
    rfl

theorem gather_append (n : Nat) (kept ks ks' : List String) :
    gather n kept (ks ++ ks') =
      gather n kept ks >>= fun kept' => gather (n + ks.length) kept' ks' := by
  induction ks generalizing n kept with
  | nil => rfl
  | cons k ks ih =>
    rw [List.cons_append, gather, gather]
    by_cases hk : Text.trim k = ""
    · rw [if_pos hk, if_pos hk]
      rfl
    · rw [if_neg hk, if_neg hk, ih, List.length_cons, Nat.add_right_comm, Nat.add_assoc]

theorem firstBlank?_eq_some_iff {index : Nat} :
    firstBlank? ks = some index ↔ BlankFirstAt ks index := by
  rw [firstBlank?, List.findIdx?_eq_some_iff_getElem]
  constructor
  · rintro ⟨hi, hb, hf⟩
    constructor
    · exact ⟨ks[index], List.getElem?_eq_getElem hi, Text.trim_eq_empty_iff.mpr hb⟩
    · intro i hlt k hk ht
      obtain ⟨hl, rfl⟩ := List.getElem?_eq_some_iff.mp hk
      exact hf i hlt (Text.trim_eq_empty_iff.mp ht)
  · intro h
    obtain ⟨k, hk, ht⟩ := h.blank
    obtain ⟨hi, rfl⟩ := List.getElem?_eq_some_iff.mp hk
    refine ⟨hi, Text.trim_eq_empty_iff.mp ht, fun i hlt hb => ?_⟩
    have hl : i < ks.length := Nat.lt_trans hlt hi
    exact h.first i hlt _ (List.getElem?_eq_getElem hl) (Text.trim_eq_empty_iff.mpr hb)

theorem firstBlank?_eq_none_iff :
    firstBlank? ks = none ↔ ∀ k ∈ ks, Text.trim k ≠ "" := by
  rw [firstBlank?, List.findIdx?_eq_none_iff]
  simp only [ne_eq, Text.trim_eq_empty_iff, Bool.not_eq_true]

theorem exists_ofKeys_iff : (∃ c, ofKeys ks = .ok c) ↔ ∀ k ∈ ks, Text.trim k ≠ "" := by
  rw [← firstBlank?_eq_none_iff]
  cases h : ofKeys ks with
  | ok c => exact iff_of_true ⟨c, rfl⟩ (ofKeys_eq_ok_iff.mp h).1
  | error e =>
    rw [ofKeys_eq_error_iff.mp h]
    exact ⟨nofun, nofun⟩

theorem sublist_distinct (ks : List String) : (distinct ks).Sublist ks := by
  induction ks with
  | nil => exact .slnil
  | cons k ks ih =>
    rw [distinct]
    exact (List.filter_sublist.trans ih).cons_cons k

theorem pairwise_idxOf_distinct (ks : List String) :
    (distinct ks).Pairwise fun a b => ks.idxOf a < ks.idxOf b := by
  induction ks with
  | nil => exact .nil
  | cons k ks ih =>
    have hlater : ∀ {a}, a ∈ (distinct ks).filter (· ≠ k) →
        (k :: ks).idxOf a = ks.idxOf a + 1 := by
      intro a ha
      have hne : a ≠ k := of_decide_eq_true (List.mem_filter.mp ha).2
      exact List.idxOf_cons_ne ks hne.symm
    rw [distinct, List.pairwise_cons]
    constructor
    · intro a ha
      rw [List.idxOf_cons_self, hlater ha]
      exact Nat.succ_pos _
    · apply (ih.sublist List.filter_sublist).imp_of_mem
      intro a b ha hb hlt
      rw [hlater ha, hlater hb]
      exact Nat.succ_lt_succ hlt

theorem distinct_of_nodup (h : ks.Nodup) : distinct ks = ks := by
  induction ks with
  | nil => rfl
  | cons k ks ih =>
    obtain ⟨hk, hks⟩ := List.nodup_cons.mp h
    rw [distinct, ih hks, List.filter_eq_self.mpr]
    intro a ha
    exact decide_eq_true fun he => hk (he ▸ ha)

theorem get?_eq (c : Catalog) (k : String) : c.get? k = if k ∈ c.keys then some k else none := by
  rw [get?]
  split
  · next h =>
    cases hf : c.keys.find? (· = k) with
    | none => exact absurd (decide_eq_true rfl) (List.find?_eq_none.mp hf k h)
    | some a =>
      have ha : decide (a = k) = true := List.find?_some (p := fun a => decide (a = k)) hf
      rw [of_decide_eq_true ha]
  · next h =>
    apply List.find?_eq_none.mpr
    intro a ha he
    exact h (of_decide_eq_true he ▸ ha)

theorem lists_ofKeys (h : ofKeys ks = .ok c) : c.Lists ks := by
  obtain ⟨_, hc⟩ := ofKeys_eq_ok_iff.mp h
  have hm : ∀ k, k ∈ c.keys ↔ k ∈ ks := by
    intro k
    rw [hc, mem_distinct]
  constructor
  · exact hm
  · intro k
    rw [contains, List.contains_iff_mem, hm]
  · intro k
    simp only [get?_eq, hm]
  · exact hc ▸ nodup_distinct ks
  · exact hc ▸ sublist_distinct ks
  · exact hc ▸ pairwise_idxOf_distinct ks

/-- A list is refused exactly if it holds a key that is blank, and then at the first of these,
repeated keys counted. All others become a catalog of their keys, which is taken as it is when it is
made into a catalog again. Of two lists one after the other the second adds what the first lacks. -/
theorem ofKeys_first_occurrences (ks : List String) :
    (∀ index, ofKeys ks = .error ⟨index⟩ ↔ BlankFirstAt ks index) ∧
    ((∃ e, ofKeys ks = .error e) ↔ ∃ k ∈ ks, Text.trim k = "") ∧
    ∀ c, ofKeys ks = .ok c →
      c.Lists ks ∧ ofKeys c.keys = .ok c ∧
        ∀ ks' c', ofKeys ks' = .ok c' →
          ∃ d, ofKeys (ks ++ ks') = .ok d ∧ d.keys = c.keys ++ c'.keys.filter (· ∉ c.keys) := by
  refine ⟨fun index => ?_, ?_, fun c h => ⟨lists_ofKeys h, ?_, fun ks' c' h' => ?_⟩⟩
  · rw [ofKeys_eq_error_iff, firstBlank?_eq_some_iff]
  · simp only [ofKeys_eq_error_iff]
    cases hf : firstBlank? ks with
    | none =>
      have hn := firstBlank?_eq_none_iff.mp hf
      exact iff_of_false nofun fun ⟨k, hk, ht⟩ => hn k hk ht
    | some index =>
      obtain ⟨k, hk, ht⟩ := (firstBlank?_eq_some_iff.mp hf).blank
      exact iff_of_true ⟨⟨index⟩, rfl⟩ ⟨k, List.mem_of_getElem? hk, ht⟩
  · apply ofKeys_eq_ok_iff.mpr
    rw [distinct_of_nodup c.nodup, firstBlank?_eq_none_iff]
    refine ⟨fun k hk ht => ?_, rfl⟩
    have hb := c.not_blank k hk
    rw [Text.trim_eq_empty_iff.mp ht] at hb
    cases hb
  · -- Both lists in a row are gathered from where the first one ended.
    have hks : gather 0 [] ks = .ok c.keys := by
      rw [← map_keys_ofKeys, h]
      rfl
    obtain ⟨hn', hc'⟩ := ofKeys_eq_ok_iff.mp h'
    have hboth : (ofKeys (ks ++ ks')).map keys = .ok (c.keys ++ newIn c.keys ks') := by
      rw [map_keys_ofKeys, gather_append, hks]
      change gather _ c.keys ks' = _
      rw [gather_eq, hn']
    cases hd : ofKeys (ks ++ ks') with
    | error e =>
      rw [hd] at hboth
      cases hboth
    | ok d =>
      rw [hd] at hboth
      exact ⟨d, rfl, by rw [hc']; exact Except.ok.inj hboth⟩

/-- Keys are kept as they are given, blanks and all. What is blank without being empty is refused
at its place in the list, behind a key that was repeated. -/
theorem ofKeys_first_occurrences_repeated :
    let ks := ["news ", "digest", "news "]
    let ks' := ["events", "digest"]
    (∃ c c' d, ofKeys ks = .ok c ∧ ofKeys ks' = .ok c' ∧ c.Lists ks ∧
      ofKeys (ks ++ ks') = .ok d ∧ d.keys = ["news ", "digest", "events"]) ∧
    ofKeys (ks ++ "\u2003" :: ks') = .error ⟨3⟩ := by
  intro ks ks'
  obtain ⟨c, hc⟩ : ∃ c, ofKeys ks = .ok c := ⟨_, rfl⟩
  obtain ⟨c', hc'⟩ : ∃ c', ofKeys ks' = .ok c' := ⟨_, rfl⟩
  obtain ⟨_, _, haccepted⟩ := ofKeys_first_occurrences ks
  obtain ⟨hlists, _, hjoined⟩ := haccepted c hc
  obtain ⟨d, hd, hkeys⟩ := hjoined ks' c' hc'
  rw [(ofKeys_eq_ok_iff.mp hc).2, (ofKeys_eq_ok_iff.mp hc').2] at hkeys
  refine ⟨⟨c, c', d, hc, hc', hlists, hd, hkeys⟩, ?_⟩
  obtain ⟨hrefused, _⟩ := ofKeys_first_occurrences (ks ++ "\u2003" :: ks')
  apply (hrefused 3).mpr
  constructor
  · exact ⟨"\u2003", rfl, by decide +kernel⟩
  · decide +kernel

end MailPrefs.Catalog
