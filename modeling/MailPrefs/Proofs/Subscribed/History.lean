import Mathlib.Data.List.Induction
import MailPrefs.ViewModel

namespace MailPrefs

inductive Change where
  | toggled (key : String) (checked : Bool)
  | reported (report : Report)

namespace Change

/-- What a change says about a key. A report never says no. -/
def verdict? (key : String) : Change → Option Bool
  | .toggled k checked => if k = key then some checked else none
  | .reported r => if r.isSubscribed key then some true else none

/-- The list after a change. A toggle of a key that the catalog does not hold is refused. -/
def apply (c : Catalog) (subscribed : List String) : Change → List String
  | .toggled key checked =>
    if c.contains key then (ViewModel.toggled key checked subscribed).1 else subscribed
  | .reported r => subscribed ++ ViewModel.additions c r subscribed

end Change

namespace History

variable {c : Catalog} {h : List Change} {e : Change} {k a b : String} {i j : Nat}

def Holds (h : List Change) (key : String) : Prop :=
  (h.filterMap (Change.verdict? key)).getLast? = some true

/-- The change with this number took the key in, and none after it put it out again. -/
def EntersAt (h : List Change) (key : String) (i : Nat) : Prop :=
  i < h.length ∧ ¬Holds (h.take i) key ∧ ∀ j, i < j → j ≤ h.length → Holds (h.take j) key

/-- A key entered by an earlier change than another, or by the same one and is
before it in the catalog. -/
def Precedes (c : Catalog) (h : List Change) (a b : String) : Prop :=
  ∃ i j, EntersAt h a i ∧ EntersAt h b j ∧ (i < j ∨ i = j ∧ c.keys.idxOf a < c.keys.idxOf b)

theorem not_holds_nil (k : String) : ¬Holds [] k := by
  intro hk
  cases hk

theorem holds_concat_of_none (he : e.verdict? k = none) : Holds (h ++ [e]) k ↔ Holds h k := by
  simp only [Holds, List.filterMap_append, List.filterMap_cons, he, List.filterMap_nil,
    List.append_nil]

theorem holds_concat_of_some {v : Bool} (he : e.verdict? k = some v) :
    Holds (h ++ [e]) k ↔ v = true := by
  simp only [Holds, List.filterMap_append, List.filterMap_cons, he, List.filterMap_nil,
    List.getLast?_append, List.getLast?_singleton, Option.some_or, Option.some.injEq]

theorem holds_toggled {checked : Bool} :
    Holds (h ++ [.toggled a checked]) k ↔ if a = k then checked = true else Holds h k := by
  by_cases ha : a = k
  · rw [if_pos ha, holds_concat_of_some (v := checked)]
    exact if_pos ha
  · rw [if_neg ha, holds_concat_of_none]
    exact if_neg ha

theorem holds_reported {r : Report} :
    Holds (h ++ [.reported r]) k ↔ r.isSubscribed k = true ∨ Holds h k := by
  cases hr : r.isSubscribed k with
  | true =>
    have he : (Change.reported r).verdict? k = some true := if_pos hr
    simp only [holds_concat_of_some he, true_or]
  | false =>
    have he : (Change.reported r).verdict? k = none := if_neg (by simp [hr])
    simp only [holds_concat_of_none he, Bool.false_eq_true, false_or]

theorem holds_map_toggled (ks : List String) (checked : Bool) :
    Holds (h ++ ks.map (.toggled · checked)) k ↔ if k ∈ ks then checked = true else Holds h k := by
  induction ks using List.reverseRecOn with
  | nil => simp
  | append_singleton ks a ih =>
    rw [List.map_append, List.map_cons, List.map_nil, ← List.append_assoc, holds_toggled, ih]
    by_cases ha : a = k
    · simp [ha]
    · simp [ha, Ne.symm ha]

theorem EntersAt.concat (he : EntersAt h k i) (hk : Holds (h ++ [e]) k) :
    EntersAt (h ++ [e]) k i := by
  obtain ⟨hi, hn, ha⟩ := he
  refine ⟨?_, ?_, ?_⟩
  · simp only [List.length_append]
    omega
  · rw [List.take_append_of_le_length (Nat.le_of_lt hi)]
    exact hn
  · intro j hij hj
    rcases Nat.lt_or_ge h.length j with hl | hl
    · rw [List.take_of_length_le (by simpa using Nat.succ_le_of_lt hl)]
      exact hk
    · rw [List.take_append_of_le_length hl]
      exact ha j hij hl

theorem EntersAt.last (hn : ¬Holds h k) (hk : Holds (h ++ [e]) k) :
    EntersAt (h ++ [e]) k h.length := by
  refine ⟨by simp, ?_, ?_⟩
  · rw [List.take_left]
    exact hn
  · intro j hj _
    rw [List.take_of_length_le (by simpa using Nat.succ_le_of_lt hj)]
    exact hk

theorem EntersAt.unique (hi : EntersAt h k i) (hj : EntersAt h k j) : i = j := by
  rcases Nat.lt_trichotomy i j with hlt | heq | hgt
  · exact absurd (hi.2.2 j hlt (Nat.le_of_lt hj.1)) hj.2.1
  · exact heq
  · exact absurd (hj.2.2 i hgt (Nat.le_of_lt hi.1)) hi.2.1

theorem Holds.entersAt (hk : Holds h k) : ∃ i, EntersAt h k i := by
  induction h using List.reverseRecOn with
  | nil => exact absurd hk (not_holds_nil k)
  | append_singleton h e ih =>
    by_cases hb : Holds h k
    · obtain ⟨i, hi⟩ := ih hb
      exact ⟨i, hi.concat hk⟩
    · exact ⟨_, .last hb hk⟩

theorem Precedes.ne (hp : Precedes c h a b) : a ≠ b := by
  rintro rfl
  obtain ⟨i, j, hi, hj, ho⟩ := hp
  have hij := hi.unique hj
  omega

theorem Precedes.concat (hp : Precedes c h a b) (ha : Holds (h ++ [e]) a)
    (hb : Holds (h ++ [e]) b) : Precedes c (h ++ [e]) a b := by
  obtain ⟨i, j, hi, hj, ho⟩ := hp
  exact ⟨i, j, hi.concat ha, hj.concat hb, ho⟩

theorem Precedes.last (ha : Holds h a) (hb : ¬Holds h b) (ha' : Holds (h ++ [e]) a)
    (hb' : Holds (h ++ [e]) b) : Precedes c (h ++ [e]) a b := by
  obtain ⟨i, hi⟩ := ha.entersAt
  exact ⟨i, h.length, hi.concat ha', .last hb hb', .inl hi.1⟩

theorem Precedes.together (ha : ¬Holds h a) (hb : ¬Holds h b) (ha' : Holds (h ++ [e]) a)
    (hb' : Holds (h ++ [e]) b) (ho : c.keys.idxOf a < c.keys.idxOf b) :
    Precedes c (h ++ [e]) a b :=
  ⟨h.length, h.length, .last ha ha', .last hb hb', .inr ⟨rfl, ho⟩⟩

/-- A list holds what a history says, in the order in which it says so. -/
structure Explains (c : Catalog) (h : List Change) (subscribed : List String) : Prop where
  mem_iff : ∀ k, k ∈ subscribed ↔ k ∈ c.keys ∧ Holds h k
  order : subscribed.Pairwise (Precedes c h)

variable {subscribed kept new : List String}

theorem Explains.nil (c : Catalog) : Explains c [] [] :=
  ⟨fun k => ⟨nofun, fun hk => absurd hk.2 (not_holds_nil k)⟩, .nil⟩

theorem Explains.nodup (hx : Explains c h subscribed) : subscribed.Nodup :=
  hx.order.imp fun hp => hp.ne

theorem keys_pairwise_idxOf (c : Catalog) :
    c.keys.Pairwise fun a b => c.keys.idxOf a < c.keys.idxOf b := by
  rw [List.pairwise_iff_getElem]
  intro i j hi hj hij
  rw [c.nodup.idxOf_getElem i hi, c.nodup.idxOf_getElem j hj]
  exact hij

/-- One more change keeps a part of the list in its order and puts new keys behind it,
these in the order of the catalog. -/
theorem Explains.concat (hx : Explains c h subscribed) (hkept : kept.Sublist subscribed)
    (hnew : new.Sublist c.keys) (hout : ∀ k ∈ new, k ∉ subscribed)
    (hmem : ∀ k, k ∈ kept ++ new ↔ k ∈ c.keys ∧ Holds (h ++ [e]) k) :
    Explains c (h ++ [e]) (kept ++ new) := by
  have hafter {k : String} (hk : k ∈ kept ++ new) : Holds (h ++ [e]) k := ((hmem k).mp hk).2
  have hbefore {k : String} (hk : k ∈ kept) : Holds h k :=
    ((hx.mem_iff k).mp (hkept.subset hk)).2
  have habsent {k : String} (hk : k ∈ new) : ¬Holds h k := fun hh =>
    hout k hk ((hx.mem_iff k).mpr ⟨hnew.subset hk, hh⟩)
  -- Two keys that stay keep their places, two new ones enter now, a new one enters last.
  refine ⟨hmem, List.pairwise_append.mpr ⟨?_, ?_, ?_⟩⟩
  · apply (hx.order.sublist hkept).imp_of_mem
    intro a b ha hb hp
    exact hp.concat (hafter (List.mem_append_left _ ha)) (hafter (List.mem_append_left _ hb))
  · apply ((keys_pairwise_idxOf c).sublist hnew).imp_of_mem
    intro a b ha hb ho
    exact .together (habsent ha) (habsent hb) (hafter (List.mem_append_right _ ha))
      (hafter (List.mem_append_right _ hb)) ho
  · intro a ha b hb
    exact .last (hbefore ha) (habsent hb) (hafter (List.mem_append_left _ ha))
      (hafter (List.mem_append_right _ hb))

theorem Explains.same (hx : Explains c h subscribed)
    (hh : ∀ k ∈ c.keys, (Holds (h ++ [e]) k ↔ Holds h k)) :
    Explains c (h ++ [e]) subscribed := by
  have hc := hx.concat (e := e) (List.Sublist.refl _) (List.nil_sublist _) (by simp)
  rw [List.append_nil] at hc
  apply hc
  intro k
  rw [hx.mem_iff]
  exact and_congr_right fun hk => (hh k hk).symm

theorem Explains.checked (hx : Explains c h subscribed) (hk : k ∈ c.keys) (hn : k ∉ subscribed) :
    Explains c (h ++ [.toggled k true]) (subscribed ++ [k]) := by
  apply hx.concat (List.Sublist.refl _) (List.singleton_sublist.mpr hk)
  · simpa using hn
  · intro a
    rw [holds_toggled, List.mem_append, List.mem_singleton, hx.mem_iff]
    by_cases ha : k = a
    · subst ha
      simp [hk]
    · simp [ha, Ne.symm ha]

theorem Explains.unchecked (hx : Explains c h subscribed) (k : String) :
    Explains c (h ++ [.toggled k false]) (subscribed.erase k) := by
  have hc := hx.concat (e := .toggled k false) (List.erase_sublist (a := k))
    (List.nil_sublist _) (by simp)
  rw [List.append_nil] at hc
  apply hc
  intro a
  rw [holds_toggled, hx.nodup.mem_erase_iff, hx.mem_iff]
  by_cases ha : k = a
  · simp [ha]
  · simp [ha, Ne.symm ha]

theorem Explains.toggled_same (hx : Explains c h subscribed) {checked : Bool}
    (hk : k ∈ c.keys → (k ∈ subscribed ↔ checked = true)) :
    Explains c (h ++ [.toggled k checked]) subscribed := by
  apply hx.same
  intro a ha
  rw [holds_toggled]
  split
  · next he =>
    subst he
    rw [← hk ha, hx.mem_iff]
    exact and_iff_right ha
  · exact Iff.rfl

theorem Explains.toggled (hx : Explains c h subscribed) (key : String) (checked : Bool) :
    Explains c (h ++ [.toggled key checked]) ((Change.toggled key checked).apply c subscribed) := by
  by_cases hk : key ∈ c.keys
  · have hc : c.contains key = true := by simpa [Catalog.contains] using hk
    simp only [Change.apply, hc, if_true]
    by_cases hs : key ∈ subscribed
    · cases checked with
      | true => simpa [ViewModel.toggled, hs] using hx.toggled_same (k := key) (by simp [hs])
      | false => simpa [ViewModel.toggled, hs] using hx.unchecked key
    · cases checked with
      | true => simpa [ViewModel.toggled, hs] using hx.checked hk hs
      | false => simpa [ViewModel.toggled, hs] using hx.toggled_same (k := key) (by simp [hs])
  · have hc : c.contains key = false := by simpa [Catalog.contains] using hk
    simp only [Change.apply, hc, Bool.false_eq_true, if_false]
    exact hx.toggled_same fun h => absurd h hk

theorem Explains.reported (hx : Explains c h subscribed) (r : Report) :
    Explains c (h ++ [.reported r]) ((Change.reported r).apply c subscribed) := by
  have hadd (k : String) : k ∈ ViewModel.additions c r subscribed ↔
      k ∈ c.keys ∧ r.isSubscribed k = true ∧ k ∉ subscribed := by
    simp [ViewModel.additions]
  have hsub : (ViewModel.additions c r subscribed).Sublist c.keys := List.filter_sublist
  apply hx.concat (List.Sublist.refl _) hsub
  · intro k hk
    exact ((hadd k).mp hk).2.2
  · intro k
    rw [List.mem_append, hadd, holds_reported, hx.mem_iff]
    by_cases hk : k ∈ c.keys <;> by_cases hh : Holds h k <;> simp [hk, hh]

theorem Explains.apply (hx : Explains c h subscribed) (e : Change) :
    Explains c (h ++ [e]) (e.apply c subscribed) := by
  cases e with
  | toggled key checked => exact hx.toggled key checked
  | reported r => exact hx.reported r

theorem explains_foldl (c : Catalog) (h : List Change) :
    Explains c h (h.foldl (Change.apply c) []) := by
  induction h using List.reverseRecOn with
  | nil => exact .nil c
  | append_singleton h e ih =>
    rw [List.foldl_append, List.foldl_cons, List.foldl_nil]
    exact ih.apply e

end History

end MailPrefs
