import Mathlib.Logic.Basic
import MailPrefs.Preferences

namespace MailPrefs

theorem lookup_table {α : Type} (f : String → α) (ks : List String) (key : String) :
    (ks.map fun k => (k, f k)).lookup key = if key ∈ ks then some (f key) else none := by
  induction ks with
  | nil => rfl
  | cons k ks ih =>
    rcases eq_or_ne key k with rfl | hk
    · rw [List.map_cons, List.lookup_cons_self, if_pos List.mem_cons_self]
    · rw [List.map_cons, List.lookup_cons, ih]
      simp only [beq_false_of_ne hk, List.mem_cons, hk, false_or]

namespace Json

variable {key : String} {value : Json} {ms : Members}

theorem Members.insert_of_not_mem (h : key ∉ ms.keys) :
    Members.insert key value ms = ms ++ [(key, value)] := by
  induction ms with
  | nil => rfl
  | cons m ms ih =>
    obtain ⟨k, v⟩ := m
    simp only [Members.keys, List.map_cons, List.mem_cons, not_or] at h
    rw [Members.insert, if_neg (Ne.symm h.1), ih h.2]
    rfl

theorem Members.keys_insert_of_mem (h : key ∈ ms.keys) :
    (Members.insert key value ms).keys = ms.keys := by
  induction ms with
  | nil => cases h
  | cons m ms ih =>
    obtain ⟨k, v⟩ := m
    rw [Members.insert]
    split
    · rfl
    · next hk =>
      have hm : key ∈ Members.keys ms := (List.mem_cons.mp h).resolve_left (Ne.symm hk)
      exact congrArg (k :: ·) (ih hm)

theorem Members.nodup_insert (h : ms.keys.Nodup) : (Members.insert key value ms).keys.Nodup := by
  by_cases hk : key ∈ ms.keys
  · rw [Members.keys_insert_of_mem hk]
    exact h
  · rw [Members.insert_of_not_mem hk, Members.keys, List.map_append]
    refine List.nodup_append.mpr ⟨h, List.pairwise_singleton _ _, ?_⟩
    rintro k hm k' hk' rfl
    rw [List.map_singleton, List.mem_singleton] at hk'
    subst hk'
    exact hk hm

theorem Members.keys_table (f : String → Json) (ks : List String) :
    Members.keys (ks.map fun k => (k, f k)) = ks := by
  rw [Members.keys, List.map_map]
  exact List.map_id ks

/-- Members of distinct keys, none of them there already, come to stand behind the others. -/
theorem Members.foldl_insert (before : Members) (hd : (before ++ ms).keys.Nodup) :
    ms.foldl (fun found m => Members.insert m.1 m.2 found) before = before ++ ms := by
  induction ms generalizing before with
  | nil => exact (List.append_nil before).symm
  | cons m ms ih =>
    have hm : m.1 ∉ before.keys := by
      intro hm
      rw [Members.keys, List.map_append, List.nodup_append] at hd
      exact hd.2.2 m.1 hm m.1 (List.mem_map_of_mem List.mem_cons_self) rfl
    rw [List.foldl_cons, Members.insert_of_not_mem hm]
    rw [← List.singleton_append, ← List.append_assoc] at hd
    rw [ih _ hd, List.append_assoc]
    rfl

end Json

namespace Preferences

theorem get?_ofSubscribed (c : Catalog) (subscribed : List String) (key : String) :
    (ofSubscribed c subscribed).get? key =
      if key ∈ c.keys then some (subscribed.contains key) else none :=
  lookup_table _ c.keys key

theorem toJson_ofSubscribed (c : Catalog) (subscribed : List String) :
    (ofSubscribed c subscribed).toJson =
      .object (c.keys.map fun k => (k, .bool (decide (k ∈ subscribed)))) := by
  have hd : Json.Members.keys ([] ++ c.keys.map fun k => (k, .bool (subscribed.contains k))) =
      c.keys := Json.Members.keys_table _ c.keys
  have hf := Json.Members.foldl_insert [] (hd.symm ▸ c.nodup)
  rw [List.foldl_map] at hf
  rw [toJson, ofSubscribed, List.foldl_map, hf]
  simp only [List.contains_eq_mem, List.nil_append]

end Preferences

end MailPrefs
