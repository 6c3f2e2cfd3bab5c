import MailPrefs.Proofs.Preferences
import MailPrefs.Proofs.Subscribed.Run

namespace MailPrefs

namespace ViewModel

variable {m : ViewModel} {k : String} {b : Bool}

/-- The subscribed list holds keys of the catalog only, and none of them twice. -/
structure Consistent (m : ViewModel) : Prop where
  nodup : m.subscribed.value.Nodup
  subset : m.subscribed.value ⊆ m.catalog.keys

theorem isSubscribed_iff : m.isSubscribed k = true ↔ k ∈ m.subscribed.value := by
  simp [isSubscribed]

theorem checkboxes_keys (m : ViewModel) : m.checkboxes.map Prod.fst = m.catalog.keys := by
  rw [checkboxes, List.map_map]
  exact List.map_id m.catalog.keys

theorem mem_checkboxes : (k, b) ∈ m.checkboxes ↔ k ∈ m.catalog.keys ∧ m.isSubscribed k = b := by
  rw [checkboxes, List.mem_map]
  constructor
  · rintro ⟨a, ha, he⟩
    cases he
    exact ⟨ha, rfl⟩
  · rintro ⟨hk, rfl⟩
    exact ⟨k, hk, rfl⟩

theorem get?_preferences (m : ViewModel) (k : String) :
    m.preferences.get? k = if k ∈ m.catalog.keys then some (m.isSubscribed k) else none :=
  Preferences.get?_ofSubscribed m.catalog m.subscribed.value k

theorem get?_preferences_eq_none : m.preferences.get? k = none ↔ k ∉ m.catalog.keys := by
  rw [get?_preferences]
  split <;> simp [*]

theorem Consistent.mem_catalog (h : m.Consistent) (hk : m.isSubscribed k = true) :
    k ∈ m.catalog.keys :=
  h.subset (isSubscribed_iff.mp hk)

theorem Consistent.isSubscribed_iff_checked (h : m.Consistent) :
    m.isSubscribed k = true ↔ (k, true) ∈ m.checkboxes := by
  rw [mem_checkboxes]
  exact ⟨fun hk => ⟨h.mem_catalog hk, hk⟩, fun hk => hk.2⟩

theorem Consistent.isSubscribed_iff_preferred (h : m.Consistent) :
    m.isSubscribed k = true ↔ m.preferences.get? k = some true := by
  rw [get?_preferences]
  constructor
  · intro hk
    rw [if_pos (h.mem_catalog hk), hk]
  · intro hk
    split at hk
    · exact Option.some.inj hk
    · cases hk

theorem Consistent.length_checked (h : m.Consistent) :
    (m.checkboxes.filter (·.2)).length = m.subscribed.value.length := by
  have hp : (m.catalog.keys.filter m.isSubscribed).Perm m.subscribed.value := by
    rw [List.perm_ext_iff_of_nodup (m.catalog.nodup.filter _) h.nodup]
    intro k
    rw [List.mem_filter, isSubscribed_iff]
    exact and_iff_right_of_imp fun hk => h.subset hk
  rw [checkboxes, List.filter_map, List.length_map]
  exact hp.length_eq

end ViewModel

theorem History.Explains.consistent {c : Catalog} {h : List Change} {m : ViewModel}
    (hx : Explains c h m.subscribed.value) (hc : m.catalog = c) : m.Consistent := by
  refine ⟨hx.nodup, ?_⟩
  intro k hk
  rw [hc]
  exact ((hx.mem_iff k).mp hk).1

namespace Session

variable (isMounted : Bool) (c : Catalog) (l : Localizer) (t : SupportContact) (server : Script)

/-- In every state of every run the catalog is the one of the start, the subscribed list is made of
its keys without repetition, and checkboxes and preferences say of each key what the list says. -/
theorem checkboxes_agree (ms : List Move) :
    let m := ((opened isMounted c l t server).play ms).model
    m.catalog = c ∧ m.subscribed.value.Nodup ∧ m.subscribed.value ⊆ c.keys ∧
      m.checkboxes.map Prod.fst = c.keys ∧
      (∀ k, m.isSubscribed k = true ↔ (k, true) ∈ m.checkboxes) ∧
      (∀ k, m.isSubscribed k = true ↔ m.preferences.get? k = some true) ∧
      (∀ k, m.preferences.get? k = none ↔ k ∉ c.keys) ∧
      (m.checkboxes.filter (·.2)).length = m.subscribed.value.length := by
  intro m
  have hc : m.catalog = c := (play_catalog _ ms).trans (opened_catalog ..)
  have hm : m.Consistent := (explains_play isMounted c l t server ms).consistent hc
  have hk : m.checkboxes.map Prod.fst = c.keys := hc ▸ m.checkboxes_keys
  refine ⟨hc, hm.nodup, hc ▸ hm.subset, hk, ?_, ?_, ?_, hm.length_checked⟩
  · intro k
    exact hm.isSubscribed_iff_checked
  · intro k
    exact hm.isSubscribed_iff_preferred
  · intro k
    rw [ViewModel.get?_preferences_eq_none, hc]

end Session

end MailPrefs
