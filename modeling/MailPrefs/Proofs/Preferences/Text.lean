import MailPrefs.Proofs.Json.ReadBack

namespace MailPrefs

def Catalog.choices (c : Catalog) (subscribed : List String) : Json.Members :=
  c.keys.map fun k => (k, .bool (decide (k ∈ subscribed)))

theorem Catalog.choices_readsBack (c : Catalog) (subscribed : List String) :
    Json.ReadsBack Json.Bytes.maxDepth (.object (c.choices subscribed)) := by
  have hd : (c.choices subscribed).keys.Nodup := by
    rw [choices, Json.Members.keys_table]
    exact c.nodup
  apply Json.readsBack_object hd
  intro m hm
  obtain ⟨k, _, rfl⟩ := List.mem_map.mp hm
  exact Json.readsBack_bool _

namespace Preferences

def members (es : List (String × Bool)) : Json.Members :=
  es.map fun e => (e.1, .bool e.2)

theorem printEntries_eq (es : List (String × Bool)) :
    printEntries es = Json.printMembers (members es) := by
  induction es with
  | nil => rw [printEntries, members, List.map_nil, Json.printMembers]
  | cons e es ih =>
    cases es with
    | nil => rw [printEntries, members, List.map_singleton, Json.printMembers]
    | cons e' es =>
      rw [printEntries, ih]
      · exact (Json.printMembers_cons (e.1, .bool e.2) (e'.1, .bool e'.2) (members es)).symm
      · exact fun h => List.cons_ne_nil e' es h

/-- Entries that are written one by one and the object that they are put into
have the same text, as long as no key overwrites another. -/
theorem compact_eq {p : Preferences} (h : (p.entries.map Prod.fst).Nodup) :
    p.compact = p.toJson.compact := by
  have hd : Json.Members.keys ([] ++ members p.entries) = p.entries.map Prod.fst := by
    rw [List.nil_append, members, Json.Members.keys, List.map_map]
    rfl
  have hf := Json.Members.foldl_insert [] (hd.symm ▸ h)
  rw [members, List.foldl_map] at hf
  rw [compact, printEntries_eq, Json.compact, toJson, hf, Json.print]
  rfl

theorem ofSubscribed_keys (c : Catalog) (subscribed : List String) :
    (ofSubscribed c subscribed).entries.map Prod.fst = c.keys := by
  rw [ofSubscribed, List.map_map]
  exact List.map_id c.keys

theorem get?_choices (c : Catalog) (subscribed : List String) (key : String) :
    (c.choices subscribed).get? key = ((ofSubscribed c subscribed).get? key).map Json.bool := by
  rw [get?_ofSubscribed, Json.Members.get?, Catalog.choices, lookup_table]
  split
  · rw [Option.map_some, List.contains_eq_mem]
  · rfl

/-- Both ways to write preferences give one text, which reads back as an object with the keys of the
catalog in its order, each true if it is subscribed; so it says of every key what they say. -/
theorem encodings_agree (c : Catalog) (subscribed : List String) :
    let p := ofSubscribed c subscribed
    p.toJson.compact = p.compact ∧
      ∃ ms : Json.Members, Json.parseString p.compact = .ok (.object ms) ∧ ms.keys = c.keys ∧
        (∀ k v, (k, v) ∈ ms → v = .bool (decide (k ∈ subscribed))) ∧
        ∀ k, (p.get? k).map Json.bool = ms.get? k := by
  intro p
  have hc : p.compact = p.toJson.compact := by
    apply compact_eq
    rw [ofSubscribed_keys]
    exact c.nodup
  refine ⟨hc.symm, c.choices subscribed, ?_, Json.Members.keys_table _ c.keys, ?_, ?_⟩
  · rw [hc, toJson_ofSubscribed]
    exact Json.parseString_compact (c.choices_readsBack subscribed)
  · intro k v hm
    obtain ⟨k', _, he⟩ := List.mem_map.mp hm
    cases he
    rfl
  · exact fun k => (get?_choices c subscribed k).symm

end Preferences

end MailPrefs
