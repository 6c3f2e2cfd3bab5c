import Mathlib.Data.List.Nodup
import MailPrefs.Settings

namespace MailPrefs

namespace Toml

inductive Kind where
  | text
  | list
deriving DecidableEq, Repr

namespace Value

def kind : Value → Kind
  | .text _ => .text
  | .list _ => .list

def text? : Value → Option String
  | .text s => some s
  | .list _ => none

def list? : Value → Option (List String)
  | .text _ => none
  | .list ss => some ss

end Value

namespace Document

def text? (d : Document) (key : String) : Option String :=
  (d.lookup key).bind Value.text?

def list? (d : Document) (key : String) : Option (List String) :=
  (d.lookup key).bind Value.list?

end Document

theorem nodup_keys_of_entries? {fuel : Nat} {doc d : Document} {cs : List Char}
    (h : entries? fuel doc cs = some d) (hdoc : (doc.map Prod.fst).Nodup) :
    (d.map Prod.fst).Nodup := by
  induction fuel generalizing doc cs with
  | zero => cases h
  | succ fuel ih =>
    rw [entries?] at h
    split at h
    · cases h
      exact hdoc
    · obtain ⟨⟨⟨k, v⟩, rest⟩, _, h⟩ := Option.bind_eq_some_iff.mp h
      dsimp only at h
      split at h
      · cases h
      · next hnew =>
        have hk : k ∉ doc.map Prod.fst := by
          intro hk
          obtain ⟨e, he, hek⟩ := List.mem_map.mp hk
          exact hnew (List.any_eq_true.mpr ⟨e, he, decide_eq_true hek⟩)
        apply ih h
        rw [List.map_append, List.map_singleton, ← List.concat_eq_append]
        exact List.Nodup.concat hk hdoc

theorem nodup_keys_of_parse? {s : String} {d : Document} (h : parse? s = some d) :
    (d.map Prod.fst).Nodup :=
  nodup_keys_of_entries? h List.nodup_nil

end Toml

namespace SettingsLayer

variable {l l' : SettingsLayer} {d : Toml.Document} {k : String} {v : Toml.Value}

def schema : List (String × Toml.Kind) :=
  [("server_url", .text), ("catalog", .list), ("support_email", .text), ("translations", .text)]

theorem withEntry_cases (h : withEntry l (k, v) = some l') :
    (∃ s, k = "server_url" ∧ v = .text s ∧ l' = { l with serverUrl := some s }) ∨
      (∃ ss, k = "catalog" ∧ v = .list ss ∧ l' = { l with catalog := some ss }) ∨
      (∃ s, k = "support_email" ∧ v = .text s ∧ l' = { l with supportEmail := some s }) ∨
      ∃ s, k = "translations" ∧ v = .text s ∧ l' = { l with translations := some s } := by
  rw [withEntry.eq_def] at h
  split at h
  · next s heq =>
    cases heq
    cases h
    exact .inl ⟨s, rfl, rfl, rfl⟩
  · next ss heq =>
    cases heq
    cases h
    exact .inr (.inl ⟨ss, rfl, rfl, rfl⟩)
  · next s heq =>
    cases heq
    cases h
    exact .inr (.inr (.inl ⟨s, rfl, rfl, rfl⟩))
  · next s heq =>
    cases heq
    cases h
    exact .inr (.inr (.inr ⟨s, rfl, rfl, rfl⟩))
  · cases h

/-- An entry is taken up if its key is known and its value of the kind that belongs to the key. -/
theorem exists_withEntry_iff (l : SettingsLayer) (k : String) (v : Toml.Value) :
    (∃ l', withEntry l (k, v) = some l') ↔ schema.lookup k = some v.kind := by
  constructor
  · rintro ⟨l', h⟩
    rcases withEntry_cases h with
      ⟨s, rfl, rfl, _⟩ | ⟨ss, rfl, rfl, _⟩ | ⟨s, rfl, rfl, _⟩ | ⟨s, rfl, rfl, _⟩ <;> rfl
  · intro h
    obtain ⟨front, back, hschema, _⟩ := List.lookup_eq_some_iff.mp h
    have hmem : (k, v.kind) ∈ schema := by
      rw [hschema]
      exact List.mem_append_right _ List.mem_cons_self
    simp only [schema, List.mem_cons, List.not_mem_nil, Prod.mk.injEq, or_false] at hmem
    cases v with
    | text s => rcases hmem with ⟨rfl, _⟩ | ⟨_, ⟨⟩⟩ | ⟨rfl, _⟩ | ⟨rfl, _⟩ <;> exact ⟨_, rfl⟩
    | list ss =>
      rcases hmem with ⟨_, ⟨⟩⟩ | ⟨rfl, _⟩ | ⟨_, ⟨⟩⟩ | ⟨_, ⟨⟩⟩
      exact ⟨_, rfl⟩

theorem exists_foldlM_iff (l : SettingsLayer) (d : Toml.Document) :
    (∃ l', d.foldlM withEntry l = some l') ↔ ∀ e ∈ d, schema.lookup e.1 = some e.2.kind := by
  induction d generalizing l with
  | nil => exact ⟨fun _ _ he => absurd he List.not_mem_nil, fun _ => ⟨l, rfl⟩⟩
  | cons e d ih =>
    obtain ⟨k, v⟩ := e
    rw [List.forall_mem_cons, ← exists_withEntry_iff l]
    simp only [List.foldlM_cons, Option.bind_eq_bind, Option.bind_eq_some_iff]
    constructor
    · rintro ⟨l'', l', hl', hl''⟩
      exact ⟨⟨l', hl'⟩, (ih l').mp ⟨l'', hl''⟩⟩
    · rintro ⟨⟨l', hl'⟩, hd⟩
      obtain ⟨l'', hl''⟩ := (ih l').mpr hd
      exact ⟨l'', l', hl', hl''⟩

def ofDocument (d : Toml.Document) : SettingsLayer where
  serverUrl := d.text? "server_url"
  catalog := d.list? "catalog"
  supportEmail := d.text? "support_email"
  translations := d.text? "translations"

/-- A layer with another one under it. -/
def above (l m : SettingsLayer) : SettingsLayer where
  serverUrl := l.serverUrl.or m.serverUrl
  catalog := l.catalog.or m.catalog
  supportEmail := l.supportEmail.or m.supportEmail
  translations := l.translations.or m.translations

theorem above_empty (l : SettingsLayer) : l.above {} = l := by
  simp only [above, Option.or_none]

/-- An entry may as well be taken up before the document behind it, which does not have its key. -/
theorem ofDocument_cons_above (h : withEntry l (k, v) = some l') (hk : d.lookup k = none) :
    (ofDocument ((k, v) :: d)).above l = (ofDocument d).above l' := by
  rcases withEntry_cases h with
    ⟨s, rfl, rfl, rfl⟩ | ⟨ss, rfl, rfl, rfl⟩ | ⟨s, rfl, rfl, rfl⟩ | ⟨s, rfl, rfl, rfl⟩ <;>
    simp [ofDocument, above, Toml.Document.text?, Toml.Document.list?, Toml.Value.text?,
      Toml.Value.list?, List.lookup_cons, hk]

theorem foldlM_withEntry (hn : (d.map Prod.fst).Nodup) (h : d.foldlM withEntry l = some l') :
    l' = (ofDocument d).above l := by
  induction d generalizing l with
  | nil =>
    cases h
    rfl
  | cons e d ih =>
    obtain ⟨k, v⟩ := e
    rw [List.map_cons, List.nodup_cons] at hn
    rw [List.foldlM_cons, Option.bind_eq_bind] at h
    obtain ⟨m, hm, h⟩ := Option.bind_eq_some_iff.mp h
    have hlookup : d.lookup k = none := by
      apply List.lookup_eq_none_iff.mpr
      intro e he
      apply bne_iff_ne.mpr
      rintro rfl
      exact hn.1 (List.mem_map.mpr ⟨e, he, rfl⟩)
    rw [ih hn.2 h, ofDocument_cons_above hm hlookup]

theorem ofText?_eq_some_iff (s : String) :
    ofText? s = some l ↔ ∃ d, Toml.parse? s = some d ∧
      (∀ e ∈ d, schema.lookup e.1 = some e.2.kind) ∧ l = ofDocument d := by
  rw [ofText?, Option.bind_eq_bind, Option.bind_eq_some_iff]
  constructor
  · rintro ⟨d, hd, h⟩
    refine ⟨d, hd, (exists_foldlM_iff {} d).mp ⟨l, h⟩, ?_⟩
    rw [foldlM_withEntry (Toml.nodup_keys_of_parse? hd) h, above_empty]
  · rintro ⟨d, hd, hfits, rfl⟩
    obtain ⟨l, h⟩ := (exists_foldlM_iff {} d).mpr hfits
    refine ⟨d, hd, ?_⟩
    rw [h, foldlM_withEntry (Toml.nodup_keys_of_parse? hd) h, above_empty]

end SettingsLayer

end MailPrefs
