import MailPrefs.Text.Blank

namespace MailPrefs

/-- A blank key was given, at this place of the list. -/
structure BlankKey where
  index : Nat
deriving DecidableEq, Repr

def BlankKey.message (e : BlankKey) : String :=
  "mailing list key at position " ++ toString e.index ++ " is empty"

structure Catalog where
  keys : List String
  nodup : keys.Nodup
  not_blank : ∀ k ∈ keys, Text.allBlank k = false

namespace Catalog

def distinct : List String → List String
  | [] => []
  | k :: ks => k :: (distinct ks).filter (· ≠ k)

theorem mem_distinct {k : String} {ks : List String} : k ∈ distinct ks ↔ k ∈ ks := by
  induction ks with
  | nil => simp [distinct]
  | cons a ks ih => by_cases h : k = a <;> simp [distinct, h, ih]

theorem nodup_distinct (ks : List String) : (distinct ks).Nodup := by
  induction ks with
  | nil => simp [distinct]
  | cons a ks ih =>
    rw [distinct, List.nodup_cons]
    exact ⟨by simp, List.Nodup.sublist List.filter_sublist ih⟩

def firstBlank? (ks : List String) : Option Nat :=
  ks.findIdx? Text.allBlank

theorem not_blank_of_firstBlank? {ks : List String} (h : firstBlank? ks = none) :
    ∀ k ∈ distinct ks, Text.allBlank k = false := by
  intro k hk
  exact List.findIdx?_eq_none_iff.mp h k (mem_distinct.mp hk)

/-- The catalog of the distinct keys of a list, unless one is blank. -/
def ofKeys (ks : List String) : Except BlankKey Catalog :=
  match h : firstBlank? ks with
  | some index => .error ⟨index⟩
  | none => .ok ⟨distinct ks, nodup_distinct ks, not_blank_of_firstBlank? h⟩

def empty : Catalog := ⟨[], List.nodup_nil, by simp⟩

def contains (c : Catalog) (key : String) : Bool :=
  c.keys.contains key

def get? (c : Catalog) (key : String) : Option String :=
  c.keys.find? (· = key)

def size (c : Catalog) : Nat :=
  c.keys.length

def isEmpty (c : Catalog) : Bool :=
  c.keys.isEmpty

end Catalog

end MailPrefs
