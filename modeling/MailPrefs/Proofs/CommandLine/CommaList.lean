import MailPrefs.Proofs.Catalog
import MailPrefs.Proofs.CommandLine.Run

namespace MailPrefs

namespace Text

variable {s raw : String} {items pieces : List String}

/-- What can stand as an item between commas: it is not empty, has no comma, and neither starts nor
ends with a blank. -/
structure IsItem (s : String) : Prop where
  ne_empty : s ≠ ""
  no_comma : ',' ∉ s.toList
  first : ∀ c ∈ s.toList.head?, isBlank c = false
  last : ∀ c ∈ s.toList.getLast?, isBlank c = false

/-- Pieces to be joined by commas: the items in their order, each with blanks around it, and any
number of blank pieces among them. -/
inductive Padded : List String → List String → Prop where
  | nil : Padded [] []
  | blank {piece : String} {items pieces : List String} : allBlank piece = true →
      Padded items pieces → Padded items (piece :: pieces)
  | item {left s right : String} {items pieces : List String} : allBlank left = true →
      allBlank right = true → Padded items pieces →
        Padded (s :: items) ((left ++ s ++ right) :: pieces)

def itemsOf (parts : List (List Char)) : List String :=
  ((parts.map (trimBoth isBlank)).filter (!·.isEmpty)).map String.ofList

theorem commaItems_eq (s : String) :
    commaItems s = itemsOf (splitWhere (· = ',') s.toList) :=
  rfl

theorem toList_ne_nil (h : s ≠ "") : s.toList ≠ [] :=
  fun hs => h (String.toList_eq_nil_iff.mp hs)

theorem IsItem.trim_ne_empty (h : IsItem s) : trim s ≠ "" := by
  intro ht
  have hb := List.all_eq_true.mp (trim_eq_empty_iff.mp ht)
  obtain ⟨c, cs, hs⟩ := List.exists_cons_of_ne_nil (toList_ne_nil h.ne_empty)
  have hf := h.first c (by rw [hs]; rfl)
  rw [hb c (by rw [hs]; exact List.mem_cons_self)] at hf
  cases hf

theorem itemsOf_cons_of_blank {part : List Char} (h : ∀ c ∈ part, isBlank c = true)
    (parts : List (List Char)) : itemsOf (part :: parts) = itemsOf parts := by
  rw [itemsOf, List.map_cons, trimBoth_eq_nil_iff.mpr h]
  rfl

theorem itemsOf_cons_of_trimmed {part : List Char} (h : trimBoth isBlank part = s.toList)
    (hs : s ≠ "") (parts : List (List Char)) : itemsOf (part :: parts) = s :: itemsOf parts := by
  obtain ⟨c, cs, hc⟩ := List.exists_cons_of_ne_nil (toList_ne_nil hs)
  have hk : (!s.toList.isEmpty) = true := by rw [hc]; rfl
  rw [itemsOf, List.map_cons, h,
    List.filter_cons_of_pos (p := fun cs : List Char => !cs.isEmpty) hk, List.map_cons,
    String.ofList_toList]
  rfl

theorem isItem_of_mem_commaItems (h : s ∈ commaItems raw) : IsItem s := by
  obtain ⟨cs, hcs, rfl⟩ := List.mem_map.mp h
  obtain ⟨hmem, hne⟩ := List.mem_filter.mp hcs
  obtain ⟨part, hpart, rfl⟩ := List.mem_map.mp hmem
  constructor
  · intro he
    have hnil : trimBoth isBlank part = [] := by
      rw [← String.toList_ofList (l := trimBoth isBlank part), he]
      rfl
    rw [hnil] at hne
    cases hne
  · rw [String.toList_ofList]
    intro hc
    have hs := not_sep_of_mem_splitWhere hpart ',' (mem_of_mem_trimBoth hc)
    cases hs
  · rw [String.toList_ofList]
    exact head_trimBoth part
  · rw [String.toList_ofList]
    exact last_trimBoth part

theorem not_comma_of_blank {c : Char} (h : isBlank c = true) : c ≠ ',' := by
  rintro rfl
  cases h

theorem Padded.no_comma (h : Padded items pieces) (hi : ∀ s ∈ items, IsItem s) :
    ∀ piece ∈ pieces, ∀ c ∈ piece.toList, c ≠ ',' := by
  induction h with
  | nil => exact nofun
  | blank hb _ ih =>
    intro piece hp c hc
    rcases List.mem_cons.mp hp with rfl | hp
    · exact not_comma_of_blank (List.all_eq_true.mp hb c hc)
    · exact ih hi piece hp c hc
  | item hl hr _ ih =>
    intro piece hp c hc
    rcases List.mem_cons.mp hp with rfl | hp
    · rw [String.toList_append, String.toList_append, List.mem_append, List.mem_append] at hc
      rcases hc with (hc | hc) | hc
      · exact not_comma_of_blank (List.all_eq_true.mp hl c hc)
      · rintro rfl
        exact (hi _ List.mem_cons_self).no_comma hc
      · exact not_comma_of_blank (List.all_eq_true.mp hr c hc)
    · exact ih (fun s hs => hi s (List.mem_cons_of_mem _ hs)) piece hp c hc

theorem Padded.itemsOf_eq (h : Padded items pieces) (hi : ∀ s ∈ items, IsItem s) :
    itemsOf (pieces.map String.toList) = items := by
  induction h with
  | nil => rfl
  | blank hb _ ih =>
    rw [List.map_cons, itemsOf_cons_of_blank (List.all_eq_true.mp hb)]
    exact ih hi
  | item hl hr _ ih =>
    have hs := hi _ List.mem_cons_self
    have ht := trimBoth_append (List.all_eq_true.mp hl) (List.all_eq_true.mp hr) hs.first hs.last
    rw [List.map_cons, String.toList_append, String.toList_append,
      itemsOf_cons_of_trimmed ht hs.ne_empty, ih fun s hs => hi s (List.mem_cons_of_mem _ hs)]

theorem Padded.commaItems_eq (h : Padded items pieces) (hi : ∀ s ∈ items, IsItem s) :
    commaItems (",".intercalate pieces) = items := by
  rw [Text.commaItems_eq, String.toList_intercalate]
  cases hp : pieces with
  | nil =>
    rw [hp] at h
    cases h
    rfl
  | cons piece rest =>
    rw [← hp, ← h.itemsOf_eq hi]
    apply congrArg
    apply splitWhere_intercalate rfl
    · rw [hp]
      exact List.cons_ne_nil _ _
    · intro part hpart c hc
      obtain ⟨piece', hp', rfl⟩ := List.mem_map.mp hpart
      exact decide_eq_false (h.no_comma hi piece' hp' c hc)

theorem padded_self (items : List String) : Padded items items := by
  induction items with
  | nil => exact .nil
  | cons s items ih =>
    have h : Padded (s :: items) (("" ++ s ++ "") :: items) := .item rfl rfl ih
    rwa [String.empty_append, String.append_empty] at h

end Text

namespace Invocation

variable {i : Invocation} {a : Arguments} {s : Settings} {f : Failure} {raw : String}

theorem settings_catalog (h : i.settings a = .ok s)
    (hraw : a.catalog.or (i.env "APP__CATALOG") = some raw) : s.catalog = Text.commaItems raw := by
  rw [settings, bind_eq_ok_iff] at h
  obtain ⟨loaded, hl, hs⟩ := h
  rw [mapError_eq_ok_iff, Settings.load, bind_eq_ok_iff] at hl
  obtain ⟨file, _, hl⟩ := hl
  cases hs
  cases hl
  change (a.catalog.map Text.commaItems).getD
    (((i.env "APP__CATALOG").map Text.commaItems).getD _) = _
  cases ha : a.catalog with
  | some raw' =>
    rw [ha] at hraw
    cases hraw
    rfl
  | none =>
    rw [ha, Option.none_or] at hraw
    rw [hraw]
    rfl

theorem plan_eq_error (h : i.plan a = .error f) :
    i.settings a = .error f ∨ ∃ s, i.settings a = .ok s ∧
      ((∃ e, Catalog.ofKeys s.catalog = .error e ∧ f = .ofBlankKey e) ∨
        (∃ e, Client.ofUrl s.serverUrl = .error e ∧ f = .ofServerUrl s.serverUrl e) ∨
        i.loadTranslations s.translations = .error f) := by
  simp only [plan, bind_eq_error_iff, mapError_eq_error_iff] at h
  rcases h with h | ⟨s, hs, h⟩
  · exact .inl h
  · refine .inr ⟨s, hs, ?_⟩
    rcases h with ⟨e, he, hf⟩ | ⟨c, _, h⟩
    · exact .inl ⟨e, he, hf⟩
    rcases h with ⟨e, he, hf⟩ | ⟨client, _, h⟩
    · exact .inr (.inl ⟨e, he, hf⟩)
    rcases h with h | ⟨_, _, h⟩
    · exact .inr (.inr h)
    · cases h

def RefusedWithList (i : Invocation) (a : Arguments) (f : Failure) : Prop :=
  i.settings a = .error f ∨ ∃ s, i.settings a = .ok s ∧
    ((∃ e, Client.ofUrl s.serverUrl = .error e ∧ f = .ofServerUrl s.serverUrl e) ∨
      i.loadTranslations s.translations = .error f)

end Invocation

/-- Any text holds items, and these joined hold the same. Other texts hold the same items if blanks
are put around them and blank pieces among them. The items of a text always make a catalog, so that
a run that was given its catalog as such a text is refused for other reasons only. -/
theorem Text.commaItems_normal_form :
    (∀ raw, (∀ s ∈ commaItems raw, IsItem s) ∧
      commaItems (",".intercalate (commaItems raw)) = commaItems raw ∧
      ∃ c, Catalog.ofKeys (commaItems raw) = .ok c) ∧
    (∀ items pieces, (∀ s ∈ items, IsItem s) → Padded items pieces →
      commaItems (",".intercalate pieces) = items) ∧
    ∀ (i : Invocation) (a : Arguments) (raw : String),
      a.catalog.or (i.env "APP__CATALOG") = some raw →
        (∀ s, i.settings a = .ok s →
          s.catalog = commaItems raw ∧ ∃ c, Catalog.ofKeys s.catalog = .ok c) ∧
        ∀ f, i.plan a = .error f → i.RefusedWithList a f := by
  have hitems (raw : String) : ∀ s ∈ commaItems raw, IsItem s := fun s => isItem_of_mem_commaItems
  have hcatalog (raw : String) : ∃ c, Catalog.ofKeys (commaItems raw) = .ok c := by
    apply Catalog.exists_ofKeys_iff.mpr
    intro s hs
    exact (hitems raw s hs).trim_ne_empty
  refine ⟨fun raw => ⟨hitems raw, ?_, hcatalog raw⟩, fun items pieces hi hp => ?_, ?_⟩
  · exact (padded_self _).commaItems_eq (hitems raw)
  · exact hp.commaItems_eq hi
  · intro i a raw hraw
    have hs : ∀ s, i.settings a = .ok s → s.catalog = commaItems raw := by
      intro s hs
      exact Invocation.settings_catalog hs hraw
    refine ⟨fun s h => ⟨hs s h, hs s h ▸ hcatalog raw⟩, fun f hf => ?_⟩
    rcases Invocation.plan_eq_error hf with h | ⟨s, h, hwhy⟩
    · exact .inl h
    · refine .inr ⟨s, h, ?_⟩
      rcases hwhy with ⟨e, he, _⟩ | hwhy
      · obtain ⟨c, hc⟩ := hcatalog raw
        rw [hs s h, hc] at he
        cases he
      · exact hwhy

/-- Blanks inside an item stay. With nothing but commas and blanks there is no list to subscribe to,
and the run is refused for its server URL. -/
theorem Text.commaItems_normal_form_blanks :
    commaItems (",".intercalate ["", "\u2003news ", "\t", "a b"]) = ["news", "a b"] ∧
    ∃ (i : Invocation) (a : Arguments) (s : Settings) (f : Failure),
      i.env "APP__CATALOG" = some " ,, " ∧ i.settings a = .ok s ∧ s.catalog = [] ∧
        i.plan a = .error f ∧ f.message = "invalid server url 'ftp://x'" ∧
        i.RefusedWithList a f := by
  obtain ⟨htexts, hpadded, hruns⟩ := commaItems_normal_form
  have hsplit : commaItems "news,a b" = ["news", "a b"] := by decide
  have hp : Padded ["news", "a b"] ["", "\u2003news ", "\t", "a b"] :=
    .blank rfl (@Padded.item "\u2003" "news" " " _ _ rfl rfl (.blank rfl (padded_self ["a b"])))
  let env : String → Option String := fun name =>
    if name = "APP__CATALOG" then some " ,, "
    else if name = "APP__SERVER_URL" then some "ftp://x"
    else none
  let i : Invocation := ⟨[], fun _ => .error .notFound, env⟩
  obtain ⟨s, hs⟩ : ∃ s, i.settings {} = .ok s := ⟨_, rfl⟩
  obtain ⟨f, hf, hmessage⟩ : ∃ f, i.plan {} = .error f ∧
      f.message = "invalid server url 'ftp://x'" := by
    have hm : ((i.plan {}).mapError Failure.message).map (fun _ => ()) =
        .error "invalid server url 'ftp://x'" := by decide +kernel
    cases hp : i.plan {} with
    | error f =>
      rw [hp] at hm
      exact ⟨f, rfl, Except.error.inj hm⟩
    | ok p =>
      rw [hp] at hm
      cases hm
  obtain ⟨haccepted, hrefused⟩ := hruns i {} " ,, " rfl
  refine ⟨?_, i, {}, s, f, rfl, hs, (haccepted s hs).1.trans (by decide), hf, hmessage,
    hrefused f hf⟩
  exact hpadded _ _ (hsplit ▸ (htexts "news,a b").1) hp

end MailPrefs
