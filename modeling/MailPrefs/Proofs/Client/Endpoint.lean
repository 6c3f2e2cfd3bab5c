import MailPrefs.Client
import MailPrefs.Proofs.Url.Folders
import MailPrefs.Proofs.Url.Reading
import MailPrefs.Report

namespace MailPrefs

namespace Url

/-- A path of names only, with nothing in it that reading drops, cuts or encodes. -/
structure IsPlain (p : String) (names : List String) : Prop where
  ne_nil : names ≠ []
  text : p.toList = pathText names
  moves : (Text.splitWhere isSlash p.toList.tail).map Move.ofSegment = names.map .down
  solid : ∀ c ∈ p.toList, 0x20 < c.toNat
  noQuery : '?' ∉ p.toList
  noFragment : '#' ∉ p.toList

theorem isPlain_settingsPath :
    IsPlain settingsPath ["api", "v1", "settings", "notifications"] where
  ne_nil := by decide
  text := by decide +kernel
  moves := by decide +kernel
  solid := Text.forall_of_all (by decide +kernel)
  noQuery := by decide +kernel
  noFragment := by decide +kernel

theorem isPlain_settingsUpdatePath :
    IsPlain settingsUpdatePath ["api", "v1", "settings", "notifications", ""] where
  ne_nil := by decide
  text := by decide +kernel
  moves := by decide +kernel
  solid := Text.forall_of_all (by decide +kernel)
  noQuery := by decide +kernel
  noFragment := by decide +kernel

theorem exists_isPlain {p : String} (h : p ∈ [settingsPath, settingsUpdatePath]) :
    ∃ names, IsPlain p names := by
  rcases List.mem_pair.mp h with rfl | rfl
  · exact ⟨_, isPlain_settingsPath⟩
  · exact ⟨_, isPlain_settingsUpdatePath⟩

namespace IsPlain

variable {p : String} {names : List String} (hp : IsPlain p names)
include hp

theorem pathOnly : Url.PathOnly p.toList :=
  ⟨hp.noQuery, hp.noFragment⟩

theorem toList_eq : p.toList = '/' :: p.toList.tail := by
  rw [hp.text]
  obtain ⟨name, others, rfl⟩ := List.exists_cons_of_ne_nil hp.ne_nil
  rfl

theorem isTail : Front.IsTail p.toList := by
  rw [hp.toList_eq]
  rintro c ⟨⟩
  rfl

theorem ne_empty : p ≠ "" := by
  rintro rfl
  cases hp.toList_eq

theorem pathSegments_append (before : List Char) :
    pathSegments (before ++ p.toList) = folders before ++ names := by
  have hm := hp.moves
  obtain ⟨name, others, rfl⟩ := List.exists_cons_of_ne_nil hp.ne_nil
  rw [hp.toList_eq]
  exact Url.pathSegments_append hm before

theorem path_withTail (u : Url) {t : List Char} (ht : Url.PathOnly t) :
    (u.withTail (t ++ p.toList)).path.toList = pathText (folders t) ++ p.toList := by
  rw [toList_path, segments_withTail u (pathOnly_append.mpr ⟨ht, hp.pathOnly⟩),
    hp.pathSegments_append, pathText_append, hp.text]

end IsPlain

end Url

namespace Client

open Url (Front IsPlain)

variable {c : Client} {s p : String} {u : Url} {names : List String}

def Reaches (c : Client) (u : Url) (p : String) : Prop :=
  ∃ v, Url.parse (c.endpoint p) = .ok v ∧
    v.scheme = u.scheme ∧ v.host = u.host ∧ v.port = u.port ∧
    v.query = none ∧ v.fragment = none ∧
    v.path = String.ofList (Text.trimEnd (· = '/') u.path.toList) ++ p

/-- Nothing in the text of a server's URL gets between its path and one that is appended: no query
and no fragment, no blank that is dropped at the end only, and no folder without a name that is
still open once the slashes at the end are gone. -/
structure Appendable (c : Client) (s : String) (u : Url) : Prop where
  query : u.query = none
  fragment : u.fragment = none
  blankEnd : Url.blankEnd s = []
  folder : (Url.folders (Url.rawPath (Url.lead c.serverUrl))).getLast? ≠ some ""

/-- How the text of a server's URL is read, and what the client keeps of it: without the slashes at
the end, but with the blanks that reading drops there. -/
structure Reading (c : Client) (s : String) where
  front : Front
  origin : Url
  tail : List Char
  slashes : Nat
  origin_eq : front.origin? = some origin
  isTail : Front.IsTail tail
  lead_eq : Url.lead c.serverUrl = front.text ++ (tail ++ Url.blankEnd s)
  slashes_or : slashes = 0 ∨ Url.blankEnd s = []

def Reading.url (r : c.Reading s) : Url :=
  r.origin.withTail (r.tail ++ List.replicate r.slashes '/')

theorem ofUrl_eq_ok_iff : Client.ofUrl s = .ok c ↔
    (∃ u, Url.parse s = .ok u) ∧ c.serverUrl = String.ofList (Text.trimEnd (· = '/') s.toList) := by
  rw [ofUrl]
  constructor
  · intro h
    split at h
    · cases h
    · next u hu =>
      obtain rfl := Except.ok.inj h
      exact ⟨⟨u, hu⟩, rfl⟩
  · rintro ⟨⟨u, hu⟩, hs⟩
    rw [hu, ← hs]

/-- A client keeps all of the URL that it is given but slashes at the end. -/
theorem exists_slashes (hc : Client.ofUrl s = .ok c) :
    ∃ k, s = c.serverUrl ++ String.ofList (List.replicate k '/') := by
  have hk : ∀ c ∈ s.toList.rtakeWhile (· = '/'), c = '/' := by
    intro c h
    have hm := List.mem_rtakeWhile_imp h
    exact of_decide_eq_true hm
  have hs : Text.trimEnd (· = '/') s.toList ++ s.toList.rtakeWhile (· = '/') = s.toList :=
    List.rdropWhile_append_rtakeWhile
  refine ⟨(s.toList.rtakeWhile (· = '/')).length, ?_⟩
  rw [(ofUrl_eq_ok_iff.mp hc).2, ← List.eq_replicate_of_mem hk, ← String.ofList_append, hs,
    String.ofList_toList]

theorem exists_reading (hc : Client.ofUrl s = .ok c) (hu : Url.parse s = .ok u) :
    ∃ r : c.Reading s, r.url = u := by
  obtain ⟨k, hk⟩ := exists_slashes hc
  obtain ⟨f, t, hs, ht⟩ := Front.exists_of_parse hu
  have hp := Front.toOption_parse hs ht
  rw [hu] at hp
  obtain ⟨o, ho, hou⟩ := Option.map_eq_some_iff.mp hp.symm
  have hsolid : ∀ c ∈ (String.ofList (List.replicate k '/')).toList, 0x20 < c.toNat := by
    intro c h
    rw [String.toList_ofList] at h
    rw [List.eq_of_mem_replicate h]
    decide
  have hl : Url.lead c.serverUrl ++ List.replicate k '/' = f.text ++ (t ++ Url.blankEnd s) := by
    have hl := Url.lead_append hsolid c.serverUrl
    rw [← hk, ← Url.clean_append_blankEnd, hs, String.toList_ofList, List.append_assoc] at hl
    exact hl.symm
  -- Only slashes at the very end are taken off the text, so blanks behind them keep them there.
  by_cases hb : Url.blankEnd s = []
  · obtain ⟨cs, y, hf, hy⟩ := f.text_eq_concat
    rw [hb, List.append_nil, hf] at hl
    obtain ⟨q, hq, rfl⟩ := Text.append_replicate_eq_append hy hl
    exact ⟨{
      front := f
      origin := o
      tail := q
      slashes := k
      origin_eq := ho
      isTail := ht.of_append
      lead_eq := by rw [hq, hb, List.append_nil, hf]
      slashes_or := .inr hb }, hou⟩
  · have hk0 : k = 0 := by
      cases k with
      | zero => rfl
      | succ k =>
        have he := Url.blankEnd_append hsolid (by simp) c.serverUrl
        rw [← hk] at he
        exact absurd he hb
    rw [hk0, List.replicate_zero, List.append_nil] at hl
    exact ⟨{
      front := f
      origin := o
      tail := t
      slashes := 0
      origin_eq := ho
      isTail := ht
      lead_eq := hl
      slashes_or := .inl rfl }, by rw [Reading.url, List.replicate_zero, List.append_nil, hou]⟩

theorem Reading.clean_endpoint (r : c.Reading s) (hp : IsPlain p names) :
    Url.clean (c.endpoint p) = r.front.text ++ (r.tail ++ Url.blankEnd s ++ p.toList) := by
  rw [endpoint, Url.clean_append hp.solid hp.ne_empty, r.lead_eq, List.append_assoc]

theorem Reading.parse_endpoint (r : c.Reading s) (hp : IsPlain p names)
    (h : r.tail ≠ [] ∨ Url.blankEnd s = []) :
    Url.parse (c.endpoint p) = .ok (r.origin.withTail (r.tail ++ Url.blankEnd s ++ p.toList)) := by
  have ht : Front.IsTail (r.tail ++ Url.blankEnd s ++ p.toList) := by
    by_cases hn : r.tail = []
    · rw [hn, h.resolve_left (absurd hn)]
      exact hp.isTail
    · rw [List.append_assoc]
      exact r.isTail.append hn _
  have h := Front.toOption_parse (r.clean_endpoint hp) ht
  rw [r.origin_eq] at h
  cases hv : Url.parse (c.endpoint p) with
  | error e => rw [hv] at h; cases h
  | ok v => rw [hv] at h; cases h; rfl

theorem Reading.pathOnly_iff (r : c.Reading s) :
    r.url.query = none ∧ r.url.fragment = none ↔ Url.PathOnly r.tail := by
  rw [url, Url.withTail_pathOnly_iff, Url.pathOnly_append]
  exact and_iff_left (Url.pathOnly_slashes r.slashes)

theorem Reading.trimEnd_path (r : c.Reading s) (ht : Url.PathOnly r.tail) :
    Text.trimEnd (· = '/') r.url.path.toList =
      Text.trimEnd (· = '/') (Url.pathText (Url.folders r.tail)) := by
  have hu : Url.PathOnly (r.tail ++ List.replicate r.slashes '/') :=
    Url.pathOnly_append.mpr ⟨ht, Url.pathOnly_slashes r.slashes⟩
  rw [Url.toList_path, url, Url.segments_withTail _ hu, Url.trimEnd_pathText_slashes]

theorem Reading.rawPath_eq (r : c.Reading s) (ht : Url.PathOnly r.tail)
    (hb : Url.blankEnd s = []) : Url.rawPath (Url.lead c.serverUrl) = r.tail := by
  rw [r.lead_eq, hb, List.append_nil, Url.rawPath_append r.front r.isTail,
    Url.split_of_pathOnly ht]

theorem Reading.reaches_iff_folders (r : c.Reading s) (hp : IsPlain p names)
    (h : r.tail ≠ [] ∨ Url.blankEnd s = []) :
    c.Reaches r.url p ↔ Url.PathOnly (r.tail ++ Url.blankEnd s) ∧
      Text.trimEnd (· = '/') r.url.path.toList =
        Url.pathText (Url.folders (r.tail ++ Url.blankEnd s)) := by
  have hv := r.parse_endpoint hp h
  constructor
  · rintro ⟨v, hv', -, -, -, hq, hf, hpath⟩
    obtain rfl := Except.ok.inj (hv.symm.trans hv')
    have ht := (Url.pathOnly_append.mp ((Url.withTail_pathOnly_iff _ _).mp ⟨hq, hf⟩)).1
    have hl := congrArg String.toList hpath
    rw [hp.path_withTail _ ht, String.toList_append, String.toList_ofList] at hl
    exact ⟨ht, (List.append_cancel_right hl).symm⟩
  · rintro ⟨ht, hd⟩
    obtain ⟨hq, hf⟩ := (Url.withTail_pathOnly_iff r.origin _).mpr
      (Url.pathOnly_append.mpr ⟨ht, hp.pathOnly⟩)
    refine ⟨_, hv, rfl, rfl, rfl, hq, hf, ?_⟩
    apply String.toList_inj.mp
    rw [hp.path_withTail _ ht, String.toList_append, String.toList_ofList, hd]

theorem Reading.reaches_iff (r : c.Reading s) (hp : IsPlain p names)
    (hb : Url.blankEnd s = []) :
    c.Reaches r.url p ↔ c.Appendable s r.url := by
  rw [r.reaches_iff_folders hp (.inr hb), hb, List.append_nil]
  constructor
  · rintro ⟨ht, hd⟩
    obtain ⟨hq, hf⟩ := r.pathOnly_iff.mpr ht
    rw [r.trimEnd_path ht, Url.trimEnd_folders_iff] at hd
    exact ⟨hq, hf, hb, by rwa [r.rawPath_eq ht hb]⟩
  · rintro ⟨hq, hf, -, hd⟩
    have ht := r.pathOnly_iff.mp ⟨hq, hf⟩
    rw [r.rawPath_eq ht hb] at hd
    rw [r.trimEnd_path ht, Url.trimEnd_folders_iff]
    exact ⟨ht, hd⟩

theorem Reading.not_reaches_of_path (r : c.Reading s) (hp : IsPlain p names)
    (hb : Url.blankEnd s ≠ []) (hn : r.tail ≠ []) : ¬c.Reaches r.url p := by
  intro h
  obtain ⟨hpo, hd⟩ := (r.reaches_iff_folders hp (.inl hn)).mp h
  have hlt := Url.length_pathSegments_lt hn (fun _ h => Url.le_space_of_mem_blankEnd h) hb
  have hu : r.url.path.toList = Url.pathText (Url.pathSegments r.tail) := by
    rw [Url.toList_path, url, r.slashes_or.resolve_right hb, List.replicate_zero, List.append_nil,
      Url.segments_withTail _ (Url.pathOnly_append.mp hpo).1]
  have hle := Text.length_trimEnd_le (· = '/') r.url.path.toList
  rw [hd, hu] at hle
  exact Nat.not_lt_of_le hle hlt

theorem Reading.not_reaches_of_no_path (r : c.Reading s) (hp : IsPlain p names)
    (hb : Url.blankEnd s ≠ []) (ht : r.tail = []) : ¬c.Reaches r.url p := by
  rintro ⟨v, hv, -⟩
  have hs : ∀ c ∈ Url.blankEnd s, c.toNat ≤ 0x20 := fun _ h => Url.le_space_of_mem_blankEnd h
  have hc := r.clean_endpoint hp
  rw [ht, List.nil_append, ← List.append_assoc, ← r.front.text_extend hs] at hc
  have ho := Front.toOption_parse hc hp.isTail
  rw [r.front.origin?_extend hs hb, hv] at ho
  cases ho

/-- Requests go where they are expected if and only if paths can be appended to the text of the
server's URL. Tabs, line breaks, backslashes, dots, ports and usernames do no harm by themselves. -/
theorem reaches_iff_appendable (hc : Client.ofUrl s = .ok c) :
    ∃ u, Url.parse s = .ok u ∧
      ∀ p ∈ [settingsPath, settingsUpdatePath], c.Reaches u p ↔ c.Appendable s u := by
  obtain ⟨u, hu⟩ := (ofUrl_eq_ok_iff.mp hc).1
  obtain ⟨r, rfl⟩ := exists_reading hc hu
  refine ⟨r.url, hu, fun p hm => ?_⟩
  obtain ⟨names, hp⟩ := Url.exists_isPlain hm
  by_cases hb : Url.blankEnd s = []
  · exact r.reaches_iff hp hb
  · refine iff_of_false ?_ (fun h => hb h.blankEnd)
    by_cases ht : r.tail = []
    · exact r.not_reaches_of_no_path hp hb ht
    · exact r.not_reaches_of_path hp hb ht

theorem reaches_iff_appendable_userinfo :
    ∃ c u, Client.ofUrl "http://me@x:8080//a//" = .ok c ∧
      Url.parse "http://me@x:8080//a//" = .ok u ∧
      c.Appendable "http://me@x:8080//a//" u ∧ c.Reaches u settingsPath := by
  let u : Url := ⟨.http, ⟨"me", ""⟩, .domain "x", some 8080, ["", "a", "", ""], none, none⟩
  have hu : Url.parse "http://me@x:8080//a//" = .ok u := by decide +kernel
  have hc : Client.ofUrl "http://me@x:8080//a//" = .ok ⟨"http://me@x:8080//a"⟩ :=
    ofUrl_eq_ok_iff.mpr ⟨⟨u, hu⟩, by decide +kernel⟩
  obtain ⟨v, hv, h⟩ := reaches_iff_appendable hc
  obtain rfl := Except.ok.inj (hu.symm.trans hv)
  have ha : Appendable ⟨"http://me@x:8080//a"⟩ "http://me@x:8080//a//" u := by
    constructor <;> decide +kernel
  exact ⟨_, u, hc, hu, ha, (h settingsPath (by decide)).mpr ha⟩

/-- A query takes up all that is appended. -/
theorem query_takes_path :
    ∃ c u, Client.ofUrl "http://x?q" = .ok c ∧ Url.parse "http://x?q" = .ok u ∧
      (Url.parse (c.endpoint settingsPath)).map Url.target =
        .ok "/?q/api/v1/settings/notifications" ∧
      ¬c.Reaches u settingsPath := by
  let u : Url := ⟨.http, {}, .domain "x", none, [""], some "q", none⟩
  let v : Url := { u with query := some "q/api/v1/settings/notifications" }
  have hu : Url.parse "http://x?q" = .ok u := by decide +kernel
  have hc : Client.ofUrl "http://x?q" = .ok ⟨"http://x?q"⟩ :=
    ofUrl_eq_ok_iff.mpr ⟨⟨u, hu⟩, by decide +kernel⟩
  have hv : Url.parse (endpoint ⟨"http://x?q"⟩ settingsPath) = .ok v := by decide +kernel
  refine ⟨_, u, hc, hu, ?_, ?_⟩
  · rw [hv]
    decide +kernel
  · rintro ⟨v', hv', -, -, -, hq, -⟩
    obtain rfl := Except.ok.inj (hv.symm.trans hv')
    cases hq

end Client

end MailPrefs
