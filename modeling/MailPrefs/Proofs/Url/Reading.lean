import MailPrefs.Proofs.Url.Authority
import MailPrefs.Url.Parser

namespace MailPrefs

def Scheme.ofName? (name : String) : Option Scheme :=
  if name = "http" then some .http else if name = "https" then some .https else none

namespace Url

/-- What cleaning a text leaves but for its end. -/
def lead (s : String) : List Char :=
  (s.toList.dropWhile (·.toNat ≤ 0x20)).filter (!isTabOrNewline ·)

/-- What cleaning a text drops at its end but would not drop elsewhere. -/
def blankEnd (s : String) : List Char :=
  ((s.toList.dropWhile (·.toNat ≤ 0x20)).rtakeWhile (·.toNat ≤ 0x20)).filter (!isTabOrNewline ·)

theorem clean_append_blankEnd (s : String) : clean s ++ blankEnd s = lead s := by
  rw [clean, blankEnd, Text.trimBoth, ← List.filter_append]
  exact congrArg _ List.rdropWhile_append_rtakeWhile

theorem le_space_of_mem_blankEnd {s : String} {c : Char} (h : c ∈ blankEnd s) :
    c.toNat ≤ 0x20 := by
  have hm := List.mem_rtakeWhile_imp (List.mem_filter.mp h).1
  exact of_decide_eq_true hm

section Solid

variable {t : String} (ht : ∀ c ∈ t.toList, 0x20 < c.toNat)
include ht

theorem dropWhile_append_solid (s : String) :
    (s ++ t).toList.dropWhile (·.toNat ≤ 0x20) =
      s.toList.dropWhile (·.toNat ≤ 0x20) ++ t.toList := by
  have hd : t.toList.dropWhile (·.toNat ≤ 0x20) = t.toList := by
    cases h : t.toList with
    | nil => rfl
    | cons c cs =>
      apply List.dropWhile_cons_of_neg
      have hc := ht c (h ▸ List.mem_cons_self)
      simpa using hc
  rw [String.toList_append, List.dropWhile_append, hd]
  split
  · next h => rw [List.isEmpty_iff.mp h, List.nil_append]
  · rfl

theorem lead_append (s : String) : lead (s ++ t) = lead s ++ t.toList := by
  have hf : t.toList.filter (!isTabOrNewline ·) = t.toList := by
    apply List.filter_eq_self.mpr
    intro c hc
    cases hb : isTabOrNewline c with
    | false => rfl
    | true =>
      have h := ht c hc
      simp only [isTabOrNewline, Bool.or_eq_true, decide_eq_true_eq] at hb
      rcases hb with (rfl | rfl) | rfl <;> exact absurd h (by decide)
  rw [lead, dropWhile_append_solid ht, List.filter_append, hf, lead]

theorem blankEnd_append (hn : t ≠ "") (s : String) : blankEnd (s ++ t) = [] := by
  have hl : t.toList ≠ [] := fun h => hn (String.toList_eq_nil_iff.mp h)
  have hr : ((s ++ t).toList.dropWhile (·.toNat ≤ 0x20)).rtakeWhile (·.toNat ≤ 0x20) = [] := by
    rw [dropWhile_append_solid ht]
    apply List.rtakeWhile_eq_nil_iff.mpr
    intro h
    rw [List.getLast_append_of_ne_nil h hl]
    have hc := ht _ (List.getLast_mem hl)
    simpa using hc
  rw [blankEnd, hr, List.filter_nil]

theorem clean_append (hn : t ≠ "") (s : String) : clean (s ++ t) = lead s ++ t.toList := by
  have h := clean_append_blankEnd (s ++ t)
  rw [blankEnd_append ht hn, List.append_nil, lead_append ht] at h
  exact h

end Solid

def PathOnly (t : List Char) : Prop :=
  '?' ∉ t ∧ '#' ∉ t

theorem pathOnly_append {t t' : List Char} : PathOnly (t ++ t') ↔ PathOnly t ∧ PathOnly t' := by
  simp only [PathOnly, List.mem_append, not_or]
  exact and_and_and_comm

theorem pathOnly_slashes (k : Nat) : PathOnly (List.replicate k '/') := by
  simp [PathOnly]

theorem cutAt_of_notMem {c : Char} {s : List Char} (h : c ∉ s) : cutAt c s = (s, none) := by
  have hn : Text.splitFirst? (· = c) s = none := by
    apply Text.splitFirst?_eq_none_iff.mpr
    intro x hx
    exact decide_eq_false fun he => h (he ▸ hx)
  rw [cutAt, hn]

theorem cutAt_snd_eq_none_iff {c : Char} {s : List Char} : (cutAt c s).2 = none ↔ c ∉ s := by
  constructor
  · intro h hc
    rw [cutAt] at h
    cases hn : Text.splitFirst? (· = c) s with
    | none => exact absurd (Text.splitFirst?_eq_none_iff.mp hn c hc) (by simp)
    | some parts => simp [hn] at h
  · intro h
    rw [cutAt_of_notMem h]

theorem split_of_pathOnly {t : List Char} (h : PathOnly t) : Tail.split t = ⟨t, none, none⟩ := by
  rw [Tail.split, cutAt_of_notMem h.2]
  simp only [cutAt_of_notMem h.1]

theorem pathOnly_iff {t : List Char} :
    PathOnly t ↔ (Tail.split t).query = none ∧ (Tail.split t).fragment = none := by
  constructor
  · intro h
    rw [split_of_pathOnly h]
    exact ⟨rfl, rfl⟩
  · rintro ⟨hq, hf⟩
    have hn : '#' ∉ t := cutAt_snd_eq_none_iff.mp hf
    rw [Tail.split, cutAt_of_notMem hn] at hq
    exact ⟨cutAt_snd_eq_none_iff.mp hq, hn⟩

def withTail (u : Url) (t : List Char) : Url :=
  { u with
    segments := pathSegments (Tail.split t).path
    query := (Tail.split t).query.map fun q => String.ofList (Percent.encode Percent.inQuery q)
    fragment :=
      (Tail.split t).fragment.map fun f => String.ofList (Percent.encode Percent.inFragment f) }

theorem withTail_pathOnly_iff (u : Url) (t : List Char) :
    (u.withTail t).query = none ∧ (u.withTail t).fragment = none ↔ PathOnly t := by
  rw [pathOnly_iff]
  exact and_congr Option.map_eq_none_iff Option.map_eq_none_iff

theorem segments_withTail (u : Url) {t : List Char} (h : PathOnly t) :
    (u.withTail t).segments = pathSegments t := by
  rw [withTail, split_of_pathOnly h]

/-- A scheme, a colon, slashes and an authority. -/
structure Front where
  scheme : List Char
  slashes : List Char
  authority : List Char
  alpha : scheme.head?.any (·.isAlpha) = true
  schemeChars : ∀ c ∈ scheme, isSchemeChar c = true
  isSlashes : ∀ c ∈ slashes, isSlash c = true
  authority_ne_nil : authority ≠ []
  noEnd : ∀ c ∈ authority, Authority.isEnd true c = false

namespace Front

def text (f : Front) : List Char :=
  f.scheme ++ ':' :: (f.slashes ++ f.authority)

def origin? (f : Front) : Option Url := do
  let scheme ← Scheme.ofName? (String.ofList (f.scheme.map Char.toLower))
  let authority ← (Authority.parse f.authority).toOption
  some {
    scheme
    userinfo := authority.userinfo
    host := authority.host
    port := authority.port.filter (· ≠ scheme.defaultPort) }

theorem splitScheme?_append (f : Front) (s : List Char) :
    splitScheme? (f.scheme ++ ':' :: s) =
      some (String.ofList (f.scheme.map Char.toLower), s) := by
  have hd : (f.scheme ++ ':' :: s).dropWhile isSchemeChar = ':' :: s :=
    List.dropWhile_append_of_pos f.schemeChars
  have ht : (f.scheme ++ ':' :: s).takeWhile isSchemeChar = f.scheme :=
    (List.takeWhile_append_of_pos f.schemeChars).trans (List.append_nil _)
  have hh : (f.scheme ++ ':' :: s).head?.any (·.isAlpha) = true := by
    have ha := f.alpha
    cases hs : f.scheme with
    | nil => simp [hs] at ha
    | cons c cs => simpa [hs] using ha
  rw [splitScheme?, hd]
  simp only [hh, if_true, ht]

theorem isEnd_of_isSlash {c : Char} (h : isSlash c = true) : Authority.isEnd true c = true := by
  rcases Bool.or_eq_true_iff.mp h with h | h
  · rw [of_decide_eq_true h]
    rfl
  · rw [of_decide_eq_true h]
    rfl

theorem dropWhile_slashes (f : Front) (t : List Char) :
    (f.slashes ++ (f.authority ++ t)).dropWhile isSlash = f.authority ++ t := by
  rw [List.dropWhile_append_of_pos f.isSlashes]
  obtain ⟨c, cs, ha⟩ := List.exists_cons_of_ne_nil f.authority_ne_nil
  have hc : Authority.isEnd true c = false := f.noEnd c (ha ▸ List.mem_cons_self)
  rw [ha, List.cons_append, List.dropWhile_cons_of_neg]
  intro h
  rw [isEnd_of_isSlash h] at hc
  cases hc

/-- What follows an authority is nothing, or starts with what ends the authority. -/
def IsTail (t : List Char) : Prop :=
  ∀ c ∈ t.head?, Authority.isEnd true c = true

theorem IsTail.of_append {t t' : List Char} (h : IsTail (t ++ t')) : IsTail t := by
  cases t with
  | nil => exact fun c hc => nomatch hc
  | cons a t => exact h

theorem IsTail.append {t : List Char} (h : IsTail t) (hn : t ≠ []) (t' : List Char) :
    IsTail (t ++ t') := by
  cases t with
  | nil => exact absurd rfl hn
  | cons a t => exact h

theorem text_eq_concat (f : Front) : ∃ cs c, f.text = cs ++ [c] ∧ c ≠ '/' := by
  rcases List.eq_nil_or_concat f.authority with ha | ⟨as, c, ha⟩
  · exact absurd ha f.authority_ne_nil
  · rw [List.concat_eq_append] at ha
    refine ⟨f.scheme ++ ':' :: (f.slashes ++ as), c, ?_, ?_⟩
    · rw [text, ha]
      simp only [List.append_assoc, List.cons_append]
    · rintro rfl
      have hc := f.noEnd '/' (ha ▸ List.mem_append_right _ List.mem_cons_self)
      exact absurd hc (by decide)

theorem span_authority (f : Front) {t : List Char} (ht : IsTail t) :
    (f.authority ++ t).takeWhile (!Authority.isEnd true ·) = f.authority ∧
      (f.authority ++ t).dropWhile (!Authority.isEnd true ·) = t := by
  have ha : ∀ c ∈ f.authority, (!Authority.isEnd true c) = true := by
    intro c hc
    rw [f.noEnd c hc]
    rfl
  rw [List.takeWhile_append_of_pos ha, List.dropWhile_append_of_pos ha]
  cases t with
  | nil => exact ⟨List.append_nil _, rfl⟩
  | cons c t =>
    have hc : Authority.isEnd true c = true := ht c rfl
    simp [hc]

theorem parseWeb_append (f : Front) {t : List Char} (ht : IsTail t) (scheme : Scheme) :
    (parseWeb scheme (f.slashes ++ (f.authority ++ t))).toOption =
      (Authority.parse f.authority).toOption.map fun a =>
        withTail {
          scheme
          userinfo := a.userinfo
          host := a.host
          port := a.port.filter (· ≠ scheme.defaultPort) } t := by
  simp only [parseWeb, f.dropWhile_slashes, (f.span_authority ht).1, (f.span_authority ht).2]
  cases Authority.parse f.authority with
  | error e => rfl
  | ok a => rfl

theorem toOption_parse {f : Front} {s : String} {t : List Char} (h : clean s = f.text ++ t)
    (ht : IsTail t) : (Url.parse s).toOption = f.origin?.map (·.withTail t) := by
  have hs : clean s = f.scheme ++ ':' :: (f.slashes ++ (f.authority ++ t)) := by
    rw [h, text]
    simp only [List.append_assoc, List.cons_append]
  rw [Url.parse, hs, f.splitScheme?_append, origin?, Scheme.ofName?]
  simp only
  split
  · rw [f.parseWeb_append ht]
    cases (Authority.parse f.authority).toOption <;> rfl
  · split
    · rw [f.parseWeb_append ht]
      cases (Authority.parse f.authority).toOption <;> rfl
    · cases checkOther _ _ <;> rfl

theorem not_isEnd_of_le_space {c : Char} (h : c.toNat ≤ 0x20) : Authority.isEnd true c = false :=
  Text.of_le_space (P := fun c => Authority.isEnd true c = false) (by decide) h

/-- The front with blanks in its authority, behind all else there. -/
def extend (f : Front) {blanks : List Char} (hb : ∀ c ∈ blanks, c.toNat ≤ 0x20) : Front :=
  { f with
    authority := f.authority ++ blanks
    authority_ne_nil := List.append_ne_nil_of_left_ne_nil f.authority_ne_nil blanks
    noEnd := by
      intro c hc
      rcases List.mem_append.mp hc with hc | hc
      · exact f.noEnd c hc
      · exact not_isEnd_of_le_space (hb c hc) }

theorem text_extend (f : Front) {blanks : List Char} (hb : ∀ c ∈ blanks, c.toNat ≤ 0x20) :
    (f.extend hb).text = f.text ++ blanks := by
  simp only [text, extend, List.append_assoc, List.cons_append]

theorem origin?_extend (f : Front) {blanks : List Char} (hb : ∀ c ∈ blanks, c.toNat ≤ 0x20)
    (hn : blanks ≠ []) : (f.extend hb).origin? = none := by
  rcases List.eq_nil_or_concat blanks with h | ⟨others, c, h⟩
  · exact absurd h hn
  · have hc : c.toNat ≤ 0x20 := hb c (by simp [h])
    have ha : (Authority.parse (f.authority ++ blanks)).toOption = none := by
      rw [h, List.concat_eq_append, ← List.append_assoc]
      exact Authority.parse_concat_space hc _
    have hx : (f.extend hb).authority = f.authority ++ blanks := rfl
    rw [origin?, hx, ha]
    cases Scheme.ofName? _ <;> rfl

theorem splitScheme?_eq_some {s rest : List Char} {name : String}
    (h : splitScheme? s = some (name, rest)) :
    s = s.takeWhile isSchemeChar ++ ':' :: rest ∧
      (s.takeWhile isSchemeChar).head?.any (·.isAlpha) = true := by
  rw [splitScheme?] at h
  split at h
  · next r hd =>
    split at h
    · next ha =>
      obtain ⟨-, rfl⟩ := Prod.mk.inj (Option.some.inj h)
      have hs : s = s.takeWhile isSchemeChar ++ ':' :: r := by
        rw [← hd, List.takeWhile_append_dropWhile]
      refine ⟨hs, ?_⟩
      cases s with
      | nil => simp at ha
      | cons c cs =>
        have hc : c.isAlpha = true := ha
        have hsc : isSchemeChar c = true := by simp [isSchemeChar, Char.isAlphanum, hc]
        rw [List.takeWhile_cons_of_pos hsc]
        exact hc
    · cases h
  · cases h

theorem parseWeb_ne_ok_of_no_authority (scheme : Scheme) {s : List Char}
    (h : (s.dropWhile isSlash).takeWhile (!Authority.isEnd true ·) = []) (u : Url) :
    parseWeb scheme s ≠ .ok u := by
  have he : Authority.parse [] = .error .emptyHost := by decide +kernel
  rw [parseWeb]
  simp only [h, he]
  exact nofun

theorem parse_eq_ok {s : String} {u : Url} (h : Url.parse s = .ok u) :
    ∃ name rest scheme, splitScheme? (clean s) = some (name, rest) ∧
      parseWeb scheme rest = .ok u := by
  rw [Url.parse] at h
  split at h
  · cases h
  · next name rest hs =>
    split at h
    · exact ⟨name, rest, .http, hs, h⟩
    · split at h
      · exact ⟨name, rest, .https, hs, h⟩
      · cases hc : checkOther name rest <;> rw [hc] at h <;> cases h

theorem exists_of_parse {s : String} {u : Url} (h : Url.parse s = .ok u) :
    ∃ (f : Front) (t : List Char), clean s = f.text ++ t ∧ IsTail t := by
  obtain ⟨name, rest, scheme, hs, hp⟩ := parse_eq_ok h
  obtain ⟨hc, ha⟩ := splitScheme?_eq_some hs
  let hostful := rest.dropWhile isSlash
  have hn : hostful.takeWhile (!Authority.isEnd true ·) ≠ [] := by
    intro hn
    exact parseWeb_ne_ok_of_no_authority scheme hn u hp
  refine ⟨{
    scheme := (clean s).takeWhile isSchemeChar
    slashes := rest.takeWhile isSlash
    authority := hostful.takeWhile (!Authority.isEnd true ·)
    alpha := ha
    schemeChars := fun c h => List.mem_takeWhile_imp h
    isSlashes := fun c h => List.mem_takeWhile_imp h
    authority_ne_nil := hn
    noEnd := fun c h => by simpa using List.mem_takeWhile_imp h },
    hostful.dropWhile (!Authority.isEnd true ·), ?_, ?_⟩
  · simp only [text, List.append_assoc, List.cons_append, List.takeWhile_append_dropWhile, hostful]
    exact hc
  · intro c hm
    have hd := List.head?_dropWhile_not (fun c => !Authority.isEnd true c) hostful
    rw [Option.mem_def.mp hm] at hd
    simpa using hd

end Front

def rawPath (s : List Char) : List Char :=
  match splitScheme? s with
  | none => []
  | some (_, rest) =>
    (Tail.split ((rest.dropWhile isSlash).dropWhile (!Authority.isEnd true ·))).path

theorem rawPath_append (f : Front) {t : List Char} (ht : Front.IsTail t) :
    rawPath (f.text ++ t) = (Tail.split t).path := by
  rw [rawPath, Front.text, List.append_assoc, List.cons_append, f.splitScheme?_append,
    List.append_assoc]
  simp only [f.dropWhile_slashes, (f.span_authority ht).2]

end Url

end MailPrefs
