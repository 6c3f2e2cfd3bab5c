import MailPrefs.CommandLine.Run
import MailPrefs.Proofs.Except
import MailPrefs.Proofs.Text.Basic

namespace MailPrefs

/-- An option where it stands: its value is behind an equals sign, or is the next argument. -/
inductive Given where
  | attached (name value : String)
  | apart (name value : String)
  | submit
deriving DecidableEq

namespace Given

def words : Given → List String
  | attached name value => [name ++ "=" ++ value]
  | apart name value => [name, value]
  | submit => ["--submit"]

def entry? : Given → Option (String × String)
  | attached name value | apart name value => some (name, value)
  | submit => none

def values (gs : List Given) (name : String) : List String :=
  ((gs.filterMap entry?).filter (·.1 = name)).map Prod.snd

theorem values_cons (g : Given) (gs : List Given) (name : String) :
    values (g :: gs) name = values [g] name ++ values gs name := by
  rw [← List.singleton_append, values, List.filterMap_append, List.filter_append, List.map_append]
  rfl

theorem values_singleton {g : Given} {name value : String} (h : g.entry? = some (name, value))
    (n : String) : values [g] n = if n = name then [value] else [] := by
  rw [values, List.filterMap_cons_some h]
  by_cases hn : name = n <;> simp [hn, eq_comm]

end Given

namespace Arguments

variable {a a' : Arguments} {g : Given} {gs gs' : List Given} {name value s : String}
variable {words words' : List String}

def valueNames : List String :=
  ["--config", "--server-url", "--catalog", "--support-email", "--subscribe", "--unsubscribe"]

/-- The path of the configuration is not empty; all other values can be. -/
def Takes (name value : String) : Prop :=
  name ∈ valueNames ∧ (name = "--config" → value ≠ "")

def held (a : Arguments) (name : String) : List String :=
  match name with
  | "--config" => a.config.toList
  | "--server-url" => a.serverUrl.toList
  | "--catalog" => a.catalog.toList
  | "--support-email" => a.supportEmail.toList
  | "--subscribe" => a.subscribe
  | "--unsubscribe" => a.unsubscribe
  | _ => []

theorem once_eq_ok_iff {old new : Option String} :
    once old value = .ok new ↔ old = none ∧ new = some value := by
  cases old with
  | none => simp [once, eq_comm]
  | some v => simp [once]

theorem once_of_toList {old new : Option String} {rest : List String}
    (h : new.toList = old.toList ++ value :: rest) : once old value = .ok (some value) := by
  cases old with
  | none => rfl
  | some v => cases new <;> simp at h

theorem held_set (h : a.set name value = .ok a') :
    Takes name value ∧ a'.submit = a.submit ∧
      ∀ n, a'.held n = a.held n ++ if n = name then [value] else [] := by
  unfold set at h
  split at h
  case h_1 =>
    split at h
    · cases h
    · next hv =>
      obtain ⟨_, ho, h⟩ := bind_eq_ok_iff.mp h
      obtain ⟨hn, rfl⟩ := once_eq_ok_iff.mp ho
      cases h
      refine ⟨⟨by decide, fun _ => ?_⟩, rfl, fun n => ?_⟩
      · rintro rfl
        exact hv rfl
      · unfold held
        split <;> simp_all
  case h_2 | h_3 | h_4 =>
    obtain ⟨_, ho, h⟩ := bind_eq_ok_iff.mp h
    obtain ⟨hn, rfl⟩ := once_eq_ok_iff.mp ho
    cases h
    refine ⟨⟨by decide, by simp⟩, rfl, fun n => ?_⟩
    unfold held
    split <;> simp_all
  case h_5 | h_6 =>
    cases h
    refine ⟨⟨by decide, by simp⟩, rfl, fun n => ?_⟩
    unfold held
    split <;> simp_all
  case h_7 => cases h

theorem set_of_held {rest : List String} (ht : Takes name value)
    (h : a'.held name = a.held name ++ value :: rest) : ∃ a'', a.set name value = .ok a'' := by
  obtain ⟨hn, hv⟩ := ht
  simp only [valueNames, List.mem_cons, List.not_mem_nil, or_false] at hn
  rcases hn with rfl | rfl | rfl | rfl | rfl | rfl
  · exact ⟨_, (if_neg fun he => hv rfl (String.isEmpty_iff.mp he)).trans
      (bind_eq_ok_iff.mpr ⟨_, once_of_toList h, rfl⟩)⟩
  · exact ⟨_, bind_eq_ok_iff.mpr ⟨_, once_of_toList h, rfl⟩⟩
  · exact ⟨_, bind_eq_ok_iff.mpr ⟨_, once_of_toList h, rfl⟩⟩
  · exact ⟨_, bind_eq_ok_iff.mpr ⟨_, once_of_toList h, rfl⟩⟩
  · exact ⟨_, rfl⟩
  · exact ⟨_, rfl⟩

theorem ext_held (hh : ∀ n, a'.held n = a.held n) (hs : a'.submit = a.submit) : a' = a := by
  have toList_inj {o o' : Option String} (h : o.toList = o'.toList) : o = o' := by
    simpa using congrArg List.head? h
  have hc := toList_inj (hh "--config")
  have hu := toList_inj (hh "--server-url")
  have hl := toList_inj (hh "--catalog")
  have he := toList_inj (hh "--support-email")
  have hsub : a'.subscribe = a.subscribe := hh "--subscribe"
  have hunsub : a'.unsubscribe = a.unsubscribe := hh "--unsubscribe"
  cases a
  cases a'
  simp_all only

/-- Arguments have what others have, and behind it what is given here. -/
structure Adds (a : Arguments) (gs : List Given) (a' : Arguments) : Prop where
  held : ∀ n, a'.held n = a.held n ++ Given.values gs n
  submit : a'.submit.toNat = a.submit.toNat + gs.count .submit

theorem adds_nil_iff : a.Adds [] a' ↔ a' = a := by
  constructor
  · intro h
    refine ext_held (fun n => (h.held n).trans (List.append_nil _)) ?_
    have hs := h.submit
    cases hs' : a'.submit <;> cases hs'' : a.submit <;> simp_all
  · rintro rfl
    exact ⟨fun _ => (List.append_nil _).symm, rfl⟩

def take (a : Arguments) : Given → Except ArgumentsError Arguments
  | .attached name value | .apart name value => a.set name value
  | .submit => if a.submit then .error .misuse else .ok { a with submit := true }

/-- Whether an option can be given like this. What looks like an option is no value of its own. -/
def Fits : Given → Prop
  | .attached name value => Takes name value
  | .apart name value => Takes name value ∧ isValue value = true
  | .submit => True

theorem adds_of_set (hg : g.entry? = some (name, value)) (h : a.set name value = .ok a') :
    a.Adds [g] a' := by
  obtain ⟨_, hs, hh⟩ := held_set h
  have hc : [g].count .submit = 0 := by
    rw [List.count_singleton]
    cases g with
    | submit => cases hg
    | attached | apart => rfl
  exact ⟨fun n => by rw [hh, Given.values_singleton hg], by rw [hs, hc, Nat.add_zero]⟩

theorem adds_of_take (h : a.take g = .ok a') : a.Adds [g] a' := by
  cases g with
  | attached name value => exact adds_of_set rfl h
  | apart name value => exact adds_of_set rfl h
  | submit =>
    rw [take] at h
    split at h
    · cases h
    · next hs =>
      cases h
      refine ⟨fun n => (List.append_nil _).symm, ?_⟩
      rw [Bool.eq_false_iff.mpr hs]
      rfl

theorem Adds.cons_iff {b : Arguments} (h : a.Adds [g] b) : a.Adds (g :: gs) a' ↔ b.Adds gs a' := by
  have hheld (n : String) :
      a.held n ++ Given.values (g :: gs) n = b.held n ++ Given.values gs n := by
    rw [h.held, Given.values_cons, List.append_assoc]
  have hsubmit : a.submit.toNat + (g :: gs).count .submit = b.submit.toNat + gs.count .submit := by
    rw [h.submit, ← List.singleton_append, List.count_append, Nat.add_assoc]
  constructor
  · exact fun h' => ⟨fun n => (h'.held n).trans (hheld n), h'.submit.trans hsubmit⟩
  · exact fun h' => ⟨fun n => (h'.held n).trans (hheld n).symm, h'.submit.trans hsubmit.symm⟩

theorem Adds.held_cons (h : a.Adds (g :: gs) a') (hg : g.entry? = some (name, value)) :
    a'.held name = a.held name ++ value :: Given.values gs name := by
  rw [h.held, Given.values_cons, Given.values_singleton hg, if_pos rfl, List.singleton_append]

theorem Adds.exists_take (h : a.Adds (g :: gs) a') (hg : Fits g) : ∃ b, a.take g = .ok b := by
  cases g with
  | attached => exact set_of_held hg (h.held_cons rfl)
  | apart => exact set_of_held hg.1 (h.held_cons rfl)
  | submit =>
    have hs := h.submit
    cases ha : a.submit with
    | true =>
      have hle := a'.submit.toNat_le
      rw [hs, ha, List.count_cons_self, Bool.toNat_true] at hle
      omega
    | false => exact ⟨_, if_neg (by rw [ha]; exact Bool.false_ne_true)⟩

theorem addAll_cons (a : Arguments) (rest : List String) (hend : s ≠ "--")
    (hsubmit : s ≠ "--submit") (hhelp : isHelp s = false) :
    a.addAll (s :: rest) =
      match attached? s with
      | some (name, value) => do addAll (← a.set name value) rest
      | none =>
        match rest with
        | value :: rest =>
          if isValue value then do addAll (← a.set s value) rest else .error .misuse
        | [] => .error .misuse := by
  rw [addAll.eq_def]
  split
  · next h => cases h
  · next h => exact absurd (List.cons.inj h).1 hend
  · next h => exact absurd (List.cons.inj h).1 hsubmit
  · next h =>
    cases h
    rw [hhelp]
    rfl

/-- What stands among the arguments; what is behind two dashes is none of it. -/
inductive Reads : List String → List Given → Prop where
  | nil : Reads [] []
  | stop : Reads ["--"] []
  | cons {g : Given} {gs : List Given} {words : List String} : Fits g → Reads words gs →
      Reads (g.words ++ words) (g :: gs)

theorem attached?_eq_some_iff :
    attached? s = some (name, value) ↔ s = name ++ "=" ++ value ∧ '=' ∉ name.toList := by
  simp only [attached?, Option.map_eq_some_iff, Prod.exists, Text.splitFirst?_eq_some_iff,
    decide_eq_true_eq, decide_eq_false_iff_not, Prod.mk.injEq]
  constructor
  · rintro ⟨left, right, ⟨c, hs, rfl, hl⟩, rfl, rfl⟩
    refine ⟨String.toList_inj.mp ?_, fun h => ?_⟩
    · simpa using hs
    · exact hl '=' (by simpa using h) rfl
  · rintro ⟨rfl, hn⟩
    refine ⟨name.toList, value.toList, ⟨'=', by simp, rfl, ?_⟩, by simp, by simp⟩
    rintro c hc rfl
    exact hn hc

theorem ne_attached {t : String} (ht : '=' ∉ t.toList) (name value : String) :
    name ++ "=" ++ value ≠ t := by
  rintro rfl
  simp at ht

theorem valueNames_apart (hn : name ∈ valueNames) :
    name ≠ "--" ∧ name ≠ "--submit" ∧ isHelp name = false ∧ '=' ∉ name.toList ∧
      name.toList.take 2 = ['-', '-'] := by
  revert name
  decide +kernel

theorem isHelp_attached (hn : name ∈ valueNames) (value : String) :
    isHelp (name ++ "=" ++ value) = false := by
  obtain ⟨_, _, _, _, hdashes⟩ := valueNames_apart hn
  rw [isHelp, decide_eq_false (ne_attached (by decide) name value), Bool.false_or,
    Bool.eq_false_iff]
  intro h
  have hname := List.take_append_drop 2 name.toList
  rw [hdashes] at hname
  obtain ⟨rest, hr⟩ := String.startsWith_string_iff.mp h
  rw [String.toList_append, String.toList_append, ← hname] at hr
  simp at hr

theorem addAll_words (hg : Fits g) (a : Arguments) (words : List String) :
    a.addAll (g.words ++ words) = a.take g >>= (addAll · words) := by
  cases g with
  | submit =>
    change (if a.submit then .error .misuse else addAll { a with submit := true } words) = _
    rw [take]
    split <;> rfl
  | attached name value =>
    obtain ⟨_, _, _, hn, _⟩ := valueNames_apart hg.1
    have hc := addAll_cons a words (ne_attached (by decide) name value)
      (ne_attached (by decide) name value) (isHelp_attached hg.1 value)
    rw [attached?_eq_some_iff.mpr ⟨rfl, hn⟩] at hc
    exact hc
  | apart name value =>
    obtain ⟨hend, hsubmit, hhelp, hn, _⟩ := valueNames_apart hg.1.1
    have hs : attached? name = none := by
      rw [attached?, Text.splitFirst?_eq_none_iff.mpr fun c hc => ?_]
      · rfl
      · exact decide_eq_false (ne_of_mem_of_not_mem hc hn)
    have hc := addAll_cons a (value :: words) hend hsubmit hhelp
    rw [hs] at hc
    simp only [hg.2, if_true] at hc
    exact hc

theorem Reads.addAll_eq_ok_iff (h : Reads words gs) :
    a.addAll words = .ok a' ↔ a.Adds gs a' := by
  induction h generalizing a with
  | nil | stop =>
    rw [adds_nil_iff]
    exact ⟨fun h => (Except.ok.inj h).symm, congrArg _ ∘ Eq.symm⟩
  | cons hg _ ih =>
    rw [addAll_words hg, bind_eq_ok_iff]
    constructor
    · rintro ⟨b, hb, h⟩
      exact (adds_of_take hb).cons_iff.mpr (ih.mp h)
    · intro ha
      obtain ⟨b, hb⟩ := ha.exists_take hg
      exact ⟨b, hb, ih.mpr ((adds_of_take hb).cons_iff.mp ha)⟩

theorem set_eq_misuse {e : ArgumentsError} (h : a.set name value = .error e) : e = .misuse := by
  have honce {old : Option String} {f : Option String → Arguments}
      (h : (do .ok (f (← once old value))) = Except.error e) : e = .misuse := by
    rcases bind_eq_error_iff.mp h with h | ⟨_, _, h⟩
    · cases old <;> cases h
      rfl
    · cases h
  unfold set at h
  split at h
  case h_1 =>
    split at h
    · cases h
      rfl
    · exact honce h
  case h_2 | h_3 | h_4 => exact honce h
  case h_5 | h_6 => cases h
  case h_7 => cases h; rfl

theorem Reads.eq_misuse (h : Reads words gs) {e : ArgumentsError} (he : a.addAll words = .error e) :
    e = .misuse := by
  induction h generalizing a with
  | nil => cases he
  | stop => cases he
  | @cons g _ _ hg _ ih =>
    rw [addAll_words hg, bind_eq_error_iff] at he
    rcases he with he | ⟨b, _, he⟩
    · cases g with
      | attached name value => exact set_eq_misuse he
      | apart name value => exact set_eq_misuse he
      | submit =>
        rw [take] at he
        split at he <;> cases he
        rfl
    · exact ih he

theorem exists_reads (h : a.addAll words = .ok a') : ∃ gs, Reads words gs := by
  fun_induction addAll a words with
  | case1 => exact ⟨_, .nil⟩
  | case2 => exact ⟨_, .stop⟩
  | case4 a words _ ih =>
    obtain ⟨gs, hr⟩ := ih h
    exact ⟨_, .cons (g := .submit) trivial hr⟩
  | case6 a s words _ _ _ name value hs ih =>
    obtain ⟨b, hb, h⟩ := bind_eq_ok_iff.mp h
    obtain ⟨rfl, _⟩ := attached?_eq_some_iff.mp hs
    obtain ⟨gs, hr⟩ := ih b h
    exact ⟨_, .cons (g := .attached name value) (held_set hb).1 hr⟩
  | case7 a name _ _ _ value words hv _ ih =>
    obtain ⟨b, hb, h⟩ := bind_eq_ok_iff.mp h
    obtain ⟨gs, hr⟩ := ih b h
    exact ⟨_, .cons (g := .apart name value) ⟨(held_set hb).1, hv⟩ hr⟩
  | case3 | case5 | case8 | case9 => cases h

theorem adds_empty_iff :
    Adds {} gs a ↔ (∀ n, a.held n = Given.values gs n) ∧ a.submit.toNat = gs.count .submit := by
  have hempty (n : String) : held {} n = [] := by
    unfold held
    split <;> rfl
  constructor
  · intro h
    refine ⟨fun n => ?_, h.submit.trans (Nat.zero_add _)⟩
    rw [h.held, hempty, List.nil_append]
  · exact fun ⟨hh, hs⟩ => ⟨fun n => by rw [hempty]; exact hh n, hs.trans (Nat.zero_add _).symm⟩

/-- Arguments are accepted if they can be read as options that take these values and if none of the
options that may be given once is given twice. Then each option has all its values, in order. -/
theorem parse_eq_ok_iff :
    parse words = .ok a ↔ ∃ gs, Reads words gs ∧
      (∀ n, a.held n = Given.values gs n) ∧ a.submit.toNat = gs.count .submit := by
  simp only [← adds_empty_iff]
  constructor
  · intro h
    obtain ⟨gs, hr⟩ := exists_reads h
    exact ⟨gs, hr, hr.addAll_eq_ok_iff.mp h⟩
  · rintro ⟨gs, hr, ha⟩
    exact hr.addAll_eq_ok_iff.mpr ha

/-- The order of different options does not matter, nor how their values are given. -/
theorem parse_congr (h : Reads words gs) (h' : Reads words' gs')
    (hv : ∀ n, Given.values gs n = Given.values gs' n)
    (hs : gs.count .submit = gs'.count .submit) : parse words = parse words' := by
  have hiff (a : Arguments) : parse words = .ok a ↔ parse words' = .ok a := by
    rw [parse, h.addAll_eq_ok_iff, adds_empty_iff, parse, h'.addAll_eq_ok_iff, adds_empty_iff, hs]
    simp only [hv]
  cases hp : parse words with
  | ok a => exact ((hiff a).mp hp).symm
  | error e =>
    cases hp' : parse words' with
    | ok a => exact hp.symm.trans ((hiff a).mpr hp')
    | error e' => rw [h.eq_misuse hp, h'.eq_misuse hp']

example : parse ["--subscribe", "a", "--catalog=a,b", "--unsubscribe=-", "--subscribe=b"] =
    parse ["--unsubscribe", "-", "--subscribe=a", "--subscribe", "b", "--catalog", "a,b"] := by
  decide +kernel

end Arguments

theorem Invocation.run_congr (i : Invocation) {gs gs' : List Given} {words words' : List String}
    (h : Arguments.Reads words gs) (h' : Arguments.Reads words' gs')
    (hv : ∀ n, Given.values gs n = Given.values gs' n)
    (hs : gs.count .submit = gs'.count .submit) (arrivals : List Arrival) :
    { i with arguments := words }.run arrivals = { i with arguments := words' }.run arrivals := by
  rw [run, run, Arguments.parse_congr h h' hv hs]
  rfl

end MailPrefs
