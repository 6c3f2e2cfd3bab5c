import Mathlib.Data.List.Induction
import MailPrefs.Observable.Hub

namespace MailPrefs

namespace Hub

variable {α : Type}

inductive Watcher where
  | receiver (index : Nat)
  | stream (index : Nat)
deriving DecidableEq

def Action.watcher? : Action α → Option Watcher
  | .hasChanged i | .read i => some (.receiver i)
  | .next i => some (.stream i)
  | _ => none

abbrev Exchange (α : Type) := Action α × Answer α

namespace Exchange

def written? : Exchange α → Option α
  | (.set v, .done) => some v
  | (.update v _, .flag _) => some v
  | _ => none

def tells : Exchange α → Bool
  | (.set _, .done) => true
  | (.update _ told, .flag _) => told
  | _ => false

def opens : Exchange α → Watcher → Bool
  | (.subscribe, .number i), x => x = .receiver i
  | (.stream, .number i), x => x = .stream i
  | _, _ => false

def shows : Exchange α → Watcher → Bool
  | (.read i, .value _), x => x = .receiver i
  | (.next i, .item _), x => x = .stream i
  | _, _ => false

def handles : Exchange α → Nat → Nat
  | (.clone, .done), n => n + 1
  | (.close, .done), n => n - 1
  | _, n => n

end Exchange

variable {v : α} {past : List (Exchange α)} {e : Exchange α} {x : Watcher} {h h' : Hub α}

/-- The value that the last write left, whether or not anyone was told of it. -/
def latest (v : α) (past : List (Exchange α)) : α :=
  (past.filterMap Exchange.written?).getLast?.getD v

def handlesLeft (past : List (Exchange α)) : Nat :=
  past.foldl (fun n e => e.handles n) 1

def Opened (past : List (Exchange α)) (x : Watcher) : Prop :=
  ∃ e ∈ past, e.opens x = true

/-- Watchers were told of a write after this one was made and last showed the value. -/
def HasNews (past : List (Exchange α)) (x : Watcher) : Prop :=
  ∃ before e after, past = before ++ e :: after ∧ e.tells = true ∧ Opened before x ∧
    ∀ e' ∈ after, e'.shows x = false

theorem latest_concat (v : α) (past : List (Exchange α)) (e : Exchange α) :
    latest v (past ++ [e]) = e.written?.getD (latest v past) := by
  rw [latest, List.filterMap_append]
  cases he : e.written? with
  | none => rw [List.filterMap_cons_none he, List.filterMap_nil, List.append_nil]; rfl
  | some w => rw [List.filterMap_cons_some he, List.filterMap_nil, List.getLast?_concat]; rfl

theorem handlesLeft_concat (past : List (Exchange α)) (e : Exchange α) :
    handlesLeft (past ++ [e]) = e.handles (handlesLeft past) := by
  rw [handlesLeft, List.foldl_append]
  rfl

theorem opened_concat : Opened (past ++ [e]) x ↔ Opened past x ∨ e.opens x = true := by
  simp only [Opened, List.mem_append, List.mem_singleton, or_and_right, exists_or, exists_eq_left]

theorem HasNews.opened (hn : HasNews past x) : Opened past x := by
  obtain ⟨before, e, after, rfl, _, ⟨e', hm, ho⟩, _⟩ := hn
  exact ⟨e', List.mem_append_left _ hm, ho⟩

theorem hasNews_concat :
    HasNews (past ++ [e]) x ↔
      (e.tells = true ∧ Opened past x) ∨ (HasNews past x ∧ e.shows x = false) := by
  constructor
  · rintro ⟨before, w, after, hp, ht, ho, hs⟩
    rcases List.eq_nil_or_concat after with rfl | ⟨after, last, rfl⟩
    · obtain ⟨rfl, he⟩ := List.append_inj' hp rfl
      cases he
      exact .inl ⟨ht, ho⟩
    · rw [List.concat_eq_append] at hp hs
      rw [← List.cons_append, ← List.append_assoc] at hp
      obtain ⟨rfl, he⟩ := List.append_inj' hp rfl
      cases he
      refine .inr ⟨⟨before, w, after, rfl, ht, ho, fun e' hm => hs e' ?_⟩, hs e ?_⟩
      · exact List.mem_append_left _ hm
      · exact List.mem_append_right _ (List.mem_singleton.mpr rfl)
  · rintro (⟨ht, ho⟩ | ⟨⟨before, w, after, rfl, ht, ho, hs⟩, he⟩)
    · exact ⟨past, e, [], rfl, ht, ho, nofun⟩
    · refine ⟨before, w, after ++ [e], by simp, ht, ho, fun e' hm => ?_⟩
      rcases List.mem_append.mp hm with hm | hm
      · exact hs e' hm
      · rw [List.mem_singleton.mp hm]
        exact he

def watch? (h : Hub α) : Watcher → Option Watch
  | .receiver i => h.receivers[i]?
  | .stream i => h.streams[i]?

/-- What an exchange does to a hub. A watcher that is made or shows the value has
seen all of it, and all others are left alone. -/
structure Does (h : Hub α) (e : Exchange α) (h' : Hub α) : Prop where
  value : h'.observable.value = e.written?.getD h.observable.value
  version : h'.observable.version = h.observable.version + e.tells.toNat
  handles : h'.handles = e.handles h.handles
  watch : ∀ x, h'.watch? x =
    if e.opens x || e.shows x then some (.start h'.observable) else h.watch? x
  opens : ∀ x, e.opens x = true → h.watch? x = none
  shows : ∀ x, e.shows x = true → (h.watch? x).isSome

theorem Does.refl (hw : e.written? = none) (ht : e.tells = false)
    (hh : e.handles h.handles = h.handles) (ho : ∀ x, e.opens x = false)
    (hs : ∀ x, e.shows x = false) : h.Does e h := by
  refine ⟨?_, ?_, hh.symm, fun x => ?_, fun x hx => ?_, fun x hx => ?_⟩
  · rw [hw, Option.getD_none]
  · rw [ht, Bool.toNat_false, Nat.add_zero]
  · rw [ho, hs, Bool.or_self, if_neg Bool.false_ne_true]
  · rw [ho] at hx
    cases hx
  · rw [hs] at hx
    cases hx

theorem Does.gone (h : Hub α) (a : Action α) : h.Does (a, .gone) h := by
  cases a <;> exact .refl rfl rfl rfl (fun _ => rfl) fun _ => rfl

theorem getElem?_concat (ws : List Watch) (w : Watch) (i : Nat) :
    (ws ++ [w])[i]? = if i = ws.length then some w else ws[i]? := by
  split
  · next hi => rw [hi, List.getElem?_concat_length]
  · next hi =>
    rcases Nat.lt_or_gt_of_ne hi with hlt | hgt
    · exact List.getElem?_append_left hlt
    · have hle : (ws ++ [w]).length ≤ i := List.length_append ▸ hgt
      rw [List.getElem?_eq_none hle, List.getElem?_eq_none (Nat.le_of_lt hgt)]

theorem getElem?_set_of_some {ws : List Watch} {i : Nat} {w : Watch} (hi : ws[i]? = some w)
    (w' : Watch) (j : Nat) : (ws.set i w')[j]? = if j = i then some w' else ws[j]? := by
  obtain ⟨hlt, _⟩ := List.getElem?_eq_some_iff.mp hi
  rw [List.getElem?_set, if_pos hlt]
  simp only [eq_comm]

theorem watch?_subscribe (h : Hub α) (w : Watch) (x : Watcher) :
    { h with receivers := h.receivers ++ [w] }.watch? x =
      if x = .receiver h.receivers.length then some w else h.watch? x := by
  cases x with
  | receiver i => simp only [watch?, getElem?_concat, Watcher.receiver.injEq]
  | stream i => rfl

theorem watch?_stream (h : Hub α) (w : Watch) (x : Watcher) :
    { h with streams := h.streams ++ [w] }.watch? x =
      if x = .stream h.streams.length then some w else h.watch? x := by
  cases x with
  | receiver i => rfl
  | stream i => simp only [watch?, getElem?_concat, Watcher.stream.injEq]

theorem watch?_read {i : Nat} {w : Watch} (hi : h.receivers[i]? = some w) (w' : Watch)
    (x : Watcher) :
    { h with receivers := h.receivers.set i w' }.watch? x =
      if x = .receiver i then some w' else h.watch? x := by
  cases x with
  | receiver j => simp only [watch?, getElem?_set_of_some hi, Watcher.receiver.injEq]
  | stream j => rfl

theorem watch?_next {i : Nat} {w : Watch} (hi : h.streams[i]? = some w) (w' : Watch)
    (x : Watcher) :
    { h with streams := h.streams.set i w' }.watch? x =
      if x = .stream i then some w' else h.watch? x := by
  cases x with
  | receiver j => rfl
  | stream j => simp only [watch?, getElem?_set_of_some hi, Watcher.stream.injEq]

theorem does_actOpen (h : Hub α) (a : Action α) : h.Does (a, (h.actOpen a).1) (h.actOpen a).2 := by
  cases a with
  | set w => exact ⟨rfl, rfl, rfl, fun _ => rfl, nofun, nofun⟩
  | update w told =>
    refine ⟨rfl, ?_, rfl, fun _ => rfl, nofun, nofun⟩
    cases told <;> rfl
  | subscribe =>
    refine ⟨rfl, rfl, rfl, fun x => ?_, fun x hx => ?_, nofun⟩
    · simp only [actOpen, watch?_subscribe, Exchange.opens, Exchange.shows, Bool.or_false,
        decide_eq_true_eq]
    · rw [of_decide_eq_true hx]
      exact List.getElem?_eq_none (Nat.le_refl _)
  | stream =>
    refine ⟨rfl, rfl, rfl, fun x => ?_, fun x hx => ?_, nofun⟩
    · simp only [actOpen, watch?_stream, Exchange.opens, Exchange.shows, Bool.or_false,
        decide_eq_true_eq]
    · rw [of_decide_eq_true hx]
      exact List.getElem?_eq_none (Nat.le_refl _)
  | clone => exact ⟨rfl, rfl, rfl, fun _ => rfl, nofun, nofun⟩
  | get | hasChanged | read | next | close => exact .refl rfl rfl rfl (fun _ => rfl) fun _ => rfl

theorem does_shared (h : Hub α) (a : Action α) :
    h.Does (a, (if h.isOpen then h.actOpen a else (.gone, h)).1)
      (if h.isOpen then h.actOpen a else (.gone, h)).2 := by
  split
  · exact does_actOpen h a
  · exact .gone h a

theorem does_act (h : Hub α) (a : Action α) : h.Does (a, (h.act a).1) (h.act a).2 := by
  cases a with
  | hasChanged i =>
    rw [act]
    split
    · exact .refl rfl rfl rfl (fun _ => rfl) fun _ => rfl
    · split <;> exact .refl rfl rfl rfl (fun _ => rfl) fun _ => rfl
  | read i =>
    rw [act]
    split
    · exact .refl rfl rfl rfl (fun _ => rfl) fun _ => rfl
    · next w hw =>
      refine ⟨rfl, rfl, rfl, fun x => ?_, nofun, fun x hx => ?_⟩
      · simp only [watch?_read hw, Exchange.opens, Exchange.shows, Bool.false_or,
          decide_eq_true_eq]
      · rw [of_decide_eq_true hx]
        exact Option.isSome_of_eq_some hw
  | next i =>
    rw [act]
    split
    · exact .refl rfl rfl rfl (fun _ => rfl) fun _ => rfl
    · next w hw =>
      split
      · next v w' hp =>
        have hw' : w' = .start h.observable := (congrArg Prod.snd hp).symm
        refine ⟨rfl, rfl, rfl, fun x => ?_, nofun, fun x hx => ?_⟩
        · simp only [watch?_next hw, Exchange.opens, Exchange.shows, Bool.false_or,
            decide_eq_true_eq, hw']
        · rw [of_decide_eq_true hx]
          exact Option.isSome_of_eq_some hw
      · split <;> exact .refl rfl rfl rfl (fun _ => rfl) fun _ => rfl
  | close => exact ⟨rfl, rfl, rfl, fun _ => rfl, nofun, nofun⟩
  | get | set | update | subscribe | stream | clone =>
    exact does_shared h _

theorem Exchange.opens_of_tells (ht : e.tells = true) (x : Watcher) : e.opens x = false := by
  obtain ⟨a, r⟩ := e
  cases a <;> cases r <;> first | rfl | cases ht

theorem Exchange.shows_of_tells (ht : e.tells = true) (x : Watcher) : e.shows x = false := by
  obtain ⟨a, r⟩ := e
  cases a <;> cases r <;> first | rfl | cases ht

/-- A hub agrees with the exchanges that led to it. -/
structure Reflects (v : α) (past : List (Exchange α)) (h : Hub α) : Prop where
  value : h.observable.value = latest v past
  handles : h.handles = handlesLeft past
  opened : ∀ x, (h.watch? x).isSome ↔ Opened past x
  seen_le : ∀ x w, h.watch? x = some w → w.seen ≤ h.observable.version
  news : ∀ x w, h.watch? x = some w → (w.hasChanged h.observable = true ↔ HasNews past x)

theorem reflects_new (v : α) : (new v).Reflects v [] := by
  have hnone (x : Watcher) : (new v).watch? x = none := by cases x <;> rfl
  refine ⟨rfl, rfl, fun x => ?_, fun x w hw => ?_, fun x w hw => ?_⟩
  · rw [hnone]
    exact iff_of_false nofun nofun
  · rw [hnone] at hw
    cases hw
  · rw [hnone] at hw
    cases hw

theorem Reflects.no_news (hr : h.Reflects v past) (hd : h.Does e h')
    (hx : (e.opens x || e.shows x) = true) : ¬HasNews (past ++ [e]) x := by
  rw [hasNews_concat]
  rintro (⟨ht, _⟩ | ⟨hn, hs⟩)
  · rw [e.opens_of_tells ht, e.shows_of_tells ht] at hx
    cases hx
  · rw [hs, Bool.or_false] at hx
    have ho := (hr.opened x).mpr hn.opened
    rw [hd.opens x hx] at ho
    cases ho

theorem Reflects.step (hr : h.Reflects v past) (hd : h.Does e h') :
    h'.Reflects v (past ++ [e]) := by
  refine ⟨?_, ?_, fun x => ?_, fun x w hw => ?_, fun x w hw => ?_⟩
  · rw [hd.value, hr.value, latest_concat]
  · rw [hd.handles, hr.handles, handlesLeft_concat]
  · rw [hd.watch, opened_concat, ← hr.opened]
    split
    · next hx =>
      refine iff_of_true rfl ?_
      rcases Bool.or_eq_true_iff.mp hx with ho | hs
      · exact .inr ho
      · exact .inl (hd.shows x hs)
    · next hx =>
      have ho : ¬e.opens x = true := fun ho => hx (by rw [ho, Bool.true_or])
      exact (or_iff_left ho).symm
  · rw [hd.watch] at hw
    split at hw
    · cases hw
      exact Nat.le_refl _
    · exact Nat.le_trans (hr.seen_le x w hw) (hd.version ▸ Nat.le_add_right _ _)
  · rw [hd.watch] at hw
    split at hw
    · next hx =>
      cases hw
      rw [Watch.hasChanged_eq_true]
      exact iff_of_false (fun hne => hne rfl) (hr.no_news hd hx)
    · next hx =>
      have hs : e.shows x = false := by
        cases hs : e.shows x
        · rfl
        · exact absurd (by rw [hs, Bool.or_true]) hx
      have ho : Opened past x := (hr.opened x).mp (Option.isSome_of_eq_some hw)
      have hle := hr.seen_le x w hw
      have hn := hr.news x w hw
      rw [hasNews_concat]
      cases ht : e.tells with
      | true =>
        -- It has seen no more than what was there before this write.
        have hv := hd.version
        rw [ht, Bool.toNat_true] at hv
        refine iff_of_true ?_ (.inl ⟨rfl, ho⟩)
        rw [Watch.hasChanged_eq_true, hv]
        exact Nat.ne_of_lt (Nat.lt_succ_of_le hle)
      | false =>
        have hv := hd.version
        rw [ht, Bool.toNat_false, Nat.add_zero] at hv
        have hc : w.hasChanged h'.observable = w.hasChanged h.observable := by
          rw [Watch.hasChanged, Watch.hasChanged, hv]
        rw [hc, hn]
        simp [hs]

def exchanges (h : Hub α) (as : List (Action α)) : List (Exchange α) :=
  as.zip (h.run as).1

theorem exchanges_cons (h : Hub α) (a : Action α) (as : List (Action α)) :
    h.exchanges (a :: as) = (a, (h.act a).1) :: (h.act a).2.exchanges as := rfl

theorem run_cons (h : Hub α) (a : Action α) (as : List (Action α)) :
    (h.run (a :: as)).2 = ((h.act a).2.run as).2 := rfl

/-- Whatever led to a hub, a run from it leads to one that agrees with all of that. -/
theorem Reflects.run (hr : h.Reflects v past) (as : List (Action α)) :
    (h.run as).2.Reflects v (past ++ h.exchanges as) := by
  induction as generalizing h past with
  | nil =>
    have hnil : h.exchanges [] = [] := rfl
    rw [hnil, List.append_nil]
    exact hr
  | cons a as ih =>
    rw [run_cons, exchanges_cons, ← List.singleton_append, ← List.append_assoc]
    exact ih (hr.step (does_act h a))

end Hub

end MailPrefs
