import MailPrefs.Proofs.Session.Halves
import MailPrefs.Proofs.Session.Waiting

namespace MailPrefs.Session

variable {side : Side} {s s' t t' : Session} {job : Job} {jobs : List Job}

theorem outline_ready (h : s.ready = job :: jobs) (hj : job.concerns side = true) :
    (s.outline side).ready = job :: jobs.filter (Job.concerns side) := by
  rw [outline, h, List.filter_cons_of_pos hj]

theorem outline_turn (h : s.ready = job :: jobs) (hj : job.concerns side = false) :
    s.turn.outline side = s.outline side := by
  have hr : ({ s with ready := jobs } : Session).outline side = s.outline side := by
    simp only [outline, h]
    rw [List.filter_cons_of_neg (by rw [hj]; exact Bool.false_ne_true)]
    rfl
  rw [turn_of_ready h, outline_runJob _ hj, hr]

theorem outline_turns (h : (s.outline side).ready = []) (n : Nat) :
    (turns n s).outline side = s.outline side := by
  induction n generalizing s with
  | zero => rfl
  | succ n ih =>
    have ht : s.turn.outline side = s.outline side := by
      cases hr : s.ready with
      | nil => rw [turn_of_rest hr]
      | cons job jobs =>
        refine outline_turn hr ?_
        cases hj : job.concerns side with
        | false => rfl
        | true =>
          rw [outline_ready hr hj] at h
          cases h
    rw [turns, ih (by rw [ht, h]), ht]

/-- Either nothing is left to do, or what is next matters. -/
def Poised (side : Side) (s : Session) : Prop :=
  s.ready = [] ∨ ∃ job jobs, s.ready = job :: jobs ∧ job.concerns side = true

/-- A session gets poised with no more than what does not matter to the half. -/
theorem exists_poised (side : Side) (s : Session) :
    ∃ t : Session, t.Poised side ∧ t.settle = s.settle ∧ t.Shares side s ∧
      t.remaining ≤ s.remaining := by
  -- Every turn that is passed over takes something off what remains.
  induction h : s.remaining using Nat.strongRecOn generalizing s with
  | ind n ih =>
    subst h
    cases hr : s.ready with
    | nil => exact ⟨s, .inl hr, rfl, ⟨rfl, rfl⟩, Nat.le_refl _⟩
    | cons job jobs =>
      cases hj : job.concerns side with
      | true => exact ⟨s, .inr ⟨job, jobs, hr, hj⟩, rfl, ⟨rfl, rfl⟩, Nat.le_refl _⟩
      | false =>
        have hlt : s.turn.remaining < s.remaining := remaining_turn_lt (by simp [hr])
        obtain ⟨t, hp, hs, ho, hle⟩ := ih _ hlt s.turn rfl
        refine ⟨t, hp, hs.trans s.settle_turn, ⟨ho.outline.trans (outline_turn hr hj), ?_⟩,
          Nat.le_trans hle (Nat.le_of_lt hlt)⟩
        exact ho.now.trans (turns_now 1 s)

theorem Poised.rest (h : s.Poised side) (hr : (s.outline side).ready = []) : s.ready = [] := by
  rcases h with h | ⟨job, jobs, h, hj⟩
  · exact h
  · rw [outline_ready h hj] at hr
    cases hr

namespace Shares

theorem symm (h : s.Shares side s') : s'.Shares side s := ⟨h.outline.symm, h.now.symm⟩

theorem trans {s'' : Session} (h : s.Shares side s') (h' : s'.Shares side s'') :
    s.Shares side s'' :=
  ⟨h.outline.trans h'.outline, h.now.trans h'.now⟩

theorem turn (h : s.Shares side s') (hp : s.Poised side) (hp' : s'.Poised side)
    (hr : s.ready ≠ []) : s.turn.Shares side s'.turn := by
  rcases hp with hp | ⟨job, jobs, hp, hj⟩
  · exact absurd hp hr
  · have ho := congrArg Outline.ready h.outline
    rw [outline_ready hp hj] at ho
    rcases hp' with hp' | ⟨job', jobs', hp', hj'⟩
    · rw [Session.outline, hp'] at ho
      cases ho
    · rw [outline_ready hp' hj', List.cons.injEq] at ho
      obtain ⟨rfl, hjobs⟩ := ho
      have hs : ({ s with ready := jobs } : Session).Shares side { s' with ready := jobs' } := by
        refine ⟨?_, h.now⟩
        have ht : ({ s.outline side with ready := jobs.filter (Job.concerns side) } : Outline) =
            { s'.outline side with ready := jobs'.filter (Job.concerns side) } := by
          rw [h.outline, hjobs]
        exact ht
      rw [turn_of_ready hp, turn_of_ready hp']
      exact hs.runJob hj

theorem settle (h : s.Shares side s') : s.settle.Shares side s'.settle := by
  -- Counted down in `s` alone: once both are poised, `s'` has the same next turn or none.
  induction hn : s.remaining using Nat.strongRecOn generalizing s s' with
  | ind n ih =>
    subst hn
    obtain ⟨t, hp, ht, ho, hle⟩ := exists_poised side s
    obtain ⟨t', hp', ht', ho', _⟩ := exists_poised side s'
    have hs := (ho.trans h).trans ho'.symm
    rw [← ht, ← ht']
    by_cases hr : t.ready = []
    · have hr' : t'.ready = [] := by
        apply hp'.rest
        rw [← hs.outline, Session.outline, hr]
        rfl
      rw [settle_of_rest hr, settle_of_rest hr']
      exact hs
    · rw [← t.settle_turn, ← t'.settle_turn]
      exact ih _ (Nat.lt_of_lt_of_le (remaining_turn_lt hr) hle) (hs.turn hp hp' hr) rfl

end Shares

theorem filter_comm {α : Type} (p q : α → Bool) (l : List α) :
    (l.filter p).filter q = (l.filter q).filter p := by
  rw [List.filter_filter, List.filter_filter]
  exact congrArg (List.filter · l) (funext fun a => Bool.and_comm _ _)

theorem outline_tick (s : Session) (time : Nat) :
    (s.tick time).outline side = (s.outline side).tick time := by
  have hj (zs : List Sleeper) : (zs.map (·.job)).filter (Job.concerns side) =
      (zs.filter (·.job.concerns side)).map (·.job) := List.filter_map
  simp only [outline, tick, Outline.tick, List.filter_append, filter_comm _ (Job.concerns side), hj,
    filter_comm _ fun z : Sleeper => z.job.concerns side]
  rfl

theorem Shares.tick (h : s.outline side = s'.outline side) (time : Nat) :
    (s.tick time).Shares side (s'.tick time) :=
  ⟨by rw [outline_tick, outline_tick, h], rfl⟩

variable (side) in
theorem dueCallers_eq (s : Session) (time : Nat) :
    s.dueCallers time =
      (((s.outline side).sleeping.filter (·.due ≤ time)).map (·.job)).filter Job.isCallers := by
  have hc (z : Sleeper) (h : z.job.isCallers = true) : z.job.concerns side = true :=
    Job.concerns_of_callers h
  simp only [dueCallers, outline, List.filter_map, List.filter_filter]
  congr 1
  apply List.filter_congr
  intro z _
  cases h : z.job.isCallers with
  | false => simp only [Function.comp_apply, h, Bool.false_and]
  | true => simp only [Function.comp_apply, h, hc z h, Bool.and_true]

namespace Shares

theorem turns_callers {later later' : List Job} (h : s.Shares side s')
    (hr : s.ready = jobs ++ later) (hr' : s'.ready = jobs ++ later')
    (hc : ∀ job ∈ jobs, job.isCallers = true) :
    (turns jobs.length s).Shares side (turns jobs.length s') := by
  induction jobs generalizing s s' later later' with
  | nil => exact h
  | cons job jobs ih =>
    have hj := hc job List.mem_cons_self
    have hp : s.Poised side := .inr ⟨job, _, hr, Job.concerns_of_callers hj⟩
    have hp' : s'.Poised side := .inr ⟨job, _, hr', Job.concerns_of_callers hj⟩
    obtain ⟨more, hm⟩ := ready_turn hr hj
    obtain ⟨more', hm'⟩ := ready_turn hr' hj
    refine ih (h.turn hp hp' (by simp [hr])) (hm.trans (List.append_assoc ..))
      (hm'.trans (List.append_assoc ..)) fun job hj => hc job (List.mem_cons_of_mem _ hj)

theorem wake (h : s.outline side = s'.outline side) (time : Nat) :
    (s.wake time).Shares side (s'.wake time) := by
  have hd : s.dueCallers time = s'.dueCallers time := by
    rw [dueCallers_eq side, dueCallers_eq side, h]
  obtain ⟨later, hl⟩ := s.tick_ready time
  obtain ⟨later', hl'⟩ := s'.tick_ready time
  rw [wake_eq, wake_eq, ← hd]
  rw [← hd] at hl'
  exact (Shares.tick h time).turns_callers hl hl' fun job hj => (List.mem_filter.mp hj).2

end Shares

theorem outline_wake {time : Nat} (hr : s.ready = [])
    (hq : ∀ z ∈ s.sleeping, z.due ≤ time → z.job.concerns side = false) (n : Nat) :
    (turns n (s.wake time)).outline side = s.outline side := by
  have ht : (s.tick time).outline side = s.outline side := by
    rw [outline_tick]
    apply Outline.tick_of_later
    intro z hz
    obtain ⟨hz, hj⟩ := List.mem_filter.mp hz
    by_contra hle
    rw [hq z hz (Nat.not_lt.mp hle)] at hj
    cases hj
  have hnil : ((s.tick time).outline side).ready = [] := by
    rw [ht, outline, hr]
    rfl
  rw [wake_eq, ← turns_add, outline_turns hnil, ht]

/-- Wakings that do not matter to a half, none of them past a limit if there is one. -/
inductive Dozes (side : Side) (limit : Option Nat) : Session → Session → Prop where
  | still (s : Session) : Dozes side limit s s
  | wake {s t : Session} {time : Nat} (hr : s.ready = []) (hw : s.nextWake? = some time)
      (hl : ∀ last ∈ limit, time ≤ last)
      (hq : ∀ z ∈ s.sleeping, z.due ≤ time → z.job.concerns side = false)
      (h : Dozes side limit (s.wake time).settle t) : Dozes side limit s t

/-- The next waking matters, unless it is past the limit. -/
def Awake (side : Side) (limit : Option Nat) (s : Session) : Prop :=
  ∀ time, s.nextWake? = some time → (∀ last ∈ limit, time ≤ last) →
    ∃ z ∈ s.sleeping, z.due = time ∧ z.job.concerns side = true

theorem exists_dozes (side : Side) (limit : Option Nat) (hr : s.ready = []) :
    ∃ t, s.Dozes side limit t ∧ t.Awake side limit := by
  induction hn : s.remaining using Nat.strongRecOn generalizing s with
  | ind n ih =>
    subst hn
    by_cases ha : s.Awake side limit
    · exact ⟨s, .still s, ha⟩
    · simp only [Awake, not_forall, not_exists, not_and] at ha
      obtain ⟨time, hw, hl, hq⟩ := ha
      obtain ⟨t, ht, ha⟩ := ih _ (remaining_wake_settle_lt hw) (settle_rest _) rfl
      refine ⟨t, .wake hr hw hl ?_ ht, ha⟩
      intro z hz hle
      have hd : z.due = time := Nat.le_antisymm hle ((nextWake?_eq_some hw).2 z hz)
      exact Bool.eq_false_iff.mpr (hq z hz hd)

section Dozing

variable {limit : Option Nat} {owner : Owner} {before before' : List Event} {time : Nat}

theorem Dozes.outline (h : s.Dozes side limit t) : t.outline side = s.outline side := by
  induction h with
  | still => rfl
  | wake hr _ _ hq _ ih => exact ih.trans (outline_wake hr hq _)

theorem Dozes.rest (h : s.Dozes side limit t) (hr : s.ready = []) : t.ready = [] := by
  induction h with
  | still => exact hr
  | wake _ _ _ _ _ ih => exact ih (settle_rest _)

theorem Dozes.remaining_le (h : s.Dozes side limit t) : t.remaining ≤ s.remaining := by
  induction h with
  | still => exact Nat.le_refl _
  | wake _ hw _ _ _ ih => exact Nat.le_trans ih (Nat.le_of_lt (remaining_wake_settle_lt hw))

theorem Dozes.trace (h : s.Dozes side limit t) : s.trace <+: t.trace := by
  induction h with
  | still => exact List.prefix_rfl
  | @wake s t time _ _ _ _ _ ih =>
    exact ((turns_trace _ (s.tick time)).trans (turns_trace _ (s.wake time))).trans ih

variable (side) in
theorem result?_told (h : before <+: s.trace) :
    s.result? owner before.length =
      (((s.outline side).told.drop (before.filterMap Event.outcome?).length).find?
        (·.1 = owner)).map Prod.snd := by
  obtain ⟨events, ht⟩ := h
  rw [result?_eq, outline, toldAfter, toldAfter, ← ht, List.drop_zero, List.filterMap_append,
    List.drop_left, List.drop_left]

theorem result?_eq_of_outline (h : s.outline side = s'.outline side) (hp : before <+: s.trace)
    (hp' : before' <+: s'.trace)
    (hb : before.filterMap Event.outcome? = before'.filterMap Event.outcome?) :
    s.result? owner before.length = s'.result? owner before'.length := by
  rw [result?_told side hp, result?_told side hp', h, hb]

/-- Who waits for something that matters sleeps through all that does not. -/
theorem Dozes.await (h : s.Dozes side limit t) (hp : before <+: s.trace)
    (hn : (s.result? owner before.length).isSome = false) :
    s.await owner before.length = t.await owner before.length := by
  induction h with
  | still => rfl
  | @wake s t time hr hw hl hq h ih =>
    have hw' : s.Dozes side none (s.wake time).settle :=
      .wake hr hw nofun hq (.still _)
    have hpw : before <+: (s.wake time).trace := hp.trans (turns_trace _ (s.tick time))
    have hnw : ((s.wake time).result? owner before.length).isSome = false := by
      have how : (s.wake time).outline side = s.outline side := outline_wake hr hq 0
      rw [← hn, result?_eq_of_outline how hpw hp rfl]
    have hns : ((s.wake time).settle.result? owner before.length).isSome = false := by
      rw [← hn, result?_eq_of_outline hw'.outline (hp.trans hw'.trace) hp rfl]
    rw [await_wake hn hr hw, await_settle hnw, ih (hp.trans hw'.trace) hns]

theorem Dozes.pass (h : s.Dozes side (some time) t) : s.pass time = t.pass time := by
  induction h with
  | still => rfl
  | wake _ hw hl _ _ ih => rw [pass_wake hw (hl time rfl), ih]

theorem nextWake?_eq_of_awake {next : Nat} (h : s.outline side = s'.outline side)
    (ha : s.Awake side limit) (ha' : s'.Awake side limit) (hw : s.nextWake? = some next)
    (hl : ∀ last ∈ limit, next ≤ last) : s'.nextWake? = some next := by
  have hmem {s s' : Session} {z : Sleeper} (h : s.outline side = s'.outline side)
      (hz : z ∈ s.sleeping) (hj : z.job.concerns side = true) : z ∈ s'.sleeping := by
    have hf : z ∈ (s.outline side).sleeping := List.mem_filter.mpr ⟨hz, hj⟩
    rw [h] at hf
    exact (List.mem_filter.mp hf).1
  obtain ⟨z, hz, rfl, hj⟩ := ha next hw hl
  have hz' := hmem h hz hj
  cases hw' : s'.nextWake? with
  | none =>
    rw [nextWake?_eq_none.mp hw'] at hz'
    cases hz'
  | some next' =>
    have hle := (nextWake?_eq_some hw').2 z hz'
    obtain ⟨z', hz', rfl, hj'⟩ := ha' next' hw' fun last hm => Nat.le_trans hle (hl last hm)
    rw [Nat.le_antisymm hle ((nextWake?_eq_some hw).2 z' (hmem h.symm hz' hj'))]

/-- Two sessions go on from where as much was told in both. -/
structure Since (before before' : List Event) (s s' : Session) : Prop where
  left : before <+: s.trace
  right : before' <+: s'.trace
  told : before.filterMap Event.outcome? = before'.filterMap Event.outcome?

theorem Since.mono (h : Since before before' s s') (ht : s.trace <+: t.trace)
    (ht' : s'.trace <+: t'.trace) : Since before before' t t' :=
  ⟨h.left.trans ht, h.right.trans ht', h.told⟩

theorem Since.result? (h : Since before before' s s') (ho : s.outline side = s'.outline side)
    (owner : Owner) : s'.result? owner before'.length = s.result? owner before.length :=
  result?_eq_of_outline ho.symm h.right h.left h.told.symm

/-- Whoever is going to be told something in the one session
sleeps in both until the next waking that matters. -/
theorem Since.await_wake (h : Since before before' s s') (ho : s.outline side = s'.outline side)
    (hr : s.ready = []) (hr' : s'.ready = [])
    (hn : (s.result? owner before.length).isSome = false)
    (hsome : ((s.await owner before.length).result? owner before.length).isSome = true) :
    ∃ t t' : Session, t.Shares side t' ∧ Since before before' t t' ∧
      s.await owner before.length = t.await owner before.length ∧
      s'.await owner before'.length = t'.await owner before'.length ∧
      t.settle.remaining < s.remaining := by
  obtain ⟨t, ht, ha⟩ := exists_dozes side none hr
  obtain ⟨t', ht', ha'⟩ := exists_dozes side none hr'
  have hot : t.outline side = t'.outline side := by rw [ht.outline, ht'.outline, ho]
  have hst := h.mono ht.trace ht'.trace
  have hnt : (t.result? owner before.length).isSome = false := by
    rw [result?_eq_of_outline ht.outline hst.left h.left rfl, hn]
  rw [ht.await h.left hn] at hsome ⊢
  rw [ht'.await h.right (by rw [h.result? ho, hn])]
  cases hw : t.nextWake? with
  | none =>
    -- There is nothing left to wait for, so nothing more could be told.
    rw [await_of_idle (ht.rest hr) hw, hnt] at hsome
    cases hsome
  | some time =>
    have hw' := nextWake?_eq_of_awake hot ha ha' hw nofun
    refine ⟨t.wake time, t'.wake time, .wake hot time, ?_, Session.await_wake hnt (ht.rest hr) hw,
      Session.await_wake (by rw [hst.result? hot, hnt]) (ht'.rest hr') hw', ?_⟩
    · exact hst.mono (turns_trace _ (t.tick time)) (turns_trace _ (t'.tick time))
    · exact Nat.lt_of_lt_of_le (remaining_wake_settle_lt hw) ht.remaining_le

theorem Shares.await (h : s.Shares side s') (hb : Since before before' s s')
    (hsome : ((s.await owner before.length).result? owner before.length).isSome = true) :
    (s.await owner before.length).Shares side (s'.await owner before'.length) := by
  induction hm : s.settle.remaining using Nat.strongRecOn generalizing s s' with
  | ind m ih =>
    subst hm
    have hr := hb.result? h.outline owner
    cases hn : (s.result? owner before.length).isSome with
    | true =>
      rw [await_of_told hn, await_of_told (by rw [hr, hn])]
      exact h
    | false =>
      have hs := h.settle
      have hbs : Since before before' s.settle s'.settle :=
        hb.mono (turns_trace s.weight s) (turns_trace s'.weight s')
      have hrs := hbs.result? hs.outline owner
      rw [await_settle (s := s') (by rw [hr, hn])]
      rw [await_settle hn] at hsome ⊢
      cases hns : (s.settle.result? owner before.length).isSome with
      | true =>
        rw [await_of_told hns, await_of_told (s := s'.settle) (hrs ▸ hns)]
        exact hs
      | false =>
        obtain ⟨t, t', ht, hbt, he, he', hlt⟩ :=
          Since.await_wake hbs hs.outline s.settle_rest s'.settle_rest hns hsome
        rw [he] at hsome
        have hi := ih _ hlt ht hbt hsome rfl
        rw [← he, ← he'] at hi
        exact hi

theorem Shares.pass (h : s.outline side = s'.outline side) (hr : s.ready = [])
    (hr' : s'.ready = []) (time : Nat) :
    (s.pass time).outline side = (s'.pass time).outline side := by
  induction hn : s.remaining using Nat.strongRecOn generalizing s s' with
  | ind n ih =>
    subst hn
    obtain ⟨t, ht, ha⟩ := exists_dozes side (some time) hr
    obtain ⟨t', ht', ha'⟩ := exists_dozes side (some time) hr'
    have ho : t.outline side = t'.outline side := by rw [ht.outline, ht'.outline, h]
    rw [ht.pass, ht'.pass]
    by_cases hw : ∃ next, t.nextWake? = some next ∧ next ≤ time
    · obtain ⟨next, hw, hle⟩ := hw
      have hw' := nextWake?_eq_of_awake ho ha ha' hw (by rintro _ ⟨⟩; exact hle)
      rw [pass_wake hw hle, pass_wake hw' hle]
      refine ih _ ?_ (Shares.wake ho next).settle.outline (settle_rest _) (settle_rest _) rfl
      exact Nat.lt_of_lt_of_le (remaining_wake_settle_lt hw) ht.remaining_le
    · have hlater : ∀ next, t.nextWake? = some next → time < next :=
        fun next hn => Nat.not_le.mp fun hle => hw ⟨next, hn, hle⟩
      have hlater' : ∀ next, t'.nextWake? = some next → time < next := by
        intro next hn
        refine Nat.not_le.mp fun hle => ?_
        exact hw ⟨next, nextWake?_eq_of_awake ho.symm ha' ha hn (by rintro _ ⟨⟩; exact hle), hle⟩
      rw [pass_of_later hlater, pass_of_later hlater', ho]

theorem Shares.advance (h : s.Shares side s') (ms : Nat) :
    (s.advance ms).Shares side (s'.advance ms) := by
  have hs := h.settle
  rw [advance_eq, advance_eq, ← hs.now]
  exact Shares.tick (Shares.pass hs.outline s.settle_rest s'.settle_rest _) _

end Dozing

end MailPrefs.Session
