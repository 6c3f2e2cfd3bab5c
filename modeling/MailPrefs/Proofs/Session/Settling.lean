import MailPrefs.Proofs.Session.Agenda
import MailPrefs.Proofs.View.Frames

namespace MailPrefs

def Job.isLook : Job → Bool
  | .render => true
  | _ => false

/-- What a job costs with all that comes of it, where a look costs one turn and its news apart. -/
def Job.cost : Job → Nat
  | .render => 1
  | job => job.weight

theorem Job.cost_le_weight (job : Job) :
    job.cost + (if job.isLook then 2 else 0) ≤ job.weight := by
  cases job <;> exact Nat.le_refl _

def Mount.unseen (v : Mount) (m : ViewModel) : Nat :=
  (v.subscribed.hasChanged m.subscribed).toNat + (v.status.hasChanged m.status).toNat

theorem Mount.unseen_le (v : Mount) (m : ViewModel) : v.unseen m ≤ 2 :=
  Nat.add_le_add (Bool.toNat_le _) (Bool.toNat_le _)

theorem Mount.unseen_look {v v' : Mount} {m : ViewModel} {frame : Frame}
    (h : v.look m = (some frame, v')) : v'.unseen m < v.unseen m := by
  have hl := v.look_looks m
  rw [h] at hl
  cases hl with
  | checkboxes first hn =>
    have hs : (Watch.start m.subscribed).hasChanged m.subscribed = false :=
      Watch.hasChanged_eq_false.mpr rfl
    simp [unseen, hn, hs]
  | status first hn =>
    have ht : (Watch.start m.status).hasChanged m.status = false :=
      Watch.hasChanged_eq_false.mpr rfl
    simp [unseen, hn, ht]

namespace Session

variable {s s' : Session} {d : Deed}

def costs : List Job → Nat
  | [] => 0
  | job :: jobs => job.cost + costs jobs

theorem costs_append (jobs jobs' : List Job) :
    costs (jobs ++ jobs') = costs jobs + costs jobs' := by
  induction jobs with
  | nil => exact (Nat.zero_add _).symm
  | cons job jobs ih => rw [List.cons_append, costs, costs, ih, Nat.add_assoc]

theorem costs_perm {jobs jobs' : List Job} (h : jobs.Perm jobs') : costs jobs = costs jobs' := by
  induction h with
  | nil => rfl
  | cons job _ ih => rw [costs, costs, ih]
  | swap job job' jobs => exact Nat.add_left_comm _ _ _
  | trans _ _ ih ih' => exact ih.trans ih'

theorem costs_looks {looks : List Job} (h : looks.Sublist [.render]) : costs looks ≤ 1 := by
  cases h with
  | cons _ h =>
    rw [List.sublist_nil.mp h]
    exact Nat.zero_le _
  | cons_cons _ h =>
    rw [List.sublist_nil.mp h]
    exact Nat.le_refl _

def unseen (s : Session) : Nat :=
  s.view.elim 0 (·.unseen s.model)

theorem unseen_of_none (h : s.view = none) : s.unseen = 0 := by
  rw [unseen, h, Option.elim_none]

theorem unseen_of_some {v : Mount} (h : s.view = some v) : s.unseen = v.unseen s.model := by
  rw [unseen, h, Option.elim_some]

theorem unseen_le (s : Session) : s.unseen ≤ 2 := by
  rw [unseen]
  cases s.view with
  | none => exact Nat.zero_le _
  | some v => exact v.unseen_le s.model

/-- A bound on the turns that are left. What the view has not seen counts if it is about to look. -/
def remaining (s : Session) : Nat :=
  costs s.jobs + if s.jobs.any Job.isLook then s.unseen else 0

theorem costs_le (jobs : List Job) :
    costs jobs + (if jobs.any Job.isLook then 2 else 0) ≤
      jobs.foldr (fun job n => job.weight + n) 0 := by
  induction jobs with
  | nil => exact Nat.le_refl 0
  | cons job jobs ih =>
    have hw := job.cost_le_weight
    simp only [costs, List.any_cons, List.foldr_cons] at ih ⊢
    by_cases hl : job.isLook = true
    · simp only [hl, Bool.true_or, if_true] at hw ⊢
      omega
    · simp only [hl, Bool.false_or] at hw ⊢
      omega

theorem remaining_le_weight (s : Session) : s.remaining ≤ s.weight := by
  have hc := costs_le s.jobs
  have hw : s.jobs.foldr (fun job n => job.weight + n) 0 = s.weight := by rw [jobs_eq, weight]
  have hu := s.unseen_le
  rw [hw] at hc
  rw [remaining]
  split at hc
  · next hl =>
    rw [if_pos hl]
    exact Nat.le_trans (Nat.add_le_add_left hu _) hc
  · next hl =>
    rw [if_neg hl]
    exact hc

theorem remaining_le (s : Session) : s.remaining ≤ costs s.jobs + 2 := by
  have hu := s.unseen_le
  rw [remaining]
  split <;> omega

theorem costs_le_remaining (s : Session) : costs s.jobs ≤ s.remaining :=
  Nat.le_add_right _ _

theorem Goes.remaining_le (h : s.Goes d s') :
    s'.remaining ≤ s.remaining + (costs d.ready + costs (d.sleeping.map (·.job))) + 3 := by
  obtain ⟨first, later, hl, hr⟩ := h.ready
  have hle := s'.remaining_le
  have hle' := s.costs_le_remaining
  have hl := costs_looks hl
  simp only [jobs_eq, hr, h.sleeping, List.map_append, costs_append] at hle hle' hl
  omega

theorem remaining_asleep {z : Sleeper} (hm : d.model? = none) (hr : d.ready = [])
    (hz : d.sleeping = [z]) (hl : z.job.isLook = false) :
    (s.does d).remaining = s.remaining + z.job.cost := by
  have hj : (s.does d).jobs = s.jobs ++ [z.job] := by
    simp only [jobs_eq, does, hm, Option.elim_none, hr, hz, List.append_nil, List.map_append,
      List.map_cons, List.map_nil, List.append_assoc]
  have hu : (s.does d).unseen = s.unseen := by
    rw [does, hm]
    rfl
  have hc : costs [z.job] = z.job.cost := Nat.add_zero _
  simp only [remaining, hj, hu, hc, costs_append, List.any_append, List.any_cons, List.any_nil, hl,
    Bool.or_false]
  omega

theorem remaining_answered_le {operation : Operation} {answer : Option (Except HttpError Json)}
    (hr : d.ready = (s.model.effects operation answer).filterMap Effect.job?)
    (hs : d.sleeping = []) :
    (s.does d).remaining ≤ s.remaining + 8 := by
  -- Three for a look and its news, five for a reset that is to be armed.
  have h := (does_goes s d).remaining_le
  have hc : costs d.ready ≤ 5 := by
    rw [hr, ViewModel.effects_jobs]
    cases s.model.outcome? operation answer with
    | none => exact Nat.zero_le _
    | some message => exact Nat.le_refl _
  rw [hs, List.map_nil, costs] at h
  omega

theorem remaining_of_look {ready : List Job} (h : s.ready = .render :: ready) :
    s.remaining = costs (ready ++ s.sleeping.map (·.job)) + s.unseen + 1 := by
  have hj : s.jobs = .render :: (ready ++ s.sleeping.map (·.job)) := by
    rw [jobs_eq, h, List.cons_append]
  have hc : costs s.jobs = 1 + costs (ready ++ s.sleeping.map (·.job)) := by
    rw [hj]
    rfl
  rw [remaining, hc, hj, List.any_cons, Job.isLook, Bool.true_or, if_pos rfl]
  omega

/-- A look shows something that was not seen, or is the last one. -/
theorem remaining_render_lt {ready : List Job} (h : s.ready = .render :: ready) :
    ({ s with ready := ready } : Session).render.remaining < s.remaining := by
  rw [remaining_of_look h, render]
  split
  · next hv =>
    rw [remaining, unseen_of_none hv, ite_self, jobs_eq]
    exact Nat.lt_succ_of_le (Nat.le_add_right _ _)
  · next v hv =>
    rw [unseen_of_some (s := s) hv]
    split
    · next frame v' hl =>
      have hlt := Mount.unseen_look hl
      rw [remaining_of_look rfl]
      exact Nat.succ_lt_succ (Nat.add_lt_add_left hlt _)
    · next v' hl =>
      obtain ⟨hs, ht, _⟩ := Mount.look_none hl
      have hu : ({ v' with isQueued := false } : Mount).unseen s.model = v.unseen s.model := by
        simp only [Mount.unseen, hs, ht]
      rw [remaining, unseen_of_some rfl, hu, jobs_eq]
      apply Nat.lt_succ_of_le
      split
      · exact Nat.le_refl _
      · exact Nat.le_add_right _ _

theorem remaining_of_other {job : Job} {ready : List Job} (h : s.ready = job :: ready)
    (hj : job.isLook = false) :
    s.remaining = ({ s with ready := ready } : Session).remaining + job.cost := by
  have hjobs : s.jobs = job :: ({ s with ready := ready } : Session).jobs := by
    simp only [jobs_eq, h, List.cons_append]
  have hc : costs s.jobs = job.cost + costs ({ s with ready := ready } : Session).jobs := by
    rw [hjobs]
    rfl
  have hu : ({ s with ready := ready } : Session).unseen = s.unseen := rfl
  rw [remaining, remaining, hc, hjobs, List.any_cons, hj, Bool.false_or, hu]
  omega

/-- A job costs more than what comes of it. -/
theorem remaining_runJob_lt (s : Session) {job : Job} (hj : job.isLook = false) :
    (s.runJob job).remaining < s.remaining + job.cost := by
  have hne : job ≠ .render := by
    rintro rfl
    cases hj
  rw [runJob_eq_does s hne]
  cases job with
  | render => cases hj
  | start owner operation =>
    by_cases hd : (s.server.reply operation).1.delay = 0
    · rw [deed, starting_of_prompt hd]
      exact Nat.lt_of_le_of_lt (remaining_answered_le rfl rfl)
        (Nat.add_lt_add_left (by decide : 8 < 10) _)
    · rw [deed, starting_of_delayed hd, remaining_asleep rfl rfl rfl rfl]
      exact Nat.add_lt_add_left (by decide : 9 < 10) _
  | resume owner operation answer =>
    exact Nat.lt_of_le_of_lt (remaining_answered_le rfl rfl)
      (Nat.add_lt_add_left (by decide : 8 < 9) _)
  | armReset timeout =>
    rw [remaining_asleep rfl rfl rfl rfl]
    exact Nat.add_lt_add_left (by decide : 4 < 5) _
  | reset =>
    have h := (does_goes s (s.deed .reset)).remaining_le
    exact Nat.lt_of_le_of_lt h (Nat.add_lt_add_left (by decide : 3 < 4) _)

theorem remaining_turn_lt (h : s.ready ≠ []) : s.turn.remaining < s.remaining := by
  cases hr : s.ready with
  | nil => exact absurd hr h
  | cons job ready =>
    have ht : s.turn = { s with ready := ready }.runJob job := by simp only [turn, hr]
    rw [ht]
    cases hj : job.isLook with
    | true =>
      cases job with
      | render => exact remaining_render_lt hr
      | _ => cases hj
    | false =>
      rw [remaining_of_other hr hj]
      exact remaining_runJob_lt _ hj

theorem turn_of_rest (h : s.ready = []) : s.turn = s := by
  rw [turn, h]

theorem turns_of_rest (h : s.ready = []) (n : Nat) : turns n s = s := by
  induction n with
  | zero => rfl
  | succ n ih => rw [turns, turn_of_rest h, ih]

theorem turns_add (s : Session) (n k : Nat) : turns (n + k) s = turns k (turns n s) := by
  induction n generalizing s with
  | zero => rw [Nat.zero_add, turns]
  | succ n ih => rw [Nat.succ_add, turns, turns, ih]

theorem remaining_turns_le (s : Session) (n : Nat) : (turns n s).remaining ≤ s.remaining := by
  induction n generalizing s with
  | zero => exact Nat.le_refl _
  | succ n ih =>
    by_cases h : s.ready = []
    · exact Nat.le_of_eq (congrArg remaining (turns_of_rest h _))
    · exact Nat.le_trans (ih s.turn) (Nat.le_of_lt (remaining_turn_lt h))

theorem remaining_turns_lt (h : s.ready ≠ []) (n : Nat) :
    (turns (n + 1) s).remaining < s.remaining :=
  Nat.lt_of_le_of_lt (remaining_turns_le s.turn n) (remaining_turn_lt h)

theorem turns_rest {n : Nat} (h : s.remaining ≤ n) : (turns n s).ready = [] := by
  induction n generalizing s with
  | zero =>
    by_cases hr : s.ready = []
    · exact hr
    · have hlt := remaining_turn_lt hr
      omega
  | succ n ih =>
    by_cases hr : s.ready = []
    · rw [turns_of_rest hr]
      exact hr
    · exact ih (Nat.le_of_lt_succ (Nat.lt_of_lt_of_le (remaining_turn_lt hr) h))

theorem settle_rest (s : Session) : s.settle.ready = [] :=
  turns_rest s.remaining_le_weight

/-- However many turns it takes, there is one way to come to rest. -/
theorem settle_eq_turns {n : Nat} (h : (turns n s).ready = []) : s.settle = turns n s := by
  have hw : turns (s.weight + n) s = s.settle := by
    rw [turns_add]
    exact turns_of_rest s.settle_rest n
  rw [← hw, Nat.add_comm, turns_add, turns_of_rest h]

theorem settle_of_rest (h : s.ready = []) : s.settle = s :=
  turns_of_rest h _

theorem remaining_settle_le (s : Session) : s.settle.remaining ≤ s.remaining :=
  remaining_turns_le s _

theorem remaining_settle_lt (h : s.ready ≠ []) : s.settle.remaining < s.remaining := by
  have hp : 0 < s.weight :=
    Nat.lt_of_lt_of_le (Nat.zero_lt_of_lt (remaining_turn_lt h)) s.remaining_le_weight
  rw [settle, ← Nat.succ_pred_eq_of_pos hp]
  exact remaining_turns_lt h _

theorem remaining_tick (s : Session) (time : Nat) : (s.tick time).remaining = s.remaining := by
  have hp := jobs_tick s time
  have hu : (s.tick time).unseen = s.unseen := rfl
  rw [remaining, remaining, costs_perm hp, hp.any_eq, hu]

theorem nextWake?_eq_none : s.nextWake? = none ↔ s.sleeping = [] := by
  rw [nextWake?, List.min?_eq_none_iff, List.map_eq_nil_iff]

theorem nextWake?_eq_some {time : Nat} (h : s.nextWake? = some time) :
    (∃ z ∈ s.sleeping, z.due = time) ∧ ∀ z ∈ s.sleeping, time ≤ z.due := by
  obtain ⟨hm, hle⟩ := List.min?_eq_some_iff.mp h
  exact ⟨List.mem_map.mp hm, fun z hz => hle z.due (List.mem_map_of_mem hz)⟩

theorem tick_ready_ne_nil {time : Nat} (h : s.nextWake? = some time) :
    (s.tick time).ready ≠ [] := by
  obtain ⟨⟨z, hz, hd⟩, _⟩ := nextWake?_eq_some h
  have hdue : z.job ∈ (s.sleeping.filter (·.due ≤ time)).map (·.job) :=
    List.mem_map_of_mem (List.mem_filter.mpr ⟨hz, decide_eq_true (Nat.le_of_eq hd)⟩)
  apply List.ne_nil_of_mem (a := z.job)
  simp only [tick, List.mem_append, List.mem_filter, hdue, true_and]
  cases z.job.isCallers <;> simp

theorem remaining_wake_le (s : Session) (time : Nat) : (s.wake time).remaining ≤ s.remaining := by
  have h := remaining_turns_le (s.tick time)
    (s.sleeping.filter fun z => z.due ≤ time && z.job.isCallers).length
  rw [remaining_tick] at h
  exact h

/-- A waking leaves something to do, unless it has done something already. -/
theorem remaining_wake_lt {time : Nat} (h : s.nextWake? = some time)
    (hr : (s.wake time).ready = []) : (s.wake time).remaining < s.remaining := by
  have hne := tick_ready_ne_nil h
  rw [wake] at hr ⊢
  cases hn : (s.sleeping.filter fun z => z.due ≤ time && z.job.isCallers).length with
  | zero =>
    rw [hn] at hr
    exact absurd hr hne
  | succ n =>
    have hlt := remaining_turns_lt hne n
    rw [remaining_tick] at hlt
    exact hlt

theorem remaining_wake_settle_lt {time : Nat} (h : s.nextWake? = some time) :
    (s.wake time).settle.remaining < s.remaining := by
  by_cases hr : (s.wake time).ready = []
  · rw [settle_of_rest hr]
    exact remaining_wake_lt h hr
  · exact Nat.lt_of_lt_of_le (remaining_settle_lt hr) (remaining_wake_le s time)

theorem passWithin_rest {time n : Nat} (hr : s.ready = []) (hn : s.remaining < n) :
    (passWithin time n s).ready = [] ∧ ∀ z ∈ (passWithin time n s).sleeping, time < z.due := by
  induction n generalizing s with
  | zero => exact absurd hn (Nat.not_lt_zero _)
  | succ n ih =>
    rw [passWithin]
    split
    · next h =>
      rw [nextWake?_eq_none.mp h]
      exact ⟨hr, nofun⟩
    · next wakes h =>
      split
      · apply ih (settle_rest _)
        exact Nat.lt_of_lt_of_le (remaining_wake_settle_lt h) (Nat.le_of_lt_succ hn)
      · next hlt =>
        refine ⟨hr, fun z hz => ?_⟩
        exact Nat.lt_of_lt_of_le (Nat.not_le.mp hlt) ((nextWake?_eq_some h).2 z hz)

end Session

end MailPrefs
