import Mathlib.Data.List.Basic
import MailPrefs.Proofs.Status.Writes

namespace MailPrefs

def Move.jobs : Move → List Job
  | .message _ timeout clockRuns =>
    ((ViewModel.clearing? timeout clockRuns).map Job.armReset).toList
  | .call operation => [.start .caller operation]
  | .spawn name operation => [.start (.background name) operation]
  | _ => []

theorem Move.jobs_message {α : Type} {f : Job → Option α}
    (hf : ∀ timeout, f (.armReset timeout) = none) (message : StatusMessage)
    (timeout : Option Nat) (clockRuns : Bool) :
    (Move.message message timeout clockRuns).jobs.filterMap f = [] := by
  apply List.filterMap_eq_nil_iff.mpr
  intro job h
  obtain ⟨ms, _, rfl⟩ := Option.map_eq_some_iff.mp (Option.mem_toList.mp h)
  exact hf ms

namespace Session

variable {s : Session} {m : Move}

def jobDeed (s : Session) (m : Move) : Deed :=
  (s.job? m).elim {} s.deed

/-- The one thing that jobs get ready is the arming of the reset of an outcome. -/
theorem mem_deed_ready {job job' : Job} (h : job' ∈ (s.deed job).ready) :
    job' = .armReset outcomeTimeout := by
  have ha {owner : Owner} {operation : Operation} {answer : Option (Except HttpError Json)}
      (h : job' ∈ (s.answering owner operation answer).ready) :
      job' = .armReset outcomeTimeout := by
    rw [answering, ViewModel.effects_jobs] at h
    obtain ⟨_, _, rfl⟩ := Option.map_eq_some_iff.mp (Option.mem_toList.mp h)
    rfl
  cases job with
  | start owner operation =>
    simp only [deed, starting] at h
    split at h
    · exact ha h
    · cases h
  | resume owner operation answer => exact ha h
  | render | armReset | reset => cases h

theorem deed_ready_filterMap {α : Type} {f : Job → Option α}
    (hf : f (.armReset outcomeTimeout) = none) (s : Session) (job : Job) :
    (s.deed job).ready.filterMap f = [] :=
  List.filterMap_eq_nil_iff.mpr fun _ h => mem_deed_ready h ▸ hf

theorem perm_cons_eraseIdx {α : Type} {l : List α} {index : Nat} {a : α}
    (h : l[index]? = some a) : l.Perm (a :: l.eraseIdx index) := by
  obtain ⟨hi, rfl⟩ := List.getElem?_eq_some_iff.mp h
  have hl : l.take index ++ l[index] :: l.drop (index + 1) = l := by
    rw [List.getElem_cons_drop, List.take_append_drop]
  rw [List.eraseIdx_eq_take_drop_succ]
  exact (List.Perm.of_eq hl.symm).trans List.perm_middle

/-- What stands for something else on one side may do so on the other. -/
theorem perm_exchange {α : Type} {kept new old left born gone : List α}
    (h : (kept ++ new).Perm (old ++ left)) (hn : (new ++ gone).Perm (old ++ born)) :
    (kept ++ born).Perm (gone ++ left) := by
  apply (List.perm_append_left_iff old).mp
  calc (old ++ (kept ++ born)).Perm (kept ++ (old ++ born)) := List.perm_append_comm_assoc ..
    List.Perm _ (kept ++ (new ++ gone)) := hn.symm.append_left kept
    _ = kept ++ new ++ gone := (List.append_assoc ..).symm
    List.Perm _ (old ++ left ++ gone) := h.append_right gone
    _ = old ++ (left ++ gone) := List.append_assoc ..
    List.Perm _ (old ++ (gone ++ left)) := List.perm_append_comm.append_left old

theorem left_jobs (s : Session) (m : Move) :
    (s.ready ++ m.jobs ++ (s.jobDeed m).ready).Perm
      ((s.job? m).toList ++ ((s.left m).ready ++ (s.moveDeed m).ready)) := by
  cases m with
  | message message timeout clockRuns =>
    simp only [moveDeed, ViewModel.showMessage_jobs]
    exact .of_eq (List.append_nil _)
  | call operation =>
    rw [← List.append_assoc]
    exact (List.perm_append_singleton _ _).append_right _
  | run index =>
    cases hr : s.ready[index]? with
    | none =>
      rw [left_of_none hr, jobDeed, moveDeed, job?, hr]
      exact .of_eq (congrArg (· ++ []) (List.append_nil _))
    | some job =>
      have hj : s.job? (.run index) = some job := hr
      rw [moveDeed_of_job hj, jobDeed, hj, ← List.append_assoc]
      exact ((List.Perm.of_eq (List.append_nil _)).trans (perm_cons_eraseIdx hr)).append_right _
  | spawn name operation => exact .of_eq (List.append_nil _)
  | toggle | tick | nudge | takeLoad | unmount => exact .of_eq (List.append_assoc ..)

theorem moveDeed_sleeping (s : Session) (m : Move) :
    (s.moveDeed m).sleeping = (s.jobDeed m).sleeping := by
  cases hj : s.job? m with
  | none => rw [(moveDeed_of_none hj).2.2.2, jobDeed, hj, Option.elim_none]
  | some job => rw [moveDeed_of_job hj, jobDeed, hj, Option.elim_some]

theorem move_now (s : Session) {m : Move} (ht : ∀ time, m ≠ .tick time) :
    (s.move m).now = s.now :=
  (s.move_goes ht).now

theorem move_sleeping (s : Session) {m : Move} (ht : ∀ time, m ≠ .tick time) :
    (s.move m).sleeping = s.sleeping ++ (s.jobDeed m).sleeping := by
  rw [(s.move_goes ht).sleeping, moveDeed_sleeping]
  rfl

/-- Apart from looks, a move that leaves the clock alone does nothing else to the jobs. -/
theorem move_ready (s : Session) {m : Move} (ht : ∀ time, m ≠ .tick time) :
    ∃ looks : List Job, looks.Sublist [.render] ∧
      (s.ready ++ m.jobs ++ (s.jobDeed m).ready ++ looks).Perm
        ((s.job? m).toList ++ (s.move m).ready) := by
  obtain ⟨first, later, hl, hr⟩ := (s.move_goes ht).ready
  refine ⟨first ++ later, hl, ?_⟩
  have hp : ((s.left m).ready ++ (s.moveDeed m).ready ++ (first ++ later)).Perm
      (s.move m).ready := by
    have hd : ((s.moveDeed m).ready ++ (first ++ later)).Perm
        (first ++ (later ++ (s.moveDeed m).ready)) :=
      List.perm_append_comm.trans (.of_eq (List.append_assoc ..))
    rw [hr, List.append_assoc, List.append_assoc, List.append_assoc]
    exact (hd.append_left _).trans (List.perm_append_comm_assoc ..)
  calc (s.ready ++ m.jobs ++ (s.jobDeed m).ready ++ (first ++ later)).Perm
        ((s.job? m).toList ++ ((s.left m).ready ++ (s.moveDeed m).ready) ++ (first ++ later)) :=
      (s.left_jobs m).append_right _
    _ = (s.job? m).toList ++ ((s.left m).ready ++ (s.moveDeed m).ready ++ (first ++ later)) :=
      List.append_assoc ..
    List.Perm _ ((s.job? m).toList ++ (s.move m).ready) := hp.append_left _

/-- What a look at the jobs notes of them, each with the time at which it runs. -/
def survey {α : Type} (s : Session) (f : Nat → Job → Option α) : List α :=
  s.ready.filterMap (f s.now) ++ s.sleeping.filterMap fun z => f z.due z.job

section Survey

variable {α : Type} {f : Nat → Job → Option α}

theorem survey_move (s : Session) {m : Move} (hf : ∀ time, f time .render = none)
    (ht : ∀ time, m ≠ .tick time) :
    (s.survey f ++ (m.jobs.filterMap (f s.now) ++ ((s.jobDeed m).ready.filterMap (f s.now) ++
        (s.jobDeed m).sleeping.filterMap fun z => f z.due z.job))).Perm
      (((s.job? m).bind (f s.now)).toList ++ (s.move m).survey f) := by
  obtain ⟨looks, hl, hp⟩ := s.move_ready ht
  have hlooks : looks.filterMap (f s.now) = [] := by
    apply List.filterMap_eq_nil_iff.mpr
    intro job hj
    rw [List.mem_singleton.mp (hl.subset hj)]
    exact hf s.now
  have hj : (s.job? m).toList.filterMap (f s.now) = ((s.job? m).bind (f s.now)).toList := by
    cases s.job? m with
    | none => rfl
    | some job =>
      rw [Option.toList_some, List.filterMap_cons, Option.bind_some]
      cases f s.now job <;> rfl
  have hp' := hp.filterMap (f s.now)
  simp only [List.filterMap_append, hlooks, hj, List.append_nil] at hp'
  simp only [survey, s.move_now ht, s.move_sleeping ht, List.filterMap_append]
  -- From here on it does not matter what the parts are, only where they stand.
  generalize (s.sleeping.filterMap fun z => f z.due z.job) = sleeping
  generalize ((s.jobDeed m).sleeping.filterMap fun z => f z.due z.job) = later
  generalize m.jobs.filterMap (f s.now) = called at hp' ⊢
  generalize (s.jobDeed m).ready.filterMap (f s.now) = first at hp' ⊢
  have hs := (List.perm_append_comm_assoc sleeping (called ++ first) later).append_left
    (s.ready.filterMap (f s.now))
  simp only [List.append_assoc] at hp' hs ⊢
  refine hs.trans ?_
  have hr := hp'.append_right (sleeping ++ later)
  simp only [List.append_assoc] at hr
  exact hr

theorem survey_tick (s : Session) (time : Nat)
    (hr : ∀ job ∈ s.ready, f time job = f s.now job)
    (hs : ∀ z ∈ s.sleeping, z.due ≤ time → f time z.job = f z.due z.job) :
    (s.survey f).Perm ((s.tick time).survey f) := by
  have hsplit : (s.sleeping.filterMap fun z => f z.due z.job).Perm
      (((s.sleeping.filter (·.due ≤ time)).map (·.job)).filterMap (f time) ++
        (s.sleeping.filter (time < ·.due)).filterMap fun z => f z.due z.job) := by
    have hp := List.filter_append_perm (fun z : Sleeper => decide (z.due ≤ time)) s.sleeping
    simp only [← decide_not, Nat.not_le] at hp
    have hp' := hp.symm.filterMap fun z => f z.due z.job
    rw [List.filterMap_append] at hp'
    rw [List.filterMap_map]
    have hd : (s.sleeping.filter (·.due ≤ time)).filterMap (f time ∘ (·.job)) =
        (s.sleeping.filter (·.due ≤ time)).filterMap fun z => f z.due z.job := by
      apply List.filterMap_congr
      intro z hz
      rw [List.mem_filter, decide_eq_true_eq] at hz
      exact hs z hz.1 hz.2
    rw [hd]
    exact hp'
  have hready : s.ready.filterMap (f s.now) = s.ready.filterMap (f time) :=
    List.filterMap_congr fun job hj => (hr job hj).symm
  rw [survey, hready]
  simp only [survey, tick, List.filterMap_append]
  generalize (s.sleeping.filter (·.due ≤ time)).map (·.job) = due at hsplit ⊢
  have hc : due.Perm (due.filter Job.isCallers ++ due.filter (!·.isCallers)) :=
    (List.filter_append_perm Job.isCallers due).symm
  have hc' := hc.filterMap (f time)
  rw [List.filterMap_append] at hc'
  refine ((hsplit.trans (hc'.append_right _)).append_left _).trans ?_
  simp only [List.append_assoc]
  exact List.perm_append_comm_assoc ..

/-- What is noted of the jobs that a move calls for is noted until it is gone. For that it is
enough to know what each job makes of what is noted: what comes of it and what is gone with it
is what was noted of it and what is new with it. -/
theorem survey_step (s : Session) (m : Move) (f : Nat → Job → Option α)
    (born gone : Job → Option α)
    (hf : ∀ time, f time .render = none)
    (hj : ∀ job, ((s.deed job).ready.filterMap (f s.now) ++
        (s.deed job).sleeping.filterMap (fun z => f z.due z.job) ++ (gone job).toList).Perm
      ((f s.now job).toList ++ (born job).toList))
    (ht : ∀ time, m = .tick time → (s.survey f).Perm ((s.tick time).survey f)) :
    (s.survey f ++ (m.jobs.filterMap (f s.now) ++ ((s.job? m).bind born).toList)).Perm
      (((s.job? m).bind gone).toList ++ (s.move m).survey f) := by
  rcases m.tick_or_ne with ⟨time, rfl⟩ | hne
  · have hp := ht time rfl
    rw [← List.append_nil (s.survey f)] at hp
    exact hp
  · have hp := s.survey_move hf hne
    rw [jobDeed] at hp
    cases hm : s.job? m with
    | none =>
      rw [hm] at hp
      exact hp
    | some job =>
      rw [hm] at hp
      simp only [Option.elim_some, Option.bind_some] at hp ⊢
      rw [← List.append_assoc] at hp ⊢
      exact perm_exchange hp (hj job)

end Survey

/-- The clock moves on only when nothing is left to do, and not past a time at which a job wakes. -/
def KeepsTime (s : Session) : Move → Prop
  | .tick time => s.ready = [] ∧ s.now ≤ time ∧ ∀ z ∈ s.sleeping, time ≤ z.due
  | _ => True

def jobs (s : Session) : List Job :=
  s.survey fun _ => some

theorem jobs_eq (s : Session) : s.jobs = s.ready ++ s.sleeping.map (·.job) := by
  simp only [jobs, survey, List.filterMap_some, List.filterMap_eq_map']

theorem jobs_tick (s : Session) (time : Nat) : s.jobs.Perm (s.tick time).jobs :=
  s.survey_tick time (fun _ _ => rfl) (fun _ _ _ => rfl)

end Session

def Job.isTimed : Job → Bool
  | .resume _ _ _ | .reset => true
  | _ => false

namespace Session

variable {s : Session}

/-- Sleepers are still to wake, they are of two kinds, and no reset that is to be armed is due. -/
structure Sound (s : Session) : Prop where
  later : ∀ z ∈ s.sleeping, s.now < z.due
  timed : ∀ z ∈ s.sleeping, z.job.isTimed = true
  arms : ∀ timeout, Job.armReset timeout ∈ s.ready → 0 < timeout

theorem mem_jobDeed_ready {job : Job} (h : job ∈ (s.jobDeed m).ready) :
    job = .armReset outcomeTimeout := by
  rw [jobDeed] at h
  cases hj : s.job? m with
  | none =>
    rw [hj] at h
    cases h
  | some job =>
    rw [hj] at h
    exact mem_deed_ready h

theorem jobs_arm {m : Move} {timeout : Nat} (h : .armReset timeout ∈ m.jobs) : 0 < timeout := by
  cases m with
  | message message given clockRuns =>
    obtain ⟨ms, hms, he⟩ := Option.map_eq_some_iff.mp (Option.mem_toList.mp h)
    cases he
    exact ViewModel.clearing?_pos hms
  | call | spawn => cases List.mem_singleton.mp h
  | toggle | run | tick | nudge | takeLoad | unmount => cases h

theorem Sound.deed (h : s.Sound) {job : Job} (hj : job ∈ s.ready ∨ job.starts?.isSome = true) :
    ∀ z ∈ (s.deed job).sleeping, s.now < z.due ∧ z.job.isTimed = true := by
  intro z hz
  cases job with
  | start owner operation =>
    simp only [Session.deed, starting] at hz
    split at hz
    · cases hz
    · next hne =>
      cases List.mem_singleton.mp hz
      exact ⟨Nat.lt_add_of_pos_right (Nat.pos_of_ne_zero hne), rfl⟩
  | armReset timeout =>
    cases List.mem_singleton.mp hz
    rcases hj with hj | hj
    · exact ⟨Nat.lt_add_of_pos_right (h.arms timeout hj), rfl⟩
    · cases hj
  | render | resume | reset => cases hz

theorem Sound.jobDeed (h : s.Sound) (m : Move) :
    ∀ z ∈ (s.jobDeed m).sleeping, s.now < z.due ∧ z.job.isTimed = true := by
  intro z hz
  simp only [Session.jobDeed] at hz
  cases hj : s.job? m with
  | none =>
    rw [hj] at hz
    cases hz
  | some job =>
    rw [hj] at hz
    refine h.deed ?_ z hz
    cases m with
    | call operation =>
      cases hj
      exact .inr rfl
    | run index => exact .inl (List.mem_of_getElem? hj)
    | _ => cases hj

theorem Sound.tick (h : s.Sound) (time : Nat) : (s.tick time).Sound := by
  refine ⟨?_, ?_, ?_⟩
  · intro z hz
    exact of_decide_eq_true (List.mem_filter.mp hz).2
  · intro z hz
    exact h.timed z (List.mem_filter.mp hz).1
  · intro timeout ht
    simp only [Session.tick, List.mem_append, List.mem_filter, List.mem_map] at ht
    rcases ht with (⟨⟨z, ⟨hz, _⟩, he⟩, _⟩ | hr) | ⟨⟨z, ⟨hz, _⟩, he⟩, _⟩
    · have hj := h.timed z hz
      rw [he] at hj
      cases hj
    · exact h.arms timeout hr
    · have hj := h.timed z hz
      rw [he] at hj
      cases hj

theorem Sound.move (h : s.Sound) (m : Move) : (s.move m).Sound := by
  rcases m.tick_or_ne with ⟨time, rfl⟩ | ht
  · exact h.tick time
  · have hn := s.move_now ht
    have hs := s.move_sleeping ht
    obtain ⟨looks, hl, hp⟩ := s.move_ready ht
    refine ⟨?_, ?_, ?_⟩
    · intro z hz
      rw [hs] at hz
      rw [hn]
      rcases List.mem_append.mp hz with hz | hz
      · exact h.later z hz
      · exact (h.jobDeed m z hz).1
    · intro z hz
      rw [hs] at hz
      rcases List.mem_append.mp hz with hz | hz
      · exact h.timed z hz
      · exact (h.jobDeed m z hz).2
    · intro timeout hr
      have hm := hp.mem_iff.mpr (List.mem_append_right _ hr)
      rcases List.mem_append.mp hm with hm | hm
      · rcases List.mem_append.mp hm with hm | hm
        · rcases List.mem_append.mp hm with hm | hm
          · exact h.arms timeout hm
          · exact jobs_arm hm
        · cases mem_jobDeed_ready hm
          decide
      · cases List.mem_singleton.mp (hl.subset hm)

theorem Sound.play (h : s.Sound) (ms : List Move) : (s.play ms).Sound := by
  induction ms generalizing s with
  | nil => exact h
  | cons m ms ih => exact ih (h.move m)

theorem sound_mount (model : ViewModel) (server : Script) : (mount model server).Sound := by
  refine ⟨nofun, nofun, ?_⟩
  intro timeout h
  rcases List.mem_cons.mp h with h | h
  · cases h
  · cases List.mem_singleton.mp h

theorem sound_opened (isMounted : Bool) (c : Catalog) (l : Localizer) (t : SupportContact)
    (server : Script) : (opened isMounted c l t server).Sound := by
  cases isMounted with
  | false => exact ⟨nofun, nofun, nofun⟩
  | true => exact sound_mount _ server

end Session

end MailPrefs
