import MailPrefs.Proofs.Preferences
import MailPrefs.Proofs.Session.Agenda
import MailPrefs.Proofs.Subscribed.Run

namespace MailPrefs

def Event.request? : Event → Option Request
  | .requested request => some request
  | _ => none

/-- The operation that a move calls for. A call starts it at once, a background task later. -/
def Move.called? : Move → Option Operation
  | .call operation | .spawn _ operation => some operation
  | _ => none

theorem Deed.requests (d : Deed) : d.events.filterMap Event.request? = d.request?.toList := by
  rw [events, List.filterMap_append, List.filterMap_append, filterMap_logged fun _ => rfl]
  cases d.request? <;> cases d.told? <;> rfl

namespace Session

variable {s : Session}

def requests (s : Session) : List Request :=
  s.trace.filterMap Event.request?

def started? (s : Session) (m : Move) : Option (Operation × List String) :=
  ((s.job? m).bind Job.starts?).map fun operation => (operation, s.model.subscribed.value)

/-- The operations that start in a run, in order, each with what was subscribed then. -/
def starts (s : Session) (ms : List Move) : List (Operation × List String) :=
  s.collect started? ms

theorem deed_request (s : Session) (job : Job) :
    (s.deed job).request? = job.starts?.map fun operation =>
      requestFor s.model.catalog (operation, s.model.subscribed.value) := by
  cases job <;> rfl

theorem moveDeed_request (s : Session) (m : Move) :
    (s.moveDeed m).request? = (s.started? m).map (requestFor s.model.catalog) := by
  rw [started?, Option.map_map]
  cases hj : s.job? m with
  | none => exact (moveDeed_of_none hj).1
  | some job =>
    rw [moveDeed_of_job hj]
    exact deed_request s job

theorem move_requests (s : Session) (m : Move) :
    (s.move m).requests =
      s.requests ++ ((s.started? m).map (requestFor s.model.catalog)).toList := by
  obtain ⟨frames, ht⟩ := s.move_trace m
  rw [requests, ht, List.filterMap_append, List.filterMap_append, filterMap_rendered fun _ => rfl,
    List.append_nil, Deed.requests, moveDeed_request]
  rfl

theorem waiting_eq_survey (s : Session) : s.waiting = s.survey fun _ => Job.starts? := by
  simp only [waiting, survey, List.filterMap_append, List.filterMap_map]
  rfl

theorem deed_sleeping_starts (s : Session) (job : Job) :
    (s.deed job).sleeping.filterMap (fun z => z.job.starts?) = [] := by
  cases job with
  | start owner operation =>
    simp only [deed, starting]
    split <;> rfl
  | render | resume | armReset | reset => rfl

theorem jobs_starts (m : Move) : m.jobs.filterMap Job.starts? = m.called?.toList := by
  cases m with
  | message => exact Move.jobs_message (fun _ => rfl) ..
  | _ => rfl

theorem move_waiting (s : Session) (m : Move) :
    (s.waiting ++ m.called?.toList).Perm
      (((s.started? m).map Prod.fst).toList ++ (s.move m).waiting) := by
  have hj (job : Job) : ((s.deed job).ready.filterMap Job.starts? ++
      (s.deed job).sleeping.filterMap (fun z => z.job.starts?) ++ job.starts?.toList).Perm
        (job.starts?.toList ++ []) := by
    rw [deed_ready_filterMap rfl, deed_sleeping_starts]
    exact List.perm_append_comm
  have hp := s.survey_step m (fun _ => Job.starts?) (fun _ => none) Job.starts? (fun _ => rfl) hj
    fun time _ => s.survey_tick time (fun _ _ => rfl) fun _ _ _ => rfl
  have hs : ((s.started? m).map Prod.fst).toList = ((s.job? m).bind Job.starts?).toList := by
    rw [started?, Option.map_map]
    exact congrArg Option.toList Option.map_id'
  rw [jobs_starts, Option.bind_fun_none, Option.toList_none, List.append_nil] at hp
  rw [waiting_eq_survey, waiting_eq_survey, hs]
  exact hp

theorem starts_cons (s : Session) (m : Move) (ms : List Move) :
    s.starts (m :: ms) = (s.started? m).toList ++ (s.move m).starts ms := rfl

theorem play_requests (s : Session) (ms : List Move) :
    (s.play ms).requests = s.requests ++ (s.starts ms).map (requestFor s.model.catalog) := by
  induction ms generalizing s with
  | nil => exact (List.append_nil _).symm
  | cons m ms ih =>
    have hp : (s.play (m :: ms)).requests = ((s.move m).play ms).requests := rfl
    rw [hp, ih, move_requests, starts_cons, (move_step s m).catalog, List.map_append,
      Option.toList_map, List.append_assoc]

/-- Whatever is called for in a run starts in it, once, or waits still for its start. -/
theorem play_waiting (s : Session) (ms : List Move) :
    (s.waiting ++ ms.filterMap Move.called?).Perm
      ((s.starts ms).map Prod.fst ++ (s.play ms).waiting) := by
  have hp := perm_play move_waiting s ms
  rw [collect_moves, collect_map] at hp
  exact hp

theorem completed_submit_subscribed {m : Move} {answer : Option (Except HttpError Json)}
    (h : s.completed? m = some (.submit, answer)) :
    (s.move m).model.subscribed.value = s.model.subscribed.value := by
  have hc : s.change? m = none := by
    cases m with
    | toggle key checked => cases h
    | _ => exact (congrArg (Option.bind · Change.ofAnswer?) h).trans rfl
  rw [move_subscribed, hc]
  rfl

/-- The requests of a run are those of the operations that it starts, in that order: a load reads
the settings, a submit writes what was subscribed when it was started. Each operation that was
called for is one of those or waits for its start. What is sent stays as it is, whatever happens
later, and the answer to a submit does not change the subscribed list. -/
theorem requests_follow_starts (isMounted : Bool) (c : Catalog) (l : Localizer) (t : SupportContact)
    (server : Script) (ms : List Move) :
    let s := (opened isMounted c l t server).play ms
    let started := (opened isMounted c l t server).starts ms
    s.requests = started.map (requestFor c) ∧
      ((if isMounted then [Operation.load] else []) ++ ms.filterMap Move.called?).Perm
        (started.map Prod.fst ++ s.waiting) ∧
      (∀ ms', s.requests <+: (s.play ms').requests) ∧
      ∀ m answer, s.completed? m = some (.submit, answer) →
        (s.move m).model.subscribed.value = s.model.subscribed.value := by
  intro s started
  refine ⟨?_, ?_, ?_, ?_⟩
  · have hr := play_requests (opened isMounted c l t server) ms
    rw [opened_catalog] at hr
    cases isMounted <;> exact hr
  · have hw := play_waiting (opened isMounted c l t server) ms
    cases isMounted <;> exact hw
  · intro ms'
    rw [play_requests s ms']
    exact List.prefix_append _ _
  · intro m answer h
    exact completed_submit_subscribed h

/-- Two submits under way at once write what was subscribed when each was started. -/
theorem requests_follow_starts_overlapping :
    let c : Catalog := ⟨["news", "digest"], by decide, by decide⟩
    let server : Script := ⟨[], [], ⟨5, some (.ok .null)⟩⟩
    let ms : List Move :=
      [.toggle "news" true, .call .submit, .toggle "digest" true, .call .submit, .tick 5]
    ∃ s, s = (opened false c .passthrough .default server).play ms ∧
      s.requests =
        [.post settingsUpdatePath (.object [("news", .bool true), ("digest", .bool false)]),
          .post settingsUpdatePath (.object [("news", .bool true), ("digest", .bool true)])] ∧
      (s.completed? (.run 1)).map Prod.fst = some .submit ∧
        (s.move (.run 1)).model.subscribed.value = s.model.subscribed.value := by
  intro c server ms
  obtain ⟨hr, _, _, hs⟩ := requests_follow_starts false c .passthrough .default server ms
  have hst : (opened false c .passthrough .default server).starts ms =
      [(.submit, ["news"]), (.submit, ["news", "digest"])] := by decide +kernel
  have hc : (((opened false c .passthrough .default server).play ms).completed? (.run 1)).map
      Prod.fst = some .submit := by decide +kernel
  obtain ⟨⟨operation, answer⟩, ha, rfl⟩ := Option.map_eq_some_iff.mp hc
  rw [hst] at hr
  exact ⟨_, rfl, hr.trans rfl, hc, hs (.run 1) answer ha⟩

end Session

end MailPrefs
