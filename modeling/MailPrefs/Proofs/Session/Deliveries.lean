import MailPrefs.Proofs.Session.Agenda

namespace MailPrefs

/-- An answer on its way to the owner of an operation. -/
structure Delivery where
  owner : Owner
  operation : Operation
  answer : Option (Except HttpError Json)

def Delivery.task (d : Delivery) : Owner × Operation :=
  (d.owner, d.operation)

def Delivery.outcome (d : Delivery) : Owner × Result :=
  (d.owner, d.operation.result d.answer)

def Event.outcome? : Event → Option (Owner × Result)
  | .finished owner result => some (owner, result)
  | _ => none

def Job.delivery? : Job → Option Delivery
  | .resume owner operation answer => some ⟨owner, operation, answer⟩
  | _ => none

def Job.task? : Job → Option (Owner × Operation)
  | .start owner operation | .resume owner operation _ => some (owner, operation)
  | _ => none

def Move.task? : Move → Option (Owner × Operation)
  | .call operation => some (.caller, operation)
  | .spawn name operation => some (.background name, operation)
  | _ => none

def Script.answers : Script → List Operation → List (Option (Except HttpError Json))
  | _, [] => []
  | server, operation :: operations =>
    (server.reply operation).1.answer :: (server.reply operation).2.answers operations

theorem Deed.outcomes (d : Deed) : d.events.filterMap Event.outcome? = d.told?.toList := by
  rw [events, List.filterMap_append, List.filterMap_append, filterMap_logged fun _ => rfl]
  cases d.request? <;> cases d.told? <;> rfl

namespace Session

variable {s s' s'' : Session} {m : Move} {news : List (Owner × Result)}

def underway (s : Session) : List Delivery :=
  s.survey fun _ => Job.delivery?

/-- The operations that are not finished, those included that are still to start. -/
def tasks (s : Session) : List (Owner × Operation) :=
  s.survey fun _ => Job.task?

def begins? (s : Session) : Job → Option Delivery
  | .start owner operation => some ⟨owner, operation, (s.server.reply operation).1.answer⟩
  | _ => none

/-- What a job hands over: an answer that was under way, or one that comes without delay. -/
def handed? (s : Session) : Job → Option Delivery
  | .resume owner operation answer => some ⟨owner, operation, answer⟩
  | .start owner operation =>
    if (s.send operation).1.delay = 0 then some ⟨owner, operation, (s.send operation).1.answer⟩
    else none
  | _ => none

def begun? (s : Session) (m : Move) : Option Delivery :=
  (s.job? m).bind s.begins?

def delivered? (s : Session) (m : Move) : Option Delivery :=
  (s.job? m).bind s.handed?

def begins (s : Session) (ms : List Move) : List Delivery :=
  s.collect begun? ms

def deliveries (s : Session) (ms : List Move) : List Delivery :=
  s.collect delivered? ms

theorem deliveries_cons (s : Session) (m : Move) (ms : List Move) :
    s.deliveries (m :: ms) = (s.delivered? m).toList ++ (s.move m).deliveries ms := rfl

theorem begins_cons (s : Session) (m : Move) (ms : List Move) :
    s.begins (m :: ms) = (s.begun? m).toList ++ (s.move m).begins ms := rfl

theorem deliveries_append (s : Session) (ms ms' : List Move) :
    s.deliveries (ms ++ ms') = s.deliveries ms ++ (s.play ms).deliveries ms' :=
  collect_append delivered? s ms ms'

theorem begins_append (s : Session) (ms ms' : List Move) :
    s.begins (ms ++ ms') = s.begins ms ++ (s.play ms).begins ms' :=
  collect_append begun? s ms ms'

theorem taken?_eq (s : Session) (job : Job) :
    s.taken? job = (s.handed? job).map fun d => (d.operation, d.answer) := by
  cases job with
  | start owner operation =>
    simp only [taken?, handed?]
    split <;> rfl
  | render | resume | armReset | reset => rfl

theorem completed?_eq (s : Session) (m : Move) :
    s.completed? m = (s.delivered? m).map fun d => (d.operation, d.answer) := by
  rw [completed?, delivered?, Option.map_bind]
  exact congrArg (Option.bind (s.job? m)) (funext s.taken?_eq)

/-- What an owner is told is all that is told while a session goes on. -/
def Tells (s : Session) (news : List (Owner × Result)) (s' : Session) : Prop :=
  ∃ events, s'.trace = s.trace ++ events ∧ events.filterMap Event.outcome? = news

theorem Tells.of_same (h : s'.trace = s.trace) : s.Tells [] s' :=
  ⟨[], h.trans (List.append_nil _).symm, rfl⟩

theorem Tells.trace_grows (h : s.Tells news s') : s.trace <+: s'.trace := by
  obtain ⟨events, ht, _⟩ := h
  exact ⟨events, ht.symm⟩

theorem deed_told (s : Session) (job : Job) :
    (s.deed job).told? = (s.handed? job).map Delivery.outcome := by
  cases job with
  | start owner operation =>
    simp only [deed, starting, handed?, send_eq]
    split <;> rfl
  | render | resume | armReset | reset => rfl

theorem moveDeed_told (s : Session) (m : Move) :
    (s.moveDeed m).told? = (s.delivered? m).map Delivery.outcome := by
  rw [delivered?, Option.map_bind]
  cases hj : s.job? m with
  | none => exact (moveDeed_of_none hj).2.2.1
  | some job =>
    rw [moveDeed_of_job hj]
    exact deed_told s job

theorem move_tells (s : Session) (m : Move) :
    s.Tells ((s.delivered? m).map Delivery.outcome).toList (s.move m) := by
  obtain ⟨frames, ht⟩ := s.move_trace m
  refine ⟨frames.map .rendered ++ (s.moveDeed m).events, ht.trans (List.append_assoc ..), ?_⟩
  rw [List.filterMap_append, filterMap_rendered fun _ => rfl, List.nil_append, Deed.outcomes,
    moveDeed_told]

theorem play_tells (s : Session) (ms : List Move) :
    s.Tells ((s.deliveries ms).map Delivery.outcome) (s.play ms) := by
  induction ms generalizing s with
  | nil => exact .of_same rfl
  | cons m ms ih =>
    obtain ⟨events, ht, he⟩ := move_tells s m
    obtain ⟨events', ht', he'⟩ := ih (s.move m)
    refine ⟨events ++ events', ?_, ?_⟩
    · exact ht'.trans (by rw [ht, List.append_assoc])
    · rw [List.filterMap_append, he, he', deliveries_cons, List.map_append, Option.toList_map]

/-- What an operation is answered is under way when it has started, or is handed over. -/
theorem job_underway (s : Session) (job : Job) :
    ((s.deed job).ready.filterMap Job.delivery? ++
        (s.deed job).sleeping.filterMap (fun z => z.job.delivery?) ++ (s.handed? job).toList).Perm
      (job.delivery?.toList ++ (s.begins? job).toList) := by
  rw [deed_ready_filterMap rfl]
  cases job with
  | start owner operation =>
    simp only [deed, starting, begins?, handed?, send_eq]
    split <;> exact List.Perm.refl _
  | render | resume | armReset | reset => exact List.Perm.refl _

theorem jobs_delivery (m : Move) : m.jobs.filterMap Job.delivery? = [] := by
  cases m with
  | message => exact Move.jobs_message (fun _ => rfl) ..
  | _ => rfl

/-- Each answer is under way from the start of its operation until it is taken up. -/
theorem move_underway (s : Session) (m : Move) :
    (s.underway ++ (s.begun? m).toList).Perm ((s.delivered? m).toList ++ (s.move m).underway) := by
  have hp := s.survey_step m (fun _ => Job.delivery?) s.begins? s.handed? (fun _ => rfl)
    s.job_underway fun time _ => s.survey_tick time (fun _ _ => rfl) fun _ _ _ => rfl
  rw [jobs_delivery, List.nil_append] at hp
  exact hp

theorem job_tasks (s : Session) (job : Job) :
    ((s.deed job).ready.filterMap Job.task? ++
        (s.deed job).sleeping.filterMap (fun z => z.job.task?) ++
        ((s.handed? job).map Delivery.task).toList).Perm
      (job.task?.toList ++ []) := by
  rw [deed_ready_filterMap rfl]
  cases job with
  | start owner operation =>
    simp only [deed, starting, handed?, send_eq]
    split <;> exact List.Perm.refl _
  | render | resume | armReset | reset => exact List.Perm.refl _

theorem jobs_task (m : Move) : m.jobs.filterMap Job.task? = m.task?.toList := by
  cases m with
  | message => exact Move.jobs_message (fun _ => rfl) ..
  | _ => rfl

/-- Each operation that is called for is finished once, or it is still to be. -/
theorem move_tasks (s : Session) (m : Move) :
    (s.tasks ++ m.task?.toList).Perm
      (((s.delivered? m).map Delivery.task).toList ++ (s.move m).tasks) := by
  have hp := s.survey_step m (fun _ => Job.task?) (fun _ => none)
    (fun job => (s.handed? job).map Delivery.task) (fun _ => rfl) s.job_tasks
    fun time _ => s.survey_tick time (fun _ _ => rfl) fun _ _ _ => rfl
  rw [jobs_task, Option.bind_fun_none, Option.toList_none, List.append_nil] at hp
  rw [delivered?, Option.map_bind]
  exact hp

theorem play_underway (s : Session) (ms : List Move) :
    (s.underway ++ s.begins ms).Perm (s.deliveries ms ++ (s.play ms).underway) :=
  perm_play move_underway s ms

theorem play_tasks (s : Session) (ms : List Move) :
    (s.tasks ++ ms.filterMap Move.task?).Perm
      ((s.deliveries ms).map Delivery.task ++ (s.play ms).tasks) := by
  have hp := perm_play move_tasks s ms
  rw [collect_moves, collect_map] at hp
  exact hp

theorem task_mem_of_underway {d : Delivery} (h : d ∈ s.underway) : d.task ∈ s.tasks := by
  have ht {job : Job} (h : job.delivery? = some d) : job.task? = some d.task := by
    cases job with
    | resume =>
      cases h
      rfl
    | render | start | armReset | reset => cases h
  rw [underway, survey] at h
  rw [tasks, survey]
  rcases List.mem_append.mp h with h | h
  · obtain ⟨job, hj, hd⟩ := List.mem_filterMap.mp h
    exact List.mem_append_left _ (List.mem_filterMap.mpr ⟨job, hj, ht hd⟩)
  · obtain ⟨z, hz, hd⟩ := List.mem_filterMap.mp h
    exact List.mem_append_right _ (List.mem_filterMap.mpr ⟨z, hz, ht hd⟩)

theorem task_mem_of_begins {ms : List Move} {d : Delivery} (h : d ∈ s.begins ms) :
    d.task ∈ s.tasks ++ ms.filterMap Move.task? := by
  rw [(play_tasks s ms).mem_iff]
  have hm := (play_underway s ms).mem_iff.mp (List.mem_append_right _ h)
  rcases List.mem_append.mp hm with hm | hm
  · exact List.mem_append_left _ (List.mem_map_of_mem hm)
  · exact List.mem_append_right _ (task_mem_of_underway hm)

theorem deed_server (s : Session) (job : Job) :
    (s.deed job).server? = (s.begins? job).map fun d => (s.server.reply d.operation).2 := by
  cases job <;> rfl

theorem move_server (s : Session) (m : Move) :
    (s.move m).server = (s.begun? m).elim s.server fun d => (s.server.reply d.operation).2 := by
  rw [move_server_eq, begun?]
  cases hj : s.job? m with
  | none =>
    rw [(moveDeed_of_none hj).2.1]
    rfl
  | some job =>
    rw [moveDeed_of_job hj, deed_server, Option.bind_some]
    cases s.begins? job <;> rfl

theorem play_server (s : Session) (ms : List Move) :
    (s.play ms).server =
      (s.begins ms).foldl (fun server d => (server.reply d.operation).2) s.server := by
  induction ms generalizing s with
  | nil => rfl
  | cons m ms ih =>
    have hs : s.play (m :: ms) = (s.move m).play ms := rfl
    rw [hs, ih, begins_cons, List.foldl_append, move_server]
    cases s.begun? m <;> rfl

theorem begun?_answer {d : Delivery} (h : s.begun? m = some d) :
    d.answer = (s.server.reply d.operation).1.answer := by
  obtain ⟨job, _, hb⟩ := Option.bind_eq_some_iff.mp h
  cases job with
  | start owner operation =>
    cases hb
    rfl
  | render | resume | armReset | reset => cases hb

/-- Operations are answered by the script in the order in which they start. -/
theorem begins_answers (s : Session) (ms : List Move) :
    (s.begins ms).map Delivery.answer =
      s.server.answers ((s.begins ms).map Delivery.operation) := by
  induction ms generalizing s with
  | nil => rfl
  | cons m ms ih =>
    have hs := move_server s m
    rw [begins_cons, List.map_append, List.map_append, ih]
    cases hb : s.begun? m with
    | none =>
      rw [hb] at hs
      rw [hs]
      rfl
    | some d =>
      rw [hb] at hs
      rw [hs]
      exact congrArg (· :: _) (begun?_answer hb)

end Session

end MailPrefs
