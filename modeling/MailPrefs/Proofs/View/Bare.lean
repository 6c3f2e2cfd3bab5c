import MailPrefs.Proofs.Session.Waiting

namespace MailPrefs

/-- The mounting of a view is taken for a background task of some name. -/
def Owner.bared (name : String) : Owner → Owner
  | .mount => .background name
  | owner => owner

def Job.bared (name : String) : Job → Job
  | .start owner operation => .start (owner.bared name) operation
  | .resume owner operation answer => .resume (owner.bared name) operation answer
  | job => job

def Job.bared? (name : String) (job : Job) : Option Job :=
  if job.isLook then none else some (job.bared name)

def Sleeper.bared (name : String) (z : Sleeper) : Sleeper :=
  { z with job := z.job.bared name }

def Event.bared? (name : String) : Event → Option Event
  | .rendered _ => none
  | .finished owner result => some (.finished (owner.bared name) result)
  | e => some e

/-- A session as it would be without a view. -/
def Session.bared (name : String) (s : Session) : Session where
  model := s.model
  server := s.server
  now := s.now
  ready := s.ready.filterMap (Job.bared? name)
  sleeping := s.sleeping.map (Sleeper.bared name)
  view := none
  trace := s.trace.filterMap (Event.bared? name)

def Deed.bared (name : String) (d : Deed) : Deed where
  model? := d.model?
  server? := d.server?
  request? := d.request?
  records := d.records
  told? := d.told?.map fun (owner, result) => (owner.bared name, result)
  ready := d.ready.filterMap (Job.bared? name)
  sleeping := d.sleeping.map (Sleeper.bared name)

variable {name : String}

@[simp] theorem Owner.bared_eq_caller {owner : Owner} :
    owner.bared name = .caller ↔ owner = .caller := by
  cases owner <;> simp [Owner.bared]

@[simp] theorem Job.isCallers_bared (job : Job) : (job.bared name).isCallers = job.isCallers := by
  cases job with
  | resume owner operation answer => cases owner <;> rfl
  | render | start | armReset | reset => rfl

theorem Job.bared?_of_timed {job : Job} (h : job.isTimed = true) :
    job.bared? name = some (job.bared name) := by
  cases job with
  | resume | reset => rfl
  | render | start | armReset => cases h

theorem Job.bared?_looks {looks : List Job} (h : looks.Sublist [.render]) :
    looks.filterMap (Job.bared? name) = [] := by
  apply List.filterMap_eq_nil_iff.mpr
  intro job hj
  rw [List.mem_singleton.mp (h.subset hj)]
  rfl

theorem Job.filterMap_bared? {jobs : List Job} {p : Job → Bool}
    (hp : ∀ job : Job, p (job.bared name) = p job) (h : ∀ job ∈ jobs, job.isTimed = true) :
    (jobs.filter p).filterMap (Job.bared? name) = (jobs.map (Job.bared name)).filter p := by
  have hc : (jobs.filter p).filterMap (Job.bared? name) = (jobs.filter p).map (Job.bared name) := by
    rw [← List.filterMap_eq_map]
    apply List.filterMap_congr
    intro job hj
    exact Job.bared?_of_timed (h job (List.mem_filter.mp hj).1)
  rw [hc, List.filter_map]
  exact congrArg (List.map _ <| List.filter · jobs) (funext fun job => (hp job).symm)

theorem Effect.bared?_jobs (es : List Effect) :
    (es.filterMap Effect.job?).filterMap (Job.bared? name) = es.filterMap Effect.job? := by
  rw [List.filterMap_filterMap]
  apply List.filterMap_congr
  intro e _
  cases e <;> rfl

theorem Deed.bared_sent (d : Deed) (request : Request) (server : Script) :
    ({ d with request? := some request, server? := some server } : Deed).bared name =
      { d.bared name with request? := some request, server? := some server } := rfl

theorem Deed.bared_events (d : Deed) :
    d.events.filterMap (Event.bared? name) = (d.bared name).events := by
  have hl : (d.records.map Event.logged).filterMap (Event.bared? name) =
      d.records.map Event.logged := by
    rw [List.filterMap_map]
    exact congrFun (List.filterMap_eq_map (f := Event.logged)) d.records
  rw [events, events, List.filterMap_append, List.filterMap_append, hl, Deed.bared]
  cases d.request? <;> cases d.told? <;> rfl

namespace Session

variable {s s' : Session} {d : Deed}

theorem does_of_none (hv : s.view = none) (d : Deed) :
    s.does d =
      { s with
        model := d.model?.getD s.model
        server := d.server?.getD s.server
        ready := s.ready ++ d.ready
        sleeping := s.sleeping ++ d.sleeping
        trace := s.trace ++ d.events } := by
  rw [does]
  cases d.model? with
  | none => rfl
  | some model =>
    simp only [Option.elim_some, setModel, notice, hv]
    rfl

/-- What is done to a session is done without its view; what the view does leaves no trace. -/
theorem Goes.bared (h : s.Goes d s') (name : String) :
    s'.bared name = (s.bared name).does (d.bared name) := by
  obtain ⟨first, later, hl, hr⟩ := h.ready
  have hlooks : (first ++ later).filterMap (Job.bared? name) = [] := Job.bared?_looks hl
  rw [List.filterMap_append, List.append_eq_nil_iff] at hlooks
  have ht : s'.trace.filterMap (Event.bared? name) =
      s.trace.filterMap (Event.bared? name) ++ (d.bared name).events := by
    rw [h.filterMap_trace fun _ => rfl, d.bared_events]
  rw [does_of_none rfl]
  simp only [Session.bared, h.model, h.server, h.now, hr, h.sleeping, ht, List.filterMap_append,
    hlooks.1, hlooks.2, List.nil_append, List.append_nil, List.map_append]
  rfl

theorem bared_answering (name : String) (s : Session) (owner : Owner) (operation : Operation)
    (answer : Option (Except HttpError Json)) :
    (s.answering owner operation answer).bared name =
      (s.bared name).answering (owner.bared name) operation answer := by
  rw [answering, answering, Deed.bared, Effect.bared?_jobs]
  rfl

theorem bared_deed (s : Session) {job job' : Job} (h : job.bared? name = some job') :
    (s.deed job).bared name = (s.bared name).deed job' := by
  cases job with
  | render => cases h
  | start owner operation =>
    cases h
    by_cases hd : (s.server.reply operation).1.delay = 0
    · have hd' : ((s.bared name).server.reply operation).1.delay = 0 := hd
      have ha := bared_answering name s owner operation (s.server.reply operation).1.answer
      rw [deed, Job.bared, deed, starting_of_prompt hd, starting_of_prompt hd', Deed.bared_sent, ha]
      rfl
    · have hd' : ((s.bared name).server.reply operation).1.delay ≠ 0 := hd
      rw [deed, Job.bared, deed, starting_of_delayed hd, starting_of_delayed hd']
      rfl
  | resume owner operation answer =>
    cases h
    exact bared_answering name s owner operation answer
  | armReset timeout =>
    cases h
    rfl
  | reset =>
    cases h
    rfl

theorem bared_runJob (s : Session) {job job' : Job} (h : job.bared? name = some job') :
    (s.runJob job).bared name = (s.bared name).runJob job' := by
  have hne : job' ≠ .render := by
    rintro rfl
    cases job <;> cases h
  rw [(runJob_goes s job).bared, bared_deed s h, runJob_eq_does _ hne]

theorem bared_render (s : Session) : s.render.bared name = s.bared name :=
  ((render_goes s).bared name).trans (does_nothing _)

theorem bared_message (s : Session) (message : StatusMessage) (timeout : Option Nat)
    (clockRuns : Bool) :
    (s.moveDeed (.message message timeout clockRuns)).bared name =
      (s.bared name).moveDeed (.message message timeout clockRuns) := by
  rw [moveDeed, moveDeed, Deed.bared, Effect.bared?_jobs]
  rfl

/-- A caller does the same with a view and without. -/
theorem bared_move_of_caller (s : Session) {m : Move} (hm : m.isInternal = false) :
    (s.move m).bared name = (s.bared name).move m := by
  cases m with
  | toggle key checked =>
    have hd := (does_goes s (s.moveDeed (.toggle key checked))).bared name
    rw [move, move, toggle_eq_does, toggle_eq_does, hd]
    rfl
  | message message timeout clockRuns =>
    have hd := (does_goes s (s.moveDeed (.message message timeout clockRuns))).bared name
    rw [bared_message] at hd
    rw [move, move, apply_eq_does, apply_eq_does]
    exact hd
  | call operation =>
    have hj : (Job.start .caller operation).bared? name = some (.start .caller operation) := rfl
    exact bared_runJob s hj
  | spawn name operation =>
    simp only [move, bared, List.filterMap_append]
    rfl
  | takeLoad | unmount => rfl
  | run | tick | nudge => cases hm

/-- A look leaves no trace. -/
theorem bared_turn (name : String) (s : Session) :
    s.turn.bared name = s.bared name ∨ s.turn.bared name = (s.bared name).turn := by
  cases hr : s.ready with
  | nil =>
    rw [turn_of_rest hr]
    exact .inl rfl
  | cons job ready =>
    have ht : s.turn = { s with ready := ready }.runJob job := by simp only [turn, hr]
    rw [ht]
    cases hj : job.bared? name with
    | none =>
      cases job with
      | render =>
        refine .inl ((bared_render _).trans ?_)
        simp only [bared, hr]
        rfl
      | start | resume | armReset | reset => cases hj
    | some job' =>
      refine .inr ((bared_runJob _ hj).trans ?_)
      have hb : (s.bared name).ready = job' :: ready.filterMap (Job.bared? name) := by
        simp only [bared, hr, List.filterMap_cons_some hj]
      simp only [turn, hb]
      rfl

theorem bared_turns (name : String) (n : Nat) (s : Session) :
    ∃ k, (turns n s).bared name = turns k (s.bared name) := by
  induction n generalizing s with
  | zero => exact ⟨0, rfl⟩
  | succ n ih =>
    obtain ⟨k, hk⟩ := ih s.turn
    rcases bared_turn name s with h | h
    · exact ⟨k, hk.trans (by rw [h])⟩
    · exact ⟨k + 1, hk.trans (by rw [h]; rfl)⟩

theorem bared_settle (s : Session) : s.settle.bared name = (s.bared name).settle := by
  obtain ⟨k, hk⟩ := bared_turns name s.weight s
  have hr : (turns k (s.bared name)).ready = [] := by
    have hs : (s.settle.bared name).ready = [] := by
      rw [bared, s.settle_rest]
      rfl
    exact hk ▸ hs
  rw [settle_eq_turns hr]
  exact hk

theorem bared_nextWake? (s : Session) : (s.bared name).nextWake? = s.nextWake? := by
  rw [nextWake?, nextWake?, bared, List.map_map]
  rfl

theorem bared_tick (hs : s.Sound) (time : Nat) :
    (s.tick time).bared name = (s.bared name).tick time := by
  have hdue : (s.bared name).sleeping.filter (·.due ≤ time) =
      (s.sleeping.filter (·.due ≤ time)).map (Sleeper.bared name) := List.filter_map
  have hlater : (s.bared name).sleeping.filter (time < ·.due) =
      (s.sleeping.filter (time < ·.due)).map (Sleeper.bared name) := List.filter_map
  have htimed : ∀ job ∈ (s.sleeping.filter (·.due ≤ time)).map (·.job), job.isTimed = true := by
    intro job hj
    obtain ⟨z, hz, rfl⟩ := List.mem_map.mp hj
    exact hs.timed z (List.mem_filter.mp hz).1
  have hjobs : ((s.sleeping.filter (·.due ≤ time)).map (Sleeper.bared name)).map (·.job) =
      ((s.sleeping.filter (·.due ≤ time)).map (·.job)).map (Job.bared name) := by
    rw [List.map_map, List.map_map]
    rfl
  rw [tick, tick, hdue, hlater, hjobs, ← Job.filterMap_bared? Job.isCallers_bared htimed,
    ← Job.filterMap_bared? (p := (!·.isCallers)) (fun job => by rw [Job.isCallers_bared]) htimed]
  simp only [bared, List.filterMap_append]

/-- What the caller waits for runs without a look in between. -/
theorem bared_turns_callers {jobs later : List Job} (h : s.ready = jobs ++ later)
    (hc : ∀ job ∈ jobs, job.isCallers = true) :
    (turns jobs.length s).bared name = turns jobs.length (s.bared name) := by
  induction jobs generalizing s later with
  | nil => rfl
  | cons job jobs ih =>
    have hj := hc job List.mem_cons_self
    obtain ⟨more, hm⟩ := ready_turn h hj
    have hb : s.turn.bared name = (s.bared name).turn := by
      cases job with
      | resume owner operation answer =>
        rw [turn_of_ready h, bared_runJob _ rfl]
        simp only [turn, bared, h, List.cons_append]
        rfl
      | render | start | armReset | reset => cases hj
    have hi := ih (hm.trans (List.append_assoc ..)) fun job hm => hc job (List.mem_cons_of_mem _ hm)
    rw [hb] at hi
    exact hi

theorem bared_dueCallers (s : Session) (time : Nat) :
    ((s.bared name).dueCallers time).length = (s.dueCallers time).length := by
  have hd : (s.bared name).dueCallers time = (s.dueCallers time).map (Job.bared name) := by
    have hs : (s.bared name).sleeping.filter (·.due ≤ time) =
        (s.sleeping.filter (·.due ≤ time)).map (Sleeper.bared name) := List.filter_map
    have hj : ((s.sleeping.filter (·.due ≤ time)).map (Sleeper.bared name)).map (·.job) =
        ((s.sleeping.filter (·.due ≤ time)).map (·.job)).map (Job.bared name) := by
      rw [List.map_map, List.map_map]
      rfl
    have hc : Job.isCallers ∘ Job.bared name = Job.isCallers := funext Job.isCallers_bared
    rw [dueCallers, dueCallers, hs, hj, List.filter_map, hc]
  rw [hd, List.length_map]

theorem bared_wake (hs : s.Sound) (time : Nat) :
    (s.wake time).bared name = (s.bared name).wake time := by
  obtain ⟨later, hl⟩ := s.tick_ready time
  rw [wake_eq, wake_eq, bared_dueCallers, ← bared_tick hs]
  exact bared_turns_callers hl fun job hj => (List.mem_filter.mp hj).2

theorem bared_result? (name : String) {before : List Event} (h : before <+: s.trace) :
    (s.bared name).result? .caller (before.filterMap (Event.bared? name)).length =
      s.result? .caller before.length := by
  obtain ⟨events, ht⟩ := h
  rw [result?, result?, bared, ← ht, List.filterMap_append, List.drop_left, List.drop_left]
  clear ht
  induction events with
  | nil => rfl
  | cons e events ih =>
    cases e with
    | finished owner result =>
      have hf : (Event.finished owner result :: events).filterMap (Event.bared? name) =
          .finished (owner.bared name) result :: events.filterMap (Event.bared? name) := rfl
      rw [hf, List.findSome?_cons, List.findSome?_cons, ih]
      simp only [Owner.bared_eq_caller]
    | requested | logged | rendered => exact ih

theorem bared_awaitWithin (name : String) {n n' : Nat} {before : List Event}
    (h : before <+: s.trace) (hs : s.Sound) (hn : s.Enough n) (hn' : (s.bared name).Enough n') :
    (awaitWithin .caller before.length n s).bared name =
      awaitWithin .caller (before.filterMap (Event.bared? name)).length n' (s.bared name) := by
  induction n generalizing s n' with
  | zero => exact absurd rfl hn.ne_zero
  | succ n ih =>
    obtain ⟨n', rfl⟩ := Nat.exists_eq_succ_of_ne_zero hn'.ne_zero
    have hp : before <+: s.settle.trace := h.trans (turns_trace _ s)
    have hss : s.settle.Sound := turns_sound _ hs
    rw [awaitWithin, awaitWithin, bared_result? name h, ← bared_settle]
    simp only [bared_result? name hp, bared_nextWake?]
    split
    · rfl
    · split
      · rfl
      · cases hw : s.settle.nextWake? with
        | none => rfl
        | some time =>
          have hb : (s.bared name).settle.nextWake? = some time := by
            rw [← bared_settle, bared_nextWake?, hw]
          simp only
          rw [← bared_wake hss]
          apply ih
          · exact hp.trans (turns_trace _ (s.settle.tick time))
          · exact turns_sound _ (hss.tick time)
          · exact hn.wake hw
          · rw [bared_wake hss, bared_settle]
            exact hn'.wake hb

theorem bared_passWithin {n n' time : Nat} (hs : s.Sound) (hr : s.ready = [])
    (hn : s.remaining < n) (hn' : (s.bared name).remaining < n') :
    (passWithin time n s).bared name = passWithin time n' (s.bared name) := by
  induction n generalizing s n' with
  | zero => exact absurd hn (Nat.not_lt_zero _)
  | succ n ih =>
    obtain ⟨n', rfl⟩ := Nat.exists_eq_succ_of_ne_zero (Nat.ne_zero_of_lt hn')
    rw [passWithin, passWithin, bared_nextWake?]
    cases hw : s.nextWake? with
    | none => rfl
    | some next =>
      have hb : (s.bared name).nextWake? = some next := by rw [bared_nextWake?, hw]
      simp only
      split
      · rw [← bared_wake hs, ← bared_settle]
        apply ih
        · exact turns_sound _ (turns_sound _ (hs.tick next))
        · exact settle_rest _
        · exact Nat.lt_of_lt_of_le (remaining_wake_settle_lt hw) (Nat.le_of_lt_succ hn)
        · rw [bared_settle, bared_wake hs]
          exact Nat.lt_of_lt_of_le (remaining_wake_settle_lt hb) (Nat.le_of_lt_succ hn')
      · rfl

theorem bared_advance (hs : s.Sound) (ms : Nat) :
    (s.advance ms).bared name = (s.bared name).advance ms := by
  have hss : s.settle.Sound := turns_sound _ hs
  have hr := s.settle_rest
  have hlt (t : Session) : t.remaining < t.weight + 1 := Nat.lt_succ_of_le t.remaining_le_weight
  have hp := (drifts_passWithin (s.settle.now + ms) (s.settle.weight + 1) hss hr).sound hss
  rw [advance, advance, bared_tick hp, bared_passWithin hss hr (hlt _) (hlt _), ← bared_settle]
  rfl

theorem bared_call (hs : s.Sound) (operation : Operation) :
    (s.call operation).1 = ((s.bared name).call operation).1 ∧
      (s.call operation).2.bared name = ((s.bared name).call operation).2 := by
  have hb : (s.bared name).start .caller operation = (s.start .caller operation).bared name :=
    (bared_move_of_caller s rfl (m := .call operation)).symm
  have hp : s.trace <+: (s.start .caller operation).trace :=
    (move_tells s (.call operation)).trace_grows
  have hsc : (s.start .caller operation).Sound := hs.move (.call operation)
  have hw := bared_awaitWithin name hp hsc (enough_weight _) (enough_weight _)
  have hpa : s.trace <+: ((s.start .caller operation).await .caller s.trace.length).trace := by
    obtain ⟨ms, _, _, he⟩ := drifts_await .caller s.trace.length hsc
    rw [he]
    exact hp.trans (play_tells (s.start .caller operation) ms).trace_grows
  have hres := bared_result? name hpa
  simp only [call, hb]
  have hw' : ((s.start .caller operation).await .caller s.trace.length).bared name =
      ((s.start .caller operation).bared name).await .caller (s.bared name).trace.length := hw
  rw [← hw']
  exact ⟨by rw [← hres]; rfl, rfl⟩

theorem bared_toggle (s : Session) (key : String) (checked : Bool) :
    (s.toggle key checked).1 = ((s.bared name).toggle key checked).1 ∧
      (s.toggle key checked).2.bared name = ((s.bared name).toggle key checked).2 := by
  refine ⟨?_, bared_move_of_caller s rfl (m := .toggle key checked)⟩
  have hm : (s.bared name).model = s.model := rfl
  rw [toggle, toggle, hm]
  split <;> rfl

def Command.isBare : Command → Bool
  | .awaitLoad | .unmount => false
  | _ => true

theorem bared_perform (name : String) (hs : s.Sound) {c : Command} (hc : c.isBare = true) :
    (s.perform c).1 = ((s.bared name).perform c).1 ∧
      (s.perform c).2.bared name = ((s.bared name).perform c).2 := by
  cases c with
  | load => exact bared_call hs .load
  | submit => exact bared_call hs .submit
  | spawn task operation => exact ⟨rfl, bared_move_of_caller s rfl (m := .spawn task operation)⟩
  | toggle key checked => exact bared_toggle s key checked
  | message message timeout clockRuns =>
    exact ⟨rfl, bared_move_of_caller s rfl (m := .message message timeout clockRuns)⟩
  | advance ms => exact ⟨rfl, bared_advance hs ms⟩
  | settle => exact ⟨rfl, bared_settle s⟩
  | awaitLoad | unmount => cases hc

theorem perform_sound (hs : s.Sound) (c : Command) : (s.perform c).2.Sound :=
  (drifts_perform c hs).sound (hs.play c.moves)

theorem bared_performAll (name : String) {cs : List Command} (hs : s.Sound)
    (hc : ∀ c ∈ cs, c.isBare = true) :
    (s.performAll cs).1 = ((s.bared name).performAll cs).1 ∧
      (s.performAll cs).2.bared name = ((s.bared name).performAll cs).2 := by
  induction cs generalizing s with
  | nil => exact ⟨rfl, rfl⟩
  | cons c cs ih =>
    obtain ⟨ha, hp⟩ := bared_perform name hs (hc c List.mem_cons_self)
    obtain ⟨has, hps⟩ := ih (perform_sound hs c) fun c' h => hc c' (List.mem_cons_of_mem _ h)
    rw [hp] at has hps
    exact ⟨congrArg₂ List.cons ha has, hps⟩

end Session

end MailPrefs
