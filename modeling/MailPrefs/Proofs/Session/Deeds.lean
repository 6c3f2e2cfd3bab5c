import MailPrefs.Proofs.Preferences
import MailPrefs.Proofs.ViewModel.Outcome
import MailPrefs.Session.Interleaving

namespace MailPrefs

def Script.reply (server : Script) : Operation → Reply × Script
  | .load => (server.gets.head?.getD server.otherwise, { server with gets := server.gets.tail })
  | .submit =>
    (server.posts.head?.getD server.otherwise, { server with posts := server.posts.tail })

def requestFor (c : Catalog) : Operation × List String → Request
  | (.load, _) => .get settingsPath
  | (.submit, subscribed) =>
    .post settingsUpdatePath (.object (c.keys.map fun k => (k, .bool (decide (k ∈ subscribed)))))

/-- What is done to a session besides looking: how its view model and its server go on,
what is sent, noted and told, and which jobs come of it. -/
structure Deed where
  model? : Option ViewModel := none
  server? : Option Script := none
  request? : Option Request := none
  records : List Log.Record := []
  told? : Option (Owner × Result) := none
  ready : List Job := []
  sleeping : List Sleeper := []

def Deed.events (d : Deed) : List Event :=
  d.request?.toList.map .requested ++
    (d.records.map .logged ++ d.told?.toList.map fun (owner, result) => .finished owner result)

theorem Deed.events_nothing : ({} : Deed).events = [] := rfl

section Events

variable {α : Type} {f : Event → Option α}

theorem filterMap_logged (hf : ∀ record, f (.logged record) = none) (records : List Log.Record) :
    (records.map Event.logged).filterMap f = [] := by
  rw [List.filterMap_map]
  exact List.filterMap_eq_nil_iff.mpr fun record _ => hf record

theorem filterMap_rendered (hf : ∀ frame, f (.rendered frame) = none) (frames : List Frame) :
    (frames.map Event.rendered).filterMap f = [] := by
  rw [List.filterMap_map]
  exact List.filterMap_eq_nil_iff.mpr fun frame _ => hf frame

end Events

theorem Move.tick_or_ne (m : Move) : (∃ time, m = .tick time) ∨ ∀ time, m ≠ .tick time :=
  (Classical.em _).imp_right not_exists.mp

namespace Session

variable {s s' : Session} {d : Deed} {m : Move}

def does (s : Session) (d : Deed) : Session :=
  let t := d.model?.elim s s.setModel
  { t with
    server := d.server?.getD t.server
    ready := t.ready ++ d.ready
    sleeping := t.sleeping ++ d.sleeping
    trace := t.trace ++ d.events }

/-- A deed is done, and the view is woken or looks beside it. -/
structure Goes (s : Session) (d : Deed) (s' : Session) : Prop where
  model : s'.model = d.model?.getD s.model
  server : s'.server = d.server?.getD s.server
  now : s'.now = s.now
  ready : ∃ first later : List Job, (first ++ later).Sublist [.render] ∧
    s'.ready = first ++ s.ready ++ later ++ d.ready
  sleeping : s'.sleeping = s.sleeping ++ d.sleeping
  trace : ∃ frames : List Frame, s'.trace = s.trace ++ frames.map .rendered ++ d.events

theorem nudge_eq (s : Session) :
    ∃ looks view, looks.Sublist [Job.render] ∧
      s.nudge = { s with ready := s.ready ++ looks, view := view } := by
  rw [nudge]
  split
  · exact ⟨[], s.view, List.nil_sublist _, by rw [List.append_nil]⟩
  · split
    · exact ⟨[], s.view, List.nil_sublist _, by rw [List.append_nil]⟩
    · exact ⟨[.render], _, List.Sublist.refl _, rfl⟩

theorem setModel_eq (s : Session) (model : ViewModel) :
    ∃ looks view, looks.Sublist [Job.render] ∧
      s.setModel model = { s with model := model, ready := s.ready ++ looks, view := view } := by
  rw [setModel, notice]
  split
  · exact nudge_eq { s with model := model }
  · exact ⟨[], s.view, List.nil_sublist _, by rw [List.append_nil]⟩

/-- A deed touches the view only to wake it. -/
theorem does_eq (s : Session) (d : Deed) :
    ∃ looks view, looks.Sublist [Job.render] ∧
      s.does d =
        { s with
          model := d.model?.getD s.model
          server := d.server?.getD s.server
          ready := s.ready ++ looks ++ d.ready
          sleeping := s.sleeping ++ d.sleeping
          view := view
          trace := s.trace ++ d.events } := by
  rw [does]
  cases d.model? with
  | none => exact ⟨[], s.view, List.nil_sublist _, by rw [List.append_nil]; rfl⟩
  | some model =>
    obtain ⟨looks, view, hl, he⟩ := setModel_eq s model
    exact ⟨looks, view, hl, by rw [Option.elim_some, he]; rfl⟩

section View

variable {β : Type} {f : Mount → β}

/-- Nothing about a view depends on news but whether it is about to look. -/
theorem nudge_view (hf : ∀ v, f { v with isQueued := true } = f v) (s : Session) :
    s.nudge.view.map f = s.view.map f := by
  rw [nudge]
  split
  · rfl
  · next v hv =>
    split
    · rfl
    · rw [hv, Option.map_some, Option.map_some, hf]

theorem does_view (hf : ∀ v, f { v with isQueued := true } = f v) (s : Session) (d : Deed) :
    (s.does d).view.map f = s.view.map f := by
  rw [does]
  cases d.model? with
  | none => rfl
  | some model =>
    rw [Option.elim_some, setModel, notice]
    split
    · exact nudge_view hf { s with model := model }
    · rfl

end View

theorem does_goes (s : Session) (d : Deed) : s.Goes d (s.does d) := by
  obtain ⟨looks, view, hl, he⟩ := s.does_eq d
  rw [he]
  exact ⟨rfl, rfl, rfl, ⟨[], looks, hl, rfl⟩, rfl, [], by rw [List.map_nil, List.append_nil]⟩

theorem does_trace (s : Session) (d : Deed) : (s.does d).trace = s.trace ++ d.events := by
  obtain ⟨looks, view, _, he⟩ := s.does_eq d
  rw [he]

theorem nudge_goes (s : Session) : s.Goes {} s.nudge := by
  obtain ⟨looks, view, hl, he⟩ := nudge_eq s
  rw [he]
  refine ⟨rfl, rfl, rfl, ⟨[], looks, hl, (List.append_nil _).symm⟩,
    (List.append_nil _).symm, [], ?_⟩
  simp only [Deed.events_nothing, List.map_nil, List.append_nil]

theorem Goes.filterMap_trace {α : Type} {f : Event → Option α}
    (hf : ∀ frame, f (.rendered frame) = none) (h : s.Goes d s') :
    s'.trace.filterMap f = s.trace.filterMap f ++ d.events.filterMap f := by
  obtain ⟨frames, ht⟩ := h.trace
  rw [ht, List.filterMap_append, List.filterMap_append, filterMap_rendered hf, List.append_nil]

theorem Goes.of_still (hm : s'.model = s.model) (hs : s'.server = s.server) (hn : s'.now = s.now)
    (hr : s'.ready = s.ready) (hz : s'.sleeping = s.sleeping) (ht : s'.trace = s.trace) :
    s.Goes {} s' := by
  refine ⟨hm, hs, hn, ⟨[], [], List.nil_sublist _, ?_⟩, ?_, [], ?_⟩
  · simp only [hr, List.nil_append, List.append_nil]
  · simp only [hz, List.append_nil]
  · simp only [ht, Deed.events_nothing, List.map_nil, List.append_nil]

theorem Goes.refl (s : Session) : s.Goes {} s := .of_still rfl rfl rfl rfl rfl rfl

theorem render_goes (s : Session) : s.Goes {} s.render := by
  rw [render]
  split
  · exact .refl s
  · split
    · next frame v _ =>
      refine ⟨rfl, rfl, rfl, ⟨[.render], [], List.Sublist.refl _, ?_⟩, (List.append_nil _).symm,
        [frame], ?_⟩
      · simp only [List.append_nil]
        rfl
      · exact (List.append_nil _).symm
    · exact .of_still rfl rfl rfl rfl rfl rfl

theorem foldl_effect (s : Session) (es : List Effect) :
    es.foldl effect s =
      { s with
        ready := s.ready ++ es.filterMap Effect.job?
        trace := s.trace ++ (es.filterMap Effect.record?).map .logged } := by
  induction es generalizing s with
  | nil => simp only [List.foldl_nil, List.filterMap_nil, List.map_nil, List.append_nil]
  | cons e es ih =>
    rw [List.foldl_cons, ih]
    cases e with
    | log record =>
      simp only [effect, emit, Effect.job?, Effect.record?, List.filterMap_cons, List.map_cons,
        List.append_assoc, List.singleton_append]
    | resetAfter timeout =>
      simp only [effect, Effect.job?, Effect.record?, List.filterMap_cons, List.append_assoc,
        List.singleton_append]

theorem apply_eq_does (s : Session) (change : ViewModel × List Effect) :
    s.apply change =
      s.does
        { model? := some change.1
          records := change.2.filterMap Effect.record?
          ready := change.2.filterMap Effect.job? } := by
  rw [apply, foldl_effect, does]
  simp only [Option.elim_some, Option.getD_none, Deed.events, Option.toList_none, List.map_nil,
    List.nil_append, List.append_nil]

def answering (s : Session) (owner : Owner) (operation : Operation)
    (answer : Option (Except HttpError Json)) : Deed where
  model? := answer.map fun _ => s.model.answered operation answer
  records := (s.model.effects operation answer).filterMap Effect.record?
  told? := some (owner, operation.result answer)
  ready := (s.model.effects operation answer).filterMap Effect.job?

theorem finish_none (s : Session) (owner : Owner) (operation : Operation) :
    s.finish owner operation none = s.emit (.finished owner (operation.result none)) := by
  cases operation <;> rfl

/-- An answer is taken up in one go: the model changes, its effects follow, the result is told. -/
theorem finish_some (s : Session) (owner : Owner) (operation : Operation)
    (answer : Except HttpError Json) :
    s.finish owner operation (some answer) =
      (s.apply (s.model.answered operation (some answer),
        s.model.effects operation (some answer))).emit
          (.finished owner (operation.result (some answer))) := by
  cases operation with
  | load =>
    cases h : ViewModel.reportOf answer <;>
      simp only [finish, ViewModel.answered, ViewModel.effects, ViewModel.finishLoad,
        Operation.result, h]
  | submit =>
    cases answer with
    | ok body => rfl
    | error e =>
      simp only [finish, ViewModel.answered, ViewModel.effects, ViewModel.finishSubmit,
        Operation.result]
      split <;> rfl

theorem finish_eq_does (s : Session) (owner : Owner) (operation : Operation)
    (answer : Option (Except HttpError Json)) :
    s.finish owner operation answer = s.does (s.answering owner operation answer) := by
  cases answer with
  | none =>
    rw [finish_none, emit, does]
    simp [answering, ViewModel.effects, Deed.events]
  | some answer =>
    rw [finish_some, apply_eq_does, emit, does, does]
    simp [answering, Deed.events]

theorem send_eq (s : Session) (operation : Operation) :
    s.send operation =
      ((s.server.reply operation).1,
        { s.emit (.requested (requestFor s.model.catalog (operation, s.model.subscribed.value)))
          with server := (s.server.reply operation).2 }) := by
  cases operation with
  | load => rfl
  | submit => rw [requestFor, ← Preferences.toJson_ofSubscribed]; rfl

theorem setModel_with (s : Session) (model : ViewModel) (server : Script) (trace : List Event) :
    ({ s with server := server, trace := trace } : Session).setModel model =
      { s.setModel model with server := server, trace := trace } := by
  simp only [setModel, notice]
  split
  · simp only [nudge]
    split
    · rfl
    · split <;> rfl
  · rfl

theorem does_of_sent (s : Session) (request : Request) (server : Script)
    (hr : d.request? = none) (hs : d.server? = none) :
    ({ s.emit (.requested request) with server := server } : Session).does d =
      s.does { d with request? := some request, server? := some server } := by
  cases hm : d.model? with
  | none => simp [does, emit, Deed.events, hm, hr, hs]
  | some model =>
    obtain ⟨looks, view, _, he⟩ := setModel_eq s model
    have ht : (s.setModel model).trace = s.trace := by rw [he]
    simp [does, emit, Deed.events, hm, hr, hs, setModel_with, ht]

/-- What is done when an operation starts: its request is sent, and the reply
is taken up at once or waited for. -/
def starting (s : Session) (owner : Owner) (operation : Operation) : Deed :=
  let (reply, server) := s.server.reply operation
  let d : Deed :=
    if reply.delay = 0 then s.answering owner operation reply.answer
    else { sleeping := [⟨s.now + reply.delay, .resume owner operation reply.answer⟩] }
  { d with
    request? := some (requestFor s.model.catalog (operation, s.model.subscribed.value))
    server? := some server }

theorem starting_of_prompt {operation : Operation}
    (h : (s.server.reply operation).1.delay = 0) (owner : Owner) :
    s.starting owner operation =
      { s.answering owner operation (s.server.reply operation).1.answer with
        request? := some (requestFor s.model.catalog (operation, s.model.subscribed.value))
        server? := some (s.server.reply operation).2 } := by
  simp only [starting, if_pos h]

theorem starting_of_delayed {operation : Operation}
    (h : (s.server.reply operation).1.delay ≠ 0) (owner : Owner) :
    s.starting owner operation =
      { request? := some (requestFor s.model.catalog (operation, s.model.subscribed.value))
        server? := some (s.server.reply operation).2
        sleeping := [⟨s.now + (s.server.reply operation).1.delay,
          .resume owner operation (s.server.reply operation).1.answer⟩] } := by
  simp only [starting, if_neg h]

theorem start_eq_does (s : Session) (owner : Owner) (operation : Operation) :
    s.start owner operation = s.does (s.starting owner operation) := by
  rw [start, send_eq]
  by_cases h : (s.server.reply operation).1.delay = 0
  · simp only [starting_of_prompt h, if_pos h]
    rw [finish_eq_does]
    exact does_of_sent s _ _ rfl rfl
  · simp only [starting_of_delayed h, if_neg h]
    simp [does, sleep, emit, Deed.events]

def deed (s : Session) : Job → Deed
  | .render => {}
  | .start owner operation => s.starting owner operation
  | .resume owner operation answer => s.answering owner operation answer
  | .armReset timeout => { sleeping := [⟨s.now + timeout, .reset⟩] }
  | .reset => { model? := some s.model.resetMessage }

theorem runJob_eq_does (s : Session) {job : Job} (hj : job ≠ .render) :
    s.runJob job = s.does (s.deed job) := by
  cases job with
  | render => exact absurd rfl hj
  | start owner operation => exact start_eq_does s owner operation
  | resume owner operation answer => exact finish_eq_does s owner operation answer
  | armReset timeout => simp [runJob, sleep, deed, does, Deed.events]
  | reset => simp [runJob, deed, does, Deed.events]

theorem runJob_goes (s : Session) (job : Job) : s.Goes (s.deed job) (s.runJob job) := by
  by_cases hj : job = .render
  · subst hj
    exact render_goes s
  · rw [runJob_eq_does s hj]
    exact does_goes s _

theorem deed_ready (s : Session) (ready : List Job) (job : Job) :
    ({ s with ready := ready } : Session).deed job = s.deed job := by
  cases job <;> rfl

/-- What a move does, the clock and the view apart. -/
def moveDeed (s : Session) : Move → Deed
  | .toggle key checked =>
    { model? := (s.model.setSubscribed key checked).toOption.map Prod.snd }
  | .message message timeout clockRuns =>
    let (model, effects) := s.model.showMessage message timeout clockRuns
    { model? := some model
      records := effects.filterMap Effect.record?
      ready := effects.filterMap Effect.job? }
  | .call operation => s.starting .caller operation
  | .spawn name operation => { ready := [.start (.background name) operation] }
  | .run index => (s.ready[index]?).elim {} s.deed
  | .tick _ | .nudge | .takeLoad | .unmount => {}

theorem moveDeed_of_job {job : Job} (h : s.job? m = some job) : s.moveDeed m = s.deed job := by
  cases m with
  | call operation =>
    cases h
    rfl
  | run index =>
    have hr : s.ready[index]? = some job := h
    rw [moveDeed, hr, Option.elim_some]
  | toggle | message | spawn | tick | nudge | takeLoad | unmount => cases h

def left (s : Session) (m : Move) : Session :=
  { s with
    ready := match m with
      | .run index => s.ready.eraseIdx index
      | _ => s.ready }

theorem left_of_none {index : Nat} (h : s.ready[index]? = none) : s.left (.run index) = s := by
  rw [left, List.eraseIdx_of_length_le (List.getElem?_eq_none_iff.mp h)]

def IsLook (s : Session) (m : Move) : Prop :=
  s.job? m = some .render

theorem IsLook.eq_run (h : s.IsLook m) :
    ∃ index, m = .run index ∧ s.ready[index]? = some .render := by
  cases m with
  | run index => exact ⟨index, rfl, h⟩
  | call operation => cases h
  | toggle | message | spawn | tick | nudge | takeLoad | unmount => cases h

/-- What a move comes to: a deed is done, or it is a move of the clock or of the view. -/
inductive Comes (s : Session) : Move → Session → Prop where
  | does {m : Move} : ¬s.IsLook m → Comes s m ((s.left m).does (s.moveDeed m))
  | looks {m : Move} : s.IsLook m → Comes s m (s.left m).render
  | tick (time : Nat) : Comes s (.tick time) (s.tick time)
  | nudge : Comes s .nudge s.nudge
  | takeLoad : Comes s .takeLoad { s with view := s.view.map ({ · with isLoadTaken := true }) }
  | unmount : Comes s .unmount { s with view := none }

theorem Comes.of_does (hl : ¬s.IsLook m) (h : s' = (s.left m).does (s.moveDeed m)) :
    s.Comes m s' :=
  h ▸ .does hl

theorem does_nothing (s : Session) : s.does {} = s := by
  simp [does, Deed.events]

theorem toggle_eq_does (s : Session) (key : String) (checked : Bool) :
    (s.toggle key checked).2 = s.does (s.moveDeed (.toggle key checked)) := by
  rw [toggle]
  split
  · next h =>
    simp only [moveDeed, h]
    exact s.does_nothing.symm
  · next h => simp [moveDeed, h, does, Deed.events, Except.toOption]

theorem run_comes (s : Session) (index : Nat) : s.Comes (.run index) (s.move (.run index)) := by
  cases hr : s.ready[index]? with
  | none =>
    have hm : s.move (.run index) = s := by simp only [move, hr]
    refine .of_does ?_ ?_
    · rw [IsLook, job?, hr]
      exact nofun
    · rw [hm, left_of_none hr, moveDeed, hr, Option.elim_none, does_nothing]
  | some job =>
    have hm : s.move (.run index) = (s.left (.run index)).runJob job := by
      simp only [move, hr, left]
    rw [hm]
    by_cases hj : job = .render
    · subst hj
      exact .looks hr
    · refine .of_does ?_ ?_
      · rw [IsLook, job?, hr]
        exact fun h => hj (Option.some.inj h)
      · rw [runJob_eq_does _ hj, left, deed_ready, moveDeed, hr, Option.elim_some]

theorem move_comes (s : Session) (m : Move) : s.Comes m (s.move m) := by
  cases m with
  | toggle key checked => exact .of_does nofun (toggle_eq_does s key checked)
  | message message timeout clockRuns => exact .of_does nofun (apply_eq_does s _)
  | call operation => exact .of_does nofun (start_eq_does s .caller operation)
  | spawn name operation =>
    refine .of_does nofun ?_
    simp [move, left, does, moveDeed, Deed.events]
  | run index => exact run_comes s index
  | tick time => exact .tick time
  | nudge => exact .nudge
  | takeLoad => exact .takeLoad
  | unmount => exact .unmount

/-- What a move other than the clock's does is done once its job is taken out. -/
theorem move_goes (s : Session) {m : Move} (ht : ∀ time, m ≠ .tick time) :
    (s.left m).Goes (s.moveDeed m) (s.move m) := by
  have hc := s.move_comes m
  generalize s.move m = s' at hc ⊢
  cases hc with
  | does => exact does_goes _ _
  | looks hl =>
    rw [moveDeed_of_job hl]
    exact render_goes _
  | tick time => exact absurd rfl (ht time)
  | nudge => exact nudge_goes s
  | takeLoad => exact .of_still rfl rfl rfl rfl rfl rfl
  | unmount => exact .of_still rfl rfl rfl rfl rfl rfl

theorem move_model_eq (s : Session) (m : Move) :
    (s.move m).model = (s.moveDeed m).model?.getD s.model := by
  rcases m.tick_or_ne with ⟨time, rfl⟩ | ht
  · rfl
  · exact (s.move_goes ht).model

theorem move_server_eq (s : Session) (m : Move) :
    (s.move m).server = (s.moveDeed m).server?.getD s.server := by
  rcases m.tick_or_ne with ⟨time, rfl⟩ | ht
  · rfl
  · exact (s.move_goes ht).server

theorem move_trace (s : Session) (m : Move) :
    ∃ frames : List Frame,
      (s.move m).trace = s.trace ++ frames.map .rendered ++ (s.moveDeed m).events := by
  rcases m.tick_or_ne with ⟨time, rfl⟩ | ht
  · exact ⟨[], by simp [move, tick, moveDeed, Deed.events]⟩
  · exact (s.move_goes ht).trace

theorem moveDeed_of_none (h : s.job? m = none) :
    (s.moveDeed m).request? = none ∧ (s.moveDeed m).server? = none ∧
      (s.moveDeed m).told? = none ∧ (s.moveDeed m).sleeping = [] := by
  cases m with
  | call operation => cases h
  | run index =>
    have hr : s.ready[index]? = none := h
    rw [moveDeed, hr]
    exact ⟨rfl, rfl, rfl, rfl⟩
  | toggle | message | spawn | tick | nudge | takeLoad | unmount => exact ⟨rfl, rfl, rfl, rfl⟩

end Session

end MailPrefs
