import MailPrefs.Proofs.Session.Awaiting
import MailPrefs.Proofs.Session.Requests

namespace MailPrefs

variable {side : Side}

namespace ViewModel

variable {m m' : ViewModel}

/-- The view model with one half blanked out. Texts belong to the status. -/
def half (m : ViewModel) : Side → ViewModel
  | .subscribed => { m with localizer := .passthrough, contact := .default, status := ⟨{}, 0⟩ }
  | .status => { m with subscribed := ⟨[], 0⟩ }

theorem half_subscribed_eq_iff : m.half .subscribed = m'.half .subscribed ↔
    m.catalog = m'.catalog ∧ m.subscribed = m'.subscribed := by
  simp only [half, mk.injEq, true_and, and_true]

theorem half_status_eq_iff : m.half .status = m'.half .status ↔
    m.catalog = m'.catalog ∧ m.localizer = m'.localizer ∧ m.contact = m'.contact ∧
      m.status = m'.status := by
  simp only [half, mk.injEq, true_and]

theorem half_answered (m : ViewModel) (operation : Operation)
    (answer : Option (Except HttpError Json)) :
    (m.answered operation answer).half side =
      ((m.half side).answered operation answer).half side := by
  cases answer with
  | none => cases operation <;> cases side <;> rfl
  | some answer =>
    cases operation with
    | load =>
      cases h : reportOf answer with
      | ok r =>
        simp only [answered, finishLoad_of_ok h]
        cases side <;> rfl
      | error e =>
        simp only [answered, finishLoad_of_error h]
        cases side <;> rfl
    | submit =>
      cases answer with
      | ok body => cases side <;> rfl
      | error e =>
        simp only [answered, finishSubmit]
        split <;> cases side <;> rfl

theorem half_resetMessage (m : ViewModel) :
    m.resetMessage.half side = (m.half side).resetMessage.half side := by
  cases side <;> rfl

theorem outcome?_isSome (m m' : ViewModel) (operation : Operation)
    (answer : Option (Except HttpError Json)) :
    (m.outcome? operation answer).map (fun _ => Job.armReset outcomeTimeout) =
      (m'.outcome? operation answer).map fun _ => Job.armReset outcomeTimeout := by
  cases answer with
  | none => cases operation <;> rfl
  | some answer =>
    cases operation with
    | load =>
      simp only [outcome?]
      split <;> rfl
    | submit =>
      cases answer with
      | ok body => rfl
      | error e =>
        simp only [outcome?]
        split <;> rfl

end ViewModel

/-- The request with nothing in it that the status half does not know. -/
def Request.half : Request → Side → Request
  | .post path _, .status => .post path .null
  | request, _ => request

/-- Whether a job matters to a half. Looks matter to none, resets to the status only. -/
def Job.concerns (side : Side) : Job → Bool
  | .render => false
  | .armReset _ | .reset => side = .status
  | .start _ _ | .resume _ _ _ => true

theorem Job.concerns_of_callers {job : Job} (h : job.isCallers = true) :
    job.concerns side = true := by
  cases job with
  | resume => rfl
  | render | start | armReset | reset => cases h

theorem Job.concerns_looks {looks : List Job} (h : looks.Sublist [.render]) :
    looks.filter (Job.concerns side) = [] := by
  apply List.filter_eq_nil_iff.mpr
  intro job hj
  rw [List.mem_singleton.mp (h.subset hj)]
  exact Bool.false_ne_true

/-- What a half of a session consists of, the time apart. -/
structure Outline where
  model : ViewModel
  server : Script
  ready : List Job
  sleeping : List Sleeper
  requests : List Request
  told : List (Owner × Result)

def Outline.tick (o : Outline) (time : Nat) : Outline :=
  let due := (o.sleeping.filter (·.due ≤ time)).map (·.job)
  { o with
    sleeping := o.sleeping.filter (time < ·.due)
    ready := due.filter Job.isCallers ++ o.ready ++ due.filter (!·.isCallers) }

theorem Outline.tick_of_later {o : Outline} {time : Nat}
    (h : ∀ z ∈ o.sleeping, time < z.due) : o.tick time = o := by
  have hl : o.sleeping.filter (time < ·.due) = o.sleeping :=
    List.filter_eq_self.mpr fun z hz => decide_eq_true (h z hz)
  have hd : o.sleeping.filter (·.due ≤ time) = [] :=
    List.filter_eq_nil_iff.mpr fun z hz => by simpa using h z hz
  simp only [Outline.tick, hl, hd, List.map_nil, List.filter_nil, List.nil_append, List.append_nil]

def Deed.half (side : Side) (d : Deed) : Deed where
  model? := d.model?.map (·.half side)
  server? := d.server?
  request? := d.request?.map (·.half side)
  told? := d.told?
  ready := d.ready.filter (Job.concerns side)
  sleeping := d.sleeping.filter (·.job.concerns side)

theorem Deed.half_sent (d : Deed) (request : Request) (server : Script) :
    ({ d with request? := some request, server? := some server } : Deed).half side =
      { d.half side with request? := some (request.half side), server? := some server } := rfl

def Outline.does (o : Outline) (d : Deed) : Outline where
  model := d.model?.getD o.model
  server := d.server?.getD o.server
  ready := o.ready ++ d.ready
  sleeping := o.sleeping ++ d.sleeping
  requests := o.requests ++ d.request?.toList
  told := o.told ++ d.told?.toList

theorem Outline.does_nothing (o : Outline) : o.does {} = o := by
  simp only [Outline.does, Option.getD_none, Option.toList_none, List.append_nil]

theorem Outline.does_same (o : Outline) : o.does { model? := some o.model } = o := by
  simp only [Outline.does, Option.getD_some, Option.getD_none, Option.toList_none, List.append_nil]

theorem ViewModel.requestFor_half (m : ViewModel) (operation : Operation) :
    (requestFor m.catalog (operation, m.subscribed.value)).half side =
      (requestFor (m.half side).catalog (operation, (m.half side).subscribed.value)).half side := by
  cases operation <;> cases side <;> rfl

namespace Session

variable {s s' : Session} {d : Deed}

def outline (side : Side) (s : Session) : Outline where
  model := s.model.half side
  server := s.server
  ready := s.ready.filter (Job.concerns side)
  sleeping := s.sleeping.filter (·.job.concerns side)
  requests := s.requests.map (·.half side)
  told := s.toldAfter 0

/-- Two sessions have a half in common, and the time. -/
structure Shares (side : Side) (s s' : Session) : Prop where
  outline : s.outline side = s'.outline side
  now : s.now = s'.now

theorem toldAfter_zero (s : Session) : s.toldAfter 0 = s.trace.filterMap Event.outcome? := by
  rw [toldAfter, List.drop_zero]

/-- What is done to a session is done to its halves; what the view does leaves no trace there. -/
theorem Goes.outline (h : s.Goes d s') :
    s'.outline side = (s.outline side).does (d.half side) := by
  obtain ⟨first, later, hl, hr⟩ := h.ready
  have hlooks : (first ++ later).filter (Job.concerns side) = [] := Job.concerns_looks hl
  rw [List.filter_append, List.append_eq_nil_iff] at hlooks
  have hq : s'.requests = s.requests ++ d.request?.toList :=
    (h.filterMap_trace fun _ => rfl).trans (congrArg _ d.requests)
  have ht : s'.toldAfter 0 = s.toldAfter 0 ++ d.told?.toList := by
    rw [toldAfter_zero, toldAfter_zero, h.filterMap_trace fun _ => rfl, d.outcomes]
  have hm : (d.model?.getD s.model).half side =
      (d.model?.map (·.half side)).getD (s.model.half side) := by
    cases d.model? <;> rfl
  simp only [Session.outline, Outline.does, Deed.half, hq, ht, hm, h.model, h.server, hr,
    h.sleeping, List.filter_append, hlooks.1, hlooks.2, List.map_append, Option.toList_map,
    List.nil_append, List.append_nil]

theorem outline_runJob (s : Session) {job : Job} (h : job.concerns side = false) :
    (s.runJob job).outline side = s.outline side := by
  have hd : (s.outline side).does ((s.deed job).half side) = s.outline side := by
    cases job with
    | render => exact Outline.does_nothing _
    | start | resume => cases h
    | armReset timeout =>
      have hr : Job.reset.concerns side = false := h
      have hz : ([⟨s.now + timeout, .reset⟩] : List Sleeper).filter (·.job.concerns side) = [] :=
        List.filter_cons_of_neg (by rw [hr]; exact Bool.false_ne_true)
      simp only [deed, Deed.half, hz]
      exact Outline.does_nothing _
    | reset =>
      cases side with
      | subscribed => exact Outline.does_same (s.outline .subscribed)
      | status => cases h
  rw [(runJob_goes s job).outline, hd]

namespace Shares

theorem does {d' : Deed} {t t' : Session} (h : s.Shares side s') (hg : s.Goes d t)
    (hg' : s'.Goes d' t') (hd : d.half side = d'.half side) : t.Shares side t' :=
  ⟨by rw [hg.outline, hg'.outline, h.outline, hd], by rw [hg.now, hg'.now, h.now]⟩

theorem answering (h : s.Shares side s') (owner : Owner) (operation : Operation)
    (answer : Option (Except HttpError Json)) :
    (s.answering owner operation answer).half side =
      (s'.answering owner operation answer).half side := by
  have hm : s.model.half side = s'.model.half side := congrArg Outline.model h.outline
  have ha : (s.model.answered operation answer).half side =
      (s'.model.answered operation answer).half side := by
    rw [s.model.half_answered, s'.model.half_answered, hm]
  simp only [Session.answering, Deed.half, ViewModel.effects_jobs, Option.map_map,
    ViewModel.outcome?_isSome s.model s'.model]
  cases answer with
  | none => rfl
  | some answer =>
    simp only [Option.map_some, Function.comp_apply, ha]

theorem deed (h : s.Shares side s') {job : Job} (hj : job.concerns side = true) :
    (s.deed job).half side = (s'.deed job).half side := by
  have hm : s.model.half side = s'.model.half side := congrArg Outline.model h.outline
  cases job with
  | render => cases hj
  | start owner operation =>
    have hs : s.server = s'.server := congrArg Outline.server h.outline
    have hr : (requestFor s.model.catalog (operation, s.model.subscribed.value)).half side =
        (requestFor s'.model.catalog (operation, s'.model.subscribed.value)).half side := by
      rw [s.model.requestFor_half, s'.model.requestFor_half, hm]
    by_cases hd : (s.server.reply operation).1.delay = 0
    · have hd' : (s'.server.reply operation).1.delay = 0 := hs ▸ hd
      have ha := h.answering owner operation (s'.server.reply operation).1.answer
      rw [Session.deed, Session.deed, starting_of_prompt hd, starting_of_prompt hd', Deed.half_sent,
        Deed.half_sent, hs, hr, ha]
    · have hd' : (s'.server.reply operation).1.delay ≠ 0 := hs ▸ hd
      rw [Session.deed, Session.deed, starting_of_delayed hd, starting_of_delayed hd', hs, h.now]
      simp only [Deed.half, Option.map_some, hr]
  | resume owner operation answer => exact h.answering owner operation answer
  | armReset timeout => rw [Session.deed, Session.deed, h.now]
  | reset =>
    have hr : s.model.resetMessage.half side = s'.model.resetMessage.half side := by
      rw [s.model.half_resetMessage, s'.model.half_resetMessage, hm]
    simp only [Session.deed, Deed.half, Option.map_some, hr]

theorem runJob (h : s.Shares side s') {job : Job} (hj : job.concerns side = true) :
    (s.runJob job).Shares side (s'.runJob job) :=
  h.does (runJob_goes s job) (runJob_goes s' job) (h.deed hj)

end Shares

end Session

end MailPrefs
