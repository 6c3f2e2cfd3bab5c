import MailPrefs.Proofs.Except
import MailPrefs.Proofs.Session.Deliveries
import MailPrefs.Proofs.Subscribed.Run

namespace MailPrefs

def Move.isToggle : Move → Bool
  | .toggle _ _ => true
  | _ => false

theorem Change.ofAnswer?_reported {operation : Operation}
    {answer : Option (Except HttpError Json)} {change : Change}
    (h : ofAnswer? (operation, answer) = some change) : ∃ r, change = .reported r := by
  cases answer with
  | none => cases operation <;> cases h
  | some answer =>
    cases operation with
    | submit => cases h
    | load =>
      obtain ⟨r, _, rfl⟩ := Option.map_eq_some_iff.mp h
      exact ⟨r, rfl⟩

theorem Operation.load_result_of_ok {answer : Except HttpError Json} {r : Report}
    (h : ViewModel.reportOf answer = .ok r) : load.result (some answer) = .loaded (.ok ()) := by
  rw [result, h]

theorem Operation.load_result_of_error {answer : Except HttpError Json} {e : HttpError}
    (h : ViewModel.reportOf answer = .error e) :
    load.result (some answer) = .loaded (.error (.fetchFailed e)) := by
  rw [result, h]

theorem Operation.load_result_iff {answer : Except HttpError Json} :
    load.result (some answer) = .loaded (.ok ()) ↔ ∃ r, ViewModel.reportOf answer = .ok r := by
  cases h : ViewModel.reportOf answer with
  | ok r => exact iff_of_true (load_result_of_ok h) ⟨r, rfl⟩
  | error e =>
    rw [load_result_of_error h]
    exact iff_of_false nofun nofun

namespace ViewModel

variable {m : ViewModel} {r : Report} {answer : Except HttpError Json}

theorem reportOf_eq_ok_iff :
    reportOf answer = .ok r ↔ ∃ v, answer = .ok v ∧ Report.ofJson v = .ok r := by
  rw [reportOf, bind_eq_ok_iff]
  simp only [mapError_eq_ok_iff]

theorem withReport_subscribed (m : ViewModel) (r : Report) :
    (m.withReport r).subscribed = (m.subscribed.update (extended m.catalog r)).1 := rfl

theorem withReport_of_known (h : additions m.catalog r m.subscribed.value = []) :
    (m.withReport r).subscribed = m.subscribed := by
  have ht : extended m.catalog r m.subscribed.value = (m.subscribed.value, false) := by
    rw [extended, h, List.append_nil]
    rfl
  rw [withReport_subscribed, Observable.update, ht]
  rfl

theorem answered_of_known (hr : reportOf answer = .ok r)
    (h : additions m.catalog r m.subscribed.value = []) :
    (m.answered .load (some answer)).subscribed = m.subscribed := by
  have ha : m.answered .load (some answer) = m.withReport r := finishLoad_of_ok hr
  rw [ha, withReport_of_known h]

theorem answered_submit (m : ViewModel) (answer : Option (Except HttpError Json)) :
    (m.answered .submit answer).subscribed = m.subscribed := by
  cases answer with
  | none => rfl
  | some answer => exact m.finishSubmit_subscribed answer

theorem answered_subset (m : ViewModel) (operation : Operation)
    (answer : Option (Except HttpError Json)) :
    m.subscribed.value ⊆ (m.answered operation answer).subscribed.value := by
  rw [answered_subscribed]
  cases hc : Change.ofAnswer? (operation, answer) with
  | none => exact List.Subset.refl _
  | some change =>
    obtain ⟨r, rfl⟩ := Change.ofAnswer?_reported hc
    exact List.subset_append_left _ _

end ViewModel

namespace Session

variable {s : Session} {m : Move} {ms : List Move}

theorem modelAfter_handed (s : Session) (job : Job) :
    (s.modelAfter job).subscribed =
      ((s.handed? job).elim s.model fun d => s.model.answered d.operation d.answer).subscribed := by
  cases job with
  | reset => rfl
  | render | start | resume | armReset =>
    simp only [modelAfter, taken?_eq]
    cases s.handed? _ <;> rfl

theorem move_delivered (h : m.isToggle = false) :
    (s.move m).model.subscribed =
      ((s.delivered? m).elim s.model fun d =>
        s.model.answered d.operation d.answer).subscribed := by
  rw [move_model]
  cases m with
  | toggle key checked => cases h
  | message message timeout clockRuns =>
    rw [modelAfterMove, ViewModel.showMessage_fst]
    rfl
  | _ =>
    simp only [modelAfterMove, delivered?]
    cases s.job? _ with
    | none => rfl
    | some job => exact modelAfter_handed s job

theorem play_subset (s : Session) (h : ∀ m ∈ ms, m.isToggle = false) :
    s.model.subscribed.value ⊆ (s.play ms).model.subscribed.value := by
  induction ms generalizing s with
  | nil => exact List.Subset.refl _
  | cons m ms ih =>
    have hm : s.model.subscribed.value ⊆ (s.move m).model.subscribed.value := by
      rw [move_delivered (h m List.mem_cons_self)]
      cases s.delivered? m with
      | none => exact List.Subset.refl _
      | some d => exact s.model.answered_subset d.operation d.answer
    exact List.Subset.trans hm (ih (s.move m) fun m hm => h m (List.mem_cons_of_mem _ hm))

/-- An answer brings nothing new if each key of the catalog that it affirms is subscribed. -/
def IsKnown (s : Session) (d : Delivery) : Prop :=
  d.operation = .load → ∃ answer r, d.answer = some answer ∧
    ViewModel.reportOf answer = .ok r ∧
      ViewModel.additions s.model.catalog r s.model.subscribed.value = []

theorem move_known (h : m.isToggle = false) (hd : ∀ d, s.delivered? m = some d → s.IsKnown d) :
    (s.move m).model.subscribed = s.model.subscribed := by
  rw [move_delivered h]
  cases hs : s.delivered? m with
  | none => rfl
  | some d =>
    obtain ⟨owner, operation, answer⟩ := d
    cases operation with
    | submit => exact s.model.answered_submit answer
    | load =>
      obtain ⟨answer, r, rfl, hr, ha⟩ := hd _ hs rfl
      exact ViewModel.answered_of_known hr ha

/-- A run that brings nothing new leaves the subscribed list alone and tells nobody of it. -/
theorem play_known (s : Session) (h : ∀ m ∈ ms, m.isToggle = false)
    (hd : ∀ d ∈ s.deliveries ms, s.IsKnown d) :
    (s.play ms).model.subscribed = s.model.subscribed := by
  induction ms generalizing s with
  | nil => rfl
  | cons m ms ih =>
    rw [deliveries_cons] at hd
    have hm : (s.move m).model.subscribed = s.model.subscribed := by
      apply move_known (h m List.mem_cons_self)
      intro d hs
      apply hd
      rw [hs]
      exact List.mem_append_left _ (List.mem_singleton.mpr rfl)
    have hp : s.play (m :: ms) = (s.move m).play ms := rfl
    rw [hp, ih (s.move m) (fun m hm => h m (List.mem_cons_of_mem _ hm)), hm]
    intro d hm'
    have hk := hd d (List.mem_append_right _ hm')
    rw [IsKnown] at hk ⊢
    rw [hm, (move_step s m).catalog]
    exact hk

/-- The changes of a run without toggles are those of the answers that it takes up. -/
theorem changes_of_deliveries (h : ∀ m ∈ ms, m.isToggle = false) :
    s.changes ms =
      (s.deliveries ms).filterMap fun d => Change.ofAnswer? (d.operation, d.answer) := by
  induction ms generalizing s with
  | nil => rfl
  | cons m ms ih =>
    have hc : s.change? m = (s.delivered? m).bind fun d =>
        Change.ofAnswer? (d.operation, d.answer) := by
      have he : s.change? m = (s.completed? m).bind Change.ofAnswer? := by
        cases m with
        | toggle key checked => cases h _ List.mem_cons_self
        | _ => rfl
      rw [he, completed?_eq, Option.bind_map]
      rfl
    have hcs : s.changes (m :: ms) = (s.change? m).toList ++ (s.move m).changes ms := rfl
    rw [hcs, deliveries_cons, List.filterMap_append, hc,
      ih fun m' hm => h m' (List.mem_cons_of_mem _ hm)]
    congr 1
    cases s.delivered? m with
    | none => rfl
    | some d => cases hd : Change.ofAnswer? (d.operation, d.answer) <;> simp [hd]

end Session

end MailPrefs
