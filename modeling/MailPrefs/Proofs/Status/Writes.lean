import Mathlib.Data.List.Induction
import MailPrefs.Proofs.Session.Reaction
import MailPrefs.Proofs.Session.Run

namespace MailPrefs

namespace Observable

variable {α : Type}

def setAll (o : Observable α) (values : List α) : Observable α :=
  values.foldl set o

theorem setAll_append (o : Observable α) (values values' : List α) :
    o.setAll (values ++ values') = (o.setAll values).setAll values' :=
  List.foldl_append

theorem setAll_version (o : Observable α) (values : List α) :
    (o.setAll values).version = o.version + values.length := by
  induction values generalizing o with
  | nil => rfl
  | cons value values ih =>
    have ih' : ((o.set value).setAll values).version = o.version + 1 + values.length := ih _
    rw [List.length_cons, Nat.add_comm values.length 1, ← Nat.add_assoc]
    exact ih'

theorem setAll_value (o : Observable α) (values : List α) :
    (o.setAll values).value = values.getLast?.getD o.value := by
  induction values using List.reverseRecOn with
  | nil => rfl
  | append_singleton values value _ =>
    rw [setAll_append, List.getLast?_concat]
    rfl

/-- Each write is told to the watchers, so one that is not was not made. -/
theorem eq_nil_of_setAll_eq {o : Observable α} {values : List α} (h : o.setAll values = o) :
    values = [] := by
  have hv := congrArg version h
  rw [setAll_version] at hv
  exact List.eq_nil_of_length_eq_zero (by omega)

end Observable

namespace ViewModel

theorem answered_status (m : ViewModel) (operation : Operation)
    (answer : Option (Except HttpError Json)) :
    (m.answered operation answer).status =
      m.status.setAll (m.outcome? operation answer).toList := by
  cases answer with
  | none => cases operation <;> rfl
  | some answer =>
    cases operation with
    | load =>
      cases h : reportOf answer with
      | ok r => simp only [answered, outcome?, h, finishLoad_of_ok h]; rfl
      | error e => simp only [answered, outcome?, h, finishLoad_of_error h]; rfl
    | submit =>
      cases answer with
      | ok body => exact congrArg status (m.showMessage_fst _ (some outcomeTimeout) true)
      | error e =>
        simp only [answered, finishSubmit, outcome?]
        split
        · rfl
        · exact congrArg status (m.showMessage_fst _ (some outcomeTimeout) true)

end ViewModel

namespace Session

def jobWrite? (s : Session) : Job → Option StatusMessage
  | .reset => some {}
  | job => (s.taken? job).bind fun (operation, answer) => s.model.outcome? operation answer

def written? (s : Session) : Move → Option StatusMessage
  | .message message _ _ => some message
  | m => (s.job? m).bind s.jobWrite?

def writes (s : Session) (ms : List Move) : List StatusMessage :=
  s.collect written? ms

theorem writes_append (s : Session) (ms ms' : List Move) :
    s.writes (ms ++ ms') = s.writes ms ++ (s.play ms).writes ms' :=
  collect_append written? s ms ms'

theorem modelAfter_status (s : Session) (job : Job) :
    (s.modelAfter job).status = s.model.status.setAll (s.jobWrite? job).toList := by
  cases job with
  | reset => rfl
  | _ =>
    simp only [modelAfter, jobWrite?]
    cases s.taken? _ with
    | none => rfl
    | some p => exact s.model.answered_status p.1 p.2

theorem move_status (s : Session) (m : Move) :
    (s.move m).model.status = s.model.status.setAll (s.written? m).toList := by
  rw [move_model]
  cases m with
  | toggle key checked =>
    simp only [modelAfterMove, ViewModel.setSubscribed_eq]
    split <;> rfl
  | message message timeout clockRuns =>
    simp only [modelAfterMove, ViewModel.showMessage_fst]
    rfl
  | _ =>
    simp only [modelAfterMove, written?]
    cases s.job? _ with
    | none => rfl
    | some job => exact modelAfter_status s job

/-- The status after a run is what the writes of the run make of it. -/
theorem play_status (s : Session) (ms : List Move) :
    (s.play ms).model.status = s.model.status.setAll (s.writes ms) := by
  induction ms using List.reverseRecOn with
  | nil => rfl
  | append_singleton ms m ih =>
    rw [play_concat, move_status, ih, writes, writes, collect_concat, Observable.setAll_append]

end Session

end MailPrefs
