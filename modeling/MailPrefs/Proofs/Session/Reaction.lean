import MailPrefs.Proofs.Session.Deeds

namespace MailPrefs

def Job.starts? : Job → Option Operation
  | .start _ operation => some operation
  | _ => none

namespace Session

/-- The operations that were called for and are not started yet. -/
def waiting (s : Session) : List Operation :=
  (s.ready ++ s.sleeping.map (·.job)).filterMap Job.starts?

/-- The view model after a job: a reset clears the status, an answer is taken up. -/
def modelAfter (s : Session) : Job → ViewModel
  | .reset => s.model.resetMessage
  | job => (s.taken? job).elim s.model fun (operation, answer) => s.model.answered operation answer

theorem answering_model (s : Session) (owner : Owner) (operation : Operation)
    (answer : Option (Except HttpError Json)) :
    (s.answering owner operation answer).model?.getD s.model =
      s.model.answered operation answer := by
  cases answer with
  | none => cases operation <;> rfl
  | some answer => rfl

theorem deed_model (s : Session) (job : Job) :
    (s.deed job).model?.getD s.model = s.modelAfter job := by
  cases job with
  | start owner operation =>
    simp only [deed, starting, modelAfter, taken?, send_eq]
    split
    · exact answering_model s owner operation _
    · rfl
  | resume owner operation answer => exact answering_model s owner operation answer
  | render | armReset | reset => rfl

theorem modelAfter_step (s : Session) (job : Job) : s.model.Step (s.modelAfter job) := by
  cases job with
  | reset => exact .resetMessage s.model
  | _ =>
    simp only [modelAfter]
    cases s.taken? _ with
    | none => exact .refl s.model
    | some p => exact .answered s.model p.1 p.2

def modelAfterMove (s : Session) : Move → ViewModel
  | .toggle key checked => (s.model.setSubscribed key checked).toOption.elim s.model Prod.snd
  | .message message timeout clockRuns => (s.model.showMessage message timeout clockRuns).1
  | m => (s.job? m).elim s.model s.modelAfter

theorem move_model (s : Session) (m : Move) : (s.move m).model = s.modelAfterMove m := by
  rw [move_model_eq]
  cases m with
  | toggle key checked =>
    simp only [moveDeed, modelAfterMove]
    cases s.model.setSubscribed key checked <;> rfl
  | message message timeout clockRuns => rfl
  | call operation => exact deed_model s (.start .caller operation)
  | run index =>
    simp only [moveDeed, modelAfterMove, job?]
    cases s.ready[index]? with
    | none => rfl
    | some job => exact deed_model s job
  | spawn | tick | nudge | takeLoad | unmount => rfl

/-- No move takes the view model more than one step on. -/
theorem move_step (s : Session) (m : Move) : s.model.Step (s.move m).model := by
  rw [move_model]
  cases m with
  | toggle key checked =>
    simp only [modelAfterMove]
    cases h : s.model.setSubscribed key checked with
    | error e => exact .refl s.model
    | ok p => exact .setSubscribed h
  | message message timeout clockRuns => exact .showMessage s.model message timeout clockRuns
  | _ =>
    simp only [modelAfterMove]
    cases s.job? _ with
    | none => exact .refl s.model
    | some job => exact modelAfter_step s job

theorem play_catalog (s : Session) (ms : List Move) :
    (s.play ms).model.catalog = s.model.catalog := by
  induction ms generalizing s with
  | nil => rfl
  | cons m ms ih => exact (ih (s.move m)).trans (move_step s m).catalog

end Session

end MailPrefs
