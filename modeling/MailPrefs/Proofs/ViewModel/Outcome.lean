import MailPrefs.Proofs.ViewModel.Step
import MailPrefs.Session.Run

namespace MailPrefs

def Effect.job? : Effect → Option Job
  | .log _ => none
  | .resetAfter timeout => some (.armReset timeout)

def Effect.record? : Effect → Option Log.Record
  | .log record => some record
  | .resetAfter _ => none

def Operation.result : Operation → Option (Except HttpError Json) → Result
  | operation, none => Session.stopped operation
  | .load, some answer =>
    .loaded <| match ViewModel.reportOf answer with
      | .ok _ => .ok ()
      | .error e => .error (.fetchFailed e)
  | .submit, some (.ok _) => .submitted (.ok .updated)
  | .submit, some (.error e) =>
    .submitted <|
      if e.apiError?.any (·.isNotSubscribed) then .ok .notSubscribed
      else .error (.submitFailed (e.apiError?.map (·.errorType)) e)

namespace ViewModel

def answered (m : ViewModel) : Operation → Option (Except HttpError Json) → ViewModel
  | _, none => m
  | .load, some answer => (m.finishLoad answer).2.1
  | .submit, some answer => (m.finishSubmit answer).2.1

def effects (m : ViewModel) : Operation → Option (Except HttpError Json) → List Effect
  | _, none => []
  | .load, some answer => (m.finishLoad answer).2.2
  | .submit, some answer => (m.finishSubmit answer).2.2

/-- The message that shows what an answered operation came to, if there is one. A load that
succeeds shows nothing, and neither does a client that breaks down. -/
def outcome? (m : ViewModel) : Operation → Option (Except HttpError Json) → Option StatusMessage
  | .load, some answer =>
    match reportOf answer with
    | .ok _ => none
    | .error _ => some ⟨m.localizer.translate fetchFailedText, .danger⟩
  | .submit, some (.ok _) => some ⟨m.localizer.translate settingsUpdatedText, .success⟩
  | .submit, some (.error e) =>
    if e.apiError?.any (·.isNotSubscribed) then none else some ⟨m.submitFailedMessage, .danger⟩
  | _, none => none

/-- After how long a message is cleared: not at all without a timeout, with
a timeout of zero, or where no clock runs. -/
def clearing? : Option Nat → Bool → Option Nat
  | some ms, true => if ms = 0 then none else some ms
  | _, _ => none

theorem Step.answered (m : ViewModel) (operation : Operation)
    (answer : Option (Except HttpError Json)) : m.Step (m.answered operation answer) := by
  cases answer with
  | none => cases operation <;> exact .refl m
  | some answer =>
    cases operation with
    | load => exact .finishLoad m answer
    | submit => exact .finishSubmit m answer

theorem clearing?_pos {timeout : Option Nat} {clockRuns : Bool} {ms : Nat}
    (h : clearing? timeout clockRuns = some ms) : 0 < ms := by
  rw [clearing?.eq_def] at h
  split at h
  · split at h
    · cases h
    · next hne =>
      cases h
      exact Nat.pos_of_ne_zero hne
  · cases h

theorem showMessage_jobs (m : ViewModel) (message : StatusMessage) (timeout : Option Nat)
    (clockRuns : Bool) :
    (m.showMessage message timeout clockRuns).2.filterMap Effect.job? =
      ((clearing? timeout clockRuns).map Job.armReset).toList := by
  cases timeout with
  | none => rfl
  | some ms =>
    cases ms with
    | zero => cases clockRuns <;> rfl
    | succ ms => cases clockRuns <;> rfl

/-- An operation asks for a reset if it shows a message, and only then. -/
theorem effects_jobs (m : ViewModel) (operation : Operation)
    (answer : Option (Except HttpError Json)) :
    (m.effects operation answer).filterMap Effect.job? =
      ((m.outcome? operation answer).map fun _ => Job.armReset outcomeTimeout).toList := by
  cases answer with
  | none => cases operation <;> rfl
  | some answer =>
    cases operation with
    | load =>
      cases h : reportOf answer with
      | ok r =>
        simp only [effects, outcome?, finishLoad, h]
        rfl
      | error e =>
        simp only [effects, outcome?, finishLoad, h]
        rfl
    | submit =>
      cases answer with
      | ok body => rfl
      | error e =>
        simp only [effects, outcome?, finishSubmit]
        split <;> rfl

end ViewModel

end MailPrefs
