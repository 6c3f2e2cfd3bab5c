import MailPrefs.ViewModel

namespace MailPrefs

namespace Observable

variable {α : Type} {o : Observable α}

/-- An observable stays as it is or is written once, of which its watchers are told. -/
inductive Step (o : Observable α) : Observable α → Prop where
  | same : Step o o
  | write (value : α) : Step o (o.set value)

/-- An update that keeps the value whenever it tells nobody never changes it in silence. -/
theorem Step.update {change : α → α × Bool}
    (h : ∀ value, (change value).2 = false → (change value).1 = value) :
    o.Step (o.update change).1 := by
  cases ht : (change o.value).2 with
  | false =>
    have he : (o.update change).1 = o := by
      simp only [Observable.update, ht, h o.value ht, Bool.false_eq_true, if_false]
    rw [he]
    exact .same
  | true =>
    have he : (o.update change).1 = o.set (change o.value).1 := by
      simp only [Observable.update, Observable.set, ht, if_true]
    rw [he]
    exact .write _

theorem Step.version_le {o' : Observable α} (h : o.Step o') : o.version ≤ o'.version := by
  cases h with
  | same => exact Nat.le_refl _
  | write value => exact Nat.le_succ _

theorem Step.eq_of_version {o' : Observable α} (h : o.Step o') (hv : o'.version = o.version) :
    o' = o := by
  cases h with
  | same => rfl
  | write value => exact absurd hv (Nat.succ_ne_self _)

end Observable

namespace ViewModel

/-- A view model goes one step on: its catalog stays, each observable is written at most once. -/
structure Step (m m' : ViewModel) : Prop where
  catalog : m'.catalog = m.catalog
  subscribed : m.subscribed.Step m'.subscribed
  status : m.status.Step m'.status

variable {m : ViewModel}

theorem Step.refl (m : ViewModel) : m.Step m := ⟨rfl, .same, .same⟩

theorem toggled_of_untold (key : String) (checked : Bool) (subscribed : List String)
    (h : (toggled key checked subscribed).2 = false) :
    (toggled key checked subscribed).1 = subscribed := by
  unfold toggled at h ⊢
  split at h <;> simp_all

theorem setSubscribed_eq (m : ViewModel) (key : String) (checked : Bool) :
    m.setSubscribed key checked =
      if m.catalog.contains key then
        .ok ((m.subscribed.update (toggled key checked)).2,
          { m with subscribed := (m.subscribed.update (toggled key checked)).1 })
      else .error ⟨key⟩ := rfl

theorem Step.setSubscribed {m' : ViewModel} {key : String} {checked changed : Bool}
    (h : m.setSubscribed key checked = .ok (changed, m')) : m.Step m' := by
  rw [setSubscribed_eq] at h
  split at h
  · cases h
    exact ⟨rfl, .update (toggled_of_untold key checked), .same⟩
  · cases h

theorem showMessage_fst (m : ViewModel) (message : StatusMessage) (timeout : Option Nat)
    (clockRuns : Bool) :
    (m.showMessage message timeout clockRuns).1 = { m with status := m.status.set message } := by
  unfold showMessage
  split
  · rfl
  · rfl
  · split <;> rfl

theorem Step.showMessage (m : ViewModel) (message : StatusMessage) (timeout : Option Nat)
    (clockRuns : Bool) : m.Step (m.showMessage message timeout clockRuns).1 := by
  rw [showMessage_fst]
  exact ⟨rfl, .same, .write message⟩

theorem Step.resetMessage (m : ViewModel) : m.Step m.resetMessage := ⟨rfl, .same, .write _⟩

theorem extended_of_untold (c : Catalog) (r : Report) (subscribed : List String)
    (h : (extended c r subscribed).2 = false) : (extended c r subscribed).1 = subscribed := by
  have he : additions c r subscribed = [] := by simpa [extended] using h
  simp only [extended, he, List.append_nil]

theorem Step.withReport (m : ViewModel) (r : Report) : m.Step (m.withReport r) :=
  ⟨rfl, .update (extended_of_untold m.catalog r), .same⟩

theorem finishLoad_of_ok {answer : Except HttpError Json} {r : Report}
    (h : reportOf answer = .ok r) : (m.finishLoad answer).2.1 = m.withReport r := by
  simp only [finishLoad, h]

theorem finishLoad_of_error {answer : Except HttpError Json} {e : HttpError}
    (h : reportOf answer = .error e) :
    (m.finishLoad answer).2.1 =
      { m with status := m.status.set ⟨m.localizer.translate fetchFailedText, .danger⟩ } := by
  simp only [finishLoad, h, showOutcome]
  exact showMessage_fst ..

theorem Step.finishLoad (m : ViewModel) (answer : Except HttpError Json) :
    m.Step (m.finishLoad answer).2.1 := by
  cases h : reportOf answer with
  | ok r =>
    rw [finishLoad_of_ok h]
    exact .withReport m r
  | error e =>
    rw [finishLoad_of_error h]
    exact ⟨rfl, .same, .write _⟩

/-- A submit touches nothing but the status, whatever it is answered. -/
theorem finishSubmit_fst (m : ViewModel) (answer : Except HttpError Json) :
    (m.finishSubmit answer).2.1 = m ∨
      ∃ message, (m.finishSubmit answer).2.1 = { m with status := m.status.set message } := by
  cases answer with
  | ok body =>
    refine .inr ⟨⟨m.localizer.translate settingsUpdatedText, .success⟩, ?_⟩
    exact m.showMessage_fst _ (some outcomeTimeout) true
  | error e =>
    simp only [finishSubmit]
    split
    · exact .inl rfl
    · exact .inr ⟨⟨m.submitFailedMessage, .danger⟩, m.showMessage_fst _ (some outcomeTimeout) true⟩

theorem finishSubmit_subscribed (m : ViewModel) (answer : Except HttpError Json) :
    (m.finishSubmit answer).2.1.subscribed = m.subscribed := by
  rcases m.finishSubmit_fst answer with h | ⟨message, h⟩ <;> rw [h]

theorem Step.finishSubmit (m : ViewModel) (answer : Except HttpError Json) :
    m.Step (m.finishSubmit answer).2.1 := by
  rcases m.finishSubmit_fst answer with h | ⟨message, h⟩
  · rw [h]
    exact .refl m
  · rw [h]
    exact ⟨rfl, .same, .write message⟩

end ViewModel

end MailPrefs
