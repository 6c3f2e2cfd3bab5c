import MailPrefs.Proofs.Session.Reaction
import MailPrefs.Proofs.Session.Run
import MailPrefs.Proofs.Subscribed.History

namespace MailPrefs

def Change.ofAnswer? : Operation × Option (Except HttpError Json) → Option Change
  | (.load, some answer) => (ViewModel.reportOf answer).toOption.map .reported
  | _ => none

theorem ViewModel.answered_subscribed (m : ViewModel) (operation : Operation)
    (answer : Option (Except HttpError Json)) :
    (m.answered operation answer).subscribed.value =
      (Change.ofAnswer? (operation, answer)).toList.foldl (Change.apply m.catalog)
        m.subscribed.value := by
  cases answer with
  | none => cases operation <;> rfl
  | some answer =>
    cases operation with
    | submit => exact congrArg Observable.value (m.finishSubmit_subscribed answer)
    | load =>
      cases h : ViewModel.reportOf answer with
      | ok r => simp only [answered, finishLoad_of_ok h, Change.ofAnswer?, h]; rfl
      | error e => simp only [answered, finishLoad_of_error h, Change.ofAnswer?, h]; rfl

namespace Session

/-- The change of the subscribed list that a move makes: a toggle of a key that is known, or
the report of a load that the move completes. -/
def change? (s : Session) : Move → Option Change
  | .toggle key checked =>
    if s.model.catalog.contains key then some (.toggled key checked) else none
  | m => (s.completed? m).bind Change.ofAnswer?

def changes (s : Session) (ms : List Move) : List Change :=
  s.collect change? ms

theorem modelAfter_subscribed (s : Session) (job : Job) :
    (s.modelAfter job).subscribed.value =
      ((s.taken? job).bind Change.ofAnswer?).toList.foldl (Change.apply s.model.catalog)
        s.model.subscribed.value := by
  cases job with
  | reset => rfl
  | _ =>
    simp only [modelAfter]
    cases s.taken? _ with
    | none => rfl
    | some p => exact s.model.answered_subscribed p.1 p.2

theorem move_subscribed (s : Session) (m : Move) :
    (s.move m).model.subscribed.value =
      (s.change? m).toList.foldl (Change.apply s.model.catalog) s.model.subscribed.value := by
  rw [move_model]
  cases m with
  | toggle key checked =>
    simp only [modelAfterMove, ViewModel.setSubscribed_eq, change?]
    split
    · next hk => exact (if_pos hk).symm
    · rfl
  | message message timeout clockRuns =>
    simp only [modelAfterMove, ViewModel.showMessage_fst]
    rfl
  | _ =>
    simp only [modelAfterMove, change?, completed?]
    cases s.job? _ with
    | none => rfl
    | some job => exact modelAfter_subscribed s job

/-- A run leaves the list that its changes make of the one that was there. -/
theorem play_subscribed (s : Session) (ms : List Move) :
    (s.play ms).model.subscribed.value =
      (s.changes ms).foldl (Change.apply s.model.catalog) s.model.subscribed.value := by
  induction ms using List.reverseRecOn with
  | nil => rfl
  | append_singleton ms m ih =>
    rw [play_concat, move_subscribed, play_catalog, ih, changes, changes, collect_concat,
      List.foldl_append]

variable (isMounted : Bool) (c : Catalog) (l : Localizer) (t : SupportContact) (server : Script)

theorem opened_subscribed : (opened isMounted c l t server).model.subscribed.value = [] := by
  cases isMounted <;> rfl

theorem opened_catalog : (opened isMounted c l t server).model.catalog = c := by
  cases isMounted <;> rfl

theorem explains_play (ms : List Move) :
    History.Explains c ((opened isMounted c l t server).changes ms)
      ((opened isMounted c l t server).play ms).model.subscribed.value := by
  rw [play_subscribed, opened_catalog, opened_subscribed]
  exact History.explains_foldl c _

theorem toggle_refused_iff (s : Session) (key : String) (checked : Bool) :
    s.toggle key checked = (.toggled (.error ⟨key⟩), s) ↔ key ∉ s.model.catalog.keys := by
  have hc : s.model.catalog.contains key = true ↔ key ∈ s.model.catalog.keys := by
    simp [Catalog.contains]
  simp only [toggle, ViewModel.setSubscribed_eq]
  by_cases hk : s.model.catalog.contains key = true
  · rw [if_pos hk]
    refine ⟨fun h => ?_, fun h => absurd (hc.mp hk) h⟩
    cases (Prod.mk.inj h).1
  · rw [if_neg hk]
    exact ⟨fun _ h => hk (hc.mpr h), fun _ => rfl⟩

/-- The subscribed list holds the keys of the catalog on which the last word of the run is yes,
in the order in which they came in. A toggle that is refused names its key and does nothing. -/
theorem subscribed_eq_history (ms : List Move) :
    let s := (opened isMounted c l t server).play ms
    let h := (opened isMounted c l t server).changes ms
    (∀ k, k ∈ s.model.subscribed.value ↔ k ∈ c.keys ∧ History.Holds h k) ∧
      s.model.subscribed.value.Pairwise (History.Precedes c h) ∧
      ∀ k checked, s.toggle k checked = (.toggled (.error ⟨k⟩), s) ↔ k ∉ c.keys := by
  have hx := explains_play isMounted c l t server ms
  refine ⟨hx.mem_iff, hx.order, ?_⟩
  intro k checked
  rw [toggle_refused_iff, play_catalog, opened_catalog]

end Session

end MailPrefs
