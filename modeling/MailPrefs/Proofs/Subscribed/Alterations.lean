import MailPrefs.Proofs.Status.Writes
import MailPrefs.Proofs.Subscribed.Loads

namespace MailPrefs

namespace ViewModel

variable {key : String} {checked : Bool} {subscribed : List String}

/-- A toggle keeps the list just if the key is as it is asked to be. -/
theorem toggled_of_current (h : subscribed.contains key = checked) :
    toggled key checked subscribed = (subscribed, false) := by
  unfold toggled
  cases checked <;> simp only [h]

theorem contains_of_toggled (h : (toggled key checked subscribed).1 = subscribed) :
    subscribed.contains key = checked := by
  cases hc : subscribed.contains key with
  | false =>
    cases checked with
    | false => rfl
    | true =>
      simp only [toggled, hc] at h
      simp at h
  | true =>
    cases checked with
    | true => rfl
    | false =>
      simp only [toggled, hc] at h
      have hk : key ∈ subscribed := List.contains_iff_mem.mp hc
      have hl := congrArg List.length h
      rw [List.length_erase_of_mem hk] at hl
      have hp := List.length_pos_of_mem hk
      omega

end ViewModel

namespace Session

variable {s : Session} {m : Move}

inductive Spares (s : Session) : Move → Prop where
  | current {key : String} {checked : Bool} :
    s.model.isSubscribed key = checked → Spares s (.toggle key checked)
  | unknown {key : String} {checked : Bool} :
    key ∉ s.model.catalog.keys → Spares s (.toggle key checked)
  /-- A load whose report affirms no key of the catalog but such as are subscribed. -/
  | nothingNew {m : Move} {answer : Except HttpError Json} {r : Report} :
    s.completed? m = some (.load, some answer) → ViewModel.reportOf answer = .ok r →
      (∀ k ∈ s.model.catalog.keys, r.isSubscribed k = true → s.model.isSubscribed k = true) →
        Spares s m
  | failed {m : Move} {answer : Option (Except HttpError Json)} :
    s.completed? m = some (.load, answer) →
      Operation.load.result answer ≠ .loaded (.ok ()) → Spares s m
  | submitted {m : Move} {answer : Option (Except HttpError Json)} :
    s.completed? m = some (.submit, answer) → Spares s m
  | uncompleted {m : Move} : m.isToggle = false → s.completed? m = none → Spares s m

theorem additions_eq_nil_iff {r : Report} :
    ViewModel.additions s.model.catalog r s.model.subscribed.value = [] ↔
      ∀ k ∈ s.model.catalog.keys, r.isSubscribed k = true → s.model.isSubscribed k = true := by
  rw [ViewModel.additions, List.filter_eq_nil_iff]
  simp [ViewModel.isSubscribed]

theorem isToggle_of_completed {p : Operation × Option (Except HttpError Json)}
    (h : s.completed? m = some p) : m.isToggle = false := by
  cases m with
  | toggle => cases h
  | _ => rfl

theorem move_completed (h : m.isToggle = false) :
    (s.move m).model.subscribed =
      ((s.completed? m).elim s.model fun (operation, answer) =>
        s.model.answered operation answer).subscribed := by
  rw [move_delivered h, completed?_eq]
  cases s.delivered? m <;> rfl

theorem toggle_subscribed (s : Session) (key : String) (checked : Bool) :
    (s.move (.toggle key checked)).model.subscribed =
      if key ∈ s.model.catalog.keys then
        (s.model.subscribed.update (ViewModel.toggled key checked)).1
      else s.model.subscribed := by
  have hc : s.model.catalog.contains key = true ↔ key ∈ s.model.catalog.keys :=
    List.contains_iff_mem
  rw [move_model]
  simp only [modelAfterMove, ViewModel.setSubscribed_eq, hc]
  split <;> rfl

theorem answered_of_failed {m : ViewModel} {answer : Option (Except HttpError Json)}
    (h : Operation.load.result answer ≠ .loaded (.ok ())) :
    (m.answered .load answer).subscribed = m.subscribed := by
  cases answer with
  | none => rfl
  | some answer =>
    cases hr : ViewModel.reportOf answer with
    | ok r => exact absurd (Operation.load_result_of_ok hr) h
    | error e =>
      have ha : m.answered .load (some answer) = _ := ViewModel.finishLoad_of_error hr
      rw [ha]

/-- Nobody is told of a move that leaves the list alone. -/
theorem Spares.subscribed (h : s.Spares m) : (s.move m).model.subscribed = s.model.subscribed := by
  cases h with
  | @current key checked h =>
    rw [toggle_subscribed, Observable.update, ViewModel.toggled_of_current h]
    exact ite_self _
  | unknown h => rw [toggle_subscribed, if_neg h]
  | nothingNew h hr ha =>
    rw [move_completed (isToggle_of_completed h), h]
    exact ViewModel.answered_of_known hr (additions_eq_nil_iff.mpr ha)
  | failed h hf =>
    rw [move_completed (isToggle_of_completed h), h]
    exact answered_of_failed hf
  | submitted h =>
    rw [move_completed (isToggle_of_completed h), h]
    exact s.model.answered_submit _
  | uncompleted ht h => rw [move_completed ht, h, Option.elim_none]

theorem spares_toggle {key : String} {checked : Bool}
    (h : (s.move (.toggle key checked)).model.subscribed.value = s.model.subscribed.value) :
    s.Spares (.toggle key checked) := by
  rw [toggle_subscribed] at h
  split at h
  · exact .current (ViewModel.contains_of_toggled h)
  · next hk => exact .unknown hk

theorem spares_of_completed {operation : Operation} {answer : Option (Except HttpError Json)}
    (hc : s.completed? m = some (operation, answer))
    (h : (s.move m).model.subscribed.value = s.model.subscribed.value) : s.Spares m := by
  cases operation with
  | submit => exact .submitted hc
  | load =>
    by_cases hr : Operation.load.result answer = .loaded (.ok ())
    · cases answer with
      | none => cases hr
      | some answer =>
        obtain ⟨r, hr⟩ := Operation.load_result_iff.mp hr
        rw [move_completed (isToggle_of_completed hc), hc] at h
        have ha : (s.model.answered .load (some answer)).subscribed =
            (s.model.withReport r).subscribed :=
          congrArg ViewModel.subscribed (ViewModel.finishLoad_of_ok hr)
        have hv : s.model.subscribed.value ++
            ViewModel.additions s.model.catalog r s.model.subscribed.value =
              s.model.subscribed.value :=
          (congrArg Observable.value ha).symm.trans h
        exact .nothingNew hc hr (additions_eq_nil_iff.mp (List.append_right_eq_self.mp hv))
    · exact .failed hc hr

/-- There is no other way to leave the list alone. -/
theorem spares_iff :
    s.Spares m ↔ (s.move m).model.subscribed.value = s.model.subscribed.value := by
  refine ⟨fun h => congrArg Observable.value h.subscribed, fun h => ?_⟩
  cases hc : s.completed? m with
  | some p => exact spares_of_completed hc h
  | none =>
    cases m with
    | toggle key checked => exact spares_toggle h
    | _ => exact .uncompleted rfl hc

def altered? (s : Session) (m : Move) : Option (List String) :=
  let subscribed := (s.move m).model.subscribed.value
  if subscribed = s.model.subscribed.value then none else some subscribed

def alterations (s : Session) (ms : List Move) : List (List String) :=
  s.collect altered? ms

theorem altered?_eq_none_iff : s.altered? m = none ↔ s.Spares m := by
  rw [spares_iff, altered?]
  simp

theorem alterations_eq_nil_iff {ms : List Move} :
    s.alterations ms = [] ↔ s.Each Spares ms :=
  collect_eq_nil_iff.trans (each_congr fun _ _ => altered?_eq_none_iff)

theorem move_alterations (s : Session) (m : Move) :
    (s.move m).model.subscribed = s.model.subscribed.setAll (s.altered? m).toList := by
  by_cases h : s.Spares m
  · rw [altered?_eq_none_iff.mpr h]
    exact h.subscribed
  · have hv := mt spares_iff.mpr h
    have hs := (move_step s m).subscribed
    rw [altered?, if_neg hv]
    generalize (s.move m).model.subscribed = o at hv hs
    cases hs with
    | same => exact absurd rfl hv
    | write value => rfl

/-- Watchers of the subscribed list are told each time that a run alters it. -/
theorem play_alterations (s : Session) (ms : List Move) :
    (s.play ms).model.subscribed = s.model.subscribed.setAll (s.alterations ms) := by
  induction ms using List.reverseRecOn with
  | nil => rfl
  | append_singleton ms m ih =>
    rw [play_concat, move_alterations, ih, alterations, alterations, collect_concat,
      Observable.setAll_append]

end Session

end MailPrefs
