import MailPrefs.Proofs.Status.Writes

namespace MailPrefs

def Frame.checkboxes? : Frame → Option (List (String × Bool))
  | .checkboxes entries => some entries
  | .status _ => none

def Frame.status? : Frame → Option StatusMessage
  | .status message => some message
  | .checkboxes _ => none

namespace Mount

variable {v : Mount} {m m' : ViewModel}

/-- What a look comes to. It finds nothing only if neither stream has news,
and what it finds is from then on seen, with the other stream left alone. -/
inductive Looks (v : Mount) (m : ViewModel) : Option Frame × Mount → Prop where
  | nothing (first : Side) : v.hasNews m = false → Looks v m (none, { v with first })
  | checkboxes (first : Side) : v.subscribed.hasChanged m.subscribed = true →
    Looks v m (some (.checkboxes m.checkboxes), { v with first, subscribed := .start m.subscribed })
  | status (first : Side) : v.status.hasChanged m.status = true →
    Looks v m (some (.status m.status.value), { v with first, status := .start m.status })

theorem ask_subscribed_of_changed (h : v.subscribed.hasChanged m.subscribed = true) :
    v.ask m .subscribed =
      (some (.checkboxes m.checkboxes), { v with subscribed := .start m.subscribed }) := by
  rw [ask, Watch.poll_of_changed h]
  rfl

theorem ask_subscribed_of_unchanged (h : v.subscribed.hasChanged m.subscribed = false) :
    v.ask m .subscribed = (none, v) := by
  rw [ask, Watch.poll_of_unchanged h]
  rfl

theorem ask_status_of_changed (h : v.status.hasChanged m.status = true) :
    v.ask m .status = (some (.status m.status.value), { v with status := .start m.status }) := by
  rw [ask, Watch.poll_of_changed h]
  rfl

theorem ask_status_of_unchanged (h : v.status.hasChanged m.status = false) :
    v.ask m .status = (none, v) := by
  rw [ask, Watch.poll_of_unchanged h]
  rfl

theorem look_looks (v : Mount) (m : ViewModel) : v.Looks m (v.look m) := by
  rw [look]
  cases hs : v.subscribed.hasChanged m.subscribed with
  | false =>
    cases ht : v.status.hasChanged m.status with
    | false =>
      have hn : v.hasNews m = false := by rw [hasNews, hs, ht, Bool.or_false]
      cases v.first <;>
        simp only [Side.other, ask_subscribed_of_unchanged, ask_status_of_unchanged, hs, ht] <;>
        exact .nothing _ hn
    | true =>
      cases v.first <;>
        simp only [Side.other, ask_subscribed_of_unchanged, ask_status_of_changed, hs, ht] <;>
        exact .status _ ht
  | true =>
    cases v.first with
    | subscribed =>
      simp only [ask_subscribed_of_changed, hs]
      exact .checkboxes _ hs
    | status =>
      -- The status comes first, and the subscribed list only if that has no news.
      cases ht : v.status.hasChanged m.status with
      | false =>
        simp only [Side.other, ask_subscribed_of_changed, ask_status_of_unchanged, hs, ht]
        exact .checkboxes _ hs
      | true =>
        simp only [ask_status_of_changed, ht]
        exact .status _ ht

theorem look_none {v' : Mount} (h : v.look m = (none, v')) :
    v'.subscribed = v.subscribed ∧ v'.status = v.status ∧ v'.hasNews m = false := by
  have hl := v.look_looks m
  rw [h] at hl
  cases hl with
  | nothing first hn => exact ⟨rfl, rfl, hn⟩

theorem look_some {v' : Mount} {frame : Frame} (h : v.look m = (some frame, v')) :
    v'.isQueued = v.isQueued ∧ v.hasNews m = true := by
  have hl := v.look_looks m
  rw [h] at hl
  cases hl with
  | checkboxes first hn => exact ⟨rfl, by rw [hasNews, hn, Bool.true_or]⟩
  | status first hn => exact ⟨rfl, by rw [hasNews, hn, Bool.or_true]⟩

/-- A view that has seen the latest version of a part was shown that part last as it is. The
messages shown after the first are among those written so far as the view has seen. -/
structure Shows (v : Mount) (m : ViewModel) (written : List StatusMessage)
    (frames : List Frame) : Prop where
  history : m.status = Observable.setAll ⟨{}, 0⟩ written
  subscribed_le : v.subscribed.seen ≤ m.subscribed.version
  status_le : v.status.seen ≤ m.status.version
  checkboxes : v.subscribed.seen = m.subscribed.version →
    (frames.filterMap Frame.checkboxes?).getLast? = some m.checkboxes
  status : v.status.seen = m.status.version →
    (frames.filterMap Frame.status?).getLast? = some m.status.value
  shown : ∃ later, frames.filterMap Frame.status? = {} :: later ∧
    later.Sublist (written.take v.status.seen)

variable {written written' : List StatusMessage} {frames : List Frame}

theorem Shows.length_written (h : v.Shows m written frames) :
    m.status.version = written.length := by
  rw [h.history, Observable.setAll_version, Nat.zero_add]

theorem Shows.of_seen {v' : Mount} (h : v.Shows m written frames)
    (hs : v'.subscribed = v.subscribed) (ht : v'.status = v.status) :
    v'.Shows m written frames := by
  refine ⟨h.history, ?_, ?_, ?_, ?_, ?_⟩
  · exact hs ▸ h.subscribed_le
  · exact ht ▸ h.status_le
  · exact hs ▸ h.checkboxes
  · exact ht ▸ h.status
  · exact ht ▸ h.shown

theorem checkboxes_of_subscribed (hc : m'.catalog = m.catalog) (hs : m'.subscribed = m.subscribed) :
    m'.checkboxes = m.checkboxes := by
  rw [ViewModel.checkboxes, hc, hs]
  rfl

/-- When the view model goes on, a view that has seen all of a part before has
either news or still the latest version. -/
theorem Shows.step (h : v.Shows m written frames) (hm : m.Step m')
    (hw : m'.status = m.status.setAll written') : v.Shows m' (written ++ written') frames := by
  have hle := hm.subscribed.version_le
  have hle' := hm.status.version_le
  refine ⟨?_, Nat.le_trans h.subscribed_le hle, Nat.le_trans h.status_le hle', ?_, ?_, ?_⟩
  · rw [hw, h.history, Observable.setAll_append]
  · -- A view that has seen the latest version now had seen it before, so nothing was written.
    intro hv
    have he : m.subscribed.version = m'.subscribed.version :=
      Nat.le_antisymm hle (hv ▸ h.subscribed_le)
    rw [checkboxes_of_subscribed hm.catalog (hm.subscribed.eq_of_version he.symm)]
    exact h.checkboxes (hv.trans he.symm)
  · intro hv
    have he : m.status.version = m'.status.version := Nat.le_antisymm hle' (hv ▸ h.status_le)
    rw [hm.status.eq_of_version he.symm]
    exact h.status (hv.trans he.symm)
  · obtain ⟨later, hf, hsub⟩ := h.shown
    refine ⟨later, hf, ?_⟩
    rw [List.take_append_of_le_length (h.length_written ▸ h.status_le)]
    exact hsub

/-- The last message written is one that a view with news of the status has not been shown. -/
theorem Shows.later_concat (h : v.Shows m written frames) (hn : v.status.hasChanged m.status = true)
    {later : List StatusMessage} (hsub : later.Sublist (written.take v.status.seen)) :
    (later ++ [m.status.value]).Sublist (written.take m.status.version) := by
  have hlt : v.status.seen < written.length :=
    h.length_written ▸ Nat.lt_of_le_of_ne h.status_le (Watch.hasChanged_eq_true.mp hn)
  have hne : written ≠ [] := List.ne_nil_of_length_pos (Nat.zero_lt_of_lt hlt)
  have hlast : m.status.value = written.getLast hne := by
    rw [h.history, Observable.setAll_value, List.getLast?_eq_some_getLast hne, Option.getD_some]
  have hearlier : (written.take v.status.seen).Sublist written.dropLast := by
    rw [List.dropLast_eq_take]
    exact List.take_sublist_take_left (Nat.le_sub_one_of_lt hlt)
  have hall : written.dropLast ++ [written.getLast hne] = written :=
    List.dropLast_concat_getLast hne
  rw [h.length_written, List.take_length, hlast, ← congrArg (List.Sublist _) hall]
  exact (hsub.trans hearlier).append (List.Sublist.refl _)

/-- A look shows what it finds, and all that it does not show was shown before. -/
theorem Shows.look (h : v.Shows m written frames) :
    (v.look m).2.Shows m written (frames ++ (v.look m).1.toList) := by
  have hl := v.look_looks m
  generalize v.look m = found at hl
  cases hl with
  | nothing first hn =>
    rw [Option.toList_none, List.append_nil]
    exact h.of_seen rfl rfl
  | checkboxes first hn =>
    have hb : (frames ++ [Frame.checkboxes m.checkboxes]).filterMap Frame.status? =
        frames.filterMap Frame.status? := by
      rw [List.filterMap_append]
      exact List.append_nil _
    refine ⟨h.history, Nat.le_refl _, h.status_le, ?_, ?_, ?_⟩
    · intro _
      rw [Option.toList_some, List.filterMap_append]
      exact List.getLast?_concat
    · exact hb ▸ h.status
    · exact hb ▸ h.shown
  | status first hn =>
    have hb : (frames ++ [Frame.status m.status.value]).filterMap Frame.checkboxes? =
        frames.filterMap Frame.checkboxes? := by
      rw [List.filterMap_append]
      exact List.append_nil _
    refine ⟨h.history, h.subscribed_le, Nat.le_refl _, ?_, ?_, ?_⟩
    · exact hb ▸ h.checkboxes
    · intro _
      rw [Option.toList_some, List.filterMap_append]
      exact List.getLast?_concat
    · obtain ⟨later, hf, hsub⟩ := h.shown
      refine ⟨later ++ [m.status.value], ?_, h.later_concat hn hsub⟩
      rw [Option.toList_some, List.filterMap_append, hf]
      rfl

end Mount

end MailPrefs
