import MailPrefs.Proofs.View.Frames

namespace MailPrefs

def Event.frame? : Event → Option Frame
  | .rendered frame => some frame
  | _ => none

theorem Deed.frames (d : Deed) : d.events.filterMap Event.frame? = [] := by
  rw [events, List.filterMap_append, List.filterMap_append, filterMap_logged fun _ => rfl]
  cases d.request? <;> cases d.told? <;> rfl

namespace Session

variable {s s' : Session} {d : Deed} {m : ViewModel} {written written' : List StatusMessage}

def frames (s : Session) : List Frame :=
  s.trace.filterMap Event.frame?

/-- Nothing happens that concerns the view. A look that is to come is still to come. -/
structure Calm (s s' : Session) : Prop where
  model : s'.model = s.model
  view : s'.view = s.view
  ready : Job.render ∈ s.ready → Job.render ∈ s'.ready
  frames : s'.frames = s.frames

theorem does_frames (s : Session) (d : Deed) : (s.does d).frames = s.frames := by
  rw [frames, does_trace, List.filterMap_append, Deed.frames, List.append_nil]
  rfl

theorem Calm.left {m : Move} (h : ¬s.IsLook m) : s.Calm (s.left m) := by
  refine ⟨rfl, rfl, ?_, rfl⟩
  cases m with
  | run index =>
    intro hr
    obtain ⟨i, hi⟩ := List.mem_iff_getElem?.mp hr
    refine List.mem_eraseIdx_iff_getElem?.mpr ⟨i, ?_, hi⟩
    rintro rfl
    exact h hi
  | toggle | message | call | spawn | tick | nudge | takeLoad | unmount => exact id

/-- What a view was shown is in step with what it has seen, and a
look is to come if the view expects one. -/
structure Displays (s : Session) (written : List StatusMessage) : Prop where
  shows : ∀ v, s.view = some v → v.Shows s.model written s.frames
  queued : ∀ v, s.view = some v → v.isQueued = true → Job.render ∈ s.ready
  shown : ∃ later, s.frames.filterMap Frame.status? = {} :: later ∧ later.Sublist written

/-- Moreover the view expects a look as long as there is news. -/
structure Tracks (s : Session) (written : List StatusMessage) : Prop
    extends Displays s written where
  news : ∀ v, s.view = some v → v.hasNews s.model = true → v.isQueued = true

theorem Tracks.unmounted (hv : s.view = none)
    (hs : ∃ later, s.frames.filterMap Frame.status? = {} :: later ∧ later.Sublist written) :
    s.Tracks written := by
  refine ⟨⟨?_, ?_, hs⟩, ?_⟩ <;>
    · intro v hv'
      cases hv.symm.trans hv'

theorem Displays.nudge (h : s.Displays written) : s.nudge.Tracks written := by
  rw [Session.nudge]
  split
  · next hv => exact .unmounted hv h.shown
  · next v hv =>
    split
    · next hq =>
      refine ⟨h, ?_⟩
      intro v' hv' _
      cases hv.symm.trans hv'
      exact hq
    · refine ⟨⟨?_, ?_, h.shown⟩, ?_⟩
      · rintro _ ⟨⟩
        exact (h.shows v hv).of_seen rfl rfl
      · rintro _ ⟨⟩ _
        exact List.mem_append_right _ (List.mem_singleton.mpr rfl)
      · rintro _ ⟨⟩ _
        rfl

theorem Displays.notice (h : s.Displays written) : s.notice.Tracks written := by
  rw [Session.notice]
  split
  · exact h.nudge
  · next hn =>
    refine ⟨h, ?_⟩
    intro v hv hnews
    rw [hv] at hn
    exact absurd hnews hn

theorem Tracks.withModel (h : s.Tracks written) (hm : s.model.Step m)
    (hw : m.status = s.model.status.setAll written') :
    Displays { s with model := m } (written ++ written') := by
  refine ⟨?_, h.queued, ?_⟩
  · intro v hv
    exact (h.shows v hv).step hm hw
  · obtain ⟨later, hf, hsub⟩ := h.shown
    exact ⟨later, hf, hsub.trans (List.sublist_append_left _ _)⟩

theorem Tracks.setModel (h : s.Tracks written) (hm : s.model.Step m)
    (hw : m.status = s.model.status.setAll written') :
    (s.setModel m).Tracks (written ++ written') :=
  (h.withModel hm hw).notice

theorem Tracks.calm (h : s.Tracks written) (hc : s.Calm s') : s'.Tracks written := by
  refine ⟨⟨?_, ?_, ?_⟩, ?_⟩
  · intro v hv
    rw [hc.model, hc.frames]
    exact h.shows v (hc.view ▸ hv)
  · intro v hv hq
    exact hc.ready (h.queued v (hc.view ▸ hv) hq)
  · rw [hc.frames]
    exact h.shown
  · intro v hv hn
    rw [hc.model] at hn
    exact h.news v (hc.view ▸ hv) hn

/-- Of what is done, nothing but the change of the view model concerns the view. -/
theorem Tracks.does (h : s.Tracks written) (hm : s.model.Step (d.model?.getD s.model))
    (hw : (d.model?.getD s.model).status = s.model.status.setAll written') :
    (s.does d).Tracks (written ++ written') := by
  have hc : (d.model?.elim s s.setModel).Calm (s.does d) := by
    refine ⟨rfl, rfl, fun hr => List.mem_append_left _ hr, ?_⟩
    simp only [Session.frames, Session.does, List.filterMap_append, Deed.frames, List.append_nil]
  refine Tracks.calm ?_ hc
  cases hd : d.model? with
  | none =>
    rw [hd] at hw
    rw [Observable.eq_nil_of_setAll_eq hw.symm, List.append_nil]
    exact h
  | some model =>
    rw [hd] at hm hw
    exact h.setModel hm hw

theorem frames_rendered (s : Session) (frame : Frame) :
    (s.emit (.rendered frame)).frames = s.frames ++ [frame] := by
  simp only [Session.frames, Session.emit, List.filterMap_append]
  rfl

theorem Tracks.render (h : s.Tracks written) (ready : List Job) :
    ({ s with ready := ready } : Session).render.Tracks written := by
  rw [Session.render]
  split
  · next hv => exact .unmounted hv h.shown
  · next v hv =>
    have hs := (h.shows v hv).look
    split
    · next frame v' hl =>
      obtain ⟨hq, hn⟩ := Mount.look_some hl
      rw [hl] at hs
      refine ⟨⟨?_, ?_, ?_⟩, ?_⟩
      · rintro _ ⟨⟩
        exact (frames_rendered s frame).symm ▸ hs
      · intro _ _ _
        exact List.mem_cons_self
      · obtain ⟨later, hf, hsub⟩ := hs.shown
        exact ⟨later, (frames_rendered s frame).symm ▸ hf, hsub.trans (List.take_sublist _ _)⟩
      · -- What was found was news, so the view was expecting this look and still does.
        rintro _ ⟨⟩ _
        exact hq.trans (h.news v hv hn)
    · next v' hl =>
      obtain ⟨hs, ht, hn⟩ := Mount.look_none hl
      refine ⟨⟨?_, ?_, h.shown⟩, ?_⟩
      · rintro _ ⟨⟩
        exact (h.shows v hv).of_seen hs ht
      · rintro _ ⟨⟩ hq
        cases hq
      · rintro _ ⟨⟩ hn'
        cases hn.symm.trans hn'

theorem Tracks.silent (h : s.Tracks written) {w : Option StatusMessage} (hw : w = none) :
    s.Tracks (written ++ w.toList) := by
  rw [hw, Option.toList_none, List.append_nil]
  exact h

theorem Tracks.takeLoad (h : s.Tracks written) : (s.move .takeLoad).Tracks written := by
  refine ⟨⟨?_, ?_, h.shown⟩, ?_⟩
  · intro v hv
    obtain ⟨v', hv', rfl⟩ := Option.map_eq_some_iff.mp hv
    exact (h.shows v' hv').of_seen rfl rfl
  · intro v hv
    obtain ⟨v', hv', rfl⟩ := Option.map_eq_some_iff.mp hv
    exact h.queued v' hv'
  · intro v hv
    obtain ⟨v', hv', rfl⟩ := Option.map_eq_some_iff.mp hv
    exact h.news v' hv'

theorem Tracks.move (h : s.Tracks written) (m : Move) :
    (s.move m).Tracks (written ++ (s.written? m).toList) := by
  have hm := s.move_step m
  have hw := s.move_status m
  rw [move_model_eq] at hm hw
  have hc := s.move_comes m
  generalize s.move m = s' at hc ⊢
  cases hc with
  | does hl => exact (h.calm (.left hl)).does hm hw
  | looks hl =>
    -- The look that was to come is the one that is made, so it is no longer among the jobs.
    refine (h.render _).silent ?_
    obtain ⟨index, rfl, hr⟩ := hl.eq_run
    simp only [written?, job?, hr]
    rfl
  | tick time =>
    have hc : s.Calm (s.tick time) :=
      ⟨rfl, rfl, fun hr => List.mem_append_left _ (List.mem_append_right _ hr), rfl⟩
    exact (h.calm hc).silent rfl
  | nudge => exact h.toDisplays.nudge.silent rfl
  | takeLoad => exact h.takeLoad.silent rfl
  | unmount =>
    have hu : ({ s with view := none } : Session).Tracks written := .unmounted rfl h.shown
    exact hu.silent rfl

variable (c : Catalog) (l : Localizer) (t : SupportContact) (server : Script)

theorem tracks_opened : (opened true c l t server).Tracks [] := by
  refine ⟨⟨?_, ?_, ⟨[], rfl, .refl _⟩⟩, ?_⟩
  · rintro _ ⟨⟩
    exact ⟨rfl, Nat.le_refl _, Nat.le_refl _, fun _ => rfl, fun _ => rfl,
      [], rfl, List.nil_sublist _⟩
  · intro _ _ _
    exact List.mem_cons_self
  · rintro _ ⟨⟩ _
    rfl

theorem tracks_play (ms : List Move) :
    ((opened true c l t server).play ms).Tracks ((opened true c l t server).writes ms) := by
  induction ms using List.reverseRecOn with
  | nil => exact tracks_opened c l t server
  | append_singleton ms m ih =>
    rw [play_concat, writes, collect_concat]
    exact ih.move m

theorem Tracks.hasNews_of_parked (h : s.Tracks written) {v : Mount} (hv : s.view = some v)
    (hp : Job.render ∉ s.ready) : v.hasNews s.model = false := by
  cases hn : v.hasNews s.model with
  | false => rfl
  | true => exact absurd (h.queued v hv (h.news v hv hn)) hp

/-- When no look is to come, a view that is still mounted has seen everything and was last shown the
checkboxes and the status as they are. The messages that a view is shown after the first are among
those written, in their order, none of them more often than it was written. -/
theorem view_converges (ms : List Move) :
    let s := (opened true c l t server).play ms
    (∀ v, s.view = some v → Job.render ∉ s.ready →
      v.hasNews s.model = false ∧
        (s.frames.filterMap Frame.checkboxes?).getLast? = some s.model.checkboxes ∧
        (s.frames.filterMap Frame.status?).getLast? = some s.model.status.value) ∧
      ∃ later, s.frames.filterMap Frame.status? = {} :: later ∧
        later.Sublist ((opened true c l t server).writes ms) := by
  intro s
  have h : s.Tracks _ := tracks_play c l t server ms
  refine ⟨?_, h.shown⟩
  intro v hv hp
  have hn := h.hasNews_of_parked hv hp
  obtain ⟨hs, ht⟩ := Bool.or_eq_false_iff.mp hn
  exact ⟨hn, (h.shows v hv).checkboxes (Watch.hasChanged_eq_false.mp hs),
    (h.shows v hv).status (Watch.hasChanged_eq_false.mp ht)⟩

/-- A view comes to rest on the report of its first load and on a message shown meanwhile. -/
theorem view_converges_after_load :
    let c : Catalog := ⟨["news", "digest"], by decide, by decide⟩
    let report := Json.object [("mailing_lists", .object [("news", .bool true)])]
    let server : Script := ⟨[], [], ⟨0, some (.ok report)⟩⟩
    let ms : List Move :=
      [.run 0, .run 0, .message ⟨"Hello", .success⟩ none true, .run 0, .run 0, .run 0]
    ∃ s v, s = (opened true c .passthrough .default server).play ms ∧
      s.view = some v ∧ Job.render ∉ s.ready ∧ v.hasNews s.model = false ∧
      (s.frames.filterMap Frame.checkboxes?).getLast? = some [("news", true), ("digest", false)] ∧
      (s.frames.filterMap Frame.status?).getLast? = some ⟨"Hello", .success⟩ := by
  intro c report server ms
  have hr : ((opened true c .passthrough .default server).play ms).ready.length = 0 := by
    decide +kernel
  have hp : Job.render ∉ ((opened true c .passthrough .default server).play ms).ready := by
    rw [List.eq_nil_of_length_eq_zero hr]
    exact List.not_mem_nil
  have hm : ((opened true c .passthrough .default server).play ms).view.isSome = true := by
    decide +kernel
  obtain ⟨v, hv⟩ := Option.isSome_iff_exists.mp hm
  obtain ⟨hn, hc, hs⟩ := (view_converges c .passthrough .default server ms).1 v hv hp
  have hb : ((opened true c .passthrough .default server).play ms).model.checkboxes =
      [("news", true), ("digest", false)] := by decide +kernel
  have ht : ((opened true c .passthrough .default server).play ms).model.status.value =
      ⟨"Hello", .success⟩ := by decide +kernel
  rw [hb] at hc
  rw [ht] at hs
  exact ⟨_, v, rfl, hv, hp, hn, hc, hs⟩

end Session

end MailPrefs
