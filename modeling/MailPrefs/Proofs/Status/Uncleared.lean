import MailPrefs.Proofs.Session.Alone
import MailPrefs.Proofs.Status.Timeline

namespace MailPrefs

namespace ViewModel

variable {m m' : ViewModel}

theorem outcome?_congr (hl : m'.localizer = m.localizer) (hc : m'.contact = m.contact) :
    m'.outcome? = m.outcome? := by
  funext operation answer
  cases answer with
  | none => cases operation <;> rfl
  | some answer =>
    cases operation with
    | load => simp only [outcome?, hl]
    | submit => cases answer <;> simp only [outcome?, submitFailedMessage, hl, hc]

theorem outcome?_answered (m : ViewModel) (operation : Operation)
    (answer : Option (Except HttpError Json)) :
    (m.answered operation answer).outcome? = m.outcome? := by
  cases answer with
  | none => cases operation <;> rfl
  | some answer =>
    cases operation with
    | load =>
      cases h : reportOf answer with
      | ok r =>
        simp only [answered, finishLoad, h]
        exact outcome?_congr rfl rfl
      | error e =>
        simp only [answered, finishLoad, h]
        exact outcome?_congr rfl rfl
    | submit =>
      cases answer with
      | ok body => exact outcome?_congr rfl rfl
      | error e =>
        simp only [answered, finishSubmit]
        split <;> exact outcome?_congr rfl rfl

end ViewModel

namespace Session

variable {s s' : Session} {owner : Owner} {seen : Nat} {m : Move} {ms : List Move}
  {d : Delivery}

theorem move_outcome? (s : Session) (m : Move) :
    (s.move m).model.outcome? = s.model.outcome? := by
  have hj (job : Job) : (s.modelAfter job).outcome? = s.model.outcome? := by
    cases job with
    | reset => exact ViewModel.outcome?_congr rfl rfl
    | _ =>
      simp only [modelAfter]
      cases s.taken? _ with
      | none => rfl
      | some p => exact s.model.outcome?_answered p.1 p.2
  rw [move_model]
  cases m with
  | toggle key checked =>
    simp only [modelAfterMove, ViewModel.setSubscribed_eq]
    split
    · exact ViewModel.outcome?_congr rfl rfl
    · rfl
  | message message timeout clockRuns =>
    rw [modelAfterMove, ViewModel.showMessage_fst]
    exact ViewModel.outcome?_congr rfl rfl
  | _ =>
    simp only [modelAfterMove]
    cases s.job? _ with
    | none => rfl
    | some job => exact hj job

theorem play_outcome? (s : Session) (ms : List Move) :
    (s.play ms).model.outcome? = s.model.outcome? := by
  induction ms generalizing s with
  | nil => rfl
  | cons m ms ih => exact (ih (s.move m)).trans (move_outcome? s m)

/-- A move while an owner waits, with no other owner about: the clock moves
only as long as nothing was told. -/
def IsWait (owner : Owner) (seen : Nat) (s : Session) : Move → Prop
  | .call _ => owner = .caller
  | .tick time => s.KeepsTime (.tick time) ∧ s.result? owner seen = none
  | .run _ | .nudge | .takeLoad => True
  | .toggle _ _ | .message _ _ _ | .spawn _ _ | .unmount => False

theorem IsWait.keepsTime (h : s.IsWait owner seen m) : s.KeepsTime m := by
  cases m with
  | tick time => exact h.1
  | _ => trivial

theorem IsWait.task_owner (h : s.IsWait owner seen m) : ∀ p ∈ m.task?, p.1 = owner := by
  intro p hp
  cases m with
  | call operation =>
    cases hp
    exact Eq.symm h
  | spawn name operation => exact h.elim
  | _ => cases hp

theorem clocked_of_waits (h : s.Each (IsWait owner seen) ms) : s.Clocked ms :=
  clocked_iff_each.mpr (h.mono fun _ _ => IsWait.keepsTime)

theorem drifts_await_settle (owner : Owner) (seen : Nat) (hs : s.Sound) :
    s.Drifts (IsWait owner seen) (s.await owner seen).settle :=
  (Drifts.awaitWithin (fun _ => trivial) (fun _ _ hk hn => ⟨hk, hn⟩) _ hs).trans
    (.settle (fun _ => trivial) _)

/-- All operations are those of one owner, and no reset is to come before that owner is told. -/
structure Undisturbed (owner : Owner) (seen : Nat) (s : Session) : Prop where
  seen_le : seen ≤ s.trace.length
  owned : ∀ p ∈ s.tasks, p.1 = owner
  unready : Job.reset ∉ s.ready
  expected : s.result? owner seen = none → s.expected = []

theorem reset_not_ready (h : s.expected = []) : Job.reset ∉ s.ready := by
  intro hr
  have hm : s.now ∈ s.expected :=
    List.mem_append_left _ (List.mem_filterMap.mpr ⟨.reset, hr, rfl⟩)
  rw [h] at hm
  cases hm

theorem delivered_owner (hw : s.IsWait owner seen m) (ho : ∀ p ∈ s.tasks, p.1 = owner)
    (hd : s.delivered? m = some d) : d.owner = owner := by
  have hp := move_tasks s m
  rw [hd] at hp
  have hm : d.task ∈ s.tasks ++ m.task?.toList := hp.mem_iff.mpr List.mem_cons_self
  rcases List.mem_append.mp hm with hm | hm
  · exact ho _ hm
  · exact hw.task_owner _ (Option.mem_toList.mp hm)

theorem result?_move (hl : seen ≤ s.trace.length) (m : Move) :
    (s.move m).result? owner seen = none ↔
      s.result? owner seen = none ∧ ∀ d, s.delivered? m = some d → d.owner ≠ owner := by
  have ht := toldAfter_play hl [m]
  have hd : s.deliveries [m] = (s.delivered? m).toList := List.append_nil _
  have hp : s.play [m] = s.move m := rfl
  rw [hp, hd] at ht
  rw [result?_eq, result?_eq, ht, Option.map_eq_none_iff, Option.map_eq_none_iff,
    List.find?_append, Option.or_eq_none_iff]
  apply and_congr_right
  intro _
  cases s.delivered? m with
  | none => exact iff_of_true rfl nofun
  | some d => simp [Delivery.outcome]

theorem Undisturbed.untold (h : s.Undisturbed owner seen) (hw : s.IsWait owner seen m)
    (hn : (s.move m).result? owner seen = none) :
    s.expected = [] ∧ s.delivered? m = none := by
  obtain ⟨hr, hd⟩ := (result?_move h.seen_le m).mp hn
  refine ⟨h.expected hr, Option.eq_none_iff_forall_ne_some.mpr ?_⟩
  intro d hs
  exact hd d hs (delivered_owner hw h.owned hs)

theorem Undisturbed.written_eq (h : s.Undisturbed owner seen) (hw : s.IsWait owner seen m) :
    s.written? m = (s.delivered? m).bind fun d => s.model.outcome? d.operation d.answer := by
  have hj (job : Job) (hne : job ≠ .reset) : s.jobWrite? job =
      (s.handed? job).bind fun d => s.model.outcome? d.operation d.answer := by
    cases job with
    | reset => exact absurd rfl hne
    | render | start | resume | armReset =>
      simp only [jobWrite?, taken?_eq]
      cases s.handed? _ <;> rfl
  cases m with
  | call operation =>
    apply hj (.start .caller operation)
    rintro ⟨⟩
  | run index =>
    simp only [written?, delivered?, job?]
    cases hr : s.ready[index]? with
    | none => rfl
    | some job =>
      refine hj job ?_
      rintro rfl
      exact h.unready (List.mem_of_getElem? hr)
  | message | toggle | spawn | unmount => exact hw.elim
  | tick | nudge | takeLoad => rfl

theorem Undisturbed.expected_move (h : s.Undisturbed owner seen) (hw : s.IsWait owner seen m)
    (hn : (s.move m).result? owner seen = none) : (s.move m).expected = [] := by
  obtain ⟨he, hd⟩ := h.untold hw hn
  have hwr : s.written? m = none := by rw [h.written_eq hw, hd, Option.bind_none]
  rw [← dated?_message, Option.map_eq_none_iff] at hwr
  have hp := move_expected hw.keepsTime
  rw [he, hwr] at hp
  exact hp.nil_eq.symm

theorem Undisturbed.unready_move (h : s.Undisturbed owner seen) (hw : s.IsWait owner seen m) :
    Job.reset ∉ (s.move m).ready := by
  rcases m.tick_or_ne with ⟨time, rfl⟩ | ht
  · -- Time passes only before the owner is told, when there is no reset to get ready.
    have hn : (s.move (.tick time)).result? owner seen = none := hw.2
    exact reset_not_ready (h.expected_move hw hn)
  · obtain ⟨looks, hl, hp⟩ := s.move_ready ht
    intro hr
    have hm := hp.mem_iff.mpr (List.mem_append_right _ hr)
    simp only [List.mem_append] at hm
    rcases hm with ((hm | hm) | hm) | hm
    · exact h.unready hm
    · cases m with
      | call operation => cases List.mem_singleton.mp hm
      | message | toggle | spawn | unmount => exact hw.elim
      | run | tick | nudge | takeLoad => cases hm
    · cases mem_jobDeed_ready hm
    · cases List.mem_singleton.mp (hl.subset hm)

theorem Undisturbed.move (h : s.Undisturbed owner seen) (hw : s.IsWait owner seen m) :
    (s.move m).Undisturbed owner seen := by
  refine ⟨?_, ?_, h.unready_move hw, h.expected_move hw⟩
  · exact Nat.le_trans h.seen_le (move_tells s m).trace_grows.length_le
  · intro p hp
    have hm := (move_tasks s m).mem_iff.mpr (List.mem_append_right _ hp)
    rcases List.mem_append.mp hm with hm | hm
    · exact h.owned p hm
    · exact hw.task_owner p (Option.mem_toList.mp hm)

/-- No reset comes in between, so what is written is what the answers of the run show. -/
theorem Undisturbed.writes_eq (h : s.Undisturbed owner seen)
    (hw : s.Each (IsWait owner seen) ms) :
    s.writes ms =
      (s.deliveries ms).filterMap fun d => s.model.outcome? d.operation d.answer := by
  induction ms generalizing s with
  | nil => rfl
  | cons m ms ih =>
    have hc : s.writes (m :: ms) = (s.written? m).toList ++ (s.move m).writes ms := rfl
    rw [hc, deliveries_cons, List.filterMap_append, ih (h.move hw.1) hw.2, move_outcome?,
      h.written_eq hw.1]
    congr 1
    cases s.delivered? m with
    | none => rfl
    | some d => cases ho : s.model.outcome? d.operation d.answer <;> simp [ho]

theorem view_of_waits (h : s.Each (IsWait owner seen) ms) :
    (s.play ms).view.isSome = s.view.isSome := by
  induction ms generalizing s with
  | nil => rfl
  | cons m ms ih =>
    refine (ih h.2).trans (isSome_view_move ?_)
    rintro rfl
    exact h.1.elim

/-- The run is about one operation, and what that shows is all that is written to the status. -/
structure Stands (s : Session) (ms : List Move) (d : Delivery) : Prop extends Alone s ms d where
  writes : s.writes ms = (s.model.outcome? d.operation d.answer).toList
  clocked : s.Clocked ms
  view : (s.play ms).view.isSome = s.view.isSome

theorem toggle_of_waits (h : s.Each (IsWait owner seen) ms) : ∀ m ∈ ms, m.isToggle = false := by
  induction ms generalizing s with
  | nil => exact nofun
  | cons m ms ih =>
    intro m' hm
    rcases List.mem_cons.mp hm with rfl | hm
    · cases m' with
      | toggle => exact h.1.elim
      | _ => rfl
    · exact ih h.2 m' hm

theorem Undisturbed.stands (h : s.Undisturbed owner seen) (hu : s.underway = [])
    {p : Owner × Operation} (ht : s.tasks ++ ms.filterMap Move.task? = [p])
    (hw : s.Each (IsWait owner seen) ms) (hn : (s.play ms).tasks = []) :
    ∃ d, d.task = p ∧ s.Stands ms d := by
  have hp := play_tasks s ms
  rw [ht, hn, List.append_nil] at hp
  obtain ⟨d, hd, hdt⟩ := List.map_eq_singleton_iff.mp (List.singleton_perm.mp hp).symm
  have hm : d ∈ s.deliveries ms := hd ▸ List.mem_singleton.mpr rfl
  refine ⟨d, hdt, .of_delivered hu (toggle_of_waits hw) ht hm, ?_, clocked_of_waits hw,
    view_of_waits hw⟩
  rw [h.writes_eq hw, hd, List.filterMap_cons]
  cases s.model.outcome? d.operation d.answer <;> rfl

theorem Stands.expected (h : s.Stands ms d) (he : s.expected = [])
    (ho : s.model.outcome? d.operation d.answer = none) : (s.play ms).expected = [] := by
  have hp := play_expected h.clocked
  have ht : s.timeline ms = [] := by
    rw [← List.map_eq_nil_iff, timeline_message, h.writes, ho, Option.toList_none]
  rw [he, ht] at hp
  exact hp.nil_eq.symm

/-- What a call shows stands when the caller goes on, if there was no reset to come before. -/
theorem step_call_stands (hs : s.Sound) (ht : s.tasks = []) (he : s.expected = [])
    (operation : Operation) :
    ∃ ms d, s.step (.ofOperation operation) =
        (.result (operation.result (s.server.reply operation).1.answer), s.play ms) ∧
      d.operation = operation ∧ s.Stands ms d := by
  obtain ⟨ms₀, d₀, hstep, _, ha⟩ := step_call hs ht operation
  have hc : (s.step (.ofOperation operation)).2 =
      ((s.move (.call operation)).await .caller s.trace.length).settle := by
    cases operation <;> rfl
  obtain ⟨ms, hi, hw, hp⟩ :=
    drifts_await_settle .caller s.trace.length (hs.move (.call operation))
  have hp' : (s.step (.ofOperation operation)).2 = s.play (.call operation :: ms) := hc.trans hp
  rw [hstep] at hp'
  have hu : s.Undisturbed .caller s.trace.length := by
    refine ⟨Nat.le_refl _, ?_, reset_not_ready he, fun _ => he⟩
    rw [ht]
    exact nofun
  have htask : s.tasks ++ (Move.call operation :: ms).filterMap Move.task? =
      [(.caller, operation)] := by
    have hcons : (Move.call operation :: ms).filterMap Move.task? =
        (.caller, operation) :: ms.filterMap Move.task? := rfl
    rw [ht, hcons, tasks_of_internal hi, List.nil_append]
  obtain ⟨d, hd, hst⟩ := hu.stands (underway_of_tasks ht) htask ⟨rfl, hw⟩ (hp' ▸ ha.tasks)
  exact ⟨_, d, hstep.trans (congrArg _ hp'), congrArg Prod.snd hd, hst⟩

/-- What the first load shows stands when whoever waits for it goes on. -/
theorem mount_step_awaitLoad_stands (model : ViewModel) (server : Script) :
    ∃ ms d, (mount model server).step .awaitLoad =
        (.result (Operation.load.result (server.reply .load).1.answer),
          (mount model server).play ms) ∧
      d.operation = .load ∧ (mount model server).Stands ms d := by
  obtain ⟨ms₀, d₀, hstep, _, ha⟩ := mount_step_awaitLoad model server
  have hs := sound_mount model server
  have hc : ((mount model server).step .awaitLoad).2 =
      (((mount model server).move .takeLoad).await .mount 0).settle := by
    rw [step, perform, awaitLoad_of_untaken rfl]
  obtain ⟨ms, hi, hw, hp⟩ := drifts_await_settle .mount 0 (hs.move .takeLoad)
  have hp' : ((mount model server).step .awaitLoad).2 =
      (mount model server).play (.takeLoad :: ms) := hc.trans hp
  rw [hstep] at hp'
  have ht : (mount model server).tasks = [(.mount, .load)] := rfl
  have hu : (mount model server).Undisturbed .mount 0 := by
    refine ⟨Nat.zero_le _, ?_, reset_not_ready rfl, fun _ => rfl⟩
    rw [ht]
    intro p hp
    rw [List.mem_singleton.mp hp]
  have htask : (mount model server).tasks ++ (Move.takeLoad :: ms).filterMap Move.task? =
      [(.mount, .load)] := by
    rw [ht, List.filterMap_cons_none rfl, tasks_of_internal hi, List.append_nil]
  obtain ⟨d, hd, hst⟩ := hu.stands rfl htask ⟨trivial, hw⟩ (hp' ▸ ha.tasks)
  exact ⟨_, d, hstep.trans (congrArg _ hp'), congrArg Prod.snd hd, hst⟩

end Session

end MailPrefs
