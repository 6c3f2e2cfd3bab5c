import MailPrefs.Proofs.Subscribed.Loads
import MailPrefs.Proofs.View.FirstLoad

namespace MailPrefs

namespace Session

def Command.ofOperation : Operation → Command
  | .load => .load
  | .submit => .submit

def Command.firstLoad (isMounted : Bool) : Command :=
  if isMounted then .awaitLoad else .load

variable {s : Session} {ms ms' : List Move} {d : Delivery}

/-- The run is about one operation, from its start until nothing is left of it. -/
structure Alone (s : Session) (ms : List Move) (d : Delivery) : Prop where
  untoggled : ∀ m ∈ ms, m.isToggle = false
  begins : s.begins ms = [d]
  deliveries : s.deliveries ms = [d]
  tasks : (s.play ms).tasks = []

theorem underway_of_tasks (h : s.tasks = []) : s.underway = [] := by
  apply List.eq_nil_iff_forall_not_mem.mpr
  intro d hd
  have ht := task_mem_of_underway hd
  rw [h] at ht
  cases ht

/-- Where there is one operation only, its answer is all that can be taken up. -/
theorem Alone.of_delivered {p : Owner × Operation} (hu : s.underway = [])
    (hm : ∀ m ∈ ms, m.isToggle = false) (ht : s.tasks ++ ms.filterMap Move.task? = [p])
    (hd : d ∈ s.deliveries ms) : s.Alone ms d := by
  have htasks := play_tasks s ms
  rw [ht] at htasks
  have hl := List.singleton_perm.mp htasks
  cases hds : s.deliveries ms with
  | nil =>
    rw [hds] at hd
    cases hd
  | cons d' ds =>
    rw [hds, List.map_cons, List.cons_append] at hl
    obtain ⟨_, hn⟩ := List.cons_eq_cons.mp hl
    obtain ⟨hds', hr⟩ := List.append_eq_nil_iff.mp hn.symm
    rw [List.map_eq_nil_iff.mp hds'] at hds
    rw [hds] at hd
    obtain rfl := List.mem_singleton.mp hd
    have hunder := play_underway s ms
    rw [hu, hds, underway_of_tasks hr, List.nil_append, List.append_nil] at hunder
    exact ⟨hm, List.perm_singleton.mp hunder, hds, hr⟩

theorem Alone.answer (h : s.Alone ms d) : d.answer = (s.server.reply d.operation).1.answer := by
  have ha := begins_answers s ms
  rw [h.begins] at ha
  exact (List.cons_eq_cons.mp ha).1

theorem Alone.server (h : s.Alone ms d) :
    (s.play ms).server = (s.server.reply d.operation).2 := by
  rw [play_server, h.begins]
  rfl

theorem Alone.changes (h : s.Alone ms d) :
    s.changes ms = (Change.ofAnswer? (d.operation, d.answer)).toList := by
  rw [changes_of_deliveries h.untoggled, h.deliveries, List.filterMap_cons]
  cases Change.ofAnswer? (d.operation, d.answer) <;> rfl

theorem isToggle_of_internal {m : Move} (h : m.isInternal = true) : m.isToggle = false := by
  cases m with
  | toggle => cases h
  | _ => rfl

theorem Alone.of_called {m : Move} {p : Owner × Operation} (hm : m.isToggle = false)
    (hu : s.underway = []) (ht : s.tasks ++ m.task?.toList = [p])
    (hi : ∀ m ∈ ms, m.isInternal = true) (hi' : ∀ m ∈ ms', m.isInternal = true)
    (hd : d ∈ s.deliveries (m :: ms)) : s.Alone (m :: ms ++ ms') d := by
  have htask : (m :: ms ++ ms').filterMap Move.task? = m.task?.toList := by
    rw [List.filterMap_append, tasks_of_internal hi', List.append_nil, List.filterMap_cons,
      tasks_of_internal hi]
    cases m.task? <;> rfl
  refine .of_delivered hu ?_ (htask ▸ ht) ?_
  · intro m' hm'
    rcases List.mem_append.mp hm' with hm' | hm'
    · rcases List.mem_cons.mp hm' with rfl | hm'
      · exact hm
      · exact isToggle_of_internal (hi m' hm')
    · exact isToggle_of_internal (hi' m' hm')
  · rw [deliveries_append]
    exact List.mem_append_left _ hd

theorem step_call (hs : s.Sound) (ht : s.tasks = []) (operation : Operation) :
    ∃ ms d, s.step (.ofOperation operation) =
        (.result (operation.result (s.server.reply operation).1.answer),
          s.play (.call operation :: ms)) ∧
      d.operation = operation ∧ s.Alone (.call operation :: ms) d := by
  have hc : ∀ p ∈ s.tasks, p.1 ≠ .caller := by
    rw [ht]
    exact nofun
  obtain ⟨ms, hi, _, he, hdel⟩ := call_result hs hc operation
  obtain ⟨ms', hi', _, hs'⟩ := Drifts.settle keepsTime_run (s.play (.call operation :: ms))
  rw [← play_append] at hs'
  have hstep : s.step (.ofOperation operation) =
      ((s.call operation).1, (s.call operation).2.settle) := by
    cases operation <;> rfl
  have htask : s.tasks ++ (Move.call operation).task?.toList = [(.caller, operation)] := by
    rw [ht]
    rfl
  refine ⟨ms ++ ms', ⟨.caller, operation, (s.server.reply operation).1.answer⟩, ?_, rfl, ?_⟩
  · rw [hstep, he, hs']
    rfl
  · exact .of_called rfl (underway_of_tasks ht) htask hi hi'
      (List.mem_filter.mp (hdel ▸ List.mem_singleton.mpr rfl)).1

theorem mount_step_awaitLoad (model : ViewModel) (server : Script) :
    ∃ ms d, (mount model server).step .awaitLoad =
        (.result (Operation.load.result (server.reply .load).1.answer),
          (mount model server).play ms) ∧
      d.operation = .load ∧ (mount model server).Alone ms d := by
  have ht : ((mount model server).play []).loadTaken? = some false := rfl
  obtain ⟨ms, d, hi, he, hd, hdel, _⟩ := mount_awaitLoad ht
  rw [List.nil_append] at he hdel
  obtain ⟨ms', hi', _, hs⟩ :=
    Drifts.settle keepsTime_run ((mount model server).play (.takeLoad :: ms))
  rw [← play_append] at hs
  have hstep : (mount model server).step .awaitLoad =
      (((mount model server).play []).awaitLoad.1,
        ((mount model server).play []).awaitLoad.2.settle) := rfl
  have ha : (mount model server).Alone (.takeLoad :: ms ++ ms') d :=
    .of_called rfl rfl rfl hi hi' (List.mem_filter.mp (hdel ▸ List.mem_singleton.mpr rfl)).1
  have hoperation : d.operation = .load := congrArg Prod.snd hd
  have hanswer := ha.answer
  rw [hoperation] at hanswer
  refine ⟨.takeLoad :: ms ++ ms', d, ?_, hoperation, ha⟩
  rw [hstep, he, hs, hanswer]
  rfl

/-- The first load of a session is answered by the first reply, with a view or without. -/
theorem opened_step_firstLoad (isMounted : Bool) (c : Catalog) (l : Localizer) (t : SupportContact)
    (server : Script) :
    ∃ ms d, (opened isMounted c l t server).step (.firstLoad isMounted) =
        (.result (Operation.load.result (server.reply .load).1.answer),
          (opened isMounted c l t server).play ms) ∧
      d.operation = .load ∧ d.answer = (server.reply .load).1.answer ∧
      (opened isMounted c l t server).Alone ms d := by
  cases isMounted with
  | true =>
    obtain ⟨ms, d, he, hd, ha⟩ := mount_step_awaitLoad
      { catalog := c, localizer := l, contact := t } server
    exact ⟨ms, d, he, hd, hd ▸ ha.answer, ha⟩
  | false =>
    obtain ⟨ms, d, he, hd, ha⟩ := step_call (sound_opened false c l t server) rfl .load
    exact ⟨_, d, he, hd, hd ▸ ha.answer, ha⟩

end Session

end MailPrefs
