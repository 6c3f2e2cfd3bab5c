import MailPrefs.Proofs.Session.Awaiting
import MailPrefs.Proofs.Session.Requests

namespace MailPrefs

theorem Mount.ask_isLoadTaken (v : Mount) (m : ViewModel) (side : Side) :
    (v.ask m side).2.isLoadTaken = v.isLoadTaken := by
  cases side <;> rfl

theorem Mount.look_isLoadTaken (v : Mount) (m : ViewModel) :
    (v.look m).2.isLoadTaken = v.isLoadTaken := by
  have ha := Mount.ask_isLoadTaken { v with first := v.first.other } m v.first
  rw [look]
  split
  · next h =>
    rw [h] at ha
    exact ha
  · next h =>
    rw [h] at ha
    exact (ask_isLoadTaken _ m _).trans ha

namespace Session

variable {s : Session}

/-- Whether the first load was waited for, if a view is there. -/
def loadTaken? (s : Session) : Option Bool :=
  s.view.map (·.isLoadTaken)

theorem isSome_loadTaken (s : Session) : s.loadTaken?.isSome = s.view.isSome :=
  Option.isSome_map

theorem render_loadTaken (s : Session) : s.render.loadTaken? = s.loadTaken? := by
  rw [render]
  split
  · rfl
  · next v h =>
    have hl := v.look_isLoadTaken s.model
    split
    · next hv =>
      rw [hv] at hl
      simp only [loadTaken?, h, Option.map_some]
      exact congrArg some hl
    · next hv =>
      rw [hv] at hl
      simp only [loadTaken?, h, Option.map_some]
      exact congrArg some hl

theorem move_loadTaken {m : Move} (ht : m ≠ .takeLoad) (hu : m ≠ .unmount) :
    (s.move m).loadTaken? = s.loadTaken? := by
  have hc := s.move_comes m
  generalize s.move m = s' at hc ⊢
  cases hc with
  | does => exact does_view (fun _ => rfl) (s.left m) _
  | looks => exact render_loadTaken (s.left m)
  | tick time => rfl
  | nudge => exact nudge_view (fun _ => rfl) s
  | takeLoad => exact absurd rfl ht
  | unmount => exact absurd rfl hu

theorem takeLoad_loadTaken (s : Session) :
    (s.move .takeLoad).loadTaken? = s.loadTaken?.map fun _ => true := by
  simp only [move, loadTaken?, Option.map_map]
  rfl

theorem isSome_view_move {m : Move} (hu : m ≠ .unmount) :
    (s.move m).view.isSome = s.view.isSome := by
  by_cases ht : m = .takeLoad
  · rw [ht]
    exact Option.isSome_map
  · rw [← isSome_loadTaken, ← isSome_loadTaken, move_loadTaken ht hu]

theorem play_loadTaken {ms : List Move} (h : ∀ m ∈ ms, m ≠ .takeLoad ∧ m ≠ .unmount) :
    (s.play ms).loadTaken? = s.loadTaken? := by
  induction ms generalizing s with
  | nil => rfl
  | cons m ms ih =>
    obtain ⟨hn, hu⟩ := h m List.mem_cons_self
    exact (ih fun m' h' => h m' (List.mem_cons_of_mem _ h')).trans (move_loadTaken hn hu)

theorem play_loadTaken_true {ms : List Move} (ht : s.loadTaken? = some true)
    (h : ∀ m ∈ ms, m ≠ .unmount) : (s.play ms).loadTaken? = some true := by
  induction ms generalizing s with
  | nil => exact ht
  | cons m ms ih =>
    apply ih (s := s.move m) _ fun m' h' => h m' (List.mem_cons_of_mem _ h')
    by_cases hm : m = .takeLoad
    · rw [hm, takeLoad_loadTaken, ht, Option.map_some]
    · rw [move_loadTaken hm (h m List.mem_cons_self), ht]

theorem awaitLoad_of_untaken (h : s.loadTaken? = some false) :
    s.awaitLoad =
      let t := (s.move .takeLoad).await .mount 0
      (.result ((t.result? .mount 0).getD (stopped .load)), t) := by
  obtain ⟨v, hv, ht⟩ := Option.map_eq_some_iff.mp h
  have hm : s.move .takeLoad = { s with view := some { v with isLoadTaken := true } } := by
    simp only [move, hv, Option.map_some]
  simp only [awaitLoad, hv, ht, hm, Bool.false_eq_true, if_false]

theorem awaitLoad_of_taken (h : s.loadTaken? = some true) :
    s.awaitLoad = (.result (.loaded (.ok ())), s) := by
  obtain ⟨v, hv, ht⟩ := Option.map_eq_some_iff.mp h
  simp only [awaitLoad, hv, ht, if_true]

variable {model : ViewModel} {server : Script}

theorem task_ne_mount {ms : List Move} {p : Owner × Operation}
    (h : p ∈ ms.filterMap Move.task?) : p.1 ≠ .mount := by
  obtain ⟨m, _, hm⟩ := List.mem_filterMap.mp h
  cases m with
  | call | spawn =>
    cases hm
    exact nofun
  | toggle | message | run | tick | nudge | takeLoad | unmount => cases hm

theorem mount_tasks (ms : List Move) :
    ((mount model server).tasks ++ ms.filterMap Move.task?).filter (·.1 = .mount) =
      [(.mount, .load)] := by
  have hn : (ms.filterMap Move.task?).filter (fun p => decide (p.1 = .mount)) = [] :=
    List.filter_eq_nil_iff.mpr fun p hp => by simpa using task_ne_mount hp
  rw [List.filter_append, hn]
  rfl

theorem begins_operation (s : Session) (ms : List Move) :
    (s.begins ms).map Delivery.operation = (s.starts ms).map Prod.fst := by
  have h (s : Session) (m : Move) :
      (s.begun? m).map Delivery.operation = (s.started? m).map Prod.fst := by
    rw [begun?, started?]
    cases s.job? m with
    | none => rfl
    | some job => cases job <;> rfl
  rw [begins, starts, ← collect_map, ← collect_map]
  exact congrArg (s.collect · ms) (funext fun s => funext (h s))

theorem waiting_of_rest (hs : s.Sound) (hr : s.ready = []) : s.waiting = [] := by
  rw [waiting, hr, List.nil_append]
  apply List.filterMap_eq_nil_iff.mpr
  intro job hj
  obtain ⟨z, hz, rfl⟩ := List.mem_map.mp hj
  have ht := hs.timed z hz
  cases hj : z.job with
  | start owner operation =>
    rw [hj] at ht
    cases ht
  | render | resume | armReset | reset => rfl

theorem called_of_task {ms : List Move} (h : ms.filterMap Move.task? = []) :
    ms.filterMap Move.called? = [] := by
  rw [List.filterMap_eq_nil_iff] at h ⊢
  intro m hm
  cases m with
  | call | spawn => cases h _ hm
  | toggle | message | run | tick | nudge | takeLoad | unmount => rfl

/-- The first operation to start is the first load, unless something else is called for before. -/
theorem mount_begins {ms : List Move} (h : ms.filterMap Move.task? = [])
    (hr : ((mount model server).play ms).ready = []) :
    (mount model server).begins ms = [⟨.mount, .load, (server.reply .load).1.answer⟩] := by
  have hw := play_waiting (mount model server) ms
  rw [called_of_task h, waiting_of_rest ((sound_mount model server).play ms) hr, List.append_nil,
    List.append_nil, ← begins_operation] at hw
  have ho : ((mount model server).begins ms).map Delivery.operation = [.load] :=
    (List.singleton_perm.mp hw).symm
  have ha := begins_answers (mount model server) ms
  rw [ho] at ha
  obtain ⟨d, hd, hop⟩ := List.map_eq_singleton_iff.mp ho
  rw [hd] at ha
  have hm : d ∈ (mount model server).begins ms := by
    rw [hd]
    exact List.mem_singleton.mpr rfl
  have ht := task_mem_of_begins hm
  rw [h] at ht
  have ht' : d.task = (.mount, .load) := List.mem_singleton.mp ht
  rw [hd]
  cases d
  cases ht'
  cases ha
  rfl

/-- The first load is waited for: what comes of it is the result of its one answer. -/
theorem mount_awaitLoad {ms : List Move}
    (ht : ((mount model server).play ms).loadTaken? = some false) :
    ∃ ms' d, (∀ m ∈ ms', m.isInternal = true) ∧
      ((mount model server).play ms).awaitLoad =
        (.result (Operation.load.result d.answer),
          (mount model server).play (ms ++ .takeLoad :: ms')) ∧
      d.task = (.mount, .load) ∧
      ((mount model server).deliveries (ms ++ .takeLoad :: ms')).filter (·.owner = .mount) = [d] ∧
      ((mount model server).begins (ms ++ .takeLoad :: ms')).filter (·.owner = .mount) = [d] := by
  have hp : ((mount model server).play ms).move .takeLoad =
      (mount model server).play (ms ++ [.takeLoad]) := (play_concat _ ms .takeLoad).symm
  obtain ⟨ms', d, hi, _, he, hd, hdel, hb, hr⟩ :=
    await_result (ms ++ [.takeLoad]) (sound_mount model server) (Nat.zero_le _) rfl
      (mount_tasks (ms ++ [.takeLoad]))
  rw [List.append_assoc, List.singleton_append] at he hdel hb
  refine ⟨ms', d, hi, ?_, hd, hdel, hb⟩
  rw [awaitLoad_of_untaken ht, hp]
  simp only [hr, Option.getD_some]
  rw [he]

/-- The first load is answered by the first reply if nothing else could start before it. -/
theorem mount_awaitLoad_of_rest {ms ms' : List Move} (hm : ms.filterMap Move.task? = [])
    (hr : ((mount model server).play ms).ready = [])
    (ht : ((mount model server).play (ms ++ ms')).loadTaken? = some false) :
    ((mount model server).play (ms ++ ms')).awaitLoad.1 =
      .result (Operation.load.result (server.reply .load).1.answer) := by
  obtain ⟨ms'', d, _, he, _, _, hb⟩ := mount_awaitLoad ht
  have hd : (⟨.mount, .load, (server.reply .load).1.answer⟩ : Delivery) ∈
      ((mount model server).begins (ms ++ ms' ++ .takeLoad :: ms'')).filter
        (·.owner = .mount) := by
    rw [List.append_assoc, begins_append, mount_begins hm hr, List.mem_filter]
    exact ⟨List.mem_append_left _ (List.mem_singleton.mpr rfl), rfl⟩
  rw [hb] at hd
  rw [he, ← List.mem_singleton.mp hd]

theorem loadTaken_awaitLoad {ms : List Move}
    (ht : ((mount model server).play ms).loadTaken? = some false) :
    ((mount model server).play ms).awaitLoad.2.loadTaken? = some true := by
  obtain ⟨ms', d, hi, he, _⟩ := mount_awaitLoad ht
  have hm : (((mount model server).play ms).move .takeLoad).loadTaken? = some true := by
    rw [takeLoad_loadTaken]
    exact congrArg (Option.map fun _ => true) ht
  rw [he, play_append]
  apply play_loadTaken_true hm
  rintro m h rfl
  cases hi _ h

theorem toldAfter_awaitLoad {ms : List Move}
    (ht : ((mount model server).play ms).loadTaken? = some false) :
    ∃ result, ((mount model server).play ms).awaitLoad.1 = .result result ∧
      (((mount model server).play ms).awaitLoad.2.toldAfter 0).filter (·.1 = .mount) =
        [(.mount, result)] := by
  obtain ⟨ms', d, _, he, hd, hdel, _⟩ := mount_awaitLoad ht
  refine ⟨Operation.load.result d.answer, by rw [he], ?_⟩
  have hf : (fun p : Owner × Result => decide (p.1 = .mount)) ∘ Delivery.outcome =
      fun d => decide (d.owner = .mount) := rfl
  have h0 : (mount model server).toldAfter 0 = [] := rfl
  rw [he, toldAfter_play (Nat.zero_le _), h0, List.nil_append, List.filter_map, hf, hdel]
  cases d
  cases hd
  rfl

end Session

end MailPrefs
