import MailPrefs.Proofs.Session.Clock
import MailPrefs.Proofs.Session.Deliveries

namespace MailPrefs.Session

variable {s s' : Session} {owner : Owner} {operation : Operation} {seen : Nat}

def toldAfter (s : Session) (seen : Nat) : List (Owner × Result) :=
  (s.trace.drop seen).filterMap Event.outcome?

theorem result?_eq (s : Session) (owner : Owner) (seen : Nat) :
    s.result? owner seen = ((s.toldAfter seen).find? (·.1 = owner)).map Prod.snd := by
  rw [result?, toldAfter]
  induction s.trace.drop seen with
  | nil => rfl
  | cons e es ih =>
    rw [List.findSome?_cons]
    cases e with
    | finished o result =>
      have ht : (Event.finished o result :: es).filterMap Event.outcome? =
          (o, result) :: es.filterMap Event.outcome? := rfl
      rw [ht, List.find?_cons]
      by_cases ho : o = owner
      · simp only [ho, if_true, decide_true, Option.map_some]
      · simp only [ho, if_false, decide_false]
        exact ih
    | requested | logged | rendered => exact ih

theorem toldAfter_play (h : seen ≤ s.trace.length) (ms : List Move) :
    (s.play ms).toldAfter seen =
      s.toldAfter seen ++ (s.deliveries ms).map Delivery.outcome := by
  obtain ⟨events, ht, he⟩ := play_tells s ms
  rw [toldAfter, ht, List.drop_append_of_le_length h, List.filterMap_append, he]
  rfl

theorem told_of_delivered {m : Move} {d : Delivery} (h : s.delivered? m = some d) :
    (s.move m).toldAfter s.trace.length = [d.outcome] := by
  obtain ⟨events, ht, he⟩ := move_tells s m
  rw [toldAfter, ht, List.drop_left, he, h]
  rfl

theorem told_iff {m : Move} {d : Delivery} {result : Result} (h : s.delivered? m = some d) :
    (s.move m).toldAfter s.trace.length = [(d.owner, result)] ↔
      d.operation.result d.answer = result := by
  rw [told_of_delivered h, Delivery.outcome, List.singleton_inj, Prod.mk.injEq]
  exact and_iff_right rfl

structure Idle (s : Session) : Prop where
  ready : s.ready = []
  sleeping : s.sleeping = []

theorem Idle.survey {α : Type} (h : s.Idle) (f : Nat → Job → Option α) : s.survey f = [] := by
  rw [Session.survey, h.ready, h.sleeping]
  rfl

/-- So many wakings are enough until nothing is left to wait for. -/
structure Enough (s : Session) (n : Nat) : Prop where
  le : s.remaining ≤ n
  lt : s.ready = [] → s.remaining < n

theorem Enough.ne_zero {n : Nat} (h : s.Enough n) : n ≠ 0 := by
  rintro rfl
  by_cases hr : s.ready = []
  · exact Nat.not_lt_zero _ (h.lt hr)
  · exact Nat.not_lt_zero _ (Nat.lt_of_lt_of_le (remaining_turn_lt hr) h.le)

theorem Enough.wake {n time : Nat} (h : s.Enough (n + 1)) (hw : s.settle.nextWake? = some time) :
    (s.settle.wake time).Enough n := by
  have hs : s.settle.remaining ≤ n := by
    by_cases hr : s.ready = []
    · exact Nat.le_trans s.remaining_settle_le (Nat.le_of_lt_succ (h.lt hr))
    · exact Nat.le_of_lt_succ (Nat.lt_of_lt_of_le (remaining_settle_lt hr) h.le)
  refine ⟨Nat.le_trans (remaining_wake_le _ _) hs, fun hr => ?_⟩
  exact Nat.lt_of_lt_of_le (remaining_wake_lt hw hr) hs

theorem enough_weight (s : Session) : s.Enough (s.weight + 1) := by
  have hlt := Nat.lt_succ_of_le s.remaining_le_weight
  exact ⟨Nat.le_of_lt hlt, fun _ => hlt⟩

/-- An await ends with a result unless there is nothing left that could bring one. -/
theorem awaitWithin_ends (owner : Owner) (seen : Nat) {n : Nat} (h : s.Enough n) :
    ((awaitWithin owner seen n s).result? owner seen).isSome ∨
      (awaitWithin owner seen n s).Idle := by
  induction n generalizing s with
  | zero => exact absurd rfl h.ne_zero
  | succ n ih =>
    rw [awaitWithin]
    split
    · next hsome => exact .inl hsome
    · simp only
      split
      · next hsome => exact .inl hsome
      · split
        · next hw => exact .inr ⟨s.settle_rest, nextWake?_eq_none.mp hw⟩
        · next time hw => exact ih (h.wake hw)

theorem tasks_of_internal {ms : List Move} (h : ∀ m ∈ ms, m.isInternal = true) :
    ms.filterMap Move.task? = [] := by
  apply List.filterMap_eq_nil_iff.mpr
  intro m hm
  cases m with
  | call | spawn => cases h _ hm
  | _ => rfl

/-- The only operation of an owner, once an answer was handed to that owner or nothing is left
that could bring one, was answered once, with the answer that it was to get. -/
theorem delivered_once {ms : List Move}
    (ht : (s.tasks ++ ms.filterMap Move.task?).filter (·.1 = owner) = [(owner, operation)])
    (hd : (∃ d ∈ s.deliveries ms, d.owner = owner) ∨ (s.play ms).Idle) :
    ∃ d, d.task = (owner, operation) ∧ (s.deliveries ms).filter (·.owner = owner) = [d] ∧
      (s.underway ++ s.begins ms).filter (·.owner = owner) = [d] := by
  have hp := (play_tasks s ms).filter (fun p => decide (p.1 = owner))
  have hu := (play_underway s ms).filter (fun d => decide (d.owner = owner))
  rw [ht, List.filter_append, List.filter_map] at hp
  rw [List.filter_append (s.deliveries ms)] at hu
  have hl := List.singleton_perm.mp hp
  have hf : (fun p : Owner × Operation => decide (p.1 = owner)) ∘ Delivery.task =
      fun d => decide (d.owner = owner) := rfl
  rw [hf] at hl
  cases hds : (s.deliveries ms).filter (fun d => decide (d.owner = owner)) with
  | nil =>
    rcases hd with ⟨d, hm, ho⟩ | hi
    · have hm' : d ∈ (s.deliveries ms).filter (fun d => decide (d.owner = owner)) :=
        List.mem_filter.mpr ⟨hm, decide_eq_true ho⟩
      rw [hds] at hm'
      cases hm'
    · have he : (s.play ms).tasks = [] := hi.survey _
      rw [hds, he] at hl
      cases hl
  | cons d ds =>
    rw [hds, List.map_cons, List.cons_append, eq_comm, List.cons_eq_cons] at hl
    obtain ⟨hd, hr⟩ := hl
    obtain ⟨hn, hw⟩ := List.append_eq_nil_iff.mp hr
    have he : (s.play ms).underway.filter (fun d => decide (d.owner = owner)) = [] := by
      rw [List.filter_eq_nil_iff] at hw ⊢
      exact fun d' hd' => hw d'.task (task_mem_of_underway hd')
    rw [hds, he, List.map_eq_nil_iff.mp hn, List.append_nil] at hu
    exact ⟨d, hd, by rw [List.map_eq_nil_iff.mp hn], List.perm_singleton.mp hu⟩

theorem result?_play (hl : seen ≤ s.trace.length) (h : s.toldAfter seen = []) (ms : List Move) :
    (s.play ms).result? owner seen =
      ((s.deliveries ms).filter (·.owner = owner)).head?.map fun d =>
        d.operation.result d.answer := by
  rw [result?_eq, toldAfter_play hl, h, List.nil_append, List.find?_map, Option.map_map,
    List.head?_filter]
  rfl

theorem await_result (ms : List Move) (hs : s.Sound) (hl : seen ≤ s.trace.length)
    (h : s.toldAfter seen = [])
    (ht : (s.tasks ++ ms.filterMap Move.task?).filter (·.1 = owner) = [(owner, operation)]) :
    ∃ ms' d, (∀ m ∈ ms', m.isInternal = true) ∧ (s.play ms).Clocked ms' ∧
      (s.play ms).await owner seen = s.play (ms ++ ms') ∧ d.task = (owner, operation) ∧
      (s.deliveries (ms ++ ms')).filter (·.owner = owner) = [d] ∧
      (s.underway ++ s.begins (ms ++ ms')).filter (·.owner = owner) = [d] ∧
      ((s.play ms).await owner seen).result? owner seen = some (operation.result d.answer) := by
  obtain ⟨ms', hi, hc, he⟩ := drifts_await owner seen (hs.play ms)
  rw [← play_append] at he
  have ht' : (s.tasks ++ (ms ++ ms').filterMap Move.task?).filter (·.1 = owner) =
      [(owner, operation)] := by
    rw [List.filterMap_append, tasks_of_internal hi, List.append_nil]
    exact ht
  have hends := awaitWithin_ends owner seen (s.play ms).enough_weight
  rw [← await, he, result?_play hl h] at hends
  have hd : (∃ d ∈ s.deliveries (ms ++ ms'), d.owner = owner) ∨ (s.play (ms ++ ms')).Idle := by
    refine hends.imp_left fun hsome => ?_
    rw [Option.isSome_map, List.isSome_head?] at hsome
    obtain ⟨d, hm⟩ := List.exists_mem_of_ne_nil _ hsome
    obtain ⟨hm, ho⟩ := List.mem_filter.mp hm
    exact ⟨d, hm, of_decide_eq_true ho⟩
  obtain ⟨d, hd, hdel, hb⟩ := delivered_once ht' hd
  refine ⟨ms', d, hi, clocked_iff_each.mpr hc, he, hd, hdel, hb, ?_⟩
  rw [he, result?_play hl h, hdel, List.head?_cons, Option.map_some]
  cases hd
  rfl

theorem toldAfter_length (s : Session) : s.toldAfter s.trace.length = [] := by
  rw [toldAfter, List.drop_length]
  rfl

theorem tasks_called (hc : ∀ p ∈ s.tasks, p.1 ≠ .caller) (operation : Operation) :
    (s.tasks ++ [Move.call operation].filterMap Move.task?).filter (·.1 = .caller) =
      [(.caller, operation)] := by
  have hn : s.tasks.filter (fun p => decide (p.1 = .caller)) = [] :=
    List.filter_eq_nil_iff.mpr fun p hp => by simpa using hc p hp
  rw [List.filter_append, hn]
  rfl

/-- The caller is told what the reply to the call comes to, if no earlier call is under way. -/
theorem call_result (hs : s.Sound) (hc : ∀ p ∈ s.tasks, p.1 ≠ .caller) (operation : Operation) :
    ∃ ms, (∀ m ∈ ms, m.isInternal = true) ∧ (s.move (.call operation)).Clocked ms ∧
      s.call operation =
        (.result (operation.result (s.server.reply operation).1.answer),
          s.play (.call operation :: ms)) ∧
      (s.deliveries (.call operation :: ms)).filter (·.owner = .caller) =
        [⟨.caller, operation, (s.server.reply operation).1.answer⟩] := by
  obtain ⟨ms, d, hi, hcl, he, _, hdel, hb, hr⟩ :=
    await_result [.call operation] hs (Nat.le_refl _) s.toldAfter_length (tasks_called hc operation)
  have hd : d = ⟨.caller, operation, (s.server.reply operation).1.answer⟩ := by
    have hm : (⟨.caller, operation, (s.server.reply operation).1.answer⟩ : Delivery) ∈
        (s.underway ++ s.begins ([.call operation] ++ ms)).filter (·.owner = .caller) := by
      rw [List.mem_filter, List.singleton_append, begins_cons]
      exact ⟨List.mem_append_right _ (List.mem_append_left _ (List.mem_singleton.mpr rfl)), rfl⟩
    rw [hb] at hm
    exact (List.mem_singleton.mp hm).symm
  subst hd
  refine ⟨ms, hi, hcl, ?_, hdel⟩
  have hcall : s.call operation =
      (.result ((((s.play [.call operation]).await .caller s.trace.length).result? .caller
        s.trace.length).getD (stopped operation)),
          (s.play [.call operation]).await .caller s.trace.length) := rfl
  rw [hcall, hr, he]
  rfl

end MailPrefs.Session
