import MailPrefs.Proofs.Session.Awaiting

namespace MailPrefs.Session

variable {s : Session} {owner : Owner} {seen n n' time next : Nat} {job : Job} {jobs : List Job}

theorem turn_of_ready (h : s.ready = job :: jobs) :
    s.turn = ({ s with ready := jobs } : Session).runJob job := by
  simp only [turn, h]

theorem settle_turn (s : Session) : s.turn.settle = s.settle :=
  (settle_eq_turns (n := s.turn.weight + 1) s.turn.settle_rest).symm

theorem turns_trace (n : Nat) (s : Session) : s.trace <+: (turns n s).trace := by
  induction n generalizing s with
  | zero => exact List.prefix_rfl
  | succ n ih =>
    have hm := (move_tells s (.run 0)).trace_grows
    rw [← turn_eq_move] at hm
    exact hm.trans (ih s.turn)

theorem turns_sound (n : Nat) (hs : s.Sound) : (turns n s).Sound :=
  (Drifts.turns keepsTime_run n s).sound hs

/-- What a caller gets leaves all other jobs behind it as they are. -/
theorem ready_turn (h : s.ready = job :: jobs) (hc : job.isCallers = true) :
    ∃ more, s.turn.ready = jobs ++ more := by
  cases job with
  | resume owner operation answer =>
    obtain ⟨looks, view, _, he⟩ := does_eq { s with ready := jobs }
      (s.answering owner operation answer)
    rw [turn_of_ready h, runJob, finish_eq_does]
    exact ⟨_, (congrArg ready he).trans (List.append_assoc ..)⟩
  | render | start | armReset | reset => cases hc

/-- What callers get when the clock moves. -/
def dueCallers (s : Session) (time : Nat) : List Job :=
  ((s.sleeping.filter (·.due ≤ time)).map (·.job)).filter Job.isCallers

theorem wake_eq (s : Session) (time : Nat) :
    s.wake time = turns (s.dueCallers time).length (s.tick time) := by
  rw [wake, dueCallers, List.filter_map, List.length_map, List.filter_filter]
  congr 3
  exact funext fun z => Bool.and_comm _ _

theorem tick_ready (s : Session) (time : Nat) :
    ∃ later, (s.tick time).ready = s.dueCallers time ++ later :=
  ⟨_, List.append_assoc ..⟩

theorem awaitWithin_eq (h : s.Enough n) (h' : s.Enough n') :
    awaitWithin owner seen n s = awaitWithin owner seen n' s := by
  induction n generalizing s n' with
  | zero => exact absurd rfl h.ne_zero
  | succ n ih =>
    obtain ⟨n', rfl⟩ := Nat.exists_eq_succ_of_ne_zero h'.ne_zero
    rw [awaitWithin, awaitWithin]
    split
    · rfl
    · simp only
      split
      · rfl
      · split
        · rfl
        · next hw => exact ih (h.wake hw) (h'.wake hw)

theorem await_of_told (h : (s.result? owner seen).isSome = true) : s.await owner seen = s := by
  rw [await, awaitWithin, if_pos h]

theorem await_settle (h : (s.result? owner seen).isSome = false) :
    s.await owner seen = s.settle.await owner seen := by
  have hs : s.settle.settle = s.settle := settle_of_rest s.settle_rest
  by_cases hr : (s.settle.result? owner seen).isSome = true
  · rw [await_of_told hr, await, awaitWithin, if_neg (by rw [h]; decide)]
    simp only [hr, if_true]
  · have hr' : ¬(s.result? owner seen).isSome = true := by rw [h]; decide
    rw [await, await, awaitWithin, awaitWithin, if_neg hr', if_neg hr]
    simp only [hs, hr]
    cases hw : s.settle.nextWake? with
    | none => rfl
    | some time =>
      have hw' : s.settle.settle.nextWake? = some time := by rw [hs, hw]
      have he' := (enough_weight s.settle).wake hw'
      rw [hs] at he'
      exact awaitWithin_eq ((enough_weight s).wake hw) he'

/-- Nobody comes back from waiting if nothing is left to wait for. -/
theorem await_of_idle (hr : s.ready = []) (hw : s.nextWake? = none) : s.await owner seen = s := by
  rw [await, awaitWithin]
  simp only [settle_of_rest hr, hw, ite_self]

theorem await_wake (h : (s.result? owner seen).isSome = false) (hr : s.ready = [])
    (hw : s.nextWake? = some time) : s.await owner seen = (s.wake time).await owner seen := by
  have hw' : s.settle.nextWake? = some time := by rw [settle_of_rest hr, hw]
  have he := (enough_weight s).wake hw'
  have hn : ¬(s.result? owner seen).isSome = true := by rw [h]; decide
  rw [settle_of_rest hr] at he
  rw [await, awaitWithin]
  simp only [settle_of_rest hr, hw, hn]
  exact awaitWithin_eq he (enough_weight _)

def pass (s : Session) (time : Nat) : Session :=
  passWithin time (s.weight + 1) s

theorem passWithin_eq (h : s.remaining < n) (h' : s.remaining < n') :
    passWithin time n s = passWithin time n' s := by
  induction n generalizing s n' with
  | zero => exact absurd h (Nat.not_lt_zero _)
  | succ n ih =>
    obtain ⟨n', rfl⟩ := Nat.exists_eq_succ_of_ne_zero (Nat.ne_zero_of_lt h')
    rw [passWithin, passWithin]
    split
    · rfl
    · next hw =>
      have hlt := remaining_wake_settle_lt hw
      split
      · exact ih (Nat.lt_of_lt_of_le hlt (Nat.le_of_lt_succ h))
          (Nat.lt_of_lt_of_le hlt (Nat.le_of_lt_succ h'))
      · rfl

theorem pass_wake (hw : s.nextWake? = some next) (hle : next ≤ time) :
    s.pass time = (s.wake next).settle.pass time := by
  rw [pass, passWithin]
  simp only [hw, hle, if_true]
  exact passWithin_eq
    (Nat.lt_of_lt_of_le (remaining_wake_settle_lt hw) s.remaining_le_weight)
    (Nat.lt_succ_of_le (remaining_le_weight _))

theorem pass_of_later (h : ∀ next, s.nextWake? = some next → time < next) : s.pass time = s := by
  rw [pass, passWithin]
  split
  · rfl
  · next hw => exact if_neg (Nat.not_le.mpr (h _ hw))

theorem advance_eq (s : Session) (ms : Nat) :
    s.advance ms = (s.settle.pass (s.settle.now + ms)).tick (s.settle.now + ms) := rfl

end MailPrefs.Session
