import MailPrefs.Proofs.Session.Settling

namespace MailPrefs.Session

variable {s s' s'' : Session}

/-- A run on a clock that keeps time. Which of the jobs that are ready comes next is open. -/
def Clocked (s : Session) : List Move → Prop
  | [] => True
  | m :: ms => s.KeepsTime m ∧ (s.move m).Clocked ms

instance (s : Session) (m : Move) : Decidable (s.KeepsTime m) :=
  match m with
  | .tick time =>
    inferInstanceAs (Decidable (s.ready = [] ∧ s.now ≤ time ∧ ∀ z ∈ s.sleeping, time ≤ z.due))
  | .toggle .. | .message .. | .call _ | .spawn .. | .run _ | .nudge | .takeLoad | .unmount =>
    .isTrue trivial

instance decidableClocked (s : Session) : (ms : List Move) → Decidable (s.Clocked ms)
  | [] => .isTrue trivial
  | m :: ms =>
    have := decidableClocked (s.move m) ms
    inferInstanceAs (Decidable (s.KeepsTime m ∧ (s.move m).Clocked ms))

theorem clocked_iff_each {ms : List Move} : s.Clocked ms ↔ s.Each KeepsTime ms := by
  induction ms generalizing s with
  | nil => exact Iff.rfl
  | cons m ms ih => exact and_congr_right fun _ => ih

theorem clocked_append {ms ms' : List Move} :
    s.Clocked (ms ++ ms') ↔ s.Clocked ms ∧ (s.play ms).Clocked ms' := by
  simp only [clocked_iff_each, each_append]

theorem keepsTime_run (s : Session) : s.KeepsTime (.run 0) := trivial

/-- A session gets to another by internal moves of one kind. -/
def Drifts (p : Session → Move → Prop) (s s' : Session) : Prop :=
  ∃ ms, (∀ m ∈ ms, m.isInternal = true) ∧ s.Each p ms ∧ s' = s.play ms

namespace Drifts

variable {p : Session → Move → Prop}

theorem sound (h : s.Drifts p s') (hs : s.Sound) : s'.Sound := by
  obtain ⟨ms, _, _, rfl⟩ := h
  exact hs.play ms

theorem refl (s : Session) : s.Drifts p s := ⟨[], by simp, trivial, rfl⟩

theorem trans (h : s.Drifts p s') (h' : s'.Drifts p s'') : s.Drifts p s'' := by
  obtain ⟨ms, hm, hp, rfl⟩ := h
  obtain ⟨ms', hm', hp', rfl⟩ := h'
  refine ⟨ms ++ ms', ?_, each_append.mpr ⟨hp, hp'⟩, (play_append s ms ms').symm⟩
  intro m hmem
  rcases List.mem_append.mp hmem with hmem | hmem
  · exact hm m hmem
  · exact hm' m hmem

theorem move {m : Move} (h : m.isInternal = true) (hp : p s m) : s.Drifts p (s.move m) :=
  ⟨[m], by simpa using h, ⟨hp, trivial⟩, rfl⟩

theorem turns (hrun : ∀ s, p s (.run 0)) (n : Nat) (s : Session) : s.Drifts p (turns n s) := by
  induction n generalizing s with
  | zero => exact .refl s
  | succ n ih =>
    have ht : s.Drifts p s.turn := by
      rw [turn_eq_move]
      exact .move rfl (hrun s)
    exact ht.trans (ih s.turn)

theorem settle (hrun : ∀ s, p s (.run 0)) (s : Session) : s.Drifts p s.settle := turns hrun _ s

theorem wake {time : Nat} (hrun : ∀ s, p s (.run 0)) (hs : s.Sound) (hr : s.ready = [])
    (h : s.nextWake? = some time) (hp : s.KeepsTime (.tick time) → p s (.tick time)) :
    s.Drifts p (s.wake time) := by
  obtain ⟨⟨z, hz, rfl⟩, hd⟩ := nextWake?_eq_some h
  have hn := Nat.le_of_lt (hs.later z hz)
  exact (move (m := .tick z.due) rfl (hp ⟨hr, hn, hd⟩)).trans (turns hrun _ _)

theorem awaitWithin {owner : Owner} {seen : Nat} (hrun : ∀ s, p s (.run 0))
    (htick : ∀ (s : Session) (time : Nat), s.KeepsTime (.tick time) →
      s.result? owner seen = none → p s (.tick time))
    (n : Nat) (hs : s.Sound) : s.Drifts p (awaitWithin owner seen n s) := by
  induction n generalizing s with
  | zero => exact .refl s
  | succ n ih =>
    rw [Session.awaitWithin]
    split
    · exact .refl s
    · simp only
      split
      · exact .settle hrun s
      · next hn =>
        split
        · exact .settle hrun s
        · next time hw =>
          have hd := Drifts.settle hrun s
          have hp (hk : s.settle.KeepsTime (.tick time)) :=
            htick _ time hk (Option.not_isSome_iff_eq_none.mp hn)
          have hdw := hd.trans (.wake hrun (hd.sound hs) s.settle_rest hw hp)
          exact hdw.trans (ih (hdw.sound hs))

end Drifts

theorem drifts_await (owner : Owner) (seen : Nat) (hs : s.Sound) :
    s.Drifts KeepsTime (s.await owner seen) :=
  .awaitWithin keepsTime_run (fun _ _ hk _ => hk) _ hs

theorem turns_now (n : Nat) (s : Session) : (turns n s).now = s.now := by
  induction n generalizing s with
  | zero => rfl
  | succ n ih =>
    rw [turns, ih, turn_eq_move]
    apply move_now
    intro time h
    cases h

theorem drifts_passWithin (time n : Nat) (hs : s.Sound) (hr : s.ready = []) :
    s.Drifts KeepsTime (passWithin time n s) := by
  induction n generalizing s with
  | zero => exact .refl s
  | succ n ih =>
    rw [passWithin]
    split
    · exact .refl s
    · next h =>
      split
      · have hd := (Drifts.wake keepsTime_run hs hr h id).trans (.settle keepsTime_run _)
        exact hd.trans (ih (hd.sound hs) (settle_rest _))
      · exact .refl s

theorem passWithin_now_le {time : Nat} (n : Nat) (h : s.now ≤ time) :
    (passWithin time n s).now ≤ time := by
  induction n generalizing s with
  | zero => exact h
  | succ n ih =>
    rw [passWithin]
    split
    · exact h
    · split
      · next hle =>
        apply ih
        rw [settle, turns_now, wake, turns_now]
        exact hle
      · exact h

theorem drifts_advance (ms : Nat) (hs : s.Sound) : s.Drifts KeepsTime (s.advance ms) := by
  have hd := Drifts.settle keepsTime_run s
  have hp := drifts_passWithin (s.settle.now + ms) (s.settle.weight + 1) (hd.sound hs)
    s.settle_rest
  obtain ⟨hr, hlt⟩ : (passWithin (s.settle.now + ms) (s.settle.weight + 1) s.settle).ready
      = [] ∧ ∀ z ∈ (passWithin (s.settle.now + ms) (s.settle.weight + 1) s.settle).sleeping,
        s.settle.now + ms < z.due :=
    passWithin_rest s.settle_rest (Nat.lt_succ_of_le s.settle.remaining_le_weight)
  have hn := passWithin_now_le (s.settle.weight + 1) (Nat.le_add_right s.settle.now ms)
  refine hd.trans (hp.trans (.move (m := .tick (s.settle.now + ms)) rfl ⟨hr, hn, ?_⟩))
  exact fun z hz => Nat.le_of_lt (hlt z hz)

theorem drifts_awaitLoad (hs : s.Sound) :
    (s.move .takeLoad).Drifts KeepsTime s.awaitLoad.2 := by
  rw [awaitLoad]
  split
  · next h =>
    have he : s.move .takeLoad = s := by
      simp only [move, h, Option.map_none]
      rw [← h]
    rw [he]
    exact .refl s
  · next v h =>
    have he : s.move .takeLoad = { s with view := some { v with isLoadTaken := true } } := by
      simp only [move, h, Option.map_some]
    have hs' := he ▸ hs.move .takeLoad
    rw [he]
    split
    · next ht =>
      have hv : { v with isLoadTaken := true } = v := by rw [← ht]
      rw [hv, ← h]
      exact .refl s
    · exact drifts_await .mount 0 hs'

theorem drifts_perform (c : Command) (hs : s.Sound) :
    (s.play c.moves).Drifts KeepsTime (s.perform c).2 := by
  have hs' := hs.play c.moves
  cases c with
  | load => exact drifts_await _ _ hs'
  | submit => exact drifts_await _ _ hs'
  | spawn name operation => exact .refl _
  | toggle key checked => exact .refl _
  | message m timeout clockRuns => exact .refl _
  | advance ms => exact drifts_advance ms hs
  | awaitLoad => exact drifts_awaitLoad hs
  | unmount => exact .refl _
  | settle => exact .settle keepsTime_run s

theorem moves_clocked (s : Session) (c : Command) : s.Clocked c.moves := by
  cases c <;> simp only [Command.moves, Clocked, KeepsTime, and_self]

theorem filter_moves (c : Command) : c.moves.filter (!·.isInternal) = c.moves := by
  cases c <;> rfl

/-- Commands make up a run on a clock that keeps time. The moves in it that are not internal are
those that they ask for. -/
theorem performAll_eq_play (cs : List Command) (hs : s.Sound) :
    ∃ ms, (s.performAll cs).2 = s.play ms ∧ s.Clocked ms ∧
      ms.filter (!·.isInternal) = cs.flatMap Command.moves := by
  induction cs generalizing s with
  | nil => exact ⟨[], rfl, trivial, rfl⟩
  | cons c cs ih =>
    have hd := drifts_perform c hs
    obtain ⟨ms', he', hc', hf⟩ := ih (hd.sound (hs.play c.moves))
    obtain ⟨ms, hi, hm, he⟩ := hd
    have hn : ms.filter (!·.isInternal) = [] := by simpa using hi
    rw [he] at he' hc'
    refine ⟨c.moves ++ (ms ++ ms'), ?_, ?_, ?_⟩
    · rw [play_append, play_append]
      exact (congrArg (fun t : Session => (t.performAll cs).2) he).trans he'
    · have hm' := clocked_append.mpr ⟨clocked_iff_each.mpr hm, hc'⟩
      exact clocked_append.mpr ⟨s.moves_clocked c, hm'⟩
    · rw [List.filter_append, List.filter_append, filter_moves, hn, hf, List.nil_append,
        List.flatMap_cons]

end MailPrefs.Session
