import MailPrefs.Session.Interleaving

namespace MailPrefs.Session

theorem play_append (s : Session) (ms ms' : List Move) :
    s.play (ms ++ ms') = (s.play ms).play ms' :=
  List.foldl_append

theorem play_concat (s : Session) (ms : List Move) (m : Move) :
    s.play (ms ++ [m]) = (s.play ms).move m :=
  play_append s ms [m]

theorem collect_append {α : Type} (f : Session → Move → Option α) (s : Session)
    (ms ms' : List Move) :
    s.collect f (ms ++ ms') = s.collect f ms ++ (s.play ms).collect f ms' := by
  induction ms generalizing s with
  | nil => rfl
  | cons m ms ih =>
    have hc : s.collect f (m :: ms ++ ms') =
        (f s m).toList ++ (s.move m).collect f (ms ++ ms') := rfl
    rw [hc, ih, ← List.append_assoc]
    rfl

theorem collect_concat {α : Type} (f : Session → Move → Option α) (s : Session) (ms : List Move)
    (m : Move) : s.collect f (ms ++ [m]) = s.collect f ms ++ (f (s.play ms) m).toList := by
  rw [collect_append, collect, collect, List.append_nil]

theorem collect_bind {α β : Type} (f : Session → Move → Option α) (g : α → Option β) (s : Session)
    (ms : List Move) :
    s.collect (fun s m => (f s m).bind g) ms = (s.collect f ms).filterMap g := by
  induction ms generalizing s with
  | nil => rfl
  | cons m ms ih =>
    rw [collect, collect, ih, List.filterMap_append]
    cases f s m with
    | none => rfl
    | some a => cases h : g a <;> simp [h]

theorem collect_map {α β : Type} (f : Session → Move → Option α) (g : α → β) (s : Session)
    (ms : List Move) : s.collect (fun s m => (f s m).map g) ms = (s.collect f ms).map g := by
  induction ms generalizing s with
  | nil => rfl
  | cons m ms ih => rw [collect, collect, ih, List.map_append, Option.toList_map]

theorem collect_moves {α : Type} (f : Move → Option α) (s : Session) (ms : List Move) :
    s.collect (fun _ => f) ms = ms.filterMap f := by
  induction ms generalizing s with
  | nil => rfl
  | cons m ms ih =>
    rw [collect, ih, List.filterMap_cons]
    cases f m <;> rfl

/-- Each move of a run is such a move, in the session in which it is made. -/
def Each (p : Session → Move → Prop) (s : Session) : List Move → Prop
  | [] => True
  | m :: ms => p s m ∧ (s.move m).Each p ms

theorem collect_eq_nil_iff {α : Type} {f : Session → Move → Option α} {s : Session}
    {ms : List Move} : s.collect f ms = [] ↔ s.Each (fun s m => f s m = none) ms := by
  induction ms generalizing s with
  | nil => exact iff_of_true rfl trivial
  | cons m ms ih =>
    rw [collect, List.append_eq_nil_iff, Option.toList_eq_nil_iff, ih]
    rfl

theorem Each.mono {p q : Session → Move → Prop} (h : ∀ s m, p s m → q s m) {s : Session}
    {ms : List Move} (hp : s.Each p ms) : s.Each q ms := by
  induction ms generalizing s with
  | nil => trivial
  | cons m ms ih => exact ⟨h s m hp.1, ih hp.2⟩

theorem each_congr {p q : Session → Move → Prop} (h : ∀ s m, p s m ↔ q s m) {s : Session}
    {ms : List Move} : s.Each p ms ↔ s.Each q ms :=
  ⟨Each.mono fun s m => (h s m).mp, Each.mono fun s m => (h s m).mpr⟩

theorem each_append {p : Session → Move → Prop} {s : Session} {ms ms' : List Move} :
    s.Each p (ms ++ ms') ↔ s.Each p ms ∧ (s.play ms).Each p ms' := by
  induction ms generalizing s with
  | nil => exact (and_iff_right trivial).symm
  | cons m ms ih =>
    rw [List.cons_append, Each, Each, ih, and_assoc]
    rfl

theorem Each.of_forall {p : Session → Move → Prop} (h : ∀ s m, p s m) (s : Session)
    (ms : List Move) : s.Each p ms := by
  induction ms generalizing s with
  | nil => trivial
  | cons m ms ih => exact ⟨h s m, ih (s.move m)⟩

/-- If in each move what is there and what is new is what is gone and what is there
afterwards, then so it is in a whole run. -/
theorem Each.perm_play {α : Type} {p : Session → Move → Prop} {there : Session → List α}
    {born gone : Session → Move → Option α} {s : Session} {ms : List Move} (hp : s.Each p ms)
    (h : ∀ s m, p s m →
      (there s ++ (born s m).toList).Perm ((gone s m).toList ++ there (s.move m))) :
    (there s ++ s.collect born ms).Perm (s.collect gone ms ++ there (s.play ms)) := by
  induction ms generalizing s with
  | nil => exact List.perm_append_comm
  | cons m ms ih =>
    have hs : s.play (m :: ms) = (s.move m).play ms := rfl
    rw [collect, collect, hs, List.append_assoc, ← List.append_assoc]
    refine ((h s m hp.1).append_right _).trans ?_
    rw [List.append_assoc]
    exact (ih hp.2).append_left _

theorem perm_play {α : Type} {there : Session → List α} {born gone : Session → Move → Option α}
    (h : ∀ s m, (there s ++ (born s m).toList).Perm ((gone s m).toList ++ there (s.move m)))
    (s : Session) (ms : List Move) :
    (there s ++ s.collect born ms).Perm (s.collect gone ms ++ there (s.play ms)) :=
  (Each.of_forall (fun _ _ => trivial) s ms).perm_play fun s m _ => h s m

theorem turn_eq_move (s : Session) : s.turn = s.move (.run 0) := by
  cases h : s.ready with
  | nil => simp only [turn, move, h, List.getElem?_nil]
  | cons job jobs =>
    simp only [turn, move, h, List.getElem?_cons_zero, List.eraseIdx_cons_zero]

end MailPrefs.Session
