import MailPrefs.Proofs.Session.Agenda
import MailPrefs.Proofs.View.Convergence

namespace MailPrefs.Session

variable {s s' s'' : Session} {m : Move} {ms : List Move} {v : Mount}

/-- The view stays, and does not look. -/
def IsBlind (s : Session) (m : Move) : Prop :=
  ¬s.IsLook m ∧ m ≠ .unmount

def seen? (s : Session) : Option (Watch × Watch) :=
  s.view.map fun v => (v.subscribed, v.status)

/-- The view, if there is one, sees nothing of what happens. -/
structure Overlooks (s s' : Session) : Prop where
  seen : s'.seen? = s.seen?
  frames : s'.frames = s.frames

theorem Overlooks.refl (s : Session) : s.Overlooks s := ⟨rfl, rfl⟩

theorem Overlooks.trans (h : s.Overlooks s') (h' : s'.Overlooks s'') : s.Overlooks s'' :=
  ⟨h'.seen.trans h.seen, h'.frames.trans h.frames⟩

theorem Overlooks.exists_view (h : s.Overlooks s') (hv : s.view = some v) :
    ∃ v', s'.view = some v' ∧ v'.subscribed = v.subscribed ∧ v'.status = v.status := by
  have hs : s'.seen? = some (v.subscribed, v.status) := by
    rw [h.seen, seen?, hv, Option.map_some]
  obtain ⟨v', hv', he⟩ := Option.map_eq_some_iff.mp hs
  exact ⟨v', hv', congrArg Prod.fst he, congrArg Prod.snd he⟩

theorem Overlooks.view_eq_none (h : s.Overlooks s') (hv : s.view = none) : s'.view = none := by
  have hs : s'.seen? = none := by rw [h.seen, seen?, hv, Option.map_none]
  exact Option.map_eq_none_iff.mp hs

theorem Overlooks.does (s : Session) (d : Deed) : s.Overlooks (s.does d) :=
  ⟨does_view (fun _ => rfl) s d, does_frames s d⟩

theorem IsBlind.overlooks (h : s.IsBlind m) : s.Overlooks (s.move m) := by
  have hc := s.move_comes m
  generalize s.move m = s' at hc ⊢
  cases hc with
  | does =>
    have hd := Overlooks.does (s.left m) (s.moveDeed m)
    exact ⟨hd.seen, hd.frames⟩
  | looks hl => exact absurd hl h.1
  | tick time => exact ⟨rfl, rfl⟩
  | nudge =>
    obtain ⟨looks, view, _, he⟩ := nudge_eq s
    exact ⟨nudge_view (fun _ => rfl) s, by rw [he]; rfl⟩
  | takeLoad =>
    refine ⟨?_, rfl⟩
    rw [seen?, seen?, Option.map_map]
    rfl
  | unmount => exact absurd rfl h.2

theorem overlooks_play (h : s.Each IsBlind ms) : s.Overlooks (s.play ms) := by
  induction ms generalizing s with
  | nil => exact .refl s
  | cons m ms ih => exact h.1.overlooks.trans (ih h.2)

end MailPrefs.Session
