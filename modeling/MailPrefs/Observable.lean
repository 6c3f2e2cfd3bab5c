namespace MailPrefs

structure Observable (α : Type) where
  value : α
  version : Nat := 0

namespace Observable

variable {α : Type}

/-- Replaces the value and tells the watchers, even if it is the same. -/
def set (o : Observable α) (value : α) : Observable α :=
  ⟨value, o.version + 1⟩

/-- Replaces the value; watchers are told only if the change says so. -/
def update (o : Observable α) (change : α → α × Bool) : Observable α × Bool :=
  let (value, told) := change o.value
  (⟨value, if told then o.version + 1 else o.version⟩, told)

end Observable

/-- What a watcher remembers: the version of the observable that it saw last. -/
structure Watch where
  seen : Nat
deriving DecidableEq, Repr

namespace Watch

variable {α : Type}

def start (o : Observable α) : Watch := ⟨o.version⟩

def hasChanged (w : Watch) (o : Observable α) : Bool :=
  w.seen != o.version

def poll (w : Watch) (o : Observable α) : Option α × Watch :=
  (if w.hasChanged o then some o.value else none, start o)

variable {w : Watch} {o : Observable α}

theorem hasChanged_eq_false : w.hasChanged o = false ↔ w.seen = o.version := by
  simp [hasChanged]

theorem hasChanged_eq_true : w.hasChanged o = true ↔ w.seen ≠ o.version := by
  simp [hasChanged]

theorem poll_of_changed (h : w.hasChanged o = true) : w.poll o = (some o.value, start o) := by
  rw [poll, if_pos h]

theorem poll_of_unchanged (h : w.hasChanged o = false) : w.poll o = (none, w) := by
  have hw : start o = w := congrArg Watch.mk (hasChanged_eq_false.mp h).symm
  rw [poll, h, hw]
  rfl

end Watch

end MailPrefs
