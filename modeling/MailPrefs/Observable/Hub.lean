import MailPrefs.Observable

namespace MailPrefs

structure Hub (α : Type) where
  observable : Observable α
  receivers : List Watch := []
  streams : List Watch := []
  handles : Nat := 1

namespace Hub

variable {α : Type}

inductive Action (α : Type) where
  | get
  | set (value : α)
  /-- Replaces the value and tells the watchers only if asked to. -/
  | update (value : α) (tell : Bool)
  | subscribe
  | hasChanged (receiver : Nat)
  | read (receiver : Nat)
  | stream
  | next (stream : Nat)
  | clone
  | close

inductive Answer (α : Type) where
  | done
  | value (value : α)
  | flag (value : Bool)
  | number (index : Nat)
  | pending
  | item (value : α)
  | ended
  | closed
  /-- The observable that the action needs is gone. -/
  | gone
  /-- No receiver or stream has this number. -/
  | unknown

def new (value : α) : Hub α := { observable := ⟨value, 0⟩ }

/-- The observable is there as long as there is a handle on it. -/
def isOpen (h : Hub α) : Bool :=
  h.handles != 0

def actOpen (h : Hub α) : Action α → Answer α × Hub α
  | .get => (.value h.observable.value, h)
  | .set v => (.done, { h with observable := h.observable.set v })
  | .update v tell =>
    let (o, told) := h.observable.update fun _ => (v, tell)
    (.flag told, { h with observable := o })
  | .subscribe =>
    (.number h.receivers.length, { h with receivers := h.receivers ++ [.start h.observable] })
  | .stream =>
    (.number h.streams.length, { h with streams := h.streams ++ [.start h.observable] })
  | .clone => (.done, { h with handles := h.handles + 1 })
  | _ => (.gone, h)

def act (h : Hub α) : Action α → Answer α × Hub α
  | .hasChanged i =>
    match h.receivers[i]? with
    | none => (.unknown, h)
    | some w => (if h.isOpen then .flag (w.hasChanged h.observable) else .closed, h)
  | .read i =>
    match h.receivers[i]? with
    | none => (.unknown, h)
    | some _ =>
      (.value h.observable.value, { h with receivers := h.receivers.set i (.start h.observable) })
  | .next i =>
    match h.streams[i]? with
    | none => (.unknown, h)
    | some w =>
      match w.poll h.observable with
      | (some v, w) => (.item v, { h with streams := h.streams.set i w })
      | (none, _) => (if h.isOpen then .pending else .ended, h)
  | .close => (.done, { h with handles := h.handles - 1 })
  | a => if h.isOpen then h.actOpen a else (.gone, h)

def run (h : Hub α) : List (Action α) → List (Answer α) × Hub α
  | [] => ([], h)
  | a :: as =>
    let (answer, h) := h.act a
    let (answers, h) := h.run as
    (answer :: answers, h)

end Hub

end MailPrefs
