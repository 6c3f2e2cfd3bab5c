import MailPrefs.Session.Basic

namespace MailPrefs

/-- A bound on the turns that a job takes with all that comes of it. -/
def Job.weight : Job → Nat
  | .render => 3
  | .reset => 4
  | .armReset _ => 5
  | .resume _ _ _ => 9
  | .start _ _ => 10

namespace Session

def weight (s : Session) : Nat :=
  (s.ready ++ s.sleeping.map (·.job)).foldr (fun job n => job.weight + n) 0

def turns : Nat → Session → Session
  | 0, s => s
  | n + 1, s => turns n s.turn

def settle (s : Session) : Session :=
  turns s.weight s

def nextWake? (s : Session) : Option Nat :=
  (s.sleeping.map (·.due)).min?

/-- The clock shows another time, and what is due by then gets
ready: what the caller waits for before all else, the others at the end. -/
def tick (s : Session) (time : Nat) : Session :=
  let due := (s.sleeping.filter (·.due ≤ time)).map (·.job)
  { s with
    now := time
    sleeping := s.sleeping.filter (time < ·.due)
    ready := due.filter Job.isCallers ++ s.ready ++ due.filter (!·.isCallers) }

/-- Moves the clock to a time at which sleepers wake. What the caller waits for runs at once. -/
def wake (s : Session) (time : Nat) : Session :=
  turns (s.sleeping.filter fun z => z.due ≤ time && z.job.isCallers).length (s.tick time)

def result? (s : Session) (owner : Owner) (seen : Nat) : Option Result :=
  (s.trace.drop seen).findSome? fun
    | .finished o r => if o = owner then some r else none
    | _ => none

/-- Lets jobs run and time pass until an operation has finished, at most for so many wakings. -/
def awaitWithin (owner : Owner) (seen : Nat) : Nat → Session → Session
  | 0, s => s
  | n + 1, s =>
    if (s.result? owner seen).isSome then s
    else
      let s := s.settle
      if (s.result? owner seen).isSome then s
      else
        match s.nextWake? with
        | none => s
        | some time => awaitWithin owner seen n (s.wake time)

def await (s : Session) (owner : Owner) (seen : Nat) : Session :=
  awaitWithin owner seen (s.weight + 1) s

def passWithin (time : Nat) : Nat → Session → Session
  | 0, s => s
  | n + 1, s =>
    match s.nextWake? with
    | none => s
    | some next => if next ≤ time then passWithin time n (s.wake next).settle else s

def advance (s : Session) (ms : Nat) : Session :=
  let s := s.settle
  let time := s.now + ms
  (passWithin time (s.weight + 1) s).tick time

inductive Command where
  | load
  | submit
  | spawn (name : String) (operation : Operation)
  | toggle (key : String) (checked : Bool)
  | message (message : StatusMessage) (timeout : Option Nat) (clockRuns : Bool)
  | advance (ms : Nat)
  | awaitLoad
  | unmount
  | settle

inductive Answer where
  | done
  | toggled (result : Except UnknownMailingList Bool)
  | result (result : Result)
  | unmounted

def call (s : Session) (operation : Operation) : Answer × Session :=
  let seen := s.trace.length
  let s := (s.start .caller operation).await .caller seen
  (.result ((s.result? .caller seen).getD (stopped operation)), s)

/-- Waits for the first load, the first time that it is asked for. -/
def awaitLoad (s : Session) : Answer × Session :=
  match s.view with
  | none => (.unmounted, s)
  | some v =>
    if v.isLoadTaken then (.result (.loaded (.ok ())), s)
    else
      let s := { s with view := some { v with isLoadTaken := true } }.await .mount 0
      (.result ((s.result? .mount 0).getD (stopped .load)), s)

def toggle (s : Session) (key : String) (checked : Bool) : Answer × Session :=
  match s.model.setSubscribed key checked with
  | .error e => (.toggled (.error e), s)
  | .ok (changed, m) => (.toggled (.ok changed), s.setModel m)

def perform (s : Session) : Command → Answer × Session
  | .load => s.call .load
  | .submit => s.call .submit
  | .spawn name operation =>
    (.done, { s with ready := s.ready ++ [.start (.background name) operation] })
  | .toggle key checked => s.toggle key checked
  | .message m timeout clockRuns => (.done, s.apply (s.model.showMessage m timeout clockRuns))
  | .advance ms => (.done, s.advance ms)
  | .awaitLoad => s.awaitLoad
  | .unmount => (.done, { s with view := none })
  | .settle => (.done, s.settle)

def step (s : Session) (c : Command) : Answer × Session :=
  let (answer, s) := s.perform c
  (answer, s.settle)

/-- Performs commands one after the other with no other job in between, unless one of them waits. -/
def performAll (s : Session) : List Command → List Answer × Session
  | [] => ([], s)
  | c :: cs =>
    let (answer, s) := s.perform c
    let (answers, s) := s.performAll cs
    (answer :: answers, s)

def bare (model : ViewModel) (server : Script) : Session :=
  { model, server }

def mount (model : ViewModel) (server : Script) : Session :=
  { model
    server
    ready := [.render, .start .mount .load]
    view := some (.start model)
    trace := [.rendered (.checkboxes model.checkboxes), .rendered (.status model.status.value)] }

end Session

end MailPrefs
