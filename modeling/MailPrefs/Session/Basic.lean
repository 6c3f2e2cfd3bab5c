import MailPrefs.Request
import MailPrefs.ViewModel

namespace MailPrefs

inductive Operation where
  | load
  | submit
deriving DecidableEq, Repr

inductive Owner where
  | caller
  | background (name : String)
  | mount
deriving DecidableEq, Repr

/-- What becomes of a request, after a delay in milliseconds:
an answer, or none if the client breaks down. -/
structure Reply where
  delay : Nat := 0
  answer : Option (Except HttpError Json)

/-- The replies of a server to the reads and the writes to
come, and the one that it gives to all others. -/
structure Script where
  gets : List Reply
  posts : List Reply
  otherwise : Reply

inductive Frame where
  | checkboxes (entries : List (String × Bool))
  | status (message : StatusMessage)

inductive Result where
  | loaded (result : Except OperationError Unit)
  | submitted (result : Except OperationError SubmitOutcome)

inductive Event where
  | requested (request : Request)
  | logged (record : Log.Record)
  | rendered (frame : Frame)
  | finished (owner : Owner) (result : Result)

inductive Job where
  | render
  | start (owner : Owner) (operation : Operation)
  | resume (owner : Owner) (operation : Operation) (answer : Option (Except HttpError Json))
  /-- Goes to sleep until a message is to be reset. -/
  | armReset (timeout : Nat)
  | reset

def Job.isCallers : Job → Bool
  | .resume .caller _ _ => true
  | _ => false

structure Sleeper where
  due : Nat
  job : Job

/-- The two streams of changes that a view follows. -/
inductive Side where
  | subscribed
  | status
deriving DecidableEq, Repr

def Side.other : Side → Side
  | .subscribed => .status
  | .status => .subscribed

/-- A mounted view: what it has seen, which stream it asks first when it looks again,
whether it is about to look, and whether its first load was waited for. -/
structure Mount where
  subscribed : Watch
  status : Watch
  first : Side := .subscribed
  isQueued : Bool := true
  isLoadTaken : Bool := false

namespace Mount

def start (m : ViewModel) : Mount :=
  { subscribed := .start m.subscribed, status := .start m.status }

def hasNews (v : Mount) (m : ViewModel) : Bool :=
  v.subscribed.hasChanged m.subscribed || v.status.hasChanged m.status

def ask (v : Mount) (m : ViewModel) : Side → Option Frame × Mount
  | .subscribed =>
    let (value, watch) := v.subscribed.poll m.subscribed
    (value.map fun _ => .checkboxes m.checkboxes, { v with subscribed := watch })
  | .status =>
    let (value, watch) := v.status.poll m.status
    (value.map .status, { v with status := watch })

/-- Asks one stream and, if that has nothing, the other; the streams take turns at being first. -/
def look (v : Mount) (m : ViewModel) : Option Frame × Mount :=
  match { v with first := v.first.other }.ask m v.first with
  | (some frame, v) => (some frame, v)
  | (none, v) => v.ask m v.first

end Mount

structure Session where
  model : ViewModel
  server : Script
  now : Nat := 0
  /-- Jobs that can run, the next one first. -/
  ready : List Job := []
  sleeping : List Sleeper := []
  view : Option Mount := none
  trace : List Event := []

namespace Session

def emit (s : Session) (e : Event) : Session :=
  { s with trace := s.trace ++ [e] }

def nudge (s : Session) : Session :=
  match s.view with
  | none => s
  | some v =>
    if v.isQueued then s
    else { s with ready := s.ready ++ [.render], view := some { v with isQueued := true } }

/-- The view is to look for changes once one is there. -/
def notice (s : Session) : Session :=
  if s.view.any (·.hasNews s.model) then s.nudge else s

def setModel (s : Session) (m : ViewModel) : Session :=
  { s with model := m }.notice

def effect (s : Session) : Effect → Session
  | .log r => s.emit (.logged r)
  | .resetAfter ms => { s with ready := s.ready ++ [.armReset ms] }

def apply (s : Session) (change : ViewModel × List Effect) : Session :=
  change.2.foldl effect (s.setModel change.1)

def send (s : Session) : Operation → Reply × Session
  | .load =>
    let s := s.emit (.requested (.get settingsPath))
    (s.server.gets.head?.getD s.server.otherwise, { s with server.gets := s.server.gets.tail })
  | .submit =>
    let s := s.emit (.requested (.post settingsUpdatePath s.model.preferences.toJson))
    (s.server.posts.head?.getD s.server.otherwise, { s with server.posts := s.server.posts.tail })

def stopped : Operation → Result
  | .load => .loaded (.error (.taskStopped ""))
  | .submit => .submitted (.error (.taskStopped ""))

def finish (s : Session) (owner : Owner) (operation : Operation)
    (answer : Option (Except HttpError Json)) : Session :=
  match answer, operation with
  | none, operation => s.emit (.finished owner (stopped operation))
  | some answer, .load =>
    let (result, change) := s.model.finishLoad answer
    (s.apply change).emit (.finished owner (.loaded result))
  | some answer, .submit =>
    let (result, change) := s.model.finishSubmit answer
    (s.apply change).emit (.finished owner (.submitted result))

def sleep (s : Session) (delay : Nat) (job : Job) : Session :=
  { s with sleeping := s.sleeping ++ [⟨s.now + delay, job⟩] }

/-- Starts an operation; a reply without delay is taken up at once. -/
def start (s : Session) (owner : Owner) (operation : Operation) : Session :=
  let (reply, s) := s.send operation
  if reply.delay = 0 then s.finish owner operation reply.answer
  else s.sleep reply.delay (.resume owner operation reply.answer)

/-- The view looks once. It shows what it finds and goes on
looking, before all other jobs; else it waits until there is news. -/
def render (s : Session) : Session :=
  match s.view with
  | none => s
  | some v =>
    match v.look s.model with
    | (some frame, v) =>
      { s.emit (.rendered frame) with ready := .render :: s.ready, view := some v }
    | (none, v) => { s with view := some { v with isQueued := false } }

def runJob (s : Session) : Job → Session
  | .render => s.render
  | .start owner operation => s.start owner operation
  | .resume owner operation answer => s.finish owner operation answer
  | .armReset timeout => s.sleep timeout .reset
  | .reset => s.setModel s.model.resetMessage

def turn (s : Session) : Session :=
  match s.ready with
  | [] => s
  | job :: jobs => { s with ready := jobs }.runJob job

end Session

end MailPrefs
