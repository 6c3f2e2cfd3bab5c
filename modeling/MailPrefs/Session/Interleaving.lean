import MailPrefs.Session.Run

namespace MailPrefs

/-- What happens to a session without a break. Nothing is said about which move comes next. -/
inductive Move where
  | toggle (key : String) (checked : Bool)
  | message (message : StatusMessage) (timeout : Option Nat) (clockRuns : Bool)
  | call (operation : Operation)
  | spawn (name : String) (operation : Operation)
  /-- A job runs, any one of those that are ready. -/
  | run (index : Nat)
  | tick (time : Nat)
  /-- The view is woken, with news or without. -/
  | nudge
  | takeLoad
  | unmount

def Move.isInternal : Move → Bool
  | .run _ | .tick _ | .nudge => true
  | _ => false

namespace Session

def move (s : Session) : Move → Session
  | .toggle key checked => (s.toggle key checked).2
  | .message m timeout clockRuns => s.apply (s.model.showMessage m timeout clockRuns)
  | .call operation => s.start .caller operation
  | .spawn name operation =>
    { s with ready := s.ready ++ [.start (.background name) operation] }
  | .run index =>
    match s.ready[index]? with
    | none => s
    | some job => { s with ready := s.ready.eraseIdx index }.runJob job
  | .tick time => s.tick time
  | .nudge => s.nudge
  | .takeLoad => { s with view := s.view.map fun v => { v with isLoadTaken := true } }
  | .unmount => { s with view := none }

def play (s : Session) (ms : List Move) : Session :=
  ms.foldl move s

/-- What is noted of the moves of a run, each in the session in which it is made. -/
def collect {α : Type} (f : Session → Move → Option α) (s : Session) : List Move → List α
  | [] => []
  | m :: ms => (f s m).toList ++ (s.move m).collect f ms

def opened (isMounted : Bool) (c : Catalog) (l : Localizer) (t : SupportContact)
    (server : Script) : Session :=
  let model : ViewModel := { catalog := c, localizer := l, contact := t }
  if isMounted then .mount model server else .bare model server

def job? (s : Session) : Move → Option Job
  | .call operation => some (.start .caller operation)
  | .run index => s.ready[index]?
  | _ => none

/-- The answer that a job takes up, which has come in before or comes without delay. -/
def taken? (s : Session) : Job → Option (Operation × Option (Except HttpError Json))
  | .resume _ operation answer => some (operation, answer)
  | .start _ operation =>
    let (reply, _) := s.send operation
    if reply.delay = 0 then some (operation, reply.answer) else none
  | _ => none

def Command.moves : Command → List Move
  | .load => [.call .load]
  | .submit => [.call .submit]
  | .spawn name operation => [.spawn name operation]
  | .toggle key checked => [.toggle key checked]
  | .message m timeout clockRuns => [.message m timeout clockRuns]
  | .awaitLoad => [.takeLoad]
  | .unmount => [.unmount]
  | .advance _ | .settle => []

def completed? (s : Session) (m : Move) : Option (Operation × Option (Except HttpError Json)) :=
  (s.job? m).bind s.taken?

end Session

end MailPrefs
