import MailPrefs.Client
import MailPrefs.CommandLine.Arguments
import MailPrefs.CommandLine.Failure
import MailPrefs.Session.Run
import MailPrefs.Terminal

namespace MailPrefs

structure Invocation where
  arguments : List String
  read : ReadText
  env : String → Option String

/-- What comes of a request that is sent, after a delay in milliseconds:
a response, or none if the connection fails. -/
structure Arrival where
  delay : Nat := 1
  response : Option HttpResponse := none

structure Plan where
  arguments : Arguments
  settings : Settings
  catalog : Catalog
  client : Client
  localizer : Localizer
  preparation : List Log.Record

inductive Output where
  | frame (frame : Frame)
  | log (record : Log.Record)

inductive Ending where
  | success
  | failure (failure : Failure)
  | misuse
  | help

def Ending.exitCode : Ending → Nat
  | .success | .help => 0
  | .failure _ => 1
  | .misuse => 2

def Ending.ofArguments : ArgumentsError → Ending
  | .helpRequested => .help
  | .misuse => .misuse

structure Outcome where
  ending : Ending
  output : List Output := []
  requests : List HttpRequest := []

namespace Settings

def withArguments (s : Settings) (a : Arguments) : Settings :=
  s.withLayer ⟨a.serverUrl, a.catalog.map Text.commaItems, a.supportEmail, none⟩

end Settings

def logTarget : String := "notifications"

def loadedTranslations (path : String) (l : Localizer) : Log.Record :=
  ⟨.info, logTarget, "loaded translations", [("path", path), ("messages", toString l.size)]⟩

namespace Invocation

def settings (i : Invocation) (a : Arguments) : Except Failure Settings := do
  .ok ((← (Settings.load i.read a.configPath i.env).mapError .ofSettings).withArguments a)

def loadTranslations (i : Invocation) : Option String → Except Failure (Localizer × List Log.Record)
  | none => .ok (.passthrough, [])
  | some path =>
    match Localizer.load i.read path with
    | .error e => .error (.ofTranslations e)
    | .ok l => .ok (l, [loadedTranslations path l])

def plan (i : Invocation) (a : Arguments) : Except Failure Plan := do
  -- Of several failures the first one in this order is reported.
  let settings ← i.settings a
  let catalog ← (Catalog.ofKeys settings.catalog).mapError .ofBlankKey
  let client ← (Client.ofUrl settings.serverUrl).mapError (.ofServerUrl settings.serverUrl)
  let (localizer, preparation) ← i.loadTranslations settings.translations
  .ok { arguments := a, settings, catalog, client, localizer, preparation }

end Invocation

namespace Plan

/-- What becomes of a request. One that cannot be sent fails at once. -/
def reply (p : Plan) (method : Method) (path : String) (arrival : Arrival) : Reply :=
  ⟨if (p.client.address path).isOk then arrival.delay else 0,
    some (p.client.exchange method path arrival.response)⟩

def session (p : Plan) (arrivals : List Arrival) : Session :=
  .mount
    { catalog := p.catalog, localizer := p.localizer, contact := .plain p.settings.supportEmail }
    -- A run reads once and writes once at most.
    { gets := [p.reply .get settingsPath (arrivals.getD 0 {})]
      posts := [p.reply .post settingsUpdatePath (arrivals.getD 1 {})]
      otherwise := ⟨1, none⟩ }

/-- Toggles lists one after the other, up to the first one that is not in the catalog. -/
def toggleAll (s : Session) : List (String × Bool) → Except UnknownMailingList Unit × Session
  | [] => (.ok (), s)
  | (key, checked) :: rest =>
    match s.toggle key checked with
    | (.toggled (.error e), s) => (.error e, s)
    | (_, s) => toggleAll s rest

def savedRecord (p : Plan) : SubmitOutcome → Log.Record
  | .updated => ⟨.info, logTarget, "preferences saved", [("server_url", p.settings.serverUrl)]⟩
  | .notSubscribed => ⟨.info, logTarget, "server reported not_subscribed; nothing changed", []⟩

def submit (p : Plan) (s : Session) : Except Failure Unit × Session :=
  match s.step .submit with
  | (.result (.submitted (.ok outcome)), s) => (.ok (), s.emit (.logged (p.savedRecord outcome)))
  | (.result (.submitted (.error e)), s) =>
    (.error (.ofOperation "could not update email preferences" e), s)
  | (_, s) => (.ok (), s)

def work (p : Plan) (s : Session) : Except Failure Unit × Session :=
  match s.step .awaitLoad with
  | (.result (.loaded (.error e)), s) =>
    (.error (.ofOperation "could not load current subscriptions" e), s)
  | (_, s) =>
    match toggleAll s p.arguments.toggles with
    | (.error e, s) => (.error (.ofUnknownList e), s)
    | (.ok (), s) => if p.arguments.submits then p.submit s else (.ok (), s)

def clientTarget : String := "client_core::transport"

def outputOf? (p : Plan) : Event → Option Output
  | .rendered frame => some (.frame frame)
  | .logged record => some (.log record)
  | .requested r =>
    some (.log ⟨.debug, clientTarget, r.method.name, [("url", p.client.endpoint r.path)]⟩)
  | .finished _ _ => none

def requestOf? (p : Plan) : Event → Option HttpRequest
  | .requested r => p.client.sent? r
  | _ => none

def carryOut (p : Plan) (arrivals : List Arrival) : Outcome :=
  let (result, s) := p.work (p.session arrivals)
  { ending := match result with
      | .ok () => .success
      | .error e => .failure e
    output := p.preparation.map .log ++ s.trace.filterMap p.outputOf?
    requests := s.trace.filterMap p.requestOf? }

end Plan

namespace Invocation

def run (i : Invocation) (arrivals : List Arrival) : Outcome :=
  match Arguments.parse i.arguments with
  | .error e => { ending := .ofArguments e }
  | .ok a =>
    match i.plan a with
    | .error e => { ending := .failure e }
    | .ok p => p.carryOut arrivals

/-- The run over a network. What a run sends depends on what came
before, so each request is found by a run of its own. -/
def runOver {m : Type → Type} [Monad m] (i : Invocation) (send : HttpRequest → m Arrival) :
    m Outcome := do
  match (i.run []).requests[0]? with
  | none => return i.run []
  | some r =>
    let first ← send r
    match (i.run [first]).requests[1]? with
    | none => return i.run [first]
    | some r => return i.run [first, ← send r]

def variableNames : List String :=
  ["APP__SERVER_URL", "APP__CATALOG", "APP__SUPPORT_EMAIL", "APP__TRANSLATIONS", "RUST_LOG"]

/-- The paths that a run reads, so far as what can be read tells. -/
def paths (i : Invocation) : List String :=
  match Arguments.parse i.arguments with
  | .error _ => []
  | .ok a => a.configPath :: ((i.settings a).toOption.bind (·.translations)).toList

def logFilter (i : Invocation) : Log.Filter :=
  ((i.env "RUST_LOG").bind Log.Filter.parse?).getD .default

end Invocation

namespace Outcome

def stdout (o : Outcome) (filter : Log.Filter) : String :=
  String.join <| o.output.map fun
    | .frame f => Terminal.print f
    | .log r => if filter.allows r then r.line ++ "\n" else ""

def stderr (o : Outcome) : String :=
  match o.ending with
  | .failure f => f.text
  | _ => ""

end Outcome

end MailPrefs
