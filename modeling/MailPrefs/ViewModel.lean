import MailPrefs.HttpError
import MailPrefs.Localizer
import MailPrefs.Log
import MailPrefs.Observable
import MailPrefs.Preferences
import MailPrefs.Report
import MailPrefs.StatusMessage
import MailPrefs.SupportContact

namespace MailPrefs

structure ViewModel where
  catalog : Catalog
  localizer : Localizer := .passthrough
  contact : SupportContact := .default
  subscribed : Observable (List String) := ⟨[], 0⟩
  status : Observable StatusMessage := ⟨{}, 0⟩

inductive Effect where
  | log (record : Log.Record)
  | resetAfter (timeout : Nat)

inductive SubmitOutcome where
  | updated
  /-- The server had nothing to drop; nothing is shown. -/
  | notSubscribed
deriving DecidableEq, Repr

namespace ViewModel

def logTarget : String := "client_core::view_model"

def isSubscribed (m : ViewModel) (key : String) : Bool :=
  m.subscribed.value.contains key

def checkboxes (m : ViewModel) : List (String × Bool) :=
  m.catalog.keys.map fun k => (k, m.subscribed.value.contains k)

def preferences (m : ViewModel) : Preferences :=
  .ofSubscribed m.catalog m.subscribed.value

/-- Checking a key appends it, unchecking takes it out; tells whether that changed anything. -/
def toggled (key : String) (checked : Bool) (subscribed : List String) : List String × Bool :=
  match checked, subscribed.contains key with
  | true, false => (subscribed ++ [key], true)
  | false, true => (subscribed.erase key, true)
  | _, _ => (subscribed, false)

def setSubscribed (m : ViewModel) (key : String) (checked : Bool) :
    Except UnknownMailingList (Bool × ViewModel) :=
  if m.catalog.contains key then
    let (subscribed, changed) := m.subscribed.update (toggled key checked)
    .ok (changed, { m with subscribed })
  else .error ⟨key⟩

/-- Shows a message at once. With a timeout that is not zero
it asks for a reset later, which needs a running clock. -/
def showMessage (m : ViewModel) (message : StatusMessage) (timeout : Option Nat)
    (clockRuns : Bool := true) : ViewModel × List Effect :=
  let shown := { m with status := m.status.set message }
  match timeout with
  | none | some 0 => (shown, [])
  | some ms =>
    if clockRuns then (shown, [.resetAfter ms])
    else
      let text := "notifications: no async runtime, status message will not auto-clear"
      (shown, [.log ⟨.warn, logTarget, text, []⟩])

def resetMessage (m : ViewModel) : ViewModel :=
  { m with status := m.status.set {} }

/-- The keys that a report adds: those of the catalog, in
its order, that it affirms and that are not there yet. -/
def additions (c : Catalog) (r : Report) (subscribed : List String) : List String :=
  c.keys.filter fun k => r.isSubscribed k && !subscribed.contains k

/-- A report only ever adds keys; tells whether it added any. -/
def extended (c : Catalog) (r : Report) (subscribed : List String) : List String × Bool :=
  let added := additions c r subscribed
  (subscribed ++ added, !added.isEmpty)

def withReport (m : ViewModel) (r : Report) : ViewModel :=
  let (subscribed, _) := m.subscribed.update (extended m.catalog r)
  { m with subscribed }

def reportOf (answer : Except HttpError Json) : Except HttpError Report := do
  (Report.ofJson (← answer)).mapError fun e => .decode e.message

def showOutcome (m : ViewModel) (text : String) (messageClass : MessageClass) :
    ViewModel × List Effect :=
  m.showMessage ⟨text, messageClass⟩ (some outcomeTimeout)

def finishLoad (m : ViewModel) (answer : Except HttpError Json) :
    Except OperationError Unit × ViewModel × List Effect :=
  match reportOf answer with
  | .ok r =>
    let m := m.withReport r
    let fields :=
      [("subscribed", toString m.subscribed.value.length),
        ("ignored", toString (r.unknownKeys m.catalog.contains).length)]
    let text := "notifications: loaded mailing list subscriptions"
    (.ok (), m, [.log ⟨.info, logTarget, text, fields⟩])
  | .error e =>
    let (m, effects) := m.showOutcome (m.localizer.translate fetchFailedText) .danger
    let record : Log.Record :=
      ⟨.warn, logTarget, "notifications: could not retrieve settings", [("error", e.message)]⟩
    (.error (.fetchFailed e), m, .log record :: effects)

def submitFailedMessage (m : ViewModel) : String :=
  m.localizer.translate submitFailedText ++ m.localizer.format reportToText [m.contact.link]

def finishSubmit (m : ViewModel) (answer : Except HttpError Json) :
    Except OperationError SubmitOutcome × ViewModel × List Effect :=
  match answer with
  | .ok _ =>
    let (m, effects) := m.showOutcome (m.localizer.translate settingsUpdatedText) .success
    (.ok .updated, m, .log ⟨.info, logTarget, "notifications: settings updated", []⟩ :: effects)
  | .error e =>
    let apiError := e.apiError?
    if apiError.any (·.isNotSubscribed) then
      let text := "notifications: server reported not_subscribed, nothing to show"
      (.ok .notSubscribed, m, [.log ⟨.debug, logTarget, text, []⟩])
    else
      let (m, effects) := m.showOutcome m.submitFailedMessage .danger
      let record : Log.Record :=
        ⟨.warn, logTarget, "notifications: could not update settings", [("error", e.message)]⟩
      (.error (.submitFailed (apiError.map (·.errorType)) e), m, .log record :: effects)

end ViewModel

end MailPrefs
