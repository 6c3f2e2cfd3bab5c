import MailPrefs.FileTree
import MailPrefs.Template
import MailPrefs.Toml

namespace MailPrefs

inductive Localizer where
  /-- English: every identifier is its own text. -/
  | passthrough
  /-- Texts by identifier; an identifier that is not there is its own text. -/
  | table (texts : List (String × String))

namespace Localizer

def translate : Localizer → String → String
  | .passthrough, id => id
  | .table texts, id => (texts.lookup id).getD id

def format (l : Localizer) (id : String) (args : List String) : String :=
  Template.format (l.translate id) args

def size : Localizer → Nat
  | .passthrough => 0
  | .table texts => texts.length

def textOf? : String × Toml.Value → Option (String × String)
  | (id, .text s) => some (id, s)
  | (_, .list _) => none

/-- The texts of a translations file: strings under their identifiers, and nothing else. -/
def ofToml? (s : String) : Option Localizer := do
  some (.table (← (← Toml.parse? s).mapM textOf?))

inductive LoadError where
  | unreadable (path : String) (failure : ReadFailure)
  | invalid
deriving DecidableEq, Repr

def LoadError.message : LoadError → String
  | .unreadable path e => "failed to read translations from " ++ path ++ ": " ++ e.message
  | .invalid => "invalid translations file: TOML parse error"

def load (read : ReadText) (path : String) : Except LoadError Localizer :=
  match read path with
  | .error e => .error (.unreadable path e)
  | .ok s => (ofToml? s).elim (.error .invalid) .ok

end Localizer

def fetchFailedText : String := "Could not retrieve settings information."

def settingsUpdatedText : String := "Settings updated."

def submitFailedText : String :=
  "Could not update email preferences at this time. If this issue persists, "

def reportToText : String := "please report it to %1$s."

end MailPrefs
