import MailPrefs.FileTree
import MailPrefs.SupportContact
import MailPrefs.Text.CommaList
import MailPrefs.Toml

namespace MailPrefs

structure Settings where
  serverUrl : String := "http://127.0.0.1:5000"
  catalog : List String := ["osf_general", "osf_help"]
  supportEmail : String := SupportContact.defaultAddress
  translations : Option String := none
deriving DecidableEq, Repr

structure SettingsLayer where
  serverUrl : Option String := none
  catalog : Option (List String) := none
  supportEmail : Option String := none
  translations : Option String := none
deriving DecidableEq, Repr

inductive SettingsError where
  /-- The file holds no settings: bad syntax, an unknown key, or a value of the wrong type. -/
  | invalidFile (path : String)
  | unreadable (path : String) (failure : ReadFailure)
deriving DecidableEq, Repr

def SettingsError.message : SettingsError → String
  | .invalidFile path => "invalid settings file '" ++ path ++ "'"
  | .unreadable path _ => "failed to read '" ++ path ++ "'"

namespace SettingsLayer

def withEntry (l : SettingsLayer) : String × Toml.Value → Option SettingsLayer
  | ("server_url", .text s) => some { l with serverUrl := some s }
  | ("catalog", .list ss) => some { l with catalog := some ss }
  | ("support_email", .text s) => some { l with supportEmail := some s }
  | ("translations", .text s) => some { l with translations := some s }
  | _ => none

def ofText? (s : String) : Option SettingsLayer := do
  (← Toml.parse? s).foldlM withEntry {}

/-- The layer of a settings file; one that is not there gives nothing. -/
def ofFile (read : ReadText) (path : String) : Except SettingsError SettingsLayer :=
  match read path with
  | .error .notFound => .ok {}
  | .error e => .error (.unreadable path e)
  | .ok s => (ofText? s).elim (.error (.invalidFile path)) .ok

/-- The layer of the environment, in which a variable counts if it is text. -/
def ofEnvironment (env : String → Option String) : SettingsLayer where
  serverUrl := env "APP__SERVER_URL"
  catalog := (env "APP__CATALOG").map Text.commaItems
  supportEmail := env "APP__SUPPORT_EMAIL"
  translations := env "APP__TRANSLATIONS"

end SettingsLayer

namespace Settings

def withLayer (s : Settings) (l : SettingsLayer) : Settings where
  serverUrl := l.serverUrl.getD s.serverUrl
  catalog := l.catalog.getD s.catalog
  supportEmail := l.supportEmail.getD s.supportEmail
  translations := l.translations.or s.translations

/-- The settings of a program: those of the file over the
defaults, and those of the environment over both. -/
def load (read : ReadText) (path : String) (env : String → Option String) :
    Except SettingsError Settings := do
  let file ← SettingsLayer.ofFile read path
  .ok ((({} : Settings).withLayer file).withLayer (.ofEnvironment env))

end Settings

end MailPrefs
