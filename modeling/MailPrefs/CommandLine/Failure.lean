import MailPrefs.Catalog
import MailPrefs.HttpError
import MailPrefs.Localizer
import MailPrefs.Settings

namespace MailPrefs

/-- What went wrong, and what that came from, the nearest cause first. -/
structure Failure where
  message : String
  causes : List String := []
deriving DecidableEq, Repr

namespace Failure

def indented (first other : String) (cause : String) : String :=
  "\n" ++ first ++ ("\n" ++ other).intercalate (cause.splitOn "\n")

def numberLabel (n : Nat) : String :=
  let digits := toString n
  String.ofList (List.replicate (5 - digits.length) ' ') ++ digits ++ ": "

/-- Several causes are numbered. -/
def causeTexts : List String → List String
  | [cause] => [indented "    " "    " cause]
  | causes => causes.zipIdx.map fun (cause, n) => indented (numberLabel n) "       " cause

def text (f : Failure) : String :=
  "Error: " ++ f.message ++
    (if f.causes.isEmpty then "" else "\n\nCaused by:" ++ String.join (causeTexts f.causes)) ++ "\n"

def ofSettings : SettingsError → Failure
  | .invalidFile path => ⟨(SettingsError.invalidFile path).message, ["TOML parse error"]⟩
  | .unreadable path e => ⟨(SettingsError.unreadable path e).message, [e.message]⟩

def ofBlankKey (e : BlankKey) : Failure :=
  ⟨"invalid mailing list catalog", [e.message]⟩

def ofServerUrl (url : String) (e : HttpError) : Failure :=
  ⟨"invalid server url '" ++ url ++ "'", [e.message]⟩

def ofTranslations : Localizer.LoadError → Failure
  | .unreadable path e => ⟨(Localizer.LoadError.unreadable path e).message, [e.message]⟩
  | .invalid => ⟨Localizer.LoadError.invalid.message, []⟩

def ofOperation (context : String) (e : OperationError) : Failure :=
  ⟨context, e.message :: e.cause?.toList.map (·.message)⟩

def ofUnknownList (e : UnknownMailingList) : Failure :=
  ⟨e.message, []⟩

end Failure

end MailPrefs
