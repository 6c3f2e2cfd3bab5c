import MailPrefs.ApiError
import MailPrefs.Json.Printer

namespace MailPrefs

inductive HttpError where
  | invalidUrl (url reason : String)
  | transport (reason : String)
  /-- The server answered with a status that is no success; the body if it is JSON. -/
  | status (code : Nat) (body : Option Json)
  | decode (reason : String)

namespace HttpError

def message : HttpError → String
  | .invalidUrl url reason => "invalid server url " ++ url ++ ": " ++ reason
  | .transport reason => "request failed: " ++ reason
  | .status code _ => "server responded with status " ++ toString code
  | .decode reason => "unexpected response body: " ++ reason

def statusCode? : HttpError → Option Nat
  | .status code _ => some code
  | _ => none

/-- The structured error in the body of an answer. -/
def apiError? : HttpError → Option ApiError
  | .status _ (some body) => (ApiError.ofJson body).toOption
  | _ => none

end HttpError

inductive OperationError where
  | fetchFailed (cause : HttpError)
  | submitFailed (errorType : Option String) (cause : HttpError)
  | taskStopped (reason : String)

namespace OperationError

def message : OperationError → String
  | .fetchFailed e => "could not retrieve notification settings: " ++ e.message
  | .submitFailed _ e => "could not update notification settings: " ++ e.message
  | .taskStopped reason => "notification settings task stopped: " ++ reason

def cause? : OperationError → Option HttpError
  | .fetchFailed e => some e
  | .submitFailed _ e => some e
  | .taskStopped _ => none

end OperationError

structure UnknownMailingList where
  key : String
deriving DecidableEq, Repr

def UnknownMailingList.message (e : UnknownMailingList) : String :=
  "mailing list " ++ Text.quoted e.key ++ " is not in the catalog"

end MailPrefs
