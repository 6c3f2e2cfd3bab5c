import MailPrefs.Http
import MailPrefs.HttpError
import MailPrefs.Json.Parser
import MailPrefs.Url.Parser

namespace MailPrefs

/-- A client of the server at a URL, given without slashes at its end. -/
structure Client where
  serverUrl : String
deriving DecidableEq, Repr

namespace Client

def ofUrl (url : String) : Except HttpError Client :=
  match Url.parse url with
  | .error e => .error (.invalidUrl url e.message)
  | .ok _ => .ok ⟨String.ofList (Text.trimEnd (· = '/') url.toList)⟩

def endpoint (c : Client) (path : String) : String :=
  c.serverUrl ++ path

def maxUrlSize : Nat := 65534

/-- Characters that a domain may hold, but not the line in which a request names its host. -/
def unsendable : List Char := ['"', '\x60', '\x7b', '\x7d']

def isSendable (u : Url) : Bool :=
  u.text.utf8ByteSize ≤ maxUrlSize && !u.authority.toList.any unsendable.contains

def address (c : Client) (path : String) : Except HttpError Url :=
  match Url.parse (c.endpoint path) with
  | .error _ => .error (.transport "builder error")
  | .ok url =>
    if isSendable url then .ok url
    else .error (.transport ("builder error for url (" ++ url.text ++ ")"))

def bodyJson? (r : HttpResponse) : Option Json := do
  (Json.parse (← r.body?)).toOption

/-- What a response means. Of a success only a read looks at the body. -/
def classify (method : Method) (response : HttpResponse) : Except HttpError Json :=
  if !response.isSuccess then .error (.status response.status (bodyJson? response))
  else
    match method with
    | .post => .ok .null
    | .get => (bodyJson? response).elim (.error (.decode "error decoding response body")) .ok

def answer (method : Method) (url : Url) : Option HttpResponse → Except HttpError Json
  | none => .error (.transport ("error sending request for url (" ++ url.text ++ ")"))
  | some response => classify method response

/-- The answer to a request for a path, given what comes back if it is sent. -/
def exchange (c : Client) (method : Method) (path : String) (response : Option HttpResponse) :
    Except HttpError Json := do
  answer method (← c.address path) response

def sent? (c : Client) (r : Request) : Option HttpRequest :=
  (c.address r.path).toOption.map (⟨·, r⟩)

end Client

end MailPrefs
