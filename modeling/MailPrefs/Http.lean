import MailPrefs.Json.Printer
import MailPrefs.Request
import MailPrefs.Url.Basic

namespace MailPrefs

structure HttpRequest where
  url : Url
  request : Request

namespace HttpRequest

def mediaType : String := "application/json"

/-- A body is JSON, and every answer should be. -/
def contentType? (r : HttpRequest) : Option String :=
  r.request.body?.map fun _ => mediaType

def body (r : HttpRequest) : String :=
  (r.request.body?.map Json.compact).getD ""

end HttpRequest

structure HttpResponse where
  status : Nat
  payload : Option (List UInt8)

namespace HttpResponse

def isSuccess (r : HttpResponse) : Bool :=
  200 ≤ r.status && r.status < 300

/-- The body, which is always empty for two statuses. -/
def body? (r : HttpResponse) : Option (List UInt8) :=
  if r.status = 204 || r.status = 304 then some [] else r.payload

end HttpResponse

end MailPrefs
