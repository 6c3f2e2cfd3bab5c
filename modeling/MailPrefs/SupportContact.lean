namespace MailPrefs

inductive SupportContact where
  /-- An anchor that opens a mail, for views with markup. -/
  | mailto (address : String)
  | plain (address : String)
deriving DecidableEq, Repr

namespace SupportContact

def defaultAddress : String := "support@osf.io"

def default : SupportContact := .mailto defaultAddress

def link : SupportContact → String
  | .mailto address => "<a href=\"mailto:" ++ address ++ "\">" ++ address ++ "</a>"
  | .plain address => address

end SupportContact

end MailPrefs
