namespace MailPrefs

inductive MessageClass where
  | info
  | success
  | danger
deriving DecidableEq, Repr

namespace MessageClass

def name : MessageClass → String
  | .info => "info"
  | .success => "success"
  | .danger => "danger"

def cssClass (c : MessageClass) : String :=
  "text-" ++ c.name

end MessageClass

structure StatusMessage where
  text : String := ""
  messageClass : MessageClass := .info
deriving DecidableEq, Repr

def StatusMessage.isEmpty (m : StatusMessage) : Bool :=
  m.text.isEmpty

/-- How long the message of an outcome stays, in milliseconds. -/
def outcomeTimeout : Nat := 5000

end MailPrefs
