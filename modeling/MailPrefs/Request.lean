import MailPrefs.Json.Basic

namespace MailPrefs

inductive Method where
  | get
  | post
deriving DecidableEq, Repr

def Method.name : Method → String
  | .get => "GET"
  | .post => "POST"

inductive Request where
  | get (path : String)
  | post (path : String) (body : Json)

namespace Request

def path : Request → String
  | .get path => path
  | .post path _ => path

def method : Request → Method
  | .get _ => .get
  | .post _ _ => .post

def body? : Request → Option Json
  | .get _ => none
  | .post _ body => some body

end Request

end MailPrefs
