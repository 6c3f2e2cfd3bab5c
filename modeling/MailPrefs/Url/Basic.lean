import MailPrefs.Url.Ipv4
import MailPrefs.Url.Ipv6

namespace MailPrefs

inductive Host where
  | domain (name : String)
  | ipv4 (address : Ipv4)
  | ipv6 (address : Ipv6)
deriving DecidableEq, Repr

def Host.text : Host → String
  | .domain name => name
  | .ipv4 a => a.text
  | .ipv6 a => "[" ++ a.text ++ "]"

inductive Scheme where
  | http
  | https
deriving DecidableEq, Repr

namespace Scheme

def name : Scheme → String
  | .http => "http"
  | .https => "https"

def defaultPort : Scheme → Nat
  | .http => 80
  | .https => 443

end Scheme

structure Userinfo where
  username : String := ""
  password : String := ""
deriving DecidableEq, Repr

structure Url where
  scheme : Scheme
  userinfo : Userinfo := {}
  host : Host
  /-- The port if it is not the scheme's. -/
  port : Option Nat := none
  /-- What follows each slash of the path, of which there is always one. -/
  segments : List String := [""]
  query : Option String := none
  fragment : Option String := none
deriving DecidableEq, Repr

inductive UrlError where
  | relative
  | emptyHost
  | invalidPort
  | invalidIpv4
  | invalidIpv6
  | invalidDomain
  | invalidHostCharacter
  | unsupportedScheme (scheme : String)
deriving DecidableEq, Repr

def UrlError.message : UrlError → String
  | .relative => "relative URL without a base"
  | .emptyHost => "empty host"
  | .invalidPort => "invalid port number"
  | .invalidIpv4 => "invalid IPv4 address"
  | .invalidIpv6 => "invalid IPv6 address"
  | .invalidDomain => "invalid international domain name"
  | .invalidHostCharacter => "invalid domain character"
  | .unsupportedScheme scheme => "unsupported scheme " ++ scheme

namespace Url

def effectivePort (u : Url) : Nat :=
  u.port.getD u.scheme.defaultPort

def path (u : Url) : String :=
  String.join (u.segments.map ("/" ++ ·))

/-- The path and the query, which is what a server gets to see. -/
def target (u : Url) : String :=
  u.path ++ (u.query.map ("?" ++ ·)).getD ""

def authority (u : Url) : String :=
  u.host.text ++ (u.port.map fun p => ":" ++ toString p).getD ""

/-- The text of the URL without its username and password. -/
def text (u : Url) : String :=
  u.scheme.name ++ "://" ++ u.authority ++ u.target ++ (u.fragment.map ("#" ++ ·)).getD ""

end Url

end MailPrefs
