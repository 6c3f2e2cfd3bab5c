import MailPrefs.Url.Basic
import MailPrefs.Url.Domain
import MailPrefs.Url.Percent

namespace MailPrefs

def Host.ofBrackets (s : List Char) : Except UrlError Host :=
  match s.reverse with
  | ']' :: inner => (Ipv6.parse? inner.reverse).elim (.error .invalidIpv6) (.ok <| .ipv6 ·)
  | _ => .error .invalidIpv6

def Host.parse : List Char → Except UrlError Host
  | '[' :: s => Host.ofBrackets s
  | s =>
    match Domain.toAscii? (Percent.decode s) with
    | none => .error .invalidDomain
    | some [] => .error .emptyHost
    | some name =>
      if Ipv4.isMeant name then (Ipv4.parse? name).elim (.error .invalidIpv4) (.ok <| .ipv4 ·)
      else .ok (.domain (String.ofList name))

namespace Userinfo

def isEmpty (u : Userinfo) : Bool :=
  u.username.isEmpty && u.password.isEmpty

def parse (s : List Char) : Userinfo :=
  let (username, password) := (Text.splitFirst? (· = ':') s).getD (s, [])
  ⟨String.ofList (Percent.encode Percent.inUserinfo username),
    String.ofList (Percent.encode Percent.inUserinfo password)⟩

end Userinfo

structure Authority where
  userinfo : Userinfo
  host : Host
  port : Option Nat
deriving DecidableEq, Repr

namespace Authority

/-- Whether a character ends an authority; a backslash does
in a scheme that takes it for a slash. -/
def isEnd (backslash : Bool) (c : Char) : Bool :=
  c = '/' || c = '?' || c = '#' || (backslash && c = '\\')

def splitPort (inBrackets : Bool) : List Char → List Char × List Char
  | [] => ([], [])
  | c :: cs =>
    if c = ':' && !inBrackets then ([], c :: cs)
    else
      let (host, port) :=
        splitPort (if c = '[' then true else if c = ']' then false else inBrackets) cs
      (c :: host, port)

/-- Reads a port after its colon. The digits may be missing, or the colon too. -/
def parsePort : List Char → Except UrlError (Option Nat)
  | [] | [_] => .ok none
  | _ :: digits =>
    match (Text.number? 10 digits).filter (· < 65536) with
    | some n => .ok (some n)
    | none => .error .invalidPort

/-- The username and password end at the last `@`. -/
def parse (s : List Char) : Except UrlError Authority := do
  let (userinfo, s) := (Text.splitLast? (· = '@') s).getD ([], s)
  let (host, port) := splitPort false s
  .ok ⟨.parse userinfo, ← Host.parse host, ← parsePort port⟩

end Authority

end MailPrefs
