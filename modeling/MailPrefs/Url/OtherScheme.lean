import MailPrefs.Url.Authority
import MailPrefs.Url.Path

namespace MailPrefs.Url

def checkVerbatimHost (host : List Char) : Except UrlError Unit :=
  match host with
  | '[' :: s => (Host.ofBrackets s).map fun _ => ()
  | _ =>
    let forbidden := ['\x00', '\t', '\n', '\r', ' ', '#', '/', ':', '<', '>', '?', '@', '[', '\\',
      ']', '^', '|']
    if host.any forbidden.contains then .error .invalidHostCharacter else .ok ()

/-- Checks what follows the scheme and two slashes. The host
may be missing, but then all else of an authority is too. -/
def checkAuthority (s : List Char) : Except UrlError Unit := do
  let authority := s.takeWhile (!Authority.isEnd false ·)
  let (userinfo, address) := (Text.splitLast? (· = '@') authority).getD ([], authority)
  let (host, port) := Authority.splitPort false address
  if authority = ['@'] && authority != s then .error .emptyHost
  checkVerbatimHost host
  if host.isEmpty && (!port.isEmpty || !(Userinfo.parse userinfo).isEmpty) then .error .emptyHost
  let _ ← Authority.parsePort (port.takeWhile (· ≠ '\\'))

def isDriveLetter (s : List Char) : Bool :=
  match s with
  | [letter, mark] => letter.isAlpha && (mark = ':' || mark = '|')
  | _ => false

def checkFile : List Char → Except UrlError Unit
  | a :: b :: s =>
    let host := s.takeWhile (!Authority.isEnd true ·)
    if isSlash a && isSlash b && !host.isEmpty && !isDriveLetter host then
      (Host.parse host).map fun _ => ()
    else .ok ()
  | _ => .ok ()

def checkOther (scheme : String) (s : List Char) : Except UrlError Unit :=
  if ["ws", "wss", "ftp"].contains scheme then
    (Authority.parse ((s.dropWhile isSlash).takeWhile (!Authority.isEnd true ·))).map fun _ => ()
  else if scheme = "file" then checkFile s
  else
    match s with
    | '/' :: '/' :: s => checkAuthority s
    | _ => .ok ()

end MailPrefs.Url
