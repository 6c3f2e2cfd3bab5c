import MailPrefs.Text.Blank
import MailPrefs.Url.OtherScheme

namespace MailPrefs.Url

def isTabOrNewline (c : Char) : Bool :=
  c = '\t' || c = '\n' || c = '\r'

/-- A text without the controls and spaces around it, and without tabs and line breaks anywhere. -/
def clean (s : String) : List Char :=
  (Text.trimBoth (·.toNat ≤ 0x20) s.toList).filter (!isTabOrNewline ·)

def isSchemeChar (c : Char) : Bool :=
  c.isAlphanum || c = '+' || c = '-' || c = '.'

def splitScheme? (s : List Char) : Option (String × List Char) :=
  match s.dropWhile isSchemeChar with
  | ':' :: rest =>
    if s.head?.any (·.isAlpha) then
      some (String.ofList ((s.takeWhile isSchemeChar).map Char.toLower), rest)
    else none
  | _ => none

structure Tail where
  path : List Char
  query : Option (List Char)
  fragment : Option (List Char)
deriving DecidableEq, Repr

/-- The part before the first `c`, and the part after it if there is one. -/
def cutAt (c : Char) (s : List Char) : List Char × Option (List Char) :=
  match Text.splitFirst? (· = c) s with
  | some (left, right) => (left, some right)
  | none => (s, none)

def Tail.split (s : List Char) : Tail :=
  -- Behind a number sign a question mark starts no query.
  let (s, fragment) := cutAt '#' s
  let (path, query) := cutAt '?' s
  { path, query, fragment }

def parseWeb (scheme : Scheme) (s : List Char) : Except UrlError Url := do
  let s := s.dropWhile isSlash
  let authority ← Authority.parse (s.takeWhile (!Authority.isEnd true ·))
  let tail := Tail.split (s.dropWhile (!Authority.isEnd true ·))
  .ok {
    scheme
    userinfo := authority.userinfo
    host := authority.host
    port := authority.port.filter (· ≠ scheme.defaultPort)
    segments := pathSegments tail.path
    query := tail.query.map fun q => String.ofList (Percent.encode Percent.inQuery q)
    fragment := tail.fragment.map fun f => String.ofList (Percent.encode Percent.inFragment f) }

def parse (s : String) : Except UrlError Url :=
  match splitScheme? (clean s) with
  | none => .error .relative
  | some (scheme, rest) =>
    if scheme = "http" then parseWeb .http rest
    else if scheme = "https" then parseWeb .https rest
    else do
      -- What is malformed is reported before the scheme is.
      checkOther scheme rest
      .error (.unsupportedScheme scheme)

end MailPrefs.Url
