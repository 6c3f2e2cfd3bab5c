import MailPrefs.Text.Composition
import MailPrefs.Url.Domain.Direction
import MailPrefs.Url.Domain.Joining
import MailPrefs.Url.Domain.Mapping
import MailPrefs.Url.Punycode

namespace MailPrefs.Domain

def isAscii (s : List Char) : Bool :=
  s.all (·.toNat < 0x80)

/-- The ASCII characters that no domain holds: controls, the
space, and those that separate parts of a URL. -/
def isForbidden (c : Char) : Bool :=
  c.toNat ≤ 0x20 || c.toNat = 0x7F ||
    ['%', '#', '/', ':', '<', '>', '?', '@', '[', '\\', ']', '^', '|'].contains c

def mapped? (s : List Char) : Option (List Char) := do
  let mapped := (← s.mapM map?).flatten
  some (if isAscii mapped then mapped else Text.composed mapped)

def encodedMark : List Char := ['x', 'n', '-', '-']

def maxDecodedSize : Nat := 2000

def maxEncodedSize : Nat := 1000

/-- The label that is encoded so. Only a label that has to be encoded may be, and not in place of
the one that it is mapped to. -/
def decodeLabel? (code : List Char) : Option (List Char) := do
  if maxDecodedSize < code.length then none
  let label ← Punycode.decode? code
  if isAscii label || mapped? label ≠ some label then none else some label

def readable? (label : List Char) : Option (List Char) :=
  if encodedMark.isPrefixOf label then decodeLabel? (label.drop encodedMark.length) else some label

def isValidLabel (label : List Char) : Bool :=
  !label.any isForbidden && (isAscii label || (!label.head?.any Text.isMark && joinersFit label))

def encodeLabel? (label : List Char) : Option (List Char) :=
  if isAscii label then some label
  else if maxEncodedSize < label.length then none
  else some (encodedMark ++ Punycode.encode label)

def keepDirections (labels : List (List Char)) : Bool :=
  !labels.any (·.any fun c => (Direction.of c).isRightToLeft) || labels.all keepsDirection

/-- The ASCII form of a name given in UTF-8, if it is a domain name. -/
def toAscii? (name : List UInt8) : Option (List Char) := do
  let s ← String.fromUTF8? ⟨name.toArray⟩
  let labels ← (Text.splitWhere (· = '.') (← mapped? s.toList)).mapM readable?
  if labels.all isValidLabel && keepDirections labels then
    some (['.'].intercalate (← labels.mapM encodeLabel?))
  else none

end MailPrefs.Domain
