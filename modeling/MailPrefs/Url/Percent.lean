import MailPrefs.Text.Digits

namespace MailPrefs.Percent

/-- The printable ASCII characters that a fragment holds
only encoded; so for the other parts of a URL. -/
def inFragment : List Char := [' ', '"', '<', '>', '\x60']

def inQuery : List Char := [' ', '"', '#', '<', '>', '\'']

def inPath : List Char := [' ', '"', '#', '<', '>', '?', '\x60', '\x7b', '\x7d']

def inUserinfo : List Char := inPath ++ ['/', ':', ';', '=', '@', '[', '\\', ']', '^', '|']

def upperDigit (n : Nat) : Char :=
  (Nat.digitChar n).toUpper

def encodeByte (b : UInt8) : List Char :=
  ['%', upperDigit (b.toNat / 16), upperDigit (b.toNat % 16)]

def encodeChar (special : List Char) (c : Char) : List Char :=
  if 0x20 ≤ c.toNat && c.toNat < 0x7F && !special.contains c then [c]
  else (String.utf8EncodeChar c).flatMap encodeByte

def encode (special s : List Char) : List Char :=
  s.flatMap (encodeChar special)

/-- The bytes of a text whose encoded bytes count as what they
stand for; a `%` without two digits stands for itself. -/
def decode : List Char → List UInt8
  | [] => []
  | '%' :: a :: b :: rest =>
    match Text.hexDigit? a, Text.hexDigit? b with
    | some high, some low => UInt8.ofNat (16 * high + low) :: decode rest
    | _, _ => '%'.toUInt8 :: decode (a :: b :: rest)
  | c :: rest => String.utf8EncodeChar c ++ decode rest

end MailPrefs.Percent
