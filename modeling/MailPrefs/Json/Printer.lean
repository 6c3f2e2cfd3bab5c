import MailPrefs.Json.Basic

namespace MailPrefs.Json

def hexDigit (n : Nat) : Char :=
  Nat.digitChar (n % 16)

/-- How one character stands inside a JSON string. -/
def escape (c : Char) : List Char :=
  if c = '"' then ['\\', '"']
  else if c = '\\' then ['\\', '\\']
  else if c = '\x08' then ['\\', 'b']
  else if c = '\t' then ['\\', 't']
  else if c = '\n' then ['\\', 'n']
  else if c = '\x0c' then ['\\', 'f']
  else if c = '\r' then ['\\', 'r']
  else if c.toNat < 0x20 then ['\\', 'u', '0', '0', hexDigit (c.toNat / 16), hexDigit c.toNat]
  else [c]

def printString (s : String) : List Char :=
  '"' :: s.toList.flatMap escape ++ ['"']

mutual

def print : Json → List Char
  | .null => ['n', 'u', 'l', 'l']
  | .bool true => ['t', 'r', 'u', 'e']
  | .bool false => ['f', 'a', 'l', 's', 'e']
  | .number n => n.text
  | .string s => printString s
  | .array xs => '[' :: printItems xs ++ [']']
  | .object ms => '\x7b' :: printMembers ms ++ ['\x7d']

def printItems : List Json → List Char
  | [] => []
  | [x] => x.print
  | x :: xs => x.print ++ ',' :: printItems xs

def printMembers : List (String × Json) → List Char
  | [] => []
  | [(k, x)] => printString k ++ ':' :: x.print
  | (k, x) :: ms => printString k ++ ':' :: x.print ++ ',' :: printMembers ms

end

def compact (x : Json) : String :=
  String.ofList x.print

end MailPrefs.Json
