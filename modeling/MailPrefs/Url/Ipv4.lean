import MailPrefs.Text.Digits
import MailPrefs.Text.Split

namespace MailPrefs

structure Ipv4 where
  address : UInt32
deriving DecidableEq, Repr

namespace Ipv4

/-- A number: hexadecimal after `0x`, octal after `0`, else
decimal. The digits after `0x` may be missing. -/
def number? : List Char → Option Nat
  | [] => none
  | '0' :: 'x' :: digits => Text.number? 16 digits
  | '0' :: 'X' :: digits => Text.number? 16 digits
  | '0' :: c :: digits => Text.number? 8 (c :: digits)
  | digits => Text.number? 10 digits

def parts (name : List Char) : List (List Char) :=
  match (Text.splitWhere (· = '.') name).reverse with
  | [] :: others => others.reverse
  | all => all.reverse

/-- A host is meant as an IPv4 address if its last part is a number or all digits. -/
def isMeant (name : List Char) : Bool :=
  match (parts name).getLast? with
  | none => false
  | some last => (!last.isEmpty && last.all (·.isDigit)) || (number? last).isSome

def ofNumbers? (numbers : List Nat) : Option Ipv4 := do
  let last ← numbers.getLast?
  let bytes := numbers.dropLast
  let room := Nat.pow 256 (4 - bytes.length)
  if bytes.length < 4 ∧ (∀ b ∈ bytes, b < 256) ∧ last < room then
    some ⟨.ofNat (bytes.foldl (fun n b => n * 256 + b) 0 * room + last)⟩
  else none

def parse? (name : List Char) : Option Ipv4 := do
  ofNumbers? (← (parts name).mapM number?)

def bytes (a : Ipv4) : List Nat :=
  [0x1000000, 0x10000, 0x100, 1].map fun unit => a.address.toNat / unit % 256

def text (a : Ipv4) : String :=
  ".".intercalate (a.bytes.map toString)

end Ipv4

end MailPrefs
