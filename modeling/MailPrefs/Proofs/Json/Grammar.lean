import MailPrefs.Json.Parser
import MailPrefs.Proofs.Json.Strings

namespace MailPrefs.Json

namespace Grammar

open Bytes

def Blanks (bs : Bytes) : Prop :=
  ∀ b ∈ bs, isBlank b = true

structure Digits (bs : Bytes) : Prop where
  ne_nil : bs ≠ []
  isDigit : ∀ b ∈ bs, isDigit b = true

inductive Whole : Bytes → Prop where
  | zero : Whole [0x30]
  | digits {bs : Bytes} : Digits bs → bs.head? ≠ some 0x30 → Whole bs

inductive Fraction : Bytes → Option (List Nat) → Prop where
  | absent : Fraction [] none
  | present {ds : Bytes} : Digits ds → Fraction (0x2E :: ds) (some (List.map digit ds))

inductive Exponent : Bytes → Option Int → Prop where
  | absent : Exponent [] none
  | unsigned {e : UInt8} {ds : Bytes} : isExponentMark e = true → Digits ds →
      Exponent (e :: ds) (some (ofDigits (List.map digit ds)))
  | plus {e : UInt8} {ds : Bytes} : isExponentMark e = true → Digits ds →
      Exponent (e :: 0x2B :: ds) (some (ofDigits (List.map digit ds)))
  | minus {e : UInt8} {ds : Bytes} : isExponentMark e = true → Digits ds →
      Exponent (e :: 0x2D :: ds) (some (-(ofDigits (List.map digit ds) : Int)))

/-- The text of a number after its sign. -/
inductive Magnitude (negative : Bool) : Bytes → Number.Literal → Prop where
  | mk {w f e : Bytes} {fraction : Option (List Nat)} {exponent : Option Int} :
      Whole w → Fraction f fraction → Exponent e exponent →
        Magnitude negative (w ++ (f ++ e)) ⟨negative, List.map digit w, fraction, exponent⟩

inductive Numeral : Bytes → Number.Literal → Prop where
  | unsigned {bs : Bytes} {l : Number.Literal} : Magnitude false bs l → Numeral bs l
  | negative {bs : Bytes} {l : Number.Literal} : Magnitude true bs l → Numeral (0x2D :: bs) l

inductive Hex : Bytes → Nat → Prop where
  | mk {a b c d : UInt8} {i j k l : Nat} : hexValue? a = some i → hexValue? b = some j →
      hexValue? c = some k → hexValue? d = some l →
        Hex [a, b, c, d] (((i * 16 + j) * 16 + k) * 16 + l)

/-- The digits of an escaped character: those of one unit, or of a surrogate pair. -/
inductive Unicode : Bytes → Char → Prop where
  | single {h : Bytes} {n : Nat} : Hex h n → isLeadingSurrogate n = false →
      isTrailingSurrogate n = false → Unicode h (Char.ofNat n)
  | pair {h h' : Bytes} {n m : Nat} : Hex h n → Hex h' m → isLeadingSurrogate n = true →
      isTrailingSurrogate m = true →
        Unicode (h ++ 0x5C :: 0x75 :: h')
          (Char.ofNat (0x10000 + (n - 0xD800) * 0x400 + (m - 0xDC00)))

/-- What stands between the quotes of a string, and the bytes that it stands for. -/
inductive Content : Bytes → Bytes → Prop where
  | nil : Content [] []
  | plain {b : UInt8} {bs content : Bytes} : Plain b → Content bs content →
      Content (b :: bs) (b :: content)
  | simple {e : UInt8} {c : Char} {bs content : Bytes} : simpleEscape? e = some c →
      Content bs content → Content (0x5C :: e :: bs) (String.utf8EncodeChar c ++ content)
  | unicode {h : Bytes} {c : Char} {bs content : Bytes} : Unicode h c → Content bs content →
      Content (0x5C :: 0x75 :: (h ++ bs)) (String.utf8EncodeChar c ++ content)

inductive Quoted : Bytes → String → Prop where
  | mk {bs : Bytes} {s : String} : Content bs (utf8 s.toList) → Quoted (0x22 :: (bs ++ [0x22])) s

/-- The text of a value without parts. A number past the greatest double has none. -/
inductive Scalar : Bytes → Json → Prop where
  | null : Scalar (0x6E :: nullTail) .null
  | true : Scalar (0x74 :: trueTail) (.bool true)
  | false : Scalar (0x66 :: falseTail) (.bool false)
  | string {bs : Bytes} {s : String} : Quoted bs s → Scalar bs (.string s)
  | number {bs : Bytes} {l : Number.Literal} {n : Number} : Numeral bs l →
      Number.ofLiteral? l = some n → Scalar bs (.number n)

section Parts

variable {α : Type} (part : Bytes → α → Prop)

inductive Spaced : Bytes → α → Prop where
  | mk {w bs w' : Bytes} {x : α} : Blanks w → part bs x → Blanks w' → Spaced (w ++ (bs ++ w')) x

inductive Listed : Bytes → List α → Prop where
  | one {bs : Bytes} {x : α} : Spaced part bs x → Listed bs [x]
  | more {bs bs' : Bytes} {x : α} {xs : List α} : Spaced part bs x → Listed bs' xs →
      Listed (bs ++ 0x2C :: bs') (x :: xs)

inductive Sequence : Bytes → List α → Prop where
  | empty {bs : Bytes} : Blanks bs → Sequence bs []
  | items {bs : Bytes} {xs : List α} : Listed part bs xs → Sequence bs xs

inductive Member : Bytes → String × α → Prop where
  | mk {k w w' bs : Bytes} {key : String} {x : α} : Quoted k key → Blanks w → Blanks w' →
      part bs x → Member (k ++ (w ++ 0x3A :: (w' ++ bs))) (key, x)

end Parts

/-- A repeated key keeps its first place and takes its last value. -/
def merge (ms : Members) : Members :=
  ms.foldl (fun found m => Members.insert m.1 m.2 found) []

inductive Bracketed (part : Bytes → Json → Prop) : Bytes → Json → Prop where
  | array {bs : Bytes} {xs : List Json} : Sequence part bs xs →
      Bracketed part (0x5B :: (bs ++ [0x5D])) (.array xs)
  | object {bs : Bytes} {ms : Members} : Sequence (Member part) bs ms →
      Bracketed part (0x7B :: (bs ++ [0x7D])) (.object (merge ms))

/-- The text of a value in which at most so many brackets are open at once. -/
def Nested : Nat → Bytes → Json → Prop
  | 0, bs, x => Scalar bs x
  | levels + 1, bs, x => Scalar bs x ∨ Bracketed (Nested levels) bs x

def maxLevels : Nat := 127

end Grammar

def Denotes (bs : Bytes) (x : Json) : Prop :=
  Grammar.Spaced (Grammar.Nested Grammar.maxLevels) bs x

end MailPrefs.Json
