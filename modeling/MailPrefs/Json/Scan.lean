import MailPrefs.Json.Number

namespace MailPrefs.Json

/-- Why a text could not be read: it ended too early, it
breaks the grammar, or it does not fit the type asked for. -/
inductive Fault where
  | ended
  | malformed
  | unfit
deriving DecidableEq, Repr

abbrev Bytes := List UInt8

namespace Bytes

def isBlank (b : UInt8) : Bool :=
  b == 0x20 || b == 0x0A || b == 0x09 || b == 0x0D

def skipBlanks (bs : Bytes) : Bytes :=
  bs.dropWhile isBlank

def isDigit (b : UInt8) : Bool :=
  0x30 ≤ b && b ≤ 0x39

def digit (b : UInt8) : Nat :=
  b.toNat - 0x30

def word : Bytes → Bytes → Except Fault (Unit × Bytes)
  | [], bs => .ok ((), bs)
  | _ :: _, [] => .error .ended
  | w :: ws, b :: bs => if b = w then word ws bs else .error .malformed

def digits : Bytes → Except Fault (List Nat × Bytes)
  | [] => .error .ended
  | b :: bs =>
    if isDigit b then .ok (((b :: bs).takeWhile isDigit).map digit, (b :: bs).dropWhile isDigit)
    else .error .malformed

/-- Reads the digits before the point: a leading zero stands alone. -/
def wholeDigits : Bytes → Except Fault (List Nat × Bytes)
  | 0x30 :: bs =>
    match bs with
    | [] => .ok ([0], [])
    | b :: rest => if isDigit b then .error .malformed else .ok ([0], b :: rest)
  | bs => digits bs

def fraction : Bytes → Except Fault (Option (List Nat) × Bytes)
  | 0x2E :: bs => do
    let (ds, rest) ← digits bs
    .ok (some ds, rest)
  | bs => .ok (none, bs)

def isExponentMark (b : UInt8) : Bool :=
  b == 0x65 || b == 0x45

def ofDigits (ds : List Nat) : Nat :=
  ds.foldl (fun n d => n * 10 + d) 0

def exponent : Bytes → Except Fault (Option Int × Bytes)
  | [] => .ok (none, [])
  | b :: bs =>
    if isExponentMark b then
      match bs with
      | 0x2D :: bs => do
        let (ds, rest) ← digits bs
        .ok (some (-(ofDigits ds : Int)), rest)
      | bs => do
        let (ds, rest) ← digits (if bs.head? = some 0x2B then bs.tail else bs)
        .ok (some (ofDigits ds), rest)
    else .ok (none, b :: bs)

def literal (bs : Bytes) : Except Fault (Number.Literal × Bytes) := do
  let negative := bs.head? = some 0x2D
  let (whole, bs) ← wholeDigits (if negative then bs.tail else bs)
  let (fraction, bs) ← fraction bs
  let (exponent, bs) ← exponent bs
  .ok (⟨negative, whole, fraction, exponent⟩, bs)

def number (bs : Bytes) : Except Fault (Number × Bytes) := do
  let (l, rest) ← literal bs
  match Number.ofLiteral? l with
  | some n => .ok (n, rest)
  | none => .error .malformed

def hexValue? (b : UInt8) : Option Nat :=
  if isDigit b then some (b.toNat - 0x30)
  else if 0x61 ≤ b && b ≤ 0x66 then some (b.toNat - 0x61 + 10)
  else if 0x41 ≤ b && b ≤ 0x46 then some (b.toNat - 0x41 + 10)
  else none

/-- Reads four hexadecimal digits; fewer than four bytes are an early end, whatever they are. -/
def hexUnit : Bytes → Except Fault (Nat × Bytes)
  | a :: b :: c :: d :: rest =>
    match hexValue? a, hexValue? b, hexValue? c, hexValue? d with
    | some a, some b, some c, some d => .ok (((a * 16 + b) * 16 + c) * 16 + d, rest)
    | _, _, _, _ => .error .malformed
  | _ => .error .ended

def isLeadingSurrogate (n : Nat) : Bool := 0xD800 ≤ n && n ≤ 0xDBFF

def isTrailingSurrogate (n : Nat) : Bool := 0xDC00 ≤ n && n ≤ 0xDFFF

def trailingUnit : Bytes → Except Fault (Nat × Bytes)
  | [] => .error .ended
  | b :: bs =>
    if b ≠ 0x5C then .error .malformed
    else
      match bs with
      | [] => .error .ended
      | b :: bs =>
        if b ≠ 0x75 then .error .malformed
        else
          match hexUnit bs with
          | .error e => .error e
          | .ok (n, rest) => if isTrailingSurrogate n then .ok (n, rest) else .error .malformed

/-- Reads what follows `\u`: one unit, or the two halves of a surrogate pair. -/
def unicodeEscape (bs : Bytes) : Except Fault (Char × Bytes) :=
  match hexUnit bs with
  | .error e => .error e
  | .ok (n, bs) =>
    if isTrailingSurrogate n then .error .malformed
    else if isLeadingSurrogate n then
      match trailingUnit bs with
      | .error e => .error e
      | .ok (m, rest) => .ok (Char.ofNat (0x10000 + (n - 0xD800) * 0x400 + (m - 0xDC00)), rest)
    else .ok (Char.ofNat n, bs)

theorem hexUnit_length {bs rest : Bytes} {n : Nat} (h : hexUnit bs = .ok (n, rest)) :
    rest.length < bs.length := by
  unfold hexUnit at h
  split at h
  · split at h
    · injection h with h
      injection h with _ h
      subst h
      simp only [List.length_cons]
      omega
    · contradiction
  · contradiction

theorem trailingUnit_length {bs rest : Bytes} {n : Nat} (h : trailingUnit bs = .ok (n, rest)) :
    rest.length < bs.length := by
  unfold trailingUnit at h
  split at h
  · contradiction
  · split at h
    · contradiction
    · split at h
      · contradiction
      · split at h
        · contradiction
        · split at h
          · contradiction
          · rename_i hu
            split at h
            · injection h with h
              injection h with _ h
              subst h
              have := hexUnit_length hu
              simp only [List.length_cons]
              omega
            · contradiction

theorem unicodeEscape_length {bs rest : Bytes} {c : Char} (h : unicodeEscape bs = .ok (c, rest)) :
    rest.length < bs.length := by
  unfold unicodeEscape at h
  split at h
  · contradiction
  · rename_i hu
    have := hexUnit_length hu
    split at h
    · contradiction
    · split at h
      · split at h
        · contradiction
        · rename_i ht
          have := trailingUnit_length ht
          injection h with h
          injection h with _ h
          subst h
          omega
      · injection h with h
        injection h with _ h
        subst h
        assumption

def simpleEscape? (b : UInt8) : Option Char :=
  if b = 0x22 then some '"'
  else if b = 0x5C then some '\\'
  else if b = 0x2F then some '/'
  else if b = 0x62 then some '\x08'
  else if b = 0x66 then some '\x0c'
  else if b = 0x6E then some '\n'
  else if b = 0x72 then some '\r'
  else if b = 0x74 then some '\t'
  else none

def prepend (front : Bytes) : Except Fault (Bytes × Bytes) → Except Fault (Bytes × Bytes)
  | .ok (content, rest) => .ok (front ++ content, rest)
  | .error e => .error e

def stringContent (bs : Bytes) : Except Fault (Bytes × Bytes) :=
  match bs with
  | [] => .error .ended
  | b :: bs =>
    if b = 0x22 then .ok ([], bs)
    else if b = 0x5C then
      match bs with
      | [] => .error .ended
      | e :: bs =>
        if e = 0x75 then
          match _h : unicodeEscape bs with
          | .error f => .error f
          | .ok (c, rest) => prepend (String.utf8EncodeChar c) (stringContent rest)
        else
          match simpleEscape? e with
          | some c => prepend (String.utf8EncodeChar c) (stringContent bs)
          | none => .error .malformed
    else if b < 0x20 then .error .malformed
    else prepend [b] (stringContent bs)
termination_by bs.length
decreasing_by
  · have := unicodeEscape_length _h
    simp only [List.length_cons]
    omega
  · simp only [List.length_cons]
    omega
  · simp only [List.length_cons]
    omega

/-- Reads a string after its opening quote; the content has to be UTF-8. -/
def string (bs : Bytes) : Except Fault (String × Bytes) :=
  match stringContent bs with
  | .error e => .error e
  | .ok (content, rest) =>
    match String.fromUTF8? ⟨content.toArray⟩ with
    | some s => .ok (s, rest)
    | none => .error .malformed

end Bytes

end MailPrefs.Json
