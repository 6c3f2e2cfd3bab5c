import MailPrefs.Json.Basic
import MailPrefs.Json.Scan

namespace MailPrefs.Json

namespace Bytes

/-- Reads items up to the closing byte, the opening one
being read: at the front of `bs` stands an item. -/
def foldItems {σ : Type} (close : UInt8) (item : σ → Bytes → Except Fault (σ × Bytes)) :
    Nat → σ → Bytes → Except Fault (σ × Bytes)
  | 0, _, _ => .error .malformed
  | fuel + 1, s, bs =>
    match item s bs with
    | .error e => .error e
    | .ok (s, bs) =>
      match skipBlanks bs with
      | [] => .error .ended
      | b :: rest =>
        if b = close then .ok (s, rest)
        else if b = 0x2C then
          match skipBlanks rest with
          | [] => .error .ended
          | b :: rest =>
            if b = close then .error .malformed else foldItems close item fuel s (b :: rest)
        else .error .malformed

/-- Reads the items between an opening byte, which is read,
and the closing one. Each item takes a byte or more. -/
def foldSequence {σ : Type} (close : UInt8) (item : σ → Bytes → Except Fault (σ × Bytes)) (s : σ)
    (bs : Bytes) : Except Fault (σ × Bytes) :=
  match skipBlanks bs with
  | [] => .error .ended
  | b :: rest =>
    if b = close then .ok (s, rest) else foldItems close item (rest.length + 1) s (b :: rest)

def key (bs : Bytes) : Except Fault (String × Bytes) :=
  match skipBlanks bs with
  | [] => .error .ended
  | b :: rest => if b = 0x22 then string rest else .error .malformed

def colon (bs : Bytes) : Except Fault (Unit × Bytes) :=
  match skipBlanks bs with
  | [] => .error .ended
  | b :: rest => if b = 0x3A then .ok ((), rest) else .error .malformed

def member {α : Type} (value : Bytes → Except Fault (α × Bytes)) (bs : Bytes) :
    Except Fault ((String × α) × Bytes) := do
  let (k, bs) ← key bs
  let ((), bs) ← colon bs
  let (x, bs) ← value bs
  .ok ((k, x), bs)

def constant {α : Type} (tail : Bytes) (x : α) (bs : Bytes) : Except Fault (α × Bytes) :=
  match word tail bs with
  | .error e => .error e
  | .ok ((), rest) => .ok (x, rest)

def nullTail : Bytes := [0x75, 0x6C, 0x6C]

def trueTail : Bytes := [0x72, 0x75, 0x65]

def falseTail : Bytes := [0x61, 0x6C, 0x73, 0x65]

def startsNumber (b : UInt8) : Bool :=
  b == 0x2D || isDigit b

/-- Reads a value that nests less deep than `depth`. -/
def value : Nat → Bytes → Except Fault (Json × Bytes)
  | 0, _ => .error .malformed
  | depth + 1, bs =>
    match skipBlanks bs with
    | [] => .error .ended
    | b :: rest =>
      if b = 0x6E then constant nullTail .null rest
      else if b = 0x74 then constant trueTail (.bool true) rest
      else if b = 0x66 then constant falseTail (.bool false) rest
      else if b = 0x22 then
        match string rest with
        | .error e => .error e
        | .ok (s, rest) => .ok (.string s, rest)
      else if b = 0x5B then
        if depth = 0 then .error .malformed
        else
          match foldSequence 0x5D (item (value depth)) [] rest with
          | .error e => .error e
          | .ok (xs, rest) => .ok (.array xs.reverse, rest)
      else if b = 0x7B then
        if depth = 0 then .error .malformed
        else
          match foldSequence 0x7D (insertMember (value depth)) [] rest with
          | .error e => .error e
          | .ok (ms, rest) => .ok (.object ms, rest)
      else if startsNumber b then
        match number (b :: rest) with
        | .error e => .error e
        | .ok (n, rest) => .ok (.number n, rest)
      else .error .malformed
where
  item (value : Bytes → Except Fault (Json × Bytes)) (xs : List Json) (bs : Bytes) :
      Except Fault (List Json × Bytes) :=
    match value bs with
    | .error e => .error e
    | .ok (x, rest) => .ok (x :: xs, rest)
  insertMember (value : Bytes → Except Fault (Json × Bytes)) (ms : Members) (bs : Bytes) :
      Except Fault (Members × Bytes) :=
    match member value bs with
    | .error e => .error e
    | .ok ((k, x), rest) => .ok (ms.insert k x, rest)

def maxDepth : Nat := 128

def finish {α : Type} : Except Fault (α × Bytes) → Except Fault α
  | .error e => .error e
  | .ok (x, rest) => if (skipBlanks rest).isEmpty then .ok x else .error .malformed

/-- Reads an object with string keys and any values, an
opening brace being read, inside two brackets already. -/
def objectAt (depth : Nat) (bs : Bytes) : Except Fault (Members × Bytes) :=
  foldSequence 0x7D (value.insertMember (value depth)) [] bs

end Bytes

def parse (bs : Bytes) : Except Fault Json :=
  Bytes.finish (Bytes.value Bytes.maxDepth bs)

def parseString (s : String) : Except Fault Json :=
  parse s.toUTF8.toList

end MailPrefs.Json
