import MailPrefs.Json.Parser

namespace MailPrefs.Json.Bytes

def skipString : Bytes → Except Fault Bytes
  | [] => .error .ended
  | b :: bs =>
    if b = 0x22 then .ok bs
    else if b = 0x5C then
      match bs with
      | [] => .error .ended
      | e :: bs =>
        if e = 0x75 then
          match bs with
          | h₁ :: h₂ :: h₃ :: h₄ :: bs =>
            if [h₁, h₂, h₃, h₄].all (hexValue? · |>.isSome) then skipString bs
            else .error .malformed
          | _ => .error .ended
        else if (simpleEscape? e).isSome then skipString bs
        else .error .malformed
    else if b < 0x20 then .error .malformed
    else skipString bs

def skipDigits (bs : Bytes) : Except Fault Bytes :=
  match bs with
  | [] => .error .malformed
  | b :: rest => if isDigit b then .ok (rest.dropWhile isDigit) else .error .malformed

def skipExponent (bs : Bytes) : Except Fault Bytes :=
  match bs with
  | [] => .ok []
  | b :: rest =>
    if isExponentMark b then
      match rest with
      | [] => .error .malformed
      | s :: digits => skipDigits (if s = 0x2B || s = 0x2D then digits else s :: digits)
    else .ok (b :: rest)

def skipFraction (bs : Bytes) : Except Fault Bytes :=
  match bs with
  | 0x2E :: rest => skipDigits rest
  | bs => .ok bs

def skipWhole (bs : Bytes) : Except Fault Bytes :=
  match bs with
  | 0x30 :: b :: rest => if isDigit b then .error .malformed else .ok (b :: rest)
  | bs => skipDigits bs

def skipNumber (bs : Bytes) : Except Fault Bytes := do
  let bs ← skipWhole (if bs.head? = some 0x2D then bs.tail else bs)
  let bs ← skipFraction bs
  skipExponent bs

def unitResult : Except Fault Bytes → Except Fault (Unit × Bytes)
  | .error e => .error e
  | .ok bs => .ok ((), bs)

/-- Skips a value; each level of nesting takes a byte, so that many are enough. -/
def skipValue : Nat → Bytes → Except Fault (Unit × Bytes)
  | 0, _ => .error .malformed
  | levels + 1, bs =>
    match skipBlanks bs with
    | [] => .error .ended
    | b :: rest =>
      if b = 0x6E then constant nullTail () rest
      else if b = 0x74 then constant trueTail () rest
      else if b = 0x66 then constant falseTail () rest
      else if b = 0x22 then unitResult (skipString rest)
      else if b = 0x5B then foldSequence 0x5D (fun () bs => skipValue levels bs) () rest
      else if b = 0x7B then
        foldSequence 0x7D (fun () bs => skipMember (skipValue levels) bs) () rest
      else if startsNumber b then unitResult (skipNumber (b :: rest))
      else .error .malformed
where
  skipMember (skip : Bytes → Except Fault (Unit × Bytes)) (bs : Bytes) :
      Except Fault (Unit × Bytes) :=
    match skipBlanks bs with
    | [] => .error .ended
    | b :: rest =>
      if b = 0x22 then do
        let rest ← skipString rest
        let ((), rest) ← colon rest
        skip rest
      else .error .malformed

def skip (bs : Bytes) : Except Fault (Unit × Bytes) :=
  skipValue (bs.length + 1) bs

/-- What is wrong with a text at whose front no value of the
wanted kind stands: a scalar has to be well formed to be unfit. -/
def unfit (bs : Bytes) : Fault :=
  match bs with
  | [] => .ended
  | b :: rest =>
    if b = 0x6E then judge (word nullTail rest)
    else if b = 0x74 then judge (word trueTail rest)
    else if b = 0x66 then judge (word falseTail rest)
    else if b = 0x22 then judge (string rest)
    else if b = 0x5B || b = 0x7B then .unfit
    else if startsNumber b then judge (number (b :: rest))
    else .malformed
where
  judge {α : Type} : Except Fault α → Fault
    | .error e => e
    | .ok _ => .unfit

def text (bs : Bytes) : Except Fault (String × Bytes) :=
  match skipBlanks bs with
  | [] => .error .ended
  | b :: rest => if b = 0x22 then string rest else .error (unfit (b :: rest))

def optional {α : Type} (read : Bytes → Except Fault (α × Bytes)) (bs : Bytes) :
    Except Fault (Option α × Bytes) :=
  match skipBlanks bs with
  | [] => .error .ended
  | b :: rest =>
    if b = 0x6E then constant nullTail none rest
    else
      match read (b :: rest) with
      | .error e => .error e
      | .ok (x, rest) => .ok (some x, rest)

def map (depth : Nat) (bs : Bytes) : Except Fault (Members × Bytes) :=
  match skipBlanks bs with
  | [] => .error .ended
  | b :: rest => if b = 0x7B then objectAt depth rest else .error (unfit (b :: rest))

/-- The next element of a list of fields by position: none
where the list closes, which is left to be read. -/
def nextElement {α : Type} (isFirst : Bool) (read : Bytes → Except Fault (α × Bytes)) (bs : Bytes) :
    Except Fault (Option α × Bytes) :=
  match skipBlanks bs with
  | [] => .error .ended
  | b :: rest =>
    if b = 0x5D then .ok (none, b :: rest)
    else if isFirst then found (read (b :: rest))
    else if b = 0x2C then
      match skipBlanks rest with
      | [] => .error .ended
      | b :: rest => if b = 0x5D then .error .malformed else found (read (b :: rest))
    else .error .malformed
where
  found : Except Fault (α × Bytes) → Except Fault (Option α × Bytes)
    | .error e => .error e
    | .ok (x, rest) => .ok (some x, rest)

/-- Closes a list of fields by position; more elements than fields are malformed. -/
def closeList (bs : Bytes) : Except Fault (Unit × Bytes) :=
  match skipBlanks bs with
  | [] => .error .ended
  | b :: rest => if b = 0x5D then .ok ((), rest) else .error .malformed

end MailPrefs.Json.Bytes
