import MailPrefs.Text.Split

namespace MailPrefs.Punycode

def base : Nat := 36

def firstCode : Nat := 128

def digitChar (d : Nat) : Char :=
  if d < 26 then .ofNat (d + 'a'.toNat) else .ofNat (d - 26 + '0'.toNat)

def digit? (c : Char) : Option Nat :=
  if c.isLower then some (c.toNat - 'a'.toNat)
  else if c.isUpper then some (c.toNat - 'A'.toNat)
  else if c.isDigit then some (c.toNat - '0'.toNat + 26)
  else none

/-- A digit below the threshold of its position ends a number. -/
def threshold (bias position : Nat) : Nat :=
  min 26 (max 1 (base * (position + 1) - bias))

def shrink (delta : Nat) : Nat × Nat :=
  if delta ≤ 455 then (0, delta)
  else
    let (times, rest) := shrink (delta / 35)
    (times + 1, rest)
decreasing_by omega

/-- The bias for the number after a step, which makes it likely that few digits write it. -/
def adapt (delta size : Nat) (isFirst : Bool) : Nat :=
  let delta := if isFirst then delta / 700 else delta / 2
  let (times, rest) := shrink (delta + delta / size)
  base * times + 36 * rest / (rest + 38)

def initialBias : Nat := 72

theorem threshold_pos (bias position : Nat) : 1 ≤ threshold bias position := by
  unfold threshold
  omega

def digits (bias position n : Nat) : List Char :=
  let t := threshold bias position
  if n < t then [digitChar n]
  else digitChar (t + (n - t) % (base - t)) :: digits bias (position + 1) ((n - t) / (base - t))
termination_by n
decreasing_by
  have := threshold_pos bias position
  have := Nat.div_le_self (n - threshold bias position) (base - threshold bias position)
  omega

def isBasic (c : Char) : Bool :=
  c.toNat < firstCode

/-- What is written of a text: the steps so far, how many
characters they cover, the step under way and the next bias. -/
structure Writer where
  written : List Char := []
  handled : Nat
  delta : Nat := 0
  bias : Nat := initialBias

def Writer.pass (basics code : Nat) (w : Writer) (c : Char) : Writer :=
  if c.toNat < code then { w with delta := w.delta + 1 }
  else if c.toNat = code then
    { written := w.written ++ digits w.bias 0 w.delta
      handled := w.handled + 1
      delta := 0
      bias := adapt w.delta (w.handled + 1) (w.handled = basics) }
  else w

/-- Writes the steps to the characters with the given codes,
ascending, of which none is below the first one. -/
def writeCodes (text : List Char) (basics : Nat) : Nat → List Nat → Writer → List Char
  | _, [], w => w.written
  | reached, code :: codes, w =>
    let w := { w with delta := w.delta + (code - reached) * (w.handled + 1) }
    let w := text.foldl (Writer.pass basics code) w
    writeCodes text basics (code + 1) codes { w with delta := w.delta + 1 }

def encode (text : List Char) : List Char :=
  let basics := text.filter isBasic
  let codes := ((text.filter (!isBasic ·)).map Char.toNat).eraseDups.mergeSort
  (if basics.isEmpty then [] else basics ++ ['-']) ++
    writeCodes text basics.length firstCode codes { handled := basics.length }

structure Reader where
  text : List Char
  code : Nat := firstCode
  index : Nat := 0
  delta : Nat := 0
  position : Nat := 0
  weight : Nat := 1
  bias : Nat := initialBias
  isFirst : Bool := true

def Reader.read? (r : Reader) (c : Char) : Option Reader := do
  let d ← digit? c
  let delta := r.delta + d * r.weight
  let t := threshold r.bias r.position
  if t ≤ d then some { r with delta, position := r.position + 1, weight := r.weight * (base - t) }
  else
    -- The number is complete: it says how far the next character is from the last one put in.
    let size := r.text.length + 1
    let code := r.code + (r.index + delta) / size
    let index := (r.index + delta) % size
    if code.isValidChar then
      some {
        text := r.text.take index ++ .ofNat code :: r.text.drop index
        code
        index := index + 1
        bias := adapt delta size r.isFirst
        isFirst := false }
    else none

/-- The text that is written so, if any is. The last dash
ends the ASCII characters, of which there is one at least. -/
def decode? (s : List Char) : Option (List Char) := do
  let (basics, steps) ← match Text.splitLast? (· = '-') s with
    | some ([], _) => none
    | some parts => some parts
    | none => some ([], s)
  if !basics.all isBasic then none
  let r ← steps.foldlM Reader.read? { text := basics }
  if r.position = 0 then some r.text else none

end MailPrefs.Punycode
