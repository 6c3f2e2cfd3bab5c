import MailPrefs.Template

namespace MailPrefs.Template

abbrev Bytes := List UInt8

/-- An offset at which a text can be cut: its end, or the first byte of one of its characters. -/
def isBoundary (bs : Bytes) (i : Nat) : Bool :=
  match bs[i]? with
  | some b => b.IsUTF8FirstByte
  | none => i = bs.length

/-- The bytes between two offsets, if the text can be cut at both of them. -/
def slice? (bs : Bytes) (i j : Nat) : Option Bytes :=
  if i ≤ j ∧ isBoundary bs i ∧ isBoundary bs j then some ((bs.take j).drop i) else none

theorem length_slice?_le {bs part : Bytes} {i j : Nat} (h : slice? bs i j = some part) :
    part.length ≤ bs.length - i := by
  rw [slice?] at h
  split at h
  · injection h with h
    subst h
    simp only [List.length_drop, List.length_take]
    omega
  · contradiction

def add? (a b : UInt64) : Option UInt64 :=
  if a.toNat + b.toNat < UInt64.size then some (a + b) else none

def mul? (a b : UInt64) : Option UInt64 :=
  if a.toNat * b.toNat < UInt64.size then some (a * b) else none

def sub? (a b : UInt64) : Option UInt64 :=
  if b ≤ a then some (a - b) else none

def isDigitByte (b : UInt8) : Bool :=
  0x30 ≤ b && b ≤ 0x39

def pushDigitByte? (n : UInt64) (d : UInt8) : Option UInt64 := do
  add? (← mul? n 10) (d - 0x30).toUInt64

def word? (digits : Bytes) : Option UInt64 :=
  digits.foldlM pushDigitByte? 0

def index? (digits : Bytes) : Option UInt64 := do
  sub? (← word? digits) 1

structure Cursor where
  written : Bytes := []
  seen : Nat := 0
  rest : Bytes
deriving DecidableEq, Repr

inductive Turn where
  | goOn (c : Cursor)
  | finish (text : Bytes)
deriving DecidableEq, Repr

namespace Cursor

def start (template : String) : Cursor where
  rest := template.toUTF8.toList

def percent (c : Cursor) (rest : Bytes) : Cursor :=
  { c with written := c.written ++ [0x25], rest }

/-- Writes an argument, or the place for one as it stands in the template. -/
def fill (c : Cursor) (argument : Option String) (place rest : Bytes) : Cursor :=
  { c with written := c.written ++ argument.elim place (·.toUTF8.toList), rest }

/-- Reads a numbered place, if the percent sign at this offset and what follows it are one. -/
def numbered? (args : List String) (c : Cursor) (pos : Nat) (directive : Bytes) : Option Cursor :=
  let size := (directive.takeWhile isDigitByte).length
  if size = 0 then some (c.percent directive)
  else do
    let behind ← slice? directive size directive.length
    if [0x24, 0x73] <+: behind then do
      let place ← slice? c.rest pos (pos + 1 + size + 2)
      let digits ← slice? directive 0 size
      let rest ← slice? directive (size + 2) directive.length
      some (c.fill ((index? digits).bind (args[·.toNat]?)) place rest)
    else some (c.percent directive)

def follow? (args : List String) (c : Cursor) (pos : Nat) (directive : Bytes) : Option Cursor :=
  match directive with
  | 0x25 :: rest => some (c.percent rest)
  | 0x73 :: rest => some { c.fill args[c.seen]? [0x25, 0x73] rest with seen := c.seen + 1 }
  | directive => c.numbered? args pos directive

/-- Reads up to the first percent sign and what follows it. -/
def turn? (args : List String) (c : Cursor) : Option Turn :=
  match c.rest.idxOf? 0x25 with
  | none => some (.finish (c.written ++ c.rest))
  | some pos => do
    let front ← slice? c.rest 0 pos
    let directive ← slice? c.rest (pos + 1) c.rest.length
    ({ c with written := c.written ++ front }.follow? args pos directive).map .goOn

variable {args : List String} {c c' : Cursor} {pos : Nat} {directive : Bytes}

theorem numbered?_length_le (h : c.numbered? args pos directive = some c') :
    c'.rest.length ≤ directive.length := by
  rw [numbered?] at h
  split at h
  · injection h with h
    subst h
    exact Nat.le_refl _
  · obtain ⟨behind, _, h⟩ := Option.bind_eq_some_iff.mp h
    split at h
    · obtain ⟨place, _, h⟩ := Option.bind_eq_some_iff.mp h
      obtain ⟨digits, _, h⟩ := Option.bind_eq_some_iff.mp h
      obtain ⟨rest, hrest, h⟩ := Option.bind_eq_some_iff.mp h
      injection h with h
      subst h
      exact Nat.le_trans (length_slice?_le hrest) (Nat.sub_le _ _)
    · injection h with h
      subst h
      exact Nat.le_refl _

theorem follow?_length_le (h : c.follow? args pos directive = some c') :
    c'.rest.length ≤ directive.length := by
  rw [follow?.eq_def] at h
  split at h
  · injection h with h
    subst h
    exact Nat.le_succ _
  · injection h with h
    subst h
    exact Nat.le_succ _
  · exact numbered?_length_le h

theorem turn?_length_lt (h : c.turn? args = some (.goOn c')) : c'.rest.length < c.rest.length := by
  rw [turn?] at h
  split at h
  · cases h
  · next pos hpos =>
    obtain ⟨front, _, h⟩ := Option.bind_eq_some_iff.mp h
    obtain ⟨directive, hdirective, h⟩ := Option.bind_eq_some_iff.mp h
    obtain ⟨c'', hc, h⟩ := Option.map_eq_some_iff.mp h
    injection h with h
    subst h
    have hlt : pos < c.rest.length := (List.idxOf?_eq_some_iff.mp hpos).1
    have hle : directive.length ≤ c.rest.length - (pos + 1) := length_slice?_le hdirective
    have hle' : c''.rest.length ≤ directive.length := follow?_length_le hc
    omega

def pass? (args : List String) (c : Cursor) : Option Bytes :=
  match _h : c.turn? args with
  | none => none
  | some (.finish text) => some text
  | some (.goOn c') => c'.pass? args
termination_by c.rest.length
decreasing_by exact turn?_length_lt _h

end Cursor

end MailPrefs.Template
