import MailPrefs.Text.Digits

namespace MailPrefs.Toml

inductive Value where
  | text (value : String)
  | list (items : List String)
deriving DecidableEq, Repr

abbrev Document := List (String × Value)

def isSpace (c : Char) : Bool := c = ' ' || c = '\t'

def skipSpaces (cs : List Char) : List Char :=
  cs.dropWhile isSpace

/-- Characters that stand for themselves on a line: all but controls, tabs being allowed. -/
def isPlain (c : Char) : Bool :=
  c = '\t' || (0x20 ≤ c.toNat && c.toNat ≠ 0x7F)

def newline? : List Char → Option (List Char)
  | '\n' :: cs => some cs
  | '\r' :: '\n' :: cs => some cs
  | _ => none

def skipComment : List Char → List Char
  | '#' :: cs => cs.dropWhile isPlain
  | cs => cs

/-- Ends a line: blanks, a comment, and a line break or the end. -/
def endLine? (cs : List Char) : Option (List Char) :=
  match skipComment (skipSpaces cs) with
  | [] => some []
  | cs => newline? cs

def skipLines : Nat → List Char → List Char
  | 0, cs => cs
  | fuel + 1, cs =>
    let rest := skipComment (skipSpaces cs)
    match newline? rest with
    | some rest => skipLines fuel rest
    | none => rest

def scalar? (digits : List Char) : Option Char := do
  let n ← Text.number? 16 digits
  if n.isValidChar then some (Char.ofNat n) else none

def escape? : List Char → Option (Char × List Char)
  | 'b' :: cs => some ('\x08', cs)
  | 't' :: cs => some ('\t', cs)
  | 'n' :: cs => some ('\n', cs)
  | 'f' :: cs => some ('\x0c', cs)
  | 'r' :: cs => some ('\r', cs)
  | '"' :: cs => some ('"', cs)
  | '\\' :: cs => some ('\\', cs)
  | 'u' :: cs => if 4 ≤ cs.length then (scalar? (cs.take 4)).map (·, cs.drop 4) else none
  | 'U' :: cs => if 8 ≤ cs.length then (scalar? (cs.take 8)).map (·, cs.drop 8) else none
  | _ => none

theorem escape?_length {cs rest : List Char} {c : Char} (h : escape? cs = some (c, rest)) :
    rest.length < cs.length := by
  unfold escape? at h
  split at h <;>
    try (injection h with h; injection h with _ h; subst h; simp only [List.length_cons]; omega)
  · split at h
    · obtain ⟨_, _, h⟩ := Option.map_eq_some_iff.mp h
      injection h with _ h
      subst h
      simp only [List.length_cons, List.length_drop]
      omega
    · contradiction
  · split at h
    · obtain ⟨_, _, h⟩ := Option.map_eq_some_iff.mp h
      injection h with _ h
      subst h
      simp only [List.length_cons, List.length_drop]
      omega
    · contradiction
  · contradiction

abbrev Read := Option (List Char × List Char)

def prepend (front : List Char) (r : Read) : Read :=
  r.map fun (content, rest) => (front ++ content, rest)

def basic? (cs : List Char) : Read :=
  match cs with
  | [] => none
  | '"' :: cs => some ([], cs)
  | '\\' :: cs =>
    match _h : escape? cs with
    | some (c, rest) => prepend [c] (basic? rest)
    | none => none
  | c :: cs => if isPlain c then prepend [c] (basic? cs) else none
termination_by cs.length
decreasing_by
  · have := escape?_length _h
    simp only [List.length_cons]
    omega
  · simp only [List.length_cons]
    omega

def literal? : List Char → Read
  | [] => none
  | '\'' :: cs => some ([], cs)
  | c :: cs => if isPlain c then prepend [c] (literal? cs) else none

def skipBreaks : List Char → List Char
  | ' ' :: cs => skipBreaks cs
  | '\t' :: cs => skipBreaks cs
  | '\n' :: cs => skipBreaks cs
  | '\r' :: '\n' :: cs => skipBreaks cs
  | cs => cs

/-- What follows a line break that a backslash hides, with all blanks and line breaks after it. -/
def hiddenBreak? (cs : List Char) : Option (List Char) :=
  (newline? (skipSpaces cs)).map skipBreaks

theorem newline?_length {cs rest : List Char} (h : newline? cs = some rest) :
    rest.length < cs.length := by
  unfold newline? at h
  split at h
  · injection h with h
    subst h
    simp
  · injection h with h
    subst h
    simp only [List.length_cons]
    omega
  · contradiction

theorem skipSpaces_length_le (cs : List Char) : (skipSpaces cs).length ≤ cs.length :=
  (List.dropWhile_suffix isSpace).length_le

theorem skipBreaks_length_le (cs : List Char) : (skipBreaks cs).length ≤ cs.length := by
  fun_induction skipBreaks cs with
  | case5 => exact Nat.le_refl _
  | _ =>
    simp only [List.length_cons]
    omega

theorem hiddenBreak?_length {cs rest : List Char} (h : hiddenBreak? cs = some rest) :
    rest.length < cs.length := by
  obtain ⟨mid, hm, rfl⟩ := Option.map_eq_some_iff.mp h
  have h₁ := newline?_length hm
  have h₂ := skipSpaces_length_le cs
  have h₃ := skipBreaks_length_le mid
  omega

/-- The content of a string in three double quotes; up to
two more may stand before the closing ones. -/
def longBasic? (cs : List Char) : Read :=
  match cs with
  | [] => none
  | '"' :: '"' :: '"' :: '"' :: '"' :: cs => some (['"', '"'], cs)
  | '"' :: '"' :: '"' :: '"' :: cs => some (['"'], cs)
  | '"' :: '"' :: '"' :: cs => some ([], cs)
  | '\\' :: cs =>
    match _h : hiddenBreak? cs with
    | some rest => longBasic? rest
    | none =>
      match _h' : escape? cs with
      | some (c, rest) => prepend [c] (longBasic? rest)
      | none => none
  | '\r' :: '\n' :: cs => prepend ['\n'] (longBasic? cs)
  | c :: cs => if isPlain c || c = '\n' then prepend [c] (longBasic? cs) else none
termination_by cs.length
decreasing_by
  · have := hiddenBreak?_length _h
    simp only [List.length_cons]
    omega
  · have := escape?_length _h'
    simp only [List.length_cons]
    omega
  · simp only [List.length_cons]
    omega
  · simp only [List.length_cons]
    omega

def longLiteral? : List Char → Read
  | [] => none
  | '\'' :: '\'' :: '\'' :: '\'' :: '\'' :: cs => some (['\'', '\''], cs)
  | '\'' :: '\'' :: '\'' :: '\'' :: cs => some (['\''], cs)
  | '\'' :: '\'' :: '\'' :: cs => some ([], cs)
  | '\r' :: '\n' :: cs => prepend ['\n'] (longLiteral? cs)
  | c :: cs => if isPlain c || c = '\n' then prepend [c] (longLiteral? cs) else none

/-- A line break right after the opening quotes does not count. -/
def dropNewline (cs : List Char) : List Char :=
  (newline? cs).getD cs

def string? : List Char → Read
  | '"' :: '"' :: '"' :: cs => longBasic? (dropNewline cs)
  | '"' :: cs => basic? cs
  | '\'' :: '\'' :: '\'' :: cs => longLiteral? (dropNewline cs)
  | '\'' :: cs => literal? cs
  | _ => none

def items? : Nat → List Char → Option (List String × List Char)
  | 0, _ => none
  | fuel + 1, cs =>
    match skipLines cs.length cs with
    | ']' :: rest => some ([], rest)
    | cs => do
      let (s, rest) ← string? cs
      match skipLines rest.length rest with
      | ']' :: rest => some ([String.ofList s], rest)
      | ',' :: rest => do
        let (ss, rest) ← items? fuel rest
        some (String.ofList s :: ss, rest)
      | _ => none

def value? : List Char → Option (Value × List Char)
  | '[' :: cs => (items? cs.length cs).map fun (ss, rest) => (.list ss, rest)
  | cs => (string? cs).map fun (s, rest) => (.text (String.ofList s), rest)

def isBareKeyChar (c : Char) : Bool :=
  c.isAlphanum || c = '-' || c = '_'

def key? : List Char → Read
  | '"' :: cs => basic? cs
  | '\'' :: cs => literal? cs
  | cs =>
    let name := cs.takeWhile isBareKeyChar
    if name.isEmpty then none else some (name, cs.dropWhile isBareKeyChar)

def entry? (cs : List Char) : Option ((String × Value) × List Char) := do
  let (k, cs) ← key? cs
  match skipSpaces cs with
  | '=' :: cs => do
    let (v, cs) ← value? (skipSpaces cs)
    let rest ← endLine? cs
    some ((String.ofList k, v), rest)
  | _ => none

/-- Reads entries up to the end, none of which may repeat a key, at most so many. -/
def entries? : Nat → Document → List Char → Option Document
  | 0, _, _ => none
  | fuel + 1, doc, cs =>
    match skipLines cs.length cs with
    | [] => some doc
    | cs => do
      let ((k, v), rest) ← entry? cs
      if doc.any (·.1 = k) then none else entries? fuel (doc ++ [(k, v)]) rest

/-- The entries of a document, in their order; a byte order mark may come first. -/
def parse? (s : String) : Option Document :=
  let cs := s.toList
  let cs := if cs.head? = some '\ufeff' then cs.tail else cs
  entries? (cs.length + 1) [] cs

end MailPrefs.Toml
