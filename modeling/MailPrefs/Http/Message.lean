import MailPrefs.Http
import MailPrefs.Text.Blank
import MailPrefs.Text.Digits
import MailPrefs.Text.Split

namespace MailPrefs

namespace HttpRequest

def headerLines (r : HttpRequest) : List String :=
  ["Host: " ++ r.url.authority, "Accept: " ++ mediaType, "Connection: close"] ++
    match r.contentType? with
    | none => []
    | some type => ["Content-Type: " ++ type, "Content-Length: " ++ toString r.body.utf8ByteSize]

def message (r : HttpRequest) : String :=
  let lines := (r.request.method.name ++ " " ++ r.url.target ++ " HTTP/1.1") :: r.headerLines
  String.join (lines.map (· ++ "\r\n")) ++ "\r\n" ++ r.body

end HttpRequest

namespace HttpResponse

def splitLine? : List UInt8 → Option (List UInt8 × List UInt8)
  | [] => none
  | 13 :: 10 :: rest => some ([], rest)
  | b :: rest => (splitLine? rest).map fun (line, rest) => (b :: line, rest)

theorem splitLine?_length {bytes line rest : List UInt8}
    (h : splitLine? bytes = some (line, rest)) : rest.length < bytes.length := by
  fun_induction splitLine? bytes generalizing line with
  | case1 => simp at h
  | case2 tail =>
    simp only [Option.some.injEq, Prod.mk.injEq] at h
    obtain ⟨-, rfl⟩ := h
    simp +arith
  | case3 b tail _ ih =>
    obtain ⟨⟨line', rest'⟩, h', heq⟩ := Option.map_eq_some_iff.1 h
    simp only [Prod.mk.injEq] at heq
    obtain ⟨-, rfl⟩ := heq
    exact Nat.lt_succ_of_lt (ih h')

def splitHead? (bytes : List UInt8) : Option (List (List UInt8) × List UInt8) :=
  match _h : splitLine? bytes with
  | none => none
  | some ([], rest) => some ([], rest)
  | some (line, rest) => (splitHead? rest).map fun (lines, rest) => (line :: lines, rest)
termination_by bytes.length
decreasing_by exact splitLine?_length ‹_›

def asciiText (bytes : List UInt8) : List Char :=
  bytes.map fun b => .ofNat b.toNat

def field? (line : List UInt8) : Option (List Char × List Char) :=
  (Text.splitFirst? (· = ':') (asciiText line)).map fun (name, value) =>
    (name.map Char.toLower, Text.trimBoth Text.isBlank value)

def status? (line : List UInt8) : Option Nat := do
  let (_, rest) ← Text.splitFirst? (· = ' ') (asciiText line)
  let digits := rest.takeWhile (· ≠ ' ')
  if digits.isEmpty then none else Text.number? 10 digits

/-- The payload that stands in chunks, each after a line with its size; one of size zero ends it. -/
def unchunk? (bytes : List UInt8) : Option (List UInt8) :=
  match _h : splitLine? bytes with
  | none => none
  | some (line, rest) => do
    let size ← Text.number? 16 ((asciiText line).takeWhile fun c => c ≠ ';' && c ≠ ' ')
    if size = 0 then some []
    else if rest.length < size + 2 then none
    else some (rest.take size ++ (← unchunk? (rest.drop (size + 2))))
termination_by bytes.length
decreasing_by
  have := splitLine?_length ‹_›
  simp only [List.length_drop]
  omega

/-- The payload, as the header announces its end. -/
def payload? (fields : List (List Char × List Char)) (rest : List UInt8) : Option (List UInt8) :=
  if (fields.lookup "transfer-encoding".toList).any (·.map Char.toLower = "chunked".toList) then
    unchunk? rest
  else
    match (fields.lookup "content-length".toList).bind (Text.number? 10) with
    | none => some rest
    | some size => if rest.length < size then none else some (rest.take size)

/-- The response that these bytes are, if they hold a whole header at least. -/
def ofBytes? (bytes : List UInt8) : Option HttpResponse := do
  let (lines, rest) ← splitHead? bytes
  let status ← status? (← lines.head?)
  some ⟨status, payload? (lines.tail.filterMap field?) rest⟩

end HttpResponse

end MailPrefs
