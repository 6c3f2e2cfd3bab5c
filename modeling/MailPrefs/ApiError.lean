import MailPrefs.Json.Mismatch
import MailPrefs.Json.Typed

namespace MailPrefs

structure ApiError where
  errorType : String := ""
  messageShort : Option String := none
  messageLong : Option String := none
deriving DecidableEq, Repr

namespace ApiError

def notSubscribedType : String := "not_subscribed"

def isNotSubscribed (e : ApiError) : Bool :=
  e.errorType == notSubscribedType

def errorTypeKey : String := "error_type"

def messageShortKey : String := "message_short"

def messageLongKey : String := "message_long"

def withMembers : Json.Members → ApiError → Except Json.Mismatch ApiError
  | [], e => .ok e
  | (k, x) :: ms, e =>
    if k = errorTypeKey then do withMembers ms { e with errorType := ← x.asString }
    else if k = messageShortKey then do
      withMembers ms { e with messageShort := ← x.asOptionalString }
    else if k = messageLongKey then do
      withMembers ms { e with messageLong := ← x.asOptionalString }
    else withMembers ms e

/-- The fields by position; those that are missing at the end keep their defaults. -/
def ofItems : List Json → Except Json.Mismatch ApiError
  | [] => .ok {}
  | [t] => do .ok { errorType := ← t.asString }
  | [t, s] => do .ok { errorType := ← t.asString, messageShort := ← s.asOptionalString }
  | t :: s :: l :: rest => do
    let e : ApiError := {
      errorType := ← t.asString
      messageShort := ← s.asOptionalString
      messageLong := ← l.asOptionalString }
    if rest.isEmpty then .ok e else .error (.tooLong (rest.length + 3))

def ofJson : Json → Except Json.Mismatch ApiError
  | .object ms => withMembers ms {}
  | .array xs => ofItems xs
  | x => .error (.kind x (.structure "ApiError"))

/-- Messages that are absent are left out. -/
def toJson (e : ApiError) : Json :=
  .object <|
    [(errorTypeKey, .string e.errorType)] ++
      (e.messageShort.map fun s => (messageShortKey, .string s)).toList ++
      (e.messageLong.map fun s => (messageLongKey, .string s)).toList

structure Partial where
  errorType : Option String := none
  messageShort : Option (Option String) := none
  messageLong : Option (Option String) := none

def Partial.complete (p : Partial) : ApiError :=
  ⟨p.errorType.getD "", p.messageShort.getD none, p.messageLong.getD none⟩

open Json (Fault Bytes)

def readField {α : Type} (found : Option α) (value : Bytes → Except Fault (α × Bytes))
    (bs : Bytes) : Except Fault (α × Bytes) :=
  if found.isSome then .error .unfit
  else do
    let ((), bs) ← Json.Bytes.colon bs
    value bs

/-- Reads one member of an error; a field may not come twice. -/
def readMember (p : Partial) (bs : Bytes) : Except Fault (Partial × Bytes) := do
  let (k, bs) ← Json.Bytes.key bs
  if k = errorTypeKey then do
    let (t, bs) ← readField p.errorType Json.Bytes.text bs
    .ok ({ p with errorType := some t }, bs)
  else if k = messageShortKey then do
    let (s, bs) ← readField p.messageShort (Json.Bytes.optional Json.Bytes.text) bs
    .ok ({ p with messageShort := some s }, bs)
  else if k = messageLongKey then do
    let (s, bs) ← readField p.messageLong (Json.Bytes.optional Json.Bytes.text) bs
    .ok ({ p with messageLong := some s }, bs)
  else do
    let ((), bs) ← Json.Bytes.colon bs
    let ((), bs) ← Json.Bytes.skip bs
    .ok (p, bs)

def readItems (bs : Bytes) : Except Fault (ApiError × Bytes) := do
  let (t, bs) ← Json.Bytes.nextElement true Json.Bytes.text bs
  let (s, bs) ← Json.Bytes.nextElement t.isNone (Json.Bytes.optional Json.Bytes.text) bs
  let (l, bs) ← Json.Bytes.nextElement s.isNone (Json.Bytes.optional Json.Bytes.text) bs
  let ((), bs) ← Json.Bytes.closeList bs
  .ok ((Partial.mk t s l).complete, bs)

def readFront (bs : Bytes) : Except Fault (ApiError × Bytes) :=
  match Json.Bytes.skipBlanks bs with
  | [] => .error .ended
  | b :: rest =>
    if b = 0x7B then do
      let (p, rest) ← Json.Bytes.foldSequence 0x7D readMember {} rest
      .ok (p.complete, rest)
    else if b = 0x5B then readItems rest
    else .error (Json.Bytes.unfit (b :: rest))

/-- The error that a text holds, read without a value in between. -/
def read (bs : Bytes) : Except Fault ApiError :=
  Json.Bytes.finish (readFront bs)

end ApiError

end MailPrefs
