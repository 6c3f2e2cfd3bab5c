import MailPrefs.Json.Mismatch
import MailPrefs.Json.Typed

namespace MailPrefs

def settingsPath : String := "/api/v1/settings/notifications"

/-- Where changed settings are sent: the same path with a slash at its end. -/
def settingsUpdatePath : String := "/api/v1/settings/notifications/"

structure Report where
  mailingLists : Json.Members

namespace Report

def empty : Report := ⟨[]⟩

/-- A list that the report does not mention counts as no. -/
def isSubscribed (r : Report) (key : String) : Bool :=
  match Json.Members.get? key r.mailingLists with
  | some x => x.isTruthy
  | none => false

def isEmpty (r : Report) : Bool :=
  r.mailingLists.isEmpty

def unknownKeys (r : Report) (contains : String → Bool) : List String :=
  r.mailingLists.keys.filter (!contains ·)

def mailingListsKey : String := "mailing_lists"

/-- A report is an object, of which one member counts, or a
list that holds at most that member's value. -/
def ofJson : Json → Except Json.Mismatch Report
  | .object ms =>
    match Json.Members.get? mailingListsKey ms with
    | some x => x.asOptionalMembers.map Report.mk
    | none => .ok empty
  | .array [] => .ok empty
  | .array (x :: xs) => do
    let ms ← x.asOptionalMembers
    if xs.isEmpty then .ok ⟨ms⟩ else .error (.tooLong (xs.length + 1))
  | x => .error (.kind x (.structure "NotificationSettingsResponse"))

open Json (Fault Bytes Members) in
def readMap (bs : Bytes) : Except Fault (Option Members × Bytes) :=
  Json.Bytes.optional (Json.Bytes.map (Json.Bytes.maxDepth - 2)) bs

open Json (Fault Bytes Members) in
def readMember (found : Option Members) (bs : Bytes) : Except Fault (Option Members × Bytes) := do
  let (k, bs) ← Json.Bytes.key bs
  if k = mailingListsKey then
    if found.isSome then .error .unfit
    else do
      let ((), bs) ← Json.Bytes.colon bs
      let (ms, bs) ← readMap bs
      .ok (some (ms.getD []), bs)
  else do
    let ((), bs) ← Json.Bytes.colon bs
    let ((), bs) ← Json.Bytes.skip bs
    .ok (found, bs)

open Json (Fault Bytes) in
def readFront (bs : Bytes) : Except Fault (Report × Bytes) :=
  match Json.Bytes.skipBlanks bs with
  | [] => .error .ended
  | b :: rest =>
    if b = 0x7B then do
      let (found, rest) ← Json.Bytes.foldSequence 0x7D readMember none rest
      .ok (⟨found.getD []⟩, rest)
    else if b = 0x5B then do
      let (found, rest) ← Json.Bytes.nextElement true readMap rest
      let ((), rest) ← Json.Bytes.closeList rest
      .ok (⟨(found.getD none).getD []⟩, rest)
    else .error (Json.Bytes.unfit (b :: rest))

def read (bs : Json.Bytes) : Except Json.Fault Report :=
  Json.Bytes.finish (readFront bs)

end Report

end MailPrefs
