import MailPrefs.Proofs.Client.Classification
import MailPrefs.Proofs.Json.ReadBack

namespace MailPrefs

namespace ApiError

open Json (Bytes Members utf8 printMember printMembers)
open Json.Bytes (Takes)

variable {e : ApiError} {p : Partial}

def text (e : ApiError) : Bytes :=
  e.toJson.compact.toUTF8.toList

def members (e : ApiError) : Members :=
  [(errorTypeKey, .string e.errorType)] ++
    (e.messageShort.map fun s => (messageShortKey, .string s)).toList ++
    (e.messageLong.map fun s => (messageLongKey, .string s)).toList

theorem ofJson_toJson (e : ApiError) : ofJson e.toJson = .ok e := by
  obtain ⟨type, short, long⟩ := e
  cases short <;> cases long <;> rfl

theorem nodup_keys_members (e : ApiError) : (Members.keys e.members).Nodup := by
  obtain ⟨type, short, long⟩ := e
  cases short <;> cases long <;>
    simp [members, Members.keys, errorTypeKey, messageShortKey, messageLongKey]

theorem exists_string_of_mem (e : ApiError) : ∀ m ∈ e.members, ∃ s, m.2 = .string s := by
  intro m hm
  simp only [members, List.mem_append, List.mem_singleton, Option.mem_toList,
    Option.map_eq_some_iff] at hm
  rcases hm with (rfl | ⟨s, _, rfl⟩) | ⟨s, _, rfl⟩
  · exact ⟨_, rfl⟩
  · exact ⟨s, rfl⟩
  · exact ⟨s, rfl⟩

theorem parse_text (e : ApiError) : Json.parse e.text = .ok e.toJson := by
  apply Json.parseString_compact
  apply Json.readsBack_object e.nodup_keys_members
  intro m hm
  obtain ⟨s, hs⟩ := e.exists_string_of_mem m hm
  rw [hs]
  exact Json.readsBack_string s

theorem print_string (s : String) : Json.print (.string s) = Json.printString s := by
  rw [Json.print]

theorem readField_absent {α : Type} {value : Bytes → Except Json.Fault (α × Bytes)}
    {bs rest : Bytes} {y : α} (h : value bs = .ok (y, rest)) :
    readField none value (0x3A :: bs) = .ok (y, rest) :=
  h

theorem readMember_errorType (hp : p.errorType = none) (s : String) (rest : Bytes) :
    readMember p (utf8 (printMember (errorTypeKey, .string s)) ++ rest) =
      .ok ({ p with errorType := some s }, rest) := by
  have hf := readField_absent (Bytes.text_printString s rest)
  rw [Bytes.utf8_printMember_append, print_string, readMember, Bytes.key_printString]
  simp only [bind, Except.bind, if_true, hp, hf]

theorem readMember_messageShort (hp : p.messageShort = none) (s : String) (rest : Bytes) :
    readMember p (utf8 (printMember (messageShortKey, .string s)) ++ rest) =
      .ok ({ p with messageShort := some (some s) }, rest) := by
  have hf := readField_absent (Bytes.optional_printString s rest)
  have he : messageShortKey ≠ errorTypeKey := by decide
  rw [Bytes.utf8_printMember_append, print_string, readMember, Bytes.key_printString]
  simp only [bind, Except.bind, if_neg he, if_true, hp, hf]

theorem readMember_messageLong (hp : p.messageLong = none) (s : String) (rest : Bytes) :
    readMember p (utf8 (printMember (messageLongKey, .string s)) ++ rest) =
      .ok ({ p with messageLong := some (some s) }, rest) := by
  have hf := readField_absent (Bytes.optional_printString s rest)
  have he : messageLongKey ≠ errorTypeKey := by decide
  have hs : messageLongKey ≠ messageShortKey := by decide
  rw [Bytes.utf8_printMember_append, print_string, readMember, Bytes.key_printString]
  simp only [bind, Except.bind, if_neg he, if_neg hs, if_true, hp, hf]

/-- All fields of an error that were read from its own text. -/
def found (e : ApiError) : Partial :=
  ⟨some e.errorType, e.messageShort.map some, e.messageLong.map some⟩

theorem complete_found (e : ApiError) : e.found.complete = e := by
  obtain ⟨type, short, long⟩ := e
  cases short <;> cases long <;> rfl

theorem takes_messageShort (hp : p.messageShort = none) (short : Option String) :
    Takes readMember p (short.map fun s => (messageShortKey, Json.string s)).toList
      { p with messageShort := short.map some } := by
  cases short with
  | none =>
    cases p
    cases hp
    exact .nil _
  | some s => exact .cons (readMember_messageShort hp s) (.nil _)

theorem takes_messageLong (hp : p.messageLong = none) (long : Option String) :
    Takes readMember p (long.map fun s => (messageLongKey, Json.string s)).toList
      { p with messageLong := long.map some } := by
  cases long with
  | none =>
    cases p
    cases hp
    exact .nil _
  | some s => exact .cons (readMember_messageLong hp s) (.nil _)

theorem takes_members (e : ApiError) : Takes readMember {} e.members e.found := by
  have ht : Takes readMember {} [(errorTypeKey, Json.string e.errorType)]
      { errorType := some e.errorType } := .cons (readMember_errorType rfl e.errorType) (.nil _)
  have hs := ht.append (takes_messageShort rfl e.messageShort)
  exact hs.append (takes_messageLong rfl e.messageLong)

theorem read_text (e : ApiError) : read e.text = .ok e := by
  have ht : e.text = 0x7B :: (utf8 (printMembers e.members) ++ [0x7D]) := by
    rw [text, Json.compact, Json.toUTF8_ofList, toJson, Json.print, Json.utf8_append,
      Json.utf8_cons]
    rfl
  rw [ht, read, readFront, Bytes.skipBlanks_cons rfl]
  simp only [if_true, e.takes_members.foldSequence]
  exact congrArg Except.ok e.complete_found

theorem classify_text (e : ApiError) (method : Method) {r : HttpResponse}
    (hr : r.isSuccess = false) (hb : r.body? = some e.text) :
    Client.classify method r = .error (.status r.status (some e.toJson)) := by
  have hj : Client.bodyJson? r = some e.toJson :=
    (Client.bodyJson?_eq_some_iff hb).mpr (Json.parse_eq_ok_iff.mp e.parse_text)
  rw [Client.classify_of_failure hr, hj]

/-- Every error comes back from its text, read in one go or as a value first, and from every
response that carries the text with a status that is no success. What was decoded from any value is
not changed by being encoded and decoded again. -/
theorem error_survives_wire :
    (∀ e : ApiError, read e.text = .ok e ∧
      (∃ v, Json.parse e.text = .ok v ∧ ofJson v = .ok e) ∧
      ∀ (method : Method) (r : HttpResponse), ¬(200 ≤ r.status ∧ r.status ≤ 299) →
        r.body? = some e.text →
          ∃ v, Client.classify method r = .error (.status r.status (some v)) ∧
            (HttpError.status r.status (some v)).apiError? = some e ∧
            (HttpError.status r.status (some v)).statusCode? = some r.status) ∧
    ∀ v e, ofJson v = .ok e → ofJson e.toJson = ofJson v ∧ read e.text = .ok e := by
  constructor
  · intro e
    refine ⟨e.read_text, ⟨_, e.parse_text, e.ofJson_toJson⟩, fun method r hs hb => ?_⟩
    have hr : r.isSuccess = false := by
      rw [← Bool.not_eq_true, HttpResponse.isSuccess_iff]
      exact hs
    refine ⟨e.toJson, e.classify_text method hr hb, ?_, rfl⟩
    rw [HttpError.apiError?, e.ofJson_toJson]
    rfl
  · intro v e hv
    exact ⟨e.ofJson_toJson.trans hv.symm, e.read_text⟩

/-- An error whose strings need escapes and whose short message is empty comes back. A member that
is not known, a null and a missing type leave no trace in the error. -/
theorem error_survives_wire_escapes :
    let e : ApiError := ⟨"\"\\\x01\u007f😀", some "", none⟩
    let r : HttpResponse := ⟨422, some e.text⟩
    let v := Json.object
      [("code", .ofNat 7), ("message_short", .null), ("message_long", .string "x")]
    let e' : ApiError := ⟨"", none, some "x"⟩
    read e.text = .ok e ∧
      (∃ v, Client.classify .post r = .error (.status 422 (some v)) ∧
        (HttpError.status 422 (some v)).apiError? = some e) ∧
      ofJson v = .ok e' ∧ ofJson e'.toJson = ofJson v ∧ e'.toJson.compact =
        "\x7b\"error_type\":\"\",\"message_long\":\"x\"\x7d" := by
  intro e r v e'
  obtain ⟨hback, hagain⟩ := error_survives_wire
  obtain ⟨hread, _, hresponses⟩ := hback e
  obtain ⟨w, hclassified, herror, _⟩ := hresponses .post r (by decide) rfl
  have hv : ofJson v = .ok e' := rfl
  exact ⟨hread, ⟨w, hclassified, herror⟩, hv, (hagain v e' hv).1, by decide +kernel⟩

end ApiError

end MailPrefs
