import MailPrefs.Client
import MailPrefs.Proofs.Json.Parsing
import MailPrefs.Proofs.Session.Awaiting
import MailPrefs.Proofs.Subscribed.Loads

namespace MailPrefs

variable {answer : Except HttpError Json}

theorem Operation.submit_result_iff :
    submit.result (some answer) = .submitted (.ok .updated) ↔ ∃ v, answer = .ok v := by
  cases answer with
  | ok v => exact iff_of_true rfl ⟨v, rfl⟩
  | error e =>
    refine iff_of_false (fun h => ?_) (fun ⟨_, h⟩ => by cases h)
    rw [result] at h
    split at h <;> cases h

theorem HttpResponse.isSuccess_iff {r : HttpResponse} :
    r.isSuccess = true ↔ 200 ≤ r.status ∧ r.status ≤ 299 := by
  rw [isSuccess, Bool.and_eq_true, decide_eq_true_eq, decide_eq_true_eq, Nat.lt_succ_iff]

namespace Client

variable {c : Client} {path : String} {url : Url} {r : HttpResponse} {b : Json.Bytes}
variable {method : Method}

theorem exchange_eq_classify (hu : c.address path = .ok url) (method : Method) (r : HttpResponse) :
    c.exchange method path (some r) = classify method r := by
  rw [exchange, hu]
  rfl

theorem bodyJson?_eq_some_iff (hb : r.body? = some b) {v : Json} :
    bodyJson? r = some v ↔ Json.Denotes b v := by
  rw [bodyJson?, hb, ← Json.parse_eq_ok_iff]
  change (Json.parse b).toOption = some v ↔ _
  cases Json.parse b with
  | error e => exact ⟨nofun, nofun⟩
  | ok x => rw [Except.toOption, Option.some.injEq, Except.ok.injEq]

theorem classify_of_failure (h : r.isSuccess = false) (method : Method) :
    classify method r = .error (.status r.status (bodyJson? r)) := by
  simp only [classify, h, Bool.not_false, if_true]

theorem classify_get_of_success (h : r.isSuccess = true) :
    classify .get r =
      (bodyJson? r).elim (.error (.decode "error decoding response body")) .ok := by
  simp only [classify, h, Bool.not_true, Bool.false_eq_true, if_false]

theorem classify_post_of_success (h : r.isSuccess = true) : classify .post r = .ok .null := by
  simp only [classify, h, Bool.not_true, Bool.false_eq_true, if_false]

/-- A read succeeds with a value exactly if the status is one of success and the body denotes it. -/
theorem classify_get_eq_ok_iff (hb : r.body? = some b) {v : Json} :
    classify .get r = .ok v ↔ r.isSuccess = true ∧ Json.Denotes b v := by
  rw [← bodyJson?_eq_some_iff hb]
  cases h : r.isSuccess with
  | false =>
    rw [classify_of_failure h]
    exact ⟨nofun, nofun⟩
  | true =>
    rw [classify_get_of_success h, and_iff_right rfl]
    cases bodyJson? r with
    | none => exact ⟨nofun, nofun⟩
    | some x => rw [Option.elim_some, Except.ok.injEq, Option.some.injEq]

theorem classify_get_eq_decode_iff (hb : r.body? = some b) :
    (∃ reason, classify .get r = .error (.decode reason)) ↔
      r.isSuccess = true ∧ ¬∃ v, Json.Denotes b v := by
  simp only [← bodyJson?_eq_some_iff hb]
  cases h : r.isSuccess with
  | false =>
    rw [classify_of_failure h]
    exact ⟨nofun, nofun⟩
  | true =>
    rw [classify_get_of_success h, and_iff_right rfl]
    cases bodyJson? r with
    | none => exact iff_of_true ⟨_, rfl⟩ nofun
    | some x => exact iff_of_false nofun fun h => h ⟨x, rfl⟩

theorem classify_post_eq_ok_iff : (∃ v, classify .post r = .ok v) ↔ r.isSuccess = true := by
  cases h : r.isSuccess with
  | false =>
    rw [classify_of_failure h]
    exact ⟨nofun, nofun⟩
  | true => exact iff_of_true ⟨_, classify_post_of_success h⟩ rfl

theorem classify_post_ne_decode (reason : String) :
    classify .post r ≠ .error (.decode reason) := by
  cases h : r.isSuccess with
  | false =>
    rw [classify_of_failure h]
    exact nofun
  | true =>
    rw [classify_post_of_success h]
    exact nofun

/-- The final answer to a request, its body being there, is classified by its status and by what
its body denotes as a JSON text. A read needs such a text from a success, a write takes any success,
and both give the same error for anything else. So a submit is told of an update exactly after a
success, and a load succeeds exactly after a success whose text is decoded as a report. -/
theorem classifies_answers (c : Client) (path : String) (url : Url) (r : HttpResponse)
    (b : Json.Bytes) (hu : c.address path = .ok url) (hb : r.body? = some b) :
    let succeeds := 200 ≤ r.status ∧ r.status ≤ 299
    let got := c.exchange .get path (some r)
    let posted := c.exchange .post path (some r)
    (∀ v, got = .ok v ↔ succeeds ∧ Json.Denotes b v) ∧
    ((∃ reason, got = .error (.decode reason)) ↔ succeeds ∧ ¬∃ v, Json.Denotes b v) ∧
    ((∃ v, posted = .ok v) ↔ succeeds) ∧
    (∀ reason, posted ≠ .error (.decode reason)) ∧
    (¬succeeds → ∃ body, got = .error (.status r.status body) ∧
      posted = .error (.status r.status body) ∧ ∀ v, body = some v ↔ Json.Denotes b v) ∧
    ∀ (s : Session) (m : Move) (d : Delivery), s.delivered? m = some d →
      (d.operation = .submit → d.answer = some posted →
        ((s.move m).toldAfter s.trace.length = [(d.owner, .submitted (.ok .updated))] ↔
          succeeds)) ∧
      (d.operation = .load → d.answer = some got →
        ((s.move m).toldAfter s.trace.length = [(d.owner, .loaded (.ok ()))] ↔
          succeeds ∧ ∃ v report, Json.Denotes b v ∧ Report.ofJson v = .ok report)) := by
  intro succeeds got posted
  have hs : r.isSuccess = true ↔ succeeds := HttpResponse.isSuccess_iff
  have hgot : got = classify .get r := exchange_eq_classify hu .get r
  have hposted : posted = classify .post r := exchange_eq_classify hu .post r
  rw [hgot, hposted, ← hs]
  refine ⟨fun v => classify_get_eq_ok_iff hb, classify_get_eq_decode_iff hb,
    classify_post_eq_ok_iff, classify_post_ne_decode, ?_, ?_⟩
  · intro h
    have hf := Bool.eq_false_iff.mpr h
    exact ⟨bodyJson? r, classify_of_failure hf .get, classify_of_failure hf .post,
      fun v => bodyJson?_eq_some_iff hb⟩
  · intro s m d hd
    refine ⟨fun ho ha => ?_, fun ho ha => ?_⟩
    · rw [Session.told_iff hd, ho, ha, Operation.submit_result_iff, classify_post_eq_ok_iff]
    · rw [Session.told_iff hd, ho, ha, Operation.load_result_iff]
      simp only [ViewModel.reportOf_eq_ok_iff, classify_get_eq_ok_iff hb]
      constructor
      · rintro ⟨report, v, ⟨h, hv⟩, hr⟩
        exact ⟨h, v, report, hv, hr⟩
      · rintro ⟨h, v, report, hv, hr⟩
        exact ⟨report, v, ⟨h, hv⟩, hr⟩

/-- An empty object among blanks is a value with status 200, and a report of nothing; with status
404 it is the body of an error. What starts like a page is no JSON. -/
theorem classifies_answers_empty_object :
    let c : Client := ⟨"http://x"⟩
    let text : Json.Bytes := [0x20, 0x7B, 0x7D, 0x0A]
    let page : Json.Bytes := [0x3C]
    let got (r : HttpResponse) := c.exchange .get settingsPath (some r)
    let posted (r : HttpResponse) := c.exchange .post settingsPath (some r)
    let start (r : HttpResponse) := Session.bare { catalog := ⟨["news"], by decide, by decide⟩ }
      ⟨[⟨0, some (got r)⟩], [⟨0, some (posted r)⟩], ⟨0, none⟩⟩
    let told (r : HttpResponse) (operation : Operation) :=
      ((start r).move (.call operation)).toldAfter (start r).trace.length
    (∃ url, c.address settingsPath = .ok url) ∧ Json.Denotes text (.object []) ∧
      got ⟨200, some text⟩ = .ok (.object []) ∧
      (∃ reason, got ⟨200, some page⟩ = .error (.decode reason)) ∧
      (∃ v, posted ⟨204, none⟩ = .ok v) ∧
      posted ⟨404, some text⟩ = .error (.status 404 (some (.object []))) ∧
      told ⟨200, some text⟩ .load = [(.caller, .loaded (.ok ()))] ∧
      told ⟨200, some page⟩ .load ≠ [(.caller, .loaded (.ok ()))] ∧
      told ⟨200, some page⟩ .submit = [(.caller, .submitted (.ok .updated))] ∧
      told ⟨404, some text⟩ .submit ≠ [(.caller, .submitted (.ok .updated))] := by
  intro c text page got posted start told
  let url : Url := ⟨.http, {}, .domain "x", none, ["api", "v1", "settings", "notifications"],
    none, none⟩
  have hu : c.address settingsPath = .ok url := by
    have hp : Url.parse (c.endpoint settingsPath) = .ok url := by decide +kernel
    rw [address, hp]
    exact if_pos (by decide +kernel)
  have ht : Json.Denotes text (.object []) := Json.parse_eq_ok_iff.mp rfl
  have hn : ¬∃ v, Json.Denotes page v := by
    rintro ⟨v, hv⟩
    have hp : Json.parse page = .error .malformed := rfl
    rw [← Json.parse_eq_ok_iff, hp] at hv
    cases hv
  have hd (r : HttpResponse) (operation : Operation) : (start r).delivered? (.call operation) =
      some ⟨.caller, operation, ((start r).server.reply operation).1.answer⟩ := by
    cases operation <;> rfl
  obtain ⟨hok, _, _, _, _, htext⟩ :=
    classifies_answers c settingsPath url ⟨200, some text⟩ text hu rfl
  obtain ⟨_, hdecode, _, _, _, hpage⟩ :=
    classifies_answers c settingsPath url ⟨200, some page⟩ page hu rfl
  obtain ⟨_, _, hposted, _⟩ := classifies_answers c settingsPath url ⟨204, none⟩ [] hu rfl
  obtain ⟨_, _, _, _, hstatus, hmissing⟩ :=
    classifies_answers c settingsPath url ⟨404, some text⟩ text hu rfl
  obtain ⟨body, _, hbody, hv⟩ := hstatus (by decide)
  rw [(hv _).mpr ht] at hbody
  refine ⟨⟨url, hu⟩, ht, (hok _).mpr ⟨by decide, ht⟩, hdecode.mpr ⟨by decide, hn⟩,
    hposted.mpr (by decide), hbody, ?_, fun h => ?_, ?_, fun h => ?_⟩
  · exact ((htext _ _ _ (hd _ .load)).2 rfl rfl).mpr ⟨by decide, _, _, ht, rfl⟩
  · obtain ⟨_, v, _, hv, _⟩ := ((hpage _ _ _ (hd _ .load)).2 rfl rfl).mp h
    exact hn ⟨v, hv⟩
  · exact ((hpage _ _ _ (hd _ .submit)).1 rfl rfl).mpr (by decide)
  · exact absurd (((hmissing _ _ _ (hd _ .submit)).1 rfl rfl).mp h) (by decide)

end Client

end MailPrefs
