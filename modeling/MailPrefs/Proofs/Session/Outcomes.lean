import MailPrefs.Proofs.Client.Classification
import MailPrefs.Proofs.Json.Truth
import MailPrefs.Proofs.Session.Answers
import MailPrefs.Proofs.Status.Timeline

namespace MailPrefs

namespace ViewModel

variable {m : ViewModel} {r r' : Report} {message : StatusMessage}

theorem answered_of_shown {operation : Operation} {answer : Option (Except HttpError Json)}
    (h : m.outcome? operation answer = some message) :
    m.answered operation answer = { m with status := m.status.set message } := by
  cases answer with
  | none => cases operation <;> cases h
  | some answer =>
    cases operation with
    | load =>
      rw [outcome?] at h
      cases hr : reportOf answer with
      | ok r =>
        rw [hr] at h
        cases h
      | error e =>
        rw [hr] at h
        cases h
        exact finishLoad_of_error hr
    | submit =>
      cases answer with
      | ok v =>
        cases h
        exact m.showMessage_fst _ (some outcomeTimeout) true
      | error e =>
        rw [outcome?] at h
        split at h
        · cases h
        · next hn =>
          cases h
          simp only [answered, finishSubmit, if_neg hn]
          exact m.showMessage_fst _ (some outcomeTimeout) true

theorem reportOf_fields {v : Json} {ms : Json.Members}
    (hf : v.fields? Report.fieldNames = some ms) (hm : Report.Fits ms) :
    reportOf (.ok v) = .ok (Report.ofFields ms) :=
  reportOf_eq_ok_iff.mpr ⟨v, rfl, Report.ofJson_eq_ok_iff.mpr ⟨ms, hf, hm, rfl⟩⟩

theorem additions_eq (c : Catalog) (r : Report) (subscribed : List String) :
    additions c r subscribed = c.keys.filter fun k => r.Affirms k ∧ k ∉ subscribed := by
  apply List.filter_congr
  intro k _
  rw [Bool.eq_iff_iff, Bool.and_eq_true, Report.isSubscribed_iff_affirms]
  simp

theorem withReport_value (m : ViewModel) (r : Report) :
    (m.withReport r).subscribed.value = m.subscribed.value ++
      m.catalog.keys.filter fun k => r.Affirms k ∧ k ∉ m.subscribed.value := by
  rw [← additions_eq]
  rfl

theorem withReport_hasChanged (m : ViewModel) (r : Report) :
    (Watch.start m.subscribed).hasChanged (m.withReport r).subscribed = true ↔
      ∃ k ∈ m.catalog.keys, r.Affirms k ∧ k ∉ m.subscribed.value := by
  have hex : (∃ k ∈ m.catalog.keys, r.Affirms k ∧ k ∉ m.subscribed.value) ↔
      additions m.catalog r m.subscribed.value ≠ [] := by
    simp only [additions_eq, ne_eq, List.filter_eq_nil_iff, decide_eq_true_eq, not_forall,
      not_not, exists_prop]
  have hv : (m.withReport r).subscribed.version =
      if !(additions m.catalog r m.subscribed.value).isEmpty then m.subscribed.version + 1
      else m.subscribed.version := rfl
  rw [hex, Watch.hasChanged, bne_iff_ne, hv, Watch.start]
  cases additions m.catalog r m.subscribed.value with
  | nil => exact iff_of_false (fun h => h rfl) (fun h => h rfl)
  | cons k ks => exact iff_of_true (Nat.ne_of_lt (Nat.lt_succ_self _)) (List.cons_ne_nil k ks)

theorem withReport_congr (h : ∀ k ∈ m.catalog.keys, r'.Affirms k ↔ r.Affirms k) :
    m.withReport r' = m.withReport r := by
  have ha : additions m.catalog r' m.subscribed.value =
      additions m.catalog r m.subscribed.value := by
    rw [additions_eq, additions_eq]
    apply List.filter_congr
    intro k hk
    simp only [h k hk]
  rw [withReport, withReport, Observable.update, Observable.update, extended, extended, ha]

theorem withReport_of_subset
    (h : ∀ k ∈ m.catalog.keys, r.Affirms k → k ∈ m.subscribed.value) : m.withReport r = m := by
  have ha : additions m.catalog r m.subscribed.value = [] := by
    rw [additions_eq, List.filter_eq_nil_iff]
    intro k hk hd
    obtain ⟨hr, hn⟩ := of_decide_eq_true hd
    exact hn (h k hk hr)
  have hw : m.withReport r = { m with subscribed := (m.withReport r).subscribed } := rfl
  rw [hw, withReport_of_known ha]

end ViewModel

namespace Session

variable {s : Session} {m : Move} {d : Delivery} {answer : Except HttpError Json}

theorem keepsTime_of_delivered (h : s.delivered? m = some d) : s.KeepsTime m := by
  cases m with
  | tick time => cases h
  | _ => trivial

theorem dated?_of_delivered (h : s.delivered? m = some d) :
    s.dated? m =
      (s.model.outcome? d.operation d.answer).map (.shown s.now · (some outcomeTimeout)) := by
  obtain ⟨job, hj, hh⟩ := Option.bind_eq_some_iff.mp h
  have hd : s.jobDated? job =
      (s.model.outcome? d.operation d.answer).map (.shown s.now · (some outcomeTimeout)) := by
    cases job with
    | reset => cases hh
    | render | start | resume | armReset =>
      simp only [jobDated?, taken?_eq, hh, Option.map_some, Option.bind_some]
  cases m with
  | toggle | message => cases hj
  | call | spawn | run | tick | nudge | takeLoad | unmount =>
    simp only [dated?, hj, Option.bind_some, hd]

/-- A message is shown for five seconds, and that is all that is done to the view model. -/
structure Flashes (s : Session) (m : Move) (message : StatusMessage) : Prop where
  model : (s.move m).model = { s.model with status := s.model.status.set message }
  expected : (s.move m).expected.Perm ((s.now + 5000) :: s.expected)

structure Leaves (s : Session) (m : Move) : Prop where
  model : (s.move m).model = s.model
  expected : (s.move m).expected.Perm s.expected

theorem flashes_of_shown {message : StatusMessage} (h : s.delivered? m = some d)
    (ho : s.model.outcome? d.operation d.answer = some message) : s.Flashes m message := by
  constructor
  · rw [model_of_delivered h, ViewModel.answered_of_shown ho]
  · have hp := move_expected (keepsTime_of_delivered h)
    rw [dated?_of_delivered h, ho] at hp
    exact hp.symm.trans List.perm_append_comm

theorem expected_of_unshown (h : s.delivered? m = some d)
    (ho : s.model.outcome? d.operation d.answer = none) :
    (s.move m).expected.Perm s.expected := by
  have hp := move_expected (keepsTime_of_delivered h)
  rw [dated?_of_delivered h, ho] at hp
  rw [← List.append_nil s.expected]
  exact hp.symm

/-- A load takes up a report: it succeeds, the keys of the catalog that the report affirms come to
stand behind those that were there, watchers are told if there are any, and nothing else changes. -/
structure TakesUp (s : Session) (m : Move) (d : Delivery) (r : Report) : Prop where
  told : (s.move m).toldAfter s.trace.length = [(d.owner, .loaded (.ok ()))]
  subscribed : (s.move m).model.subscribed.value = s.model.subscribed.value ++
    s.model.catalog.keys.filter fun k => r.Affirms k ∧ k ∉ s.model.subscribed.value
  notified : (Watch.start s.model.subscribed).hasChanged (s.move m).model.subscribed = true ↔
    ∃ k ∈ s.model.catalog.keys, r.Affirms k ∧ k ∉ s.model.subscribed.value
  status : (s.move m).model.status = s.model.status
  expected : (s.move m).expected.Perm s.expected
  /-- Another value that says the same of the catalog would have done the same. -/
  other : ∀ v ms, v.fields? Report.fieldNames = some ms → Report.Fits ms →
    (∀ k ∈ s.model.catalog.keys, (Report.ofFields ms).Affirms k ↔ r.Affirms k) →
      s.model.answered .load (some (.ok v)) = (s.move m).model
  /-- Nothing is left to do for the same answer, as long as nothing is toggled. -/
  again : ∀ ms : List Move, (∀ m' ∈ ms, m'.isToggle = false) → ∀ m' d',
    ((s.move m).play ms).delivered? m' = some d' → d'.operation = .load → d'.answer = d.answer →
      ((s.move m).play ms).Leaves m'

theorem takesUp_of_report {r : Report} (hd : s.delivered? m = some d) (hl : d.operation = .load)
    (ha : d.answer = some answer) (hr : ViewModel.reportOf answer = .ok r) : s.TakesUp m d r := by
  have hm : (s.move m).model = s.model.withReport r := by
    rw [model_of_delivered hd, hl, ha]
    exact ViewModel.finishLoad_of_ok hr
  have hn (model : ViewModel) : model.outcome? .load (some answer) = none := by
    simp only [ViewModel.outcome?, hr]
  constructor
  · rw [told_iff hd, hl, ha, Operation.load_result_of_ok hr]
  · rw [hm, ViewModel.withReport_value]
  · rw [hm, ViewModel.withReport_hasChanged]
  · rw [hm]
    rfl
  · apply expected_of_unshown hd
    rw [hl, ha, hn]
  · intro v ms hf hms h
    rw [hm, ← ViewModel.withReport_congr h]
    exact ViewModel.finishLoad_of_ok (ViewModel.reportOf_fields hf hms)
  · intro ms hms m' d' hd' hl' ha'
    rw [ha] at ha'
    constructor
    · have hm' : (((s.move m).play ms).move m').model =
          ((s.move m).play ms).model.withReport r := by
        rw [model_of_delivered hd', hl', ha']
        exact ViewModel.finishLoad_of_ok hr
      -- No key of the report is gone by now, so there is none to add.
      rw [hm']
      apply ViewModel.withReport_of_subset
      rw [play_catalog, (move_step s m).catalog]
      intro k hk hak
      apply play_subset (s.move m) hms
      rw [hm, ViewModel.withReport_value]
      by_cases ho : k ∈ s.model.subscribed.value
      · exact List.mem_append_left _ ho
      · exact List.mem_append_right _ (List.mem_filter.mpr ⟨hk, decide_eq_true ⟨hak, ho⟩⟩)
    · apply expected_of_unshown hd'
      rw [hl', ha', hn]

/-- A load tells of its failure and shows it, and leaves the list and those who watch it alone. -/
structure FailsToLoad (s : Session) (m : Move) (d : Delivery) (e : HttpError) : Prop where
  told : (s.move m).toldAfter s.trace.length = [(d.owner, .loaded (.error (.fetchFailed e)))]
  subscribed : (s.move m).model.subscribed = s.model.subscribed
  flashes : s.Flashes m ⟨s.model.localizer.translate fetchFailedText, .danger⟩

theorem failsToLoad_of_error {e : HttpError} (hd : s.delivered? m = some d)
    (hl : d.operation = .load) (ha : d.answer = some answer)
    (he : ViewModel.reportOf answer = .error e) : s.FailsToLoad m d e := by
  have ho : s.model.outcome? d.operation d.answer =
      some ⟨s.model.localizer.translate fetchFailedText, .danger⟩ := by
    simp only [hl, ha, ViewModel.outcome?, he]
  have hf := flashes_of_shown hd ho
  constructor
  · rw [told_iff hd, hl, ha, Operation.load_result_of_error he]
  · rw [hf.model]
  · exact hf

/-- What a load comes to. A value that gives the fields of a report is taken up, whatever else it
holds. Any other value and any error make the load fail, and are told as they are. -/
theorem load_outcome (s : Session) (m : Move) (d : Delivery) (answer : Except HttpError Json)
    (hd : s.delivered? m = some d) (hl : d.operation = .load) (ha : d.answer = some answer) :
    (∀ v ms, answer = .ok v → v.fields? Report.fieldNames = some ms → Report.Fits ms →
      s.TakesUp m d (Report.ofFields ms)) ∧
    (∀ v, answer = .ok v → (¬∃ ms, v.fields? Report.fieldNames = some ms ∧ Report.Fits ms) →
      ∃ mismatch, Report.ofJson v = .error mismatch ∧
        s.FailsToLoad m d (.decode mismatch.message)) ∧
    ∀ e, answer = .error e → s.FailsToLoad m d e := by
  refine ⟨?_, ?_, ?_⟩
  · rintro v ms rfl hf hm
    exact takesUp_of_report hd hl ha (ViewModel.reportOf_fields hf hm)
  · rintro v rfl hn
    cases hv : Report.ofJson v with
    | ok r =>
      obtain ⟨ms, hf, hm, _⟩ := Report.ofJson_eq_ok_iff.mp hv
      exact absurd ⟨ms, hf, hm⟩ hn
    | error mismatch =>
      refine ⟨mismatch, rfl, failsToLoad_of_error hd hl ha ?_⟩
      change (Report.ofJson v).mapError _ = _
      rw [hv]
      rfl
  · rintro e rfl
    exact failsToLoad_of_error hd hl ha rfl

theorem load_outcome_partly :
    let v := Json.object [("mailing_lists", .object
      [("digest", .number (.real (.zero true))), ("other", .bool true), ("news", .string "yes")])]
    let w := Json.object [("mailing_lists", .bool true)]
    let start (answer : Except HttpError Json) :=
      bare { catalog := ⟨["news", "digest"], by decide, by decide⟩ } ⟨[], [], ⟨0, some answer⟩⟩
    ((start (.ok v)).move (.call .load)).model.subscribed.value = ["news"] ∧
      (((start (.ok v)).move (.call .load)).move (.call .load)).model =
        ((start (.ok v)).move (.call .load)).model ∧
      (start (.error (.transport "down"))).FailsToLoad (.call .load)
        ⟨.caller, .load, some (.error (.transport "down"))⟩ (.transport "down") ∧
      (start (.ok w)).FailsToLoad (.call .load) ⟨.caller, .load, some (.ok w)⟩
        (.decode "invalid type: boolean \x60true\x60, expected a map") := by
  intro v w start
  obtain ⟨htakes, _⟩ := load_outcome (start (.ok v)) (.call .load) ⟨.caller, .load, some (.ok v)⟩
    (.ok v) rfl rfl rfl
  obtain ⟨_, hundecoded, _⟩ := load_outcome (start (.ok w)) (.call .load)
    ⟨.caller, .load, some (.ok w)⟩ (.ok w) rfl rfl rfl
  obtain ⟨_, _, hfails⟩ := load_outcome (start (.error (.transport "down"))) (.call .load)
    ⟨.caller, .load, some (.error (.transport "down"))⟩ _ rfl rfl rfl
  have htaken := htakes v _ rfl rfl (by decide)
  have hagain := htaken.again [] nofun (.call .load) ⟨.caller, .load, some (.ok v)⟩ rfl rfl rfl
  have hw : ¬∃ ms, w.fields? Report.fieldNames = some ms ∧ Report.Fits ms := by
    rintro ⟨_, ⟨⟩, h⟩
    revert h
    decide
  obtain ⟨mismatch, hm, hf⟩ := hundecoded w rfl hw
  cases hm
  exact ⟨htaken.subscribed.trans (by decide), hagain.model, hfails _ rfl, hf⟩

/-- A submit that the server had nothing to do for tells so and leaves everything alone. -/
structure Swallows (s : Session) (m : Move) (d : Delivery) : Prop where
  told : (s.move m).toldAfter s.trace.length = [(d.owner, .submitted (.ok .notSubscribed))]
  leaves : s.Leaves m

/-- A submit tells of its failure, with the type of the error if the server gave one, and shows a
message that names the support contact. -/
structure FailsToSubmit (s : Session) (m : Move) (d : Delivery) (errorType : Option String)
    (e : HttpError) : Prop where
  told : (s.move m).toldAfter s.trace.length =
    [(d.owner, .submitted (.error (.submitFailed errorType e)))]
  flashes : s.Flashes m
    ⟨s.model.localizer.translate submitFailedText ++
      s.model.localizer.format reportToText [s.model.contact.link], .danger⟩

theorem FailsToSubmit.not_swallows {errorType : Option String} {e : HttpError}
    (h : s.FailsToSubmit m d errorType e) : ¬s.Swallows m d := by
  intro hs
  cases h.told.symm.trans hs.told

section Refused

variable {e : HttpError} (hd : s.delivered? m = some d) (hs : d.operation = .submit)
variable (ha : d.answer = some (.error e))

include hd hs ha

theorem swallows_of_carries {a : ApiError} (hc : e.Carries a)
    (ht : a.errorType = ApiError.notSubscribedType) : s.Swallows m d := by
  have he := HttpError.any_isNotSubscribed_iff.mpr ⟨a, hc, ht⟩
  constructor
  · rw [told_iff hd, hs, ha, Operation.result, if_pos he]
  · constructor
    · rw [model_of_delivered hd, hs, ha]
      simp only [ViewModel.answered, ViewModel.finishSubmit, he, if_true]
    · apply expected_of_unshown hd
      simp only [hs, ha, ViewModel.outcome?, he, if_true]

theorem failsToSubmit_of_not_any (he : ¬e.apiError?.any (·.isNotSubscribed) = true) :
    s.FailsToSubmit m d (e.apiError?.map (·.errorType)) e := by
  constructor
  · rw [told_iff hd, hs, ha, Operation.result, if_neg he]
  · apply flashes_of_shown hd
    simp only [hs, ha, ViewModel.outcome?, if_neg he]
    rfl

theorem failsToSubmit_of_carries {a : ApiError} (hc : e.Carries a)
    (ht : a.errorType ≠ ApiError.notSubscribedType) :
    s.FailsToSubmit m d (some a.errorType) e := by
  have he := HttpError.apiError?_eq_some_iff.mpr hc
  have hf := failsToSubmit_of_not_any hd hs ha
  rw [he] at hf
  exact hf fun h => ht (eq_of_beq h)

theorem failsToSubmit_of_not_carries (hc : ¬∃ a, e.Carries a) : s.FailsToSubmit m d none e := by
  have he : e.apiError? = none := by
    cases he : e.apiError? with
    | none => rfl
    | some a => exact absurd ⟨a, HttpError.apiError?_eq_some_iff.mp he⟩ hc
  have hf := failsToSubmit_of_not_any hd hs ha
  rw [he] at hf
  exact hf nofun

end Refused

/-- What a submit comes to. Of a failure only the error that the server sent with it counts: one of
the right type is swallowed, any other is told with its type, and so is a failure without one. -/
theorem submit_outcome (s : Session) (m : Move) (d : Delivery) (answer : Except HttpError Json)
    (hd : s.delivered? m = some d) (hs : d.operation = .submit) (ha : d.answer = some answer) :
    (∀ v, answer = .ok v →
      (s.move m).toldAfter s.trace.length = [(d.owner, .submitted (.ok .updated))] ∧
        s.Flashes m ⟨s.model.localizer.translate settingsUpdatedText, .success⟩) ∧
    ∀ e, answer = .error e →
      (∀ a, e.Carries a → a.errorType = "not_subscribed" → s.Swallows m d) ∧
      (∀ a, e.Carries a → a.errorType ≠ "not_subscribed" →
        s.FailsToSubmit m d (some a.errorType) e) ∧
      ((¬∃ a, e.Carries a) → s.FailsToSubmit m d none e) := by
  constructor
  · rintro v rfl
    constructor
    · rw [told_iff hd, hs, ha]
      rfl
    · apply flashes_of_shown hd
      rw [hs, ha]
      rfl
  · rintro e rfl
    exact ⟨fun a => swallows_of_carries hd hs ha, fun a => failsToSubmit_of_carries hd hs ha,
      failsToSubmit_of_not_carries hd hs ha⟩

theorem submit_outcome_each :
    let absent : HttpError := .status 404 (some (.object
      [("code", .ofNat 7), ("message_short", .null), ("error_type", .string "not_subscribed")]))
    let quota : HttpError := .status 400 (some (.array [.string "quota", .null]))
    let start (answer : Except HttpError Json) :=
      bare { catalog := ⟨["news"], by decide, by decide⟩ } ⟨[], [], ⟨0, some answer⟩⟩
    let handed (answer : Except HttpError Json) : Delivery := ⟨.caller, .submit, some answer⟩
    (start (.ok .null)).Flashes (.call .submit) ⟨"Settings updated.", .success⟩ ∧
      (start (.error absent)).Swallows (.call .submit) (handed (.error absent)) ∧
      (start (.error quota)).FailsToSubmit (.call .submit) (handed (.error quota)) (some "quota")
        quota ∧
      (start (.error (.transport "down"))).FailsToSubmit (.call .submit)
        (handed (.error (.transport "down"))) none (.transport "down") := by
  intro absent quota start handed
  have h (answer : Except HttpError Json) :=
    submit_outcome (start answer) (.call .submit) (handed answer) answer rfl rfl rfl
  obtain ⟨hupdated, _⟩ := h (.ok .null)
  obtain ⟨hswallows, _⟩ := (h (.error absent)).2 absent rfl
  obtain ⟨_, htyped, _⟩ := (h (.error quota)).2 quota rfl
  obtain ⟨_, _, huntyped⟩ := (h (.error (.transport "down"))).2 _ rfl
  have habsent : absent.Carries ⟨"not_subscribed", none, none⟩ :=
    ⟨404, _, _, rfl, rfl, by decide, rfl⟩
  have hquota : quota.Carries ⟨"quota", none, none⟩ := ⟨400, _, _, rfl, rfl, by decide, rfl⟩
  refine ⟨(hupdated _ rfl).2, hswallows _ habsent rfl, htyped _ hquota (by decide), huntyped ?_⟩
  rintro ⟨_, _, _, _, ⟨⟩, _⟩

section Typed

variable {code : Nat} {ms : Json.Members}

theorem carries_object_iff {a : ApiError} :
    (HttpError.status code (some (.object ms))).Carries a ↔
      ApiError.Fits ms ∧ a = ApiError.ofFields ms := by
  constructor
  · rintro ⟨_, _, _, ⟨⟩, ⟨⟩, h⟩
    exact h
  · exact fun h => ⟨code, _, ms, rfl, rfl, h⟩

theorem fits_iff_messages_fit (hk : (Json.Members.keys ms).Nodup)
    (ht : (ApiError.errorTypeKey, .string "not_subscribed") ∈ ms) :
    ApiError.Fits ms ↔ ∀ p ∈ ms,
      p.1 = ApiError.messageShortKey ∨ p.1 = ApiError.messageLongKey →
        p.2.isText = true ∨ p.2.isNull = true := by
  constructor
  · exact fun h p hp => (h p hp).2
  · intro h p hp
    refine ⟨fun he => ?_, h p hp⟩
    have hx := Json.Members.last?_of_mem hk (he ▸ hp : (ApiError.errorTypeKey, p.2) ∈ ms)
    rw [Option.some.inj (hx.symm.trans (Json.Members.last?_of_mem hk ht))]
    rfl

variable (hd : s.delivered? m = some d) (hs : d.operation = .submit)
variable (ha : d.answer = some (.error (.status code (some (.object ms)))))

include hd hs ha

theorem failsToSubmit_of_not_fits (h : ¬ApiError.Fits ms) :
    s.FailsToSubmit m d none (.status code (some (.object ms))) := by
  apply failsToSubmit_of_not_carries hd hs ha
  rintro ⟨a, hc⟩
  exact h (carries_object_iff.mp hc).1

theorem swallows_iff_fits (hk : (Json.Members.keys ms).Nodup)
    (ht : (ApiError.errorTypeKey, .string "not_subscribed") ∈ ms) :
    s.Swallows m d ↔ ApiError.Fits ms := by
  constructor
  · intro h
    by_contra hn
    exact (failsToSubmit_of_not_fits hd hs ha hn).not_swallows h
  · intro h
    apply swallows_of_carries hd hs ha (carries_object_iff.mpr ⟨h, rfl⟩)
    rw [ApiError.ofFields, Json.Members.last?_of_mem hk ht]
    rfl

end Typed

/-- An error of the type that is swallowed, in an object, is swallowed if its messages are strings
or null where they are there, whatever else the object holds. If they are not, it is not even taken
for an error of the server, and is shown. -/
theorem swallows_iff_messages_fit (s : Session) (m : Move) (d : Delivery) (code : Nat)
    (ms : Json.Members) (hd : s.delivered? m = some d) (hs : d.operation = .submit)
    (ha : d.answer = some (.error (.status code (some (.object ms)))))
    (hk : (Json.Members.keys ms).Nodup)
    (ht : (ApiError.errorTypeKey, .string "not_subscribed") ∈ ms) :
    let messagesFit := ∀ p ∈ ms,
      p.1 = ApiError.messageShortKey ∨ p.1 = ApiError.messageLongKey →
        p.2.isText = true ∨ p.2.isNull = true
    (s.Swallows m d ↔ messagesFit) ∧
      (¬messagesFit → s.FailsToSubmit m d none (.status code (some (.object ms)))) := by
  intro messagesFit
  have hfits : ApiError.Fits ms ↔ messagesFit := fits_iff_messages_fit hk ht
  rw [← hfits]
  exact ⟨swallows_iff_fits hd hs ha hk ht, failsToSubmit_of_not_fits hd hs ha⟩

theorem swallows_iff_messages_fit_null :
    let ms : Json.Members :=
      [("message_long", .null), ("error_type", .string "not_subscribed"), ("code", .array [])]
    let answer : Except HttpError Json := .error (.status 409 (some (.object ms)))
    let s := bare { catalog := ⟨["news"], by decide, by decide⟩ }
      ⟨[], [⟨0, some answer⟩], ⟨0, none⟩⟩
    s.Swallows (.call .submit) ⟨.caller, .submit, some answer⟩ := by
  intro ms answer s
  obtain ⟨h, _⟩ := swallows_iff_messages_fit s (.call .submit) ⟨.caller, .submit, some answer⟩ 409
    ms rfl rfl rfl (by decide) (List.mem_cons_of_mem _ List.mem_cons_self)
  apply h.mpr
  decide

/-- With a message that is no string the same error is shown, and told as one without a type. -/
theorem swallows_not_with_number :
    let ms : Json.Members :=
      [("error_type", .string "not_subscribed"), ("message_short", .ofNat 5)]
    let e : HttpError := .status 400 (some (.object ms))
    let s := bare { catalog := ⟨["news"], by decide, by decide⟩ }
      ⟨[], [⟨0, some (.error e)⟩], ⟨0, none⟩⟩
    (ApiError.errorTypeKey, .string "not_subscribed") ∈ ms ∧
      s.delivered? (.call .submit) = some ⟨.caller, .submit, some (.error e)⟩ ∧
      ¬s.Swallows (.call .submit) ⟨.caller, .submit, some (.error e)⟩ ∧
      (s.call .submit).1 = .result (.submitted (.error (.submitFailed none e))) ∧
      (s.move (.call .submit)).model.status.value.messageClass = .danger := by
  intro ms e s
  have hs : s.Sound := sound_opened false _ .passthrough .default _
  have hc : ∀ p ∈ s.tasks, p.1 ≠ .caller := nofun
  obtain ⟨_, _, _, hsubmit, _⟩ := call_result hs hc .submit
  refine ⟨by simp [ms, ApiError.errorTypeKey], rfl, fun h => ?_, ?_, rfl⟩
  · cases h.told
  · rw [hsubmit]
    rfl

/-- A response brings no key twice, so that its body decides. -/
theorem posted_swallows_iff {c : Client} {path : String} {url : Url} {r : HttpResponse}
    {body : Json.Bytes} {ms : Json.Members} (hu : c.address path = .ok url)
    (hb : r.body? = some body) (hf : r.isSuccess = false) (hv : Json.Denotes body (.object ms))
    (hd : s.delivered? m = some d) (hs : d.operation = .submit)
    (ha : d.answer = some (c.exchange .post path (some r)))
    (ht : (ApiError.errorTypeKey, .string "not_subscribed") ∈ ms) :
    s.Swallows m d ↔ ∀ p ∈ ms,
      p.1 = ApiError.messageShortKey ∨ p.1 = ApiError.messageLongKey →
        p.2.isText = true ∨ p.2.isNull = true := by
  have hk := hv.nodup_keys
  rw [Client.exchange_eq_classify hu, Client.classify_of_failure hf,
    (Client.bodyJson?_eq_some_iff hb).mpr hv] at ha
  rw [swallows_iff_fits hd hs ha hk ht, fits_iff_messages_fit hk ht]

end Session

end MailPrefs
