import MailPrefs.Client
import MailPrefs.Proofs.Decoding
import MailPrefs.Proofs.Json.ReadBack
import MailPrefs.Proofs.Session.Awaiting
import MailPrefs.Proofs.Subscribed.Loads

namespace MailPrefs

/-- Whether a value lists the fields of an error: its type, and then
at most two messages, each of which may be absent. -/
def ApiError.isListed : Json → Bool
  | .array xs => xs.length ≤ 3 && xs.head?.all Json.isText &&
      xs.tail.all fun x => x.isText || x.isNull
  | _ => false

def Report.isListed : Json → Bool
  | .array xs => xs.length ≤ 1 && xs.all fun x => x.isObject || x.isNull
  | _ => false

theorem ApiError.ofItems_toOption (xs : List Json) :
    (ofItems xs).toOption.isSome = isListed (.array xs) := by
  match xs with
  | [] => rfl
  | [t] => cases t <;> rfl
  | [t, s] => cases t <;> cases s <;> rfl
  | [t, s, l] => cases t <;> cases s <;> cases l <;> rfl
  | t :: s :: l :: x :: rest =>
    have hl : isListed (.array (t :: s :: l :: x :: rest)) = false := by
      simp [isListed]
    rw [hl]
    cases t <;> cases s <;> cases l <;> rfl

theorem ApiError.ofJson_toOption {v : Json} (h : v.isObject = false) :
    (ofJson v).toOption.isSome = isListed v := by
  cases v with
  | object ms => cases h
  | array xs => exact ofItems_toOption xs
  | null | bool | number | string => rfl

theorem Report.ofJson_toOption {v : Json} (h : v.isObject = false) :
    (ofJson v).toOption.isSome = isListed v := by
  cases v with
  | object ms => cases h
  | array xs =>
    match xs with
    | [] => rfl
    | [x] => cases x <;> rfl
    | x :: y :: rest =>
      have hl : isListed (.array (x :: y :: rest)) = false := by simp [isListed]
      rw [hl]
      cases x <;> rfl
  | null | bool | number | string => rfl

theorem HttpError.apiError?_eq_none_iff {v : Json} (h : v.isObject = false) (code : Nat) :
    (status code (some v)).apiError? = none ↔ ApiError.isListed v = false := by
  rw [← ApiError.ofJson_toOption h, Option.isSome_eq_false_iff, Option.isNone_iff_eq_none]
  rfl

theorem reportOf_eq_decode_iff {v : Json} (h : v.isObject = false) :
    (∃ reason, ViewModel.reportOf (.ok v) = .error (.decode reason)) ↔
      Report.isListed v = false := by
  rw [← Report.ofJson_toOption h]
  have hr : ViewModel.reportOf (.ok v) =
      (Report.ofJson v).mapError fun e => .decode e.message := rfl
  rw [hr]
  cases Report.ofJson v with
  | error e => exact iff_of_true ⟨e.message, rfl⟩ rfl
  | ok r => exact iff_of_false nofun nofun

namespace Session

variable {s : Session} {m : Move} {d : Delivery}

theorem model_of_delivered (h : s.delivered? m = some d) :
    (s.move m).model = s.model.answered d.operation d.answer := by
  obtain ⟨job, hj, hd⟩ := Option.bind_eq_some_iff.mp h
  have ha : s.modelAfter job = s.model.answered d.operation d.answer := by
    cases job with
    | reset => cases hd
    | render | start | resume | armReset =>
      simp only [modelAfter, taken?_eq, hd, Option.map_some, Option.elim_some]
  rw [move_model]
  cases m with
  | toggle | message => cases hj
  | call | spawn | run | tick | nudge | takeLoad | unmount =>
    simp only [modelAfterMove, hj, Option.elim_some, ha]

theorem answered_refusal {code : Nat} {body : Option Json}
    (h : (HttpError.status code body).apiError? = none) (model : ViewModel) :
    model.answered .submit (some (.error (.status code body))) =
      { model with status := model.status.set ⟨model.submitFailedMessage, .danger⟩ } := by
  simp only [ViewModel.answered, ViewModel.finishSubmit, h]
  exact ViewModel.showMessage_fst ..

/-- A submit is told that it failed, without a type of error, and says so. -/
structure FailsUntyped (s : Session) (m : Move) (owner : Owner) (code : Nat) (body : Json) :
    Prop where
  untyped : (HttpError.status code (some body)).apiError? = none
  told : (s.move m).toldAfter s.trace.length =
    [(owner, .submitted (.error (.submitFailed none (.status code (some body)))))]
  shown : (s.move m).model.status.value = ⟨s.model.submitFailedMessage, .danger⟩

structure FailsUndecoded (s : Session) (m : Move) (owner : Owner) : Prop where
  told : ∃ reason, (s.move m).toldAfter s.trace.length =
    [(owner, .loaded (.error (.fetchFailed (.decode reason))))]
  shown : (s.move m).model.status.value =
    ⟨s.model.localizer.translate fetchFailedText, .danger⟩
  subscribed : (s.move m).model.subscribed = s.model.subscribed

theorem failsUntyped_iff {code : Nat} {body : Json} (hd : s.delivered? m = some d)
    (hs : d.operation = .submit) (ha : d.answer = some (.error (.status code (some body)))) :
    s.FailsUntyped m d.owner code body ↔
      (HttpError.status code (some body)).apiError? = none := by
  refine ⟨FailsUntyped.untyped, fun h => ⟨h, ?_, ?_⟩⟩
  · rw [told_of_delivered hd, Delivery.outcome, hs, ha, Operation.result, h]
    rfl
  · rw [model_of_delivered hd, hs, ha, answered_refusal h]
    rfl

theorem failsUndecoded_iff {v : Json} (hd : s.delivered? m = some d) (hl : d.operation = .load)
    (ha : d.answer = some (.ok v)) :
    s.FailsUndecoded m d.owner ↔
      ∃ reason, ViewModel.reportOf (.ok v) = .error (.decode reason) := by
  have ht := told_of_delivered hd
  rw [Delivery.outcome, hl, ha] at ht
  constructor
  · rintro ⟨⟨reason, htold⟩, _, _⟩
    rw [ht] at htold
    cases hr : ViewModel.reportOf (.ok v) with
    | ok r =>
      rw [Operation.load_result_of_ok hr] at htold
      cases htold
    | error e =>
      rw [Operation.load_result_of_error hr] at htold
      cases htold
      exact ⟨reason, rfl⟩
  · rintro ⟨reason, hr⟩
    rw [Operation.load_result_of_error hr] at ht
    have hm := ViewModel.finishLoad_of_error (m := s.model) hr
    have hmove : (s.move m).model = (s.model.finishLoad (.ok v)).2.1 := by
      rw [model_of_delivered hd, hl, ha]
      rfl
    exact ⟨⟨reason, ht⟩, by rw [hmove, hm]; rfl, by rw [hmove, hm]⟩

/-- An answer that holds no object is one without an error and without a report, unless it lists
the fields of what is asked for by position. Unless it does, and only then, a submit that gets it
without success fails untyped and a load that gets it with success fails undecoded. -/
theorem non_objects_unread (v : Json) (hv : v.isObject = false) :
    (∀ code, (HttpError.status code (some v)).apiError? = none ↔ ApiError.isListed v = false) ∧
    ∀ (s : Session) (m : Move) (d : Delivery) (response : HttpResponse),
      s.delivered? m = some d → Client.bodyJson? response = some v →
      (d.operation = .submit → response.isSuccess = false →
        d.answer = some (Client.classify .post response) →
        (s.FailsUntyped m d.owner response.status v ↔ ApiError.isListed v = false)) ∧
      (d.operation = .load → response.isSuccess = true →
        d.answer = some (Client.classify .get response) →
        (s.FailsUndecoded m d.owner ↔ Report.isListed v = false)) := by
  refine ⟨HttpError.apiError?_eq_none_iff hv, fun s m d response hd hb => ⟨?_, ?_⟩⟩
  · intro hs hr ha
    have hc : Client.classify .post response = .error (.status response.status (some v)) := by
      simp only [Client.classify, hr, hb, Bool.not_false, if_true]
    rw [failsUntyped_iff hd hs (ha.trans (congrArg some hc))]
    exact HttpError.apiError?_eq_none_iff hv _
  · intro hl hr ha
    have hc : Client.classify .get response = .ok v := by
      simp only [Client.classify, hr, hb, Bool.not_true, Bool.false_eq_true, if_false,
        Option.elim_some]
    rw [failsUndecoded_iff hd hl (ha.trans (congrArg some hc))]
    exact reportOf_eq_decode_iff hv

theorem non_objects_unread_text :
    let v := Json.string "bad gateway"
    let refusal : HttpResponse := ⟨502, some v.compact.toUTF8.toList⟩
    let success : HttpResponse := ⟨200, some v.compact.toUTF8.toList⟩
    let s := bare { catalog := ⟨["news"], by decide, by decide⟩ }
      ⟨[⟨0, some (Client.classify .get success)⟩], [⟨0, some (Client.classify .post refusal)⟩],
        ⟨0, none⟩⟩
    v.isObject = false ∧ Client.bodyJson? refusal = some v ∧ Client.bodyJson? success = some v ∧
      s.FailsUntyped (.call .submit) .caller 502 v ∧ s.FailsUndecoded (.call .load) .caller := by
  intro v refusal success s
  have hp : Json.parseString v.compact = .ok v :=
    Json.parseString_compact (Json.readsBack_string _)
  have hb : Client.bodyJson? refusal = some v := congrArg Except.toOption hp
  have hb' : Client.bodyJson? success = some v := congrArg Except.toOption hp
  obtain ⟨_, h⟩ := non_objects_unread v rfl
  refine ⟨rfl, hb, hb', ?_, ?_⟩
  · exact ((h s (.call .submit) ⟨.caller, .submit, _⟩ refusal rfl hb).1 rfl rfl rfl).mpr rfl
  · exact ((h s (.call .load) ⟨.caller, .load, _⟩ success rfl hb').2 rfl rfl rfl).mpr rfl

/-- Not even an empty list is refused: a submit that is answered with one fails with an error of an
empty type, and a load succeeds. A list that names the right type passes for the error of a server
that had nothing to drop. -/
theorem empty_list_read :
    let refusal : HttpResponse := ⟨400, some [0x5B, 0x5D]⟩
    let success : HttpResponse := ⟨200, some [0x5B, 0x5D]⟩
    let s := bare { catalog := ⟨["news"], by decide, by decide⟩ }
      ⟨[⟨0, some (Client.classify .get success)⟩], [⟨0, some (Client.classify .post refusal)⟩],
        ⟨0, none⟩⟩
    Client.bodyJson? refusal = some (.array []) ∧ Client.bodyJson? success = some (.array []) ∧
      (HttpError.status 400 (some (.array []))).apiError? = some {} ∧
      ¬s.FailsUntyped (.call .submit) .caller 400 (.array []) ∧
      ¬s.FailsUndecoded (.call .load) .caller ∧
      (s.call .submit).1 = .result (.submitted (.error
        (.submitFailed (some "") (.status 400 (some (.array [])))))) ∧
      (s.call .load).1 = .result (.loaded (.ok ())) ∧
      (HttpError.status 400 (some (.array [.string "not_subscribed"]))).apiError?.any
        (·.isNotSubscribed) = true := by
  intro refusal success s
  have hs : s.Sound := sound_opened false _ .passthrough .default _
  have hc : ∀ p ∈ s.tasks, p.1 ≠ .caller := nofun
  obtain ⟨_, _, _, hsubmit, _⟩ := call_result hs hc .submit
  obtain ⟨_, _, _, hload, _⟩ := call_result hs hc .load
  refine ⟨rfl, rfl, rfl, fun h => ?_, fun h => ?_, ?_, ?_, by decide⟩
  · cases h.untyped
  · obtain ⟨reason, ht⟩ := h.told
    cases ht
  · rw [hsubmit]
    rfl
  · rw [hload]
    rfl

end Session

end MailPrefs
