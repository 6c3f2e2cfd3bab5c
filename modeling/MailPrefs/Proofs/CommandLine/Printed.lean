import MailPrefs.Proofs.CommandLine.Run
import MailPrefs.Proofs.Status.Uncleared
import MailPrefs.Proofs.Subscribed.Consistency
import MailPrefs.Proofs.View.Convergence

namespace MailPrefs

def Output.frame? : Output → Option Frame
  | .frame f => some f
  | .log _ => none

/-- A message as a line of text, which there is only if the message has a text. -/
def StatusMessage.line? (m : StatusMessage) : Option String :=
  if m.text = "" then none else some (m.messageClass.name ++ ": " ++ m.text)

theorem Terminal.lines_status (m : StatusMessage) : lines (.status m) = m.line?.toList := by
  simp only [lines, StatusMessage.isEmpty, StatusMessage.line?, String.isEmpty_iff]
  split <;> rfl

namespace Outcome

def frames (o : Outcome) : List Frame :=
  o.output.filterMap Output.frame?

def statusLines (o : Outcome) : List String :=
  (o.frames.filterMap Frame.status?).flatMap fun message => Terminal.lines (.status message)

/-- Frames are printed in their order, with nothing but log lines in between. -/
theorem stdout_frames (o : Outcome) (filter : Log.Filter) :
    ∃ texts, o.stdout filter = String.join texts ∧
      (o.frames.map Terminal.print).Sublist texts := by
  refine ⟨_, rfl, ?_⟩
  rw [frames]
  induction o.output with
  | nil => exact .refl _
  | cons e es ih =>
    cases e with
    | frame f =>
      have hf : (Output.frame f :: es).filterMap Output.frame? = f :: es.filterMap Output.frame? :=
        rfl
      rw [hf]
      exact ih.cons_cons _
    | log r =>
      rw [List.filterMap_cons_none rfl]
      exact ih.cons _

end Outcome

theorem ViewModel.outcome?_class {m : ViewModel} {operation : Operation}
    {answer : Option (Except HttpError Json)} {message : StatusMessage}
    (h : m.outcome? operation answer = some message) : message.messageClass ≠ .info := by
  cases answer with
  | none => cases operation <;> cases h
  | some answer =>
    cases operation with
    | load =>
      simp only [outcome?] at h
      split at h
      · cases h
      · cases h
        rintro ⟨⟩
    | submit =>
      cases answer with
      | ok body =>
        cases h
        rintro ⟨⟩
      | error e =>
        simp only [outcome?] at h
        split at h
        · cases h
        · cases h
          rintro ⟨⟩

theorem ViewModel.outcome?_unread (m : ViewModel) {answer : Except HttpError Json} {e : HttpError}
    (h : reportOf answer = .error e) :
    m.outcome? .load (some answer) = some ⟨m.localizer.translate fetchFailedText, .danger⟩ := by
  simp only [outcome?, h]

theorem ViewModel.outcome?_read (m : ViewModel) {answer : Except HttpError Json} {r : Report}
    (h : reportOf answer = .ok r) : m.outcome? .load (some answer) = none := by
  simp only [outcome?, h]

namespace Session

variable {s : Session} {written : Option StatusMessage}

theorem Tracks.statuses_eq (h : s.Tracks written.toList) (hv : s.view.isSome = true)
    (hr : s.ready = []) (hw : ∀ message, written = some message → message.messageClass ≠ .info) :
    s.frames.filterMap Frame.status? = {} :: written.toList := by
  obtain ⟨later, hf, hsub⟩ := h.shown
  rw [hf]
  cases written with
  | none => rw [List.sublist_nil.mp hsub]; rfl
  | some message =>
    rcases List.sublist_singleton.mp hsub with rfl | rfl
    · -- Then the first message would be shown last, but another one was written.
      obtain ⟨v, hv⟩ := Option.isSome_iff_exists.mp hv
      have hn := h.hasNews_of_parked hv (hr ▸ List.not_mem_nil)
      have ht := (Bool.or_eq_false_iff.mp hn).2
      have hl := (h.shows v hv).status (Watch.hasChanged_eq_false.mp ht)
      rw [hf, (h.shows v hv).history] at hl
      exact absurd (congrArg StatusMessage.messageClass (Option.some.inj hl)).symm (hw message rfl)
    · rfl

theorem Tracks.checkboxes_eq {written : List StatusMessage} (h : s.Tracks written)
    (hv : s.view.isSome = true) (hr : s.ready = []) :
    (s.frames.filterMap Frame.checkboxes?).getLast? = some s.model.checkboxes := by
  obtain ⟨v, hv⟩ := Option.isSome_iff_exists.mp hv
  have hn := h.hasNews_of_parked hv (hr ▸ List.not_mem_nil)
  have hs := (Bool.or_eq_false_iff.mp hn).1
  exact (h.shows v hv).checkboxes (Watch.hasChanged_eq_false.mp hs)

theorem step_plays (hs : s.Sound) (c : Command) : ∃ ms, (s.step c).2 = s.play ms := by
  obtain ⟨ms, _, _, he⟩ := (drifts_perform c hs).trans (.settle keepsTime_run _)
  exact ⟨c.moves ++ ms, he.trans (play_append s c.moves ms).symm⟩

theorem clocked_toggles (s : Session) (ts : List (String × Bool)) :
    s.Clocked (toggleMoves ts) := by
  induction ts generalizing s with
  | nil => trivial
  | cons t ts ih => exact ⟨trivial, ih _⟩

theorem writes_toggles (s : Session) (ts : List (String × Bool)) :
    s.writes (toggleMoves ts) = [] ∧ (s.play (toggleMoves ts)).expected.Perm s.expected ∧
      (s.play (toggleMoves ts)).view.isSome = s.view.isSome := by
  have hw : s.writes (toggleMoves ts) = [] := collect_toggles (fun _ _ _ => rfl) s ts
  have ht : s.timeline (toggleMoves ts) = [] := collect_toggles (fun _ _ _ => rfl) s ts
  have hp := play_expected (s.clocked_toggles ts)
  rw [ht, List.filterMap_nil, List.append_nil] at hp
  refine ⟨hw, hp.symm, ?_⟩
  rw [← isSome_loadTaken, ← isSome_loadTaken, play_loadTaken]
  intro m hm
  obtain ⟨t, _, rfl⟩ := List.mem_map.mp hm
  exact ⟨nofun, nofun⟩

/-- What a submit after toggles shows stands when the caller goes on. -/
theorem step_submit_stands (hs : s.Sound) (ht : s.tasks = []) (he : s.expected = [])
    (ts : List (String × Bool)) :
    ∃ ms d, ((s.play (toggleMoves ts)).step .submit).2 = (s.play (toggleMoves ts)).play ms ∧
      d.operation = .submit ∧ d.answer = (s.server.reply .submit).1.answer ∧
      (s.play (toggleMoves ts)).Stands ms d := by
  obtain ⟨_, hperm, hserver⟩ := play_toggles s ts
  obtain ⟨_, hexp, _⟩ := writes_toggles s ts
  rw [ht] at hperm
  rw [he] at hexp
  obtain ⟨ms, d, hstep, hd, hst⟩ :=
    step_call_stands (hs.play _) hperm.symm.eq_nil hexp.eq_nil .submit
  have ha := hst.answer
  rw [hd, hserver] at ha
  exact ⟨ms, d, congrArg Prod.snd hstep, hd, ha, hst⟩

end Session

namespace Plan

variable {p : Plan} {arrivals : List Arrival}

open Session

theorem frames_eq (p : Plan) (s : Session) :
    (s.trace.filterMap p.outputOf?).filterMap Output.frame? = s.frames := by
  rw [Session.frames, List.filterMap_filterMap]
  apply List.filterMap_congr
  intro e _
  cases e <;> rfl

theorem carryOut_frames (p : Plan) (arrivals : List Arrival) :
    (p.carryOut arrivals).frames = (p.work (p.session arrivals)).2.frames := by
  have hl : (p.preparation.map Output.log).filterMap Output.frame? = [] := by
    rw [List.filterMap_map]
    exact List.filterMap_eq_nil_iff.mpr fun _ _ => rfl
  rw [carryOut]
  generalize p.work (p.session arrivals) = done
  rw [Outcome.frames, List.filterMap_append, hl, List.nil_append]
  exact p.frames_eq done.2

theorem submit_session (p : Plan) (s : Session) :
    ∃ records : List Log.Record, (p.submit s).2 =
      { (s.step .submit).2 with
        trace := (s.step .submit).2.trace ++ records.map Event.logged } := by
  rw [submit]
  generalize s.step .submit = told
  obtain ⟨answer, s'⟩ := told
  split
  · next outcome _ h =>
    cases h
    exact ⟨[p.savedRecord outcome], rfl⟩
  · next h =>
    cases h
    exact ⟨[], by rw [List.map_nil, List.append_nil]⟩
  · next h =>
    cases h
    exact ⟨[], by rw [List.map_nil, List.append_nil]⟩

theorem submit_frames (p : Plan) (s : Session) :
    (p.submit s).2.frames = (s.step .submit).2.frames := by
  obtain ⟨records, he⟩ := p.submit_session s
  have hn : (records.map Event.logged).filterMap Event.frame? = [] := by
    rw [List.filterMap_map]
    exact List.filterMap_eq_nil_iff.mpr fun _ _ => rfl
  rw [he, Session.frames, List.filterMap_append, hn, List.append_nil]
  rfl

/-- The session comes to rest after these moves, with at most one message written. -/
structure Rests (p : Plan) (arrivals : List Arrival) (ms : List Move)
    (written : Option StatusMessage) : Prop where
  ready : ((p.session arrivals).play ms).ready = []
  view : ((p.session arrivals).play ms).view.isSome = true
  writes : (p.session arrivals).writes ms = written.toList

variable {ms : List Move} {written : Option StatusMessage}

theorem Rests.tracks (h : p.Rests arrivals ms written) :
    ((p.session arrivals).play ms).Tracks written.toList :=
  h.writes ▸ tracks_play p.catalog p.localizer (.plain p.settings.supportEmail) _ ms

theorem load_rests (p : Plan) (arrivals : List Arrival) :
    ∃ ms, ((p.session arrivals).step .awaitLoad).2 = (p.session arrivals).play ms ∧
      (∀ e, p.read arrivals = .error e →
        p.Rests arrivals ms (some ⟨p.localizer.translate fetchFailedText, .danger⟩)) ∧
      ∀ r, p.read arrivals = .ok r →
        p.Rests arrivals ms none ∧ ((p.session arrivals).play ms).expected = [] := by
  obtain ⟨ms, d, he, hd, hst⟩ := mount_step_awaitLoad_stands (p.session arrivals).model
    (p.session arrivals).server
  have hs : ((p.session arrivals).step .awaitLoad).2 = (p.session arrivals).play ms :=
    congrArg Prod.snd he
  have hr : ((p.session arrivals).play ms).ready = [] := hs ▸ settle_rest _
  have ho : d.answer =
      some (p.client.exchange .get settingsPath (arrivals.getD 0 {}).response) := by
    rw [hst.answer, hd]
    rfl
  refine ⟨ms, hs, fun e h => ?_, fun r h => ?_⟩
  · have hshown := (p.session arrivals).model.outcome?_unread h
    rw [← ho, ← hd] at hshown
    exact ⟨hr, hst.view, hst.writes.trans (congrArg Option.toList hshown)⟩
  · have hnone := (p.session arrivals).model.outcome?_read h
    rw [← ho, ← hd] at hnone
    exact ⟨⟨hr, hst.view, hst.writes.trans (congrArg Option.toList hnone)⟩,
      hst.expected rfl hnone⟩

theorem carryOut_plays (p : Plan) (arrivals : List Arrival) :
    ∃ ms, (p.carryOut arrivals).frames = ((p.session arrivals).play ms).frames := by
  obtain ⟨ms, hplay, _⟩ := p.load_rests arrivals
  obtain ⟨s, he, hsound, _⟩ := p.session_loaded arrivals
  obtain rfl : (p.session arrivals).play ms = s := hplay.symm.trans (congrArg Prod.snd he)
  rw [carryOut_frames]
  cases hr : p.read arrivals with
  | error e =>
    rw [Operation.load_result_of_error hr] at he
    exact ⟨ms, by rw [work_of_error he]⟩
  | ok r =>
    rw [Operation.load_result_of_ok hr] at he
    rw [work_of_ok he]
    by_cases hk : ∀ t ∈ p.arguments.toggles,
        t.1 ∈ ((p.session arrivals).play ms).model.catalog.keys
    · rw [toggleAll_known _ _ hk]
      simp only
      split
      · obtain ⟨ms', he'⟩ := step_plays (hsound.play (toggleMoves p.arguments.toggles)) .submit
        refine ⟨ms ++ toggleMoves p.arguments.toggles ++ ms', ?_⟩
        rw [submit_frames, he', play_append, play_append]
      · exact ⟨_, by rw [← play_append]⟩
    · obtain ⟨e, ts, ht⟩ := toggleAll_unknown hk
      exact ⟨_, by rw [ht, ← play_append]⟩

theorem frames_head (p : Plan) (arrivals : List Arrival) (ms : List Move) :
    ((p.session arrivals).play ms).frames.head? =
      some (.checkboxes (p.catalog.keys.map fun k => (k, false))) := by
  obtain ⟨events, ht⟩ := (play_tells (p.session arrivals) ms).trace_grows
  rw [Session.frames, ← ht, List.filterMap_append]
  rfl

theorem Rests.submit (h : p.Rests arrivals ms none) {ts : List (String × Bool)} {ms' : List Move}
    {d : Delivery} (hst : (((p.session arrivals).play ms).play (toggleMoves ts)).Stands ms' d)
    (hr : ((((p.session arrivals).play ms).play (toggleMoves ts)).play ms').ready = []) :
    p.Rests arrivals (ms ++ toggleMoves ts ++ ms')
      ((p.session arrivals).model.outcome? d.operation d.answer) := by
  obtain ⟨hw, _, hv⟩ := writes_toggles ((p.session arrivals).play ms) ts
  refine ⟨?_, ?_, ?_⟩
  · rw [play_append, play_append, hr]
  · rw [play_append, play_append, hst.view, hv, h.view]
  · rw [writes_append, writes_append, h.writes, hw, play_append, hst.writes, play_outcome?,
      play_outcome?]
    rfl

theorem update_eq {r : Report} {m : ViewModel} (hc : m.catalog = p.catalog)
    (hm : ∀ k, k ∈ m.subscribed.value ↔ k ∈ p.catalog.keys ∧
      (k ∈ p.arguments.subscribe ∨ r.isSubscribed k = true ∧ k ∉ p.arguments.unsubscribe)) :
    p.update r = .post settingsUpdatePath
      (.object (m.checkboxes.map fun (k, b) => (k, .bool b))) := by
  apply congrArg fun members => Request.post settingsUpdatePath (.object members)
  rw [ViewModel.checkboxes, List.map_map, hc]
  apply List.map_congr_left
  intro k hk
  have hiff := (hm k).trans (and_iff_right hk)
  rw [Function.comp_apply, List.contains_eq_mem, decide_eq_decide.mpr hiff]

theorem carryOut_unread {e : HttpError} (h : p.read arrivals = .error e) :
    ∃ ms, (p.carryOut arrivals).frames = ((p.session arrivals).play ms).frames ∧
      p.Rests arrivals ms (some ⟨p.localizer.translate fetchFailedText, .danger⟩) := by
  obtain ⟨ms, hplay, hrests, _⟩ := p.load_rests arrivals
  obtain ⟨s, he, _⟩ := p.session_loaded arrivals
  rw [he] at hplay
  rw [Operation.load_result_of_error h] at he
  refine ⟨ms, ?_, hrests e h⟩
  rw [carryOut_frames, work_of_error he, ← hplay]

theorem carryOut_submitted {r : Report} (h : p.read arrivals = .ok r)
    (hk : ∀ t ∈ p.arguments.toggles, t.1 ∈ p.catalog.keys) (hs : p.arguments.submits = true) :
    ∃ ms, (p.carryOut arrivals).frames = ((p.session arrivals).play ms).frames ∧
      p.Rests arrivals ms
        ((p.session arrivals).model.outcome? .submit (some (p.written arrivals))) ∧
      p.update r = .post settingsUpdatePath
        (.object (((p.session arrivals).play ms).model.checkboxes.map fun (k, b) =>
          (k, .bool b))) := by
  obtain ⟨s, he, hsound, htasks, _, hc, ha, hm⟩ := p.session_read h
  obtain ⟨ms, hplay, _, hrests⟩ := p.load_rests arrivals
  obtain rfl : (p.session arrivals).play ms = s := hplay.symm.trans (congrArg Prod.snd he)
  obtain ⟨hrest, hexp⟩ := hrests r h
  obtain ⟨ms', d, hstep, hd, hda, hst⟩ :=
    step_submit_stands hsound htasks hexp p.arguments.toggles
  have hrest' := hrest.submit hst (hstep ▸ settle_rest _)
  rw [hd, hda, ha] at hrest'
  refine ⟨_, ?_, hrest', ?_⟩
  · rw [carryOut_frames, work_of_ok he, toggleAll_known _ _ (hc ▸ hk), play_append, play_append]
    simp only [hs, if_true]
    rw [submit_frames, hstep]
  · have hsub := play_subscribed
      (((p.session arrivals).play ms).play (toggleMoves p.arguments.toggles)) ms'
    rw [hst.changes, hd] at hsub
    rw [play_append, play_append]
    refine update_eq ?_ fun k => ?_
    · rw [play_catalog, play_catalog, hc]
    · rw [hsub]
      exact hm hk k

theorem Rests.statusLines (h : p.Rests arrivals ms written)
    (hw : ∀ message, written = some message → message.messageClass ≠ .info) {o : Outcome}
    (ho : o.frames = ((p.session arrivals).play ms).frames) :
    o.statusLines = (written.bind StatusMessage.line?).toList := by
  have hn : Terminal.lines (.status {}) = [] := rfl
  rw [Outcome.statusLines, ho, h.tracks.statuses_eq h.view h.ready hw, List.flatMap_cons, hn,
    List.nil_append]
  cases written with
  | none => rfl
  | some message =>
    rw [Option.toList_some, List.flatMap_singleton, Terminal.lines_status]
    rfl

end Plan

namespace Invocation

/-- What a run with a plan has printed when it ends: first each key of the catalog, unchecked. If
the settings cannot be read there is a line for that. If the run gets to its submit, the last
checkboxes are those that it posted, and there is a line for the outcome unless the server says that
there was nothing to drop. A message without a text has no line. -/
theorem run_prints (i : Invocation) (arrivals : List Arrival) {a : Arguments}
    (ha : Arguments.parse i.arguments = .ok a) {p : Plan} (hp : i.Prepares a p) :
    let o := i.run arrivals
    let lines (text : String) (messageClass : MessageClass) :=
      (StatusMessage.line? ⟨text, messageClass⟩).toList
    (∀ filter, ∃ texts, o.stdout filter = String.join texts ∧
      (o.frames.map Terminal.print).Sublist texts) ∧
    o.frames.head? = some (.checkboxes (p.catalog.keys.map fun k => (k, false))) ∧
    (∀ e, p.read arrivals = .error e →
      o.statusLines = lines (p.localizer.translate fetchFailedText) .danger) ∧
    ∀ r, p.read arrivals = .ok r → (∀ k ∈ a.subscribe ++ a.unsubscribe, k ∈ p.catalog.keys) →
      a.submits = true →
      (∃ shown, (o.frames.filterMap Frame.checkboxes?).getLast? = some shown ∧
        shown.map Prod.fst = p.catalog.keys ∧
        o.Ends p.client (if Plan.isDone (p.written arrivals) then 0 else 1)
          [.get settingsPath,
            .post settingsUpdatePath (.object (shown.map fun (k, b) => (k, .bool b)))]) ∧
      (∀ body, p.written arrivals = .ok body →
        o.statusLines = lines (p.localizer.translate settingsUpdatedText) .success) ∧
      ∀ e, p.written arrivals = .error e →
        (e.apiError?.any (·.isNotSubscribed) = true → o.statusLines = []) ∧
        (e.apiError?.any (·.isNotSubscribed) = false →
          o.statusLines = lines (p.localizer.translate submitFailedText ++
            p.localizer.format reportToText [p.settings.supportEmail]) .danger) := by
  have hrun : i.run arrivals = p.carryOut arrivals := by
    simp only [run, ha, (i.plan_eq_ok_iff a p).mpr hp]
  obtain rfl := hp.arguments
  rw [hrun]
  refine ⟨Outcome.stdout_frames _, ?_, fun e he => ?_, fun r hr hk hs => ?_⟩
  · obtain ⟨ms, hf⟩ := p.carryOut_plays arrivals
    rw [hf, Plan.frames_head]
  · obtain ⟨ms, hf, hrests⟩ := Plan.carryOut_unread he
    refine hrests.statusLines ?_ hf
    rintro _ ⟨⟩ ⟨⟩
  · rw [← Plan.toggles_known] at hk
    obtain ⟨ms, hf, hrests, hu⟩ := Plan.carryOut_submitted hr hk hs
    have hends := Plan.carryOut_ends (Plan.work_submitted hr hk hs)
    rw [hu] at hends
    have hl := hrests.statusLines (fun _ => ViewModel.outcome?_class) hf
    refine ⟨⟨_, ?_, ?_, hends⟩, fun body hb => ?_, fun e he => ⟨fun hn => ?_, fun hn => ?_⟩⟩
    · rw [hf, hrests.tracks.checkboxes_eq hrests.view hrests.ready]
    · rw [ViewModel.checkboxes_keys, Session.play_catalog]
      rfl
    · rw [hl, hb]
      rfl
    · rw [hl, he, ViewModel.outcome?, if_pos hn]
      rfl
    · rw [hl, he, ViewModel.outcome?, hn, if_neg Bool.false_ne_true]
      rfl

theorem run_prints_toggled :
    ∃ (i : Invocation) (a : Arguments) (p : Plan) (r : Report) (arrivals : List Arrival),
      i.arguments = ["--unsubscribe", "osf_help", "--subscribe", "osf_help",
        "--subscribe", "osf_general"] ∧
      Arguments.parse i.arguments = .ok a ∧ i.Prepares a p ∧ p.read arrivals = .ok r ∧
      (∀ k ∈ a.subscribe ++ a.unsubscribe, k ∈ p.catalog.keys) ∧ a.submits = true ∧
      (i.run arrivals).frames.head? =
        some (.checkboxes [("osf_general", false), ("osf_help", false)]) ∧
      ((i.run arrivals).frames.filterMap Frame.checkboxes?).getLast? =
        some [("osf_general", true), ("osf_help", true)] ∧
      (i.run arrivals).Ends p.client 0
        [.get settingsPath,
          .post settingsUpdatePath
            (.object [("osf_general", .bool true), ("osf_help", .bool true)])] ∧
      (i.run arrivals).statusLines = ["success: Settings updated."] := by
  have hc : Client.ofUrl "http://127.0.0.1:5000" = .ok ⟨"http://127.0.0.1:5000"⟩ := by rfl
  let body := "\x7b\"mailing_lists\":\x7b\"osf_help\":true\x7d\x7d".toUTF8.toList
  let arrivals : List Arrival := [⟨40, some ⟨200, some body⟩⟩, ⟨7000, some ⟨200, some []⟩⟩]
  let i : Invocation :=
    ⟨["--unsubscribe", "osf_help", "--subscribe", "osf_help", "--subscribe", "osf_general"],
      fun _ => .error .notFound, fun _ => none⟩
  let a : Arguments := { subscribe := ["osf_help", "osf_general"], unsubscribe := ["osf_help"] }
  let p : Plan :=
    ⟨a, {}, ⟨["osf_general", "osf_help"], by decide, by decide⟩, ⟨"http://127.0.0.1:5000"⟩,
      .passthrough, []⟩
  have ha : Arguments.parse i.arguments = .ok a := by decide +kernel
  have hp : i.Prepares a p := ⟨rfl, by decide +kernel, rfl, hc, rfl⟩
  have hok : (p.read arrivals).isOk = true := by decide +kernel
  have hd : Plan.isDone (p.written arrivals) = true := by decide +kernel
  have hw : (p.written arrivals).isOk = true := by decide +kernel
  have hk : ∀ k ∈ a.subscribe ++ a.unsubscribe, k ∈ p.catalog.keys := by decide
  have hchecked : ((i.run arrivals).frames.filterMap Frame.checkboxes?).getLast? =
      some [("osf_general", true), ("osf_help", true)] := by decide +kernel
  obtain ⟨_, hfirst, _, hsubmitted⟩ := run_prints i arrivals ha hp
  cases hr : p.read arrivals with
  | error e =>
    rw [hr] at hok
    cases hok
  | ok r =>
    cases hb : p.written arrivals with
    | error e =>
      rw [hb] at hw
      cases hw
    | ok b =>
      obtain ⟨⟨shown, hlast, _, hends⟩, hl, _⟩ := hsubmitted r hr hk rfl
      obtain rfl := Option.some.inj (hchecked.symm.trans hlast)
      rw [hd] at hends
      exact ⟨i, a, p, r, arrivals, rfl, ha, hp, hr, hk, rfl, hfirst, hlast, hends,
        (hl b hb).trans (by decide)⟩

/-- A failure whose message is translated to an empty text leaves no line. -/
theorem run_prints_empty_text :
    ¬∀ (i : Invocation) (arrivals : List Arrival) (a : Arguments) (p : Plan)
      (e : HttpError) (filter : Log.Filter), Arguments.parse i.arguments = .ok a →
      i.Prepares a p → p.read arrivals = .error e →
      ("danger: " ++ p.localizer.translate fetchFailedText ++ "\n").toList <:+:
        ((i.run arrivals).stdout filter).toList := by
  let read : ReadText := fun path =>
    if path = "t.toml" then .ok "\"Could not retrieve settings information.\" = \"\""
    else .error .notFound
  let env : String → Option String := fun name =>
    if name = "APP__TRANSLATIONS" then some "t.toml" else none
  let i : Invocation := ⟨[], read, env⟩
  let arrivals : List Arrival := [⟨1, some ⟨500, none⟩⟩]
  intro h
  have ha : Arguments.parse i.arguments = .ok {} := by decide +kernel
  have hplan : (match i.plan {} with
      | .ok p =>
        decide (p.localizer.translate fetchFailedText = "") && !(p.read arrivals).isOk
      | .error _ => false) = true := by decide +kernel
  have ho : (i.run arrivals).stdout ⟨[]⟩ = "[ ] osf_general\n[ ] osf_help\n" := by
    decide +kernel
  cases hp : i.plan {} with
  | error e =>
    rw [hp] at hplan
    cases hplan
  | ok p =>
    rw [hp] at hplan
    obtain ⟨ht, hr⟩ := Bool.and_eq_true_iff.mp hplan
    cases hread : p.read arrivals with
    | ok r =>
      rw [hread] at hr
      cases hr
    | error e =>
      have hi := h i arrivals {} p e ⟨[]⟩ ha ((i.plan_eq_ok_iff {} p).mp hp) hread
      rw [of_decide_eq_true ht, ho] at hi
      revert hi
      decide +kernel

end Invocation

end MailPrefs
