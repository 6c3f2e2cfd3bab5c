import MailPrefs.CommandLine.Run
import MailPrefs.Proofs.Except
import MailPrefs.Proofs.Session.Alone

namespace MailPrefs

structure Invocation.Prepares (i : Invocation) (a : Arguments) (p : Plan) : Prop where
  arguments : p.arguments = a
  settings : i.settings a = .ok p.settings
  catalog : Catalog.ofKeys p.settings.catalog = .ok p.catalog
  client : Client.ofUrl p.settings.serverUrl = .ok p.client
  translations : i.loadTranslations p.settings.translations = .ok (p.localizer, p.preparation)

theorem Invocation.plan_eq_ok_iff (i : Invocation) (a : Arguments) (p : Plan) :
    i.plan a = .ok p ↔ i.Prepares a p := by
  simp only [plan, bind_eq_ok_iff, mapError_eq_ok_iff]
  constructor
  · rintro ⟨settings, hs, catalog, hc, client, hu, t, ht, hp⟩
    cases hp
    exact ⟨rfl, hs, hc, hu, ht⟩
  · rintro ⟨rfl, hs, hc, hu, ht⟩
    exact ⟨_, hs, _, hc, _, hu, _, ht, rfl⟩

namespace Session

variable {s : Session}

def toggleMoves (ts : List (String × Bool)) : List Move :=
  ts.map fun (key, checked) => .toggle key checked

theorem collect_toggles {α : Type} {f : Session → Move → Option α}
    (hf : ∀ s key checked, f s (.toggle key checked) = none) (s : Session)
    (ts : List (String × Bool)) : s.collect f (toggleMoves ts) = [] := by
  induction ts generalizing s with
  | nil => rfl
  | cons t ts ih =>
    have hc : s.collect f (toggleMoves (t :: ts)) =
        (f s (.toggle t.1 t.2)).toList ++
          (s.move (.toggle t.1 t.2)).collect f (toggleMoves ts) := rfl
    rw [hc, hf, ih]
    rfl

theorem changes_toggles {ts : List (String × Bool)} (h : ∀ t ∈ ts, t.1 ∈ s.model.catalog.keys) :
    s.changes (toggleMoves ts) = ts.map fun (key, checked) => .toggled key checked := by
  induction ts generalizing s with
  | nil => rfl
  | cons t ts ih =>
    have hk : s.model.catalog.contains t.1 = true :=
      List.contains_iff_mem.mpr (h t List.mem_cons_self)
    have hc : s.changes (toggleMoves (t :: ts)) =
        (s.change? (.toggle t.1 t.2)).toList ++
          (s.move (.toggle t.1 t.2)).changes (toggleMoves ts) := rfl
    have hi := ih (s := s.move (.toggle t.1 t.2)) fun t' ht => by
      rw [(move_step s _).catalog]
      exact h t' (List.mem_cons_of_mem _ ht)
    rw [hc, hi, change?, if_pos hk]
    rfl

theorem toggle_known {key : String} (checked : Bool) (h : key ∈ s.model.catalog.keys) :
    ∃ changed, s.toggle key checked =
      (.toggled (.ok changed), s.move (.toggle key checked)) := by
  have hk : s.model.catalog.contains key = true := List.contains_iff_mem.mpr h
  refine ⟨(s.model.subscribed.update (ViewModel.toggled key checked)).2, Prod.ext ?_ rfl⟩
  rw [toggle, ViewModel.setSubscribed_eq, if_pos hk]

theorem toggleAll_cons {key : String} (checked : Bool) (ts : List (String × Bool))
    (h : key ∈ s.model.catalog.keys) :
    Plan.toggleAll s ((key, checked) :: ts) =
      Plan.toggleAll (s.move (.toggle key checked)) ts := by
  obtain ⟨changed, he⟩ := toggle_known checked h
  rw [Plan.toggleAll, he]

theorem toggleAll_known (s : Session) (ts : List (String × Bool))
    (h : ∀ t ∈ ts, t.1 ∈ s.model.catalog.keys) :
    Plan.toggleAll s ts = (.ok (), s.play (toggleMoves ts)) := by
  induction ts generalizing s with
  | nil => rfl
  | cons t ts ih =>
    obtain ⟨key, checked⟩ := t
    rw [toggleAll_cons checked ts (h _ List.mem_cons_self)]
    apply ih
    intro t ht
    rw [(move_step s _).catalog]
    exact h t (List.mem_cons_of_mem _ ht)

/-- A key that is not in the catalog ends the toggling, those before it are toggled. -/
theorem toggleAll_unknown {ts : List (String × Bool)}
    (h : ¬∀ t ∈ ts, t.1 ∈ s.model.catalog.keys) :
    ∃ e ts', Plan.toggleAll s ts = (.error e, s.play (toggleMoves ts')) := by
  induction ts generalizing s with
  | nil => exact absurd nofun h
  | cons t ts ih =>
    obtain ⟨key, checked⟩ := t
    by_cases hk : key ∈ s.model.catalog.keys
    · rw [toggleAll_cons checked ts hk]
      obtain ⟨e, ts', he⟩ := ih (s := s.move (.toggle key checked)) fun ha => h fun t ht => by
        rcases List.mem_cons.mp ht with rfl | ht
        · exact hk
        · rw [← (move_step s (.toggle key checked)).catalog]
          exact ha t ht
      exact ⟨e, (key, checked) :: ts', he⟩
    · refine ⟨⟨key⟩, [], ?_⟩
      rw [Plan.toggleAll, (toggle_refused_iff s key checked).mpr hk]
      rfl

theorem play_toggles (s : Session) (ts : List (String × Bool)) :
    (s.play (toggleMoves ts)).requests = s.requests ∧
      s.tasks.Perm (s.play (toggleMoves ts)).tasks ∧
      (s.play (toggleMoves ts)).server = s.server := by
  have hs : s.starts (toggleMoves ts) = [] := collect_toggles (fun _ _ _ => rfl) s ts
  have hd : s.deliveries (toggleMoves ts) = [] := collect_toggles (fun _ _ _ => rfl) s ts
  have hb : s.begins (toggleMoves ts) = [] := collect_toggles (fun _ _ _ => rfl) s ts
  have ht : (toggleMoves ts).filterMap Move.task? = [] := by
    apply List.filterMap_eq_nil_iff.mpr
    intro m hm
    obtain ⟨t, _, rfl⟩ := List.mem_map.mp hm
    rfl
  refine ⟨?_, ?_, ?_⟩
  · rw [play_requests, hs, List.map_nil, List.append_nil]
  · have hp := play_tasks s (toggleMoves ts)
    rw [ht, hd, List.append_nil] at hp
    exact hp
  · rw [play_server, hb]
    rfl

/-- A submit that nothing is under way with sends one request and is told what its reply is. -/
theorem step_submit (hs : s.Sound) (ht : s.tasks = []) :
    ∃ s', s.step .submit =
        (.result (Operation.submit.result (s.server.reply .submit).1.answer), s') ∧
      s'.requests =
        s.requests ++ [requestFor s.model.catalog (.submit, s.model.subscribed.value)] := by
  obtain ⟨ms, d, he, _, ha⟩ := step_call hs ht .submit
  refine ⟨_, he, ?_⟩
  have hst : s.starts (.call .submit :: ms) =
      (.submit, s.model.subscribed.value) :: (s.move (.call .submit)).starts ms := rfl
  have ho := begins_operation s (.call .submit :: ms)
  rw [ha.begins, hst, List.map_cons, List.map_cons] at ho
  have hn := List.map_eq_nil_iff.mp (List.cons_eq_cons.mp ho).2.symm
  rw [play_requests, hst, hn]
  rfl

end Session

namespace Plan

variable {p : Plan} {arrivals : List Arrival} {a : Arguments}

def read (p : Plan) (arrivals : List Arrival) : Except HttpError Report :=
  ViewModel.reportOf (p.client.exchange .get settingsPath (arrivals.getD 0 {}).response)

def written (p : Plan) (arrivals : List Arrival) : Except HttpError Json :=
  p.client.exchange .post settingsUpdatePath (arrivals.getD 1 {}).response

/-- The write of a run that got a report: each key of the catalog, in its order, with yes if it is
to be subscribed, or if the report affirms it and it is not to be unsubscribed. -/
def update (p : Plan) (r : Report) : Request :=
  .post settingsUpdatePath <| .object <| p.catalog.keys.map fun k =>
    (k, .bool (decide (k ∈ p.arguments.subscribe ∨
      r.isSubscribed k = true ∧ k ∉ p.arguments.unsubscribe)))

theorem requests_eq (p : Plan) (s : Session) :
    s.trace.filterMap p.requestOf? = s.requests.filterMap p.client.sent? := by
  rw [Session.requests, List.filterMap_filterMap]
  apply List.filterMap_congr
  intro e _
  cases e <;> rfl

theorem session_loaded (p : Plan) (arrivals : List Arrival) :
    ∃ s, (p.session arrivals).step .awaitLoad =
        (.result (Operation.load.result
          (some (p.client.exchange .get settingsPath (arrivals.getD 0 {}).response))), s) ∧
      s.Sound ∧ s.tasks = [] ∧ s.requests = [.get settingsPath] ∧ s.model.catalog = p.catalog ∧
      (s.server.reply .submit).1.answer = some (p.written arrivals) ∧
      ∀ r, p.read arrivals = .ok r → ∀ ts : List (String × Bool),
        (∀ t ∈ ts, t.1 ∈ p.catalog.keys) → ∀ k,
          k ∈ (s.play (Session.toggleMoves ts)).model.subscribed.value ↔ k ∈ p.catalog.keys ∧
            History.Holds (.reported r :: ts.map fun (key, checked) => .toggled key checked) k := by
  let m : ViewModel :=
    { catalog := p.catalog, localizer := p.localizer, contact := .plain p.settings.supportEmail }
  let server : Script :=
    { gets := [p.reply .get settingsPath (arrivals.getD 0 {})]
      posts := [p.reply .post settingsUpdatePath (arrivals.getD 1 {})]
      otherwise := ⟨1, none⟩ }
  obtain ⟨ms, d, he, hd, ha⟩ := Session.mount_step_awaitLoad m server
  have hcat : ((Session.mount m server).play ms).model.catalog = p.catalog :=
    Session.play_catalog _ ms
  refine ⟨_, he, (Session.sound_mount m server).play ms, ha.tasks, ?_, hcat, ?_, ?_⟩
  · have ho := Session.begins_operation (Session.mount m server) ms
    rw [ha.begins, List.map_singleton, hd] at ho
    obtain ⟨⟨operation, subscribed⟩, hst, hop⟩ := List.map_eq_singleton_iff.mp ho.symm
    rw [Session.play_requests, hst]
    cases hop
    rfl
  · rw [ha.server, hd]
    rfl
  · intro r hr ts hts k
    have ho : Change.ofAnswer? (.load, (server.reply .load).1.answer) = some (.reported r) := by
      change ((p.read arrivals).toOption.map Change.reported) = _
      rw [hr]
      rfl
    have hl : (Session.mount m server).changes ms = [.reported r] := by
      rw [ha.changes, ha.answer, hd]
      exact congrArg Option.toList ho
    have hk : ∀ t ∈ ts, t.1 ∈ ((Session.mount m server).play ms).model.catalog.keys := by
      rw [hcat]
      exact hts
    have hc : (Session.mount m server).changes (ms ++ Session.toggleMoves ts) =
        .reported r :: ts.map fun (key, checked) => .toggled key checked := by
      refine (Session.collect_append Session.change? _ ms _).trans ?_
      exact congrArg₂ (· ++ ·) hl (Session.changes_toggles hk)
    rw [← Session.play_append, Session.play_subscribed, hc]
    exact (History.explains_foldl p.catalog _).mem_iff k

/-- Whether a write is done with: the server took it, or there was nothing for it to change. -/
def isDone : Except HttpError Json → Bool
  | .ok _ => true
  | .error e => e.apiError?.any (·.isNotSubscribed)

theorem holds_toggles (a : Arguments) (r : Report) (k : String) :
    History.Holds (.reported r :: a.toggles.map fun (key, checked) => .toggled key checked) k ↔
      k ∈ a.subscribe ∨ r.isSubscribed k = true ∧ k ∉ a.unsubscribe := by
  have hl : (.reported r :: a.toggles.map fun (key, checked) => .toggled key checked) =
      [] ++ [.reported r] ++ a.unsubscribe.map (Change.toggled · false) ++
        a.subscribe.map (Change.toggled · true) := by
    simp only [Arguments.toggles, List.map_append, List.map_map, List.nil_append, List.cons_append]
    rfl
  have hn := History.not_holds_nil k
  rw [hl, History.holds_map_toggled, History.holds_map_toggled, History.holds_reported]
  by_cases hk : k ∈ a.subscribe
  · simp [hk]
  · simp [hk, hn, and_comm]

theorem toggles_known (a : Arguments) (c : Catalog) :
    (∀ t ∈ a.toggles, t.1 ∈ c.keys) ↔ ∀ k ∈ a.subscribe ++ a.unsubscribe, k ∈ c.keys := by
  simp only [Arguments.toggles, List.mem_append, List.mem_map]
  constructor
  · rintro h k (hk | hk)
    · exact h (k, true) (.inr ⟨k, hk, rfl⟩)
    · exact h (k, false) (.inl ⟨k, hk, rfl⟩)
  · rintro h t (⟨k, hk, rfl⟩ | ⟨k, hk, rfl⟩)
    · exact h k (.inr hk)
    · exact h k (.inl hk)

theorem submit_eq {s s' : Session} {answer : Except HttpError Json}
    (h : s.step .submit = (.result (Operation.submit.result (some answer)), s')) :
    ((p.submit s).1.isOk = isDone answer) ∧ (p.submit s).2.requests = s'.requests := by
  rw [submit, h]
  cases answer with
  | ok body =>
    refine ⟨rfl, ?_⟩
    simp only [Operation.result, Session.requests, Session.emit, List.filterMap_append]
    exact List.append_nil _
  | error e =>
    simp only [Operation.result, isDone]
    cases hn : e.apiError?.any (·.isNotSubscribed) with
    | true =>
      simp only [if_true, Session.requests, Session.emit, List.filterMap_append]
      exact ⟨rfl, List.append_nil _⟩
    | false => exact ⟨rfl, rfl⟩

theorem work_of_error {s s' : Session} {e : OperationError}
    (h : s.step .awaitLoad = (.result (.loaded (.error e)), s')) :
    p.work s = (.error (.ofOperation "could not load current subscriptions" e), s') := by
  rw [work, h]

theorem work_of_ok {s s' : Session} (h : s.step .awaitLoad = (.result (.loaded (.ok ())), s')) :
    p.work s =
      match toggleAll s' p.arguments.toggles with
      | (.error e, s) => (.error (.ofUnknownList e), s)
      | (.ok (), s) => if p.arguments.submits then p.submit s else (.ok (), s) := by
  unfold work
  generalize s.step .awaitLoad = told at h
  subst h
  rfl

theorem work_unread {e : HttpError} (h : p.read arrivals = .error e) :
    (p.work (p.session arrivals)).1.isOk = false ∧
      (p.work (p.session arrivals)).2.requests = [.get settingsPath] := by
  obtain ⟨s, he, _, _, hr, _⟩ := p.session_loaded arrivals
  rw [Operation.load_result_of_error h] at he
  rw [work_of_error he]
  exact ⟨rfl, hr⟩

theorem session_read {r : Report} (h : p.read arrivals = .ok r) :
    ∃ s, (p.session arrivals).step .awaitLoad = (.result (.loaded (.ok ())), s) ∧
      s.Sound ∧ s.tasks = [] ∧ s.requests = [.get settingsPath] ∧ s.model.catalog = p.catalog ∧
      (s.server.reply .submit).1.answer = some (p.written arrivals) ∧
      ((∀ t ∈ p.arguments.toggles, t.1 ∈ p.catalog.keys) → ∀ k,
        k ∈ (s.play (Session.toggleMoves p.arguments.toggles)).model.subscribed.value ↔
          k ∈ p.catalog.keys ∧ (k ∈ p.arguments.subscribe ∨
            r.isSubscribed k = true ∧ k ∉ p.arguments.unsubscribe)) := by
  obtain ⟨s, he, hs, ht, hr, hc, ha, hm⟩ := p.session_loaded arrivals
  rw [Operation.load_result_of_ok h] at he
  refine ⟨s, he, hs, ht, hr, hc, ha, fun hk k => ?_⟩
  rw [hm r h _ hk, holds_toggles]

theorem work_unknown {r : Report} (h : p.read arrivals = .ok r)
    (hk : ¬∀ t ∈ p.arguments.toggles, t.1 ∈ p.catalog.keys) :
    (p.work (p.session arrivals)).1.isOk = false ∧
      (p.work (p.session arrivals)).2.requests = [.get settingsPath] := by
  obtain ⟨s, he, _, _, hr, hc, _⟩ := p.session_read h
  obtain ⟨e, ts, ht⟩ := Session.toggleAll_unknown (s := s) (by rw [hc]; exact hk)
  rw [work_of_ok he, ht]
  exact ⟨rfl, (Session.play_toggles s ts).1.trans hr⟩

theorem work_unsubmitted {r : Report} (h : p.read arrivals = .ok r)
    (hk : ∀ t ∈ p.arguments.toggles, t.1 ∈ p.catalog.keys) (hs : p.arguments.submits = false) :
    (p.work (p.session arrivals)).1.isOk = true ∧
      (p.work (p.session arrivals)).2.requests = [.get settingsPath] := by
  obtain ⟨s, he, _, _, hr, hc, _⟩ := p.session_read h
  have ht := Session.toggleAll_known s p.arguments.toggles (by rw [hc]; exact hk)
  rw [work_of_ok he, ht]
  simp only [hs, Bool.false_eq_true, if_false]
  exact ⟨rfl, (Session.play_toggles s _).1.trans hr⟩

theorem work_submitted {r : Report} (h : p.read arrivals = .ok r)
    (hk : ∀ t ∈ p.arguments.toggles, t.1 ∈ p.catalog.keys) (hs : p.arguments.submits = true) :
    (p.work (p.session arrivals)).1.isOk = isDone (p.written arrivals) ∧
      (p.work (p.session arrivals)).2.requests = [.get settingsPath, p.update r] := by
  obtain ⟨s, he, hsound, htasks, hr, hc, ha, hm⟩ := p.session_read h
  have ht := Session.toggleAll_known s p.arguments.toggles (by rw [hc]; exact hk)
  obtain ⟨hreq, hperm, hserver⟩ := Session.play_toggles s p.arguments.toggles
  have htasks' : (s.play (Session.toggleMoves p.arguments.toggles)).tasks = [] := by
    rw [htasks] at hperm
    exact hperm.symm.eq_nil
  obtain ⟨s', hstep, hreq'⟩ := Session.step_submit (hsound.play _) htasks'
  rw [hserver, ha] at hstep
  obtain ⟨hok, hlast⟩ := p.submit_eq hstep
  rw [work_of_ok he, ht]
  simp only [hs, if_true]
  have hu : requestFor p.catalog (.submit,
      (s.play (Session.toggleMoves p.arguments.toggles)).model.subscribed.value) = p.update r := by
    apply congrArg fun ms => Request.post settingsUpdatePath (.object ms)
    apply List.map_congr_left
    intro k hk'
    have hiff := (hm hk k).trans (and_iff_right hk')
    rw [decide_eq_decide.mpr hiff]
  refine ⟨hok, ?_⟩
  rw [hlast, hreq', hreq, hr, Session.play_catalog, hc, hu]
  rfl

theorem carryOut_requests (p : Plan) (arrivals : List Arrival) :
    (p.carryOut arrivals).requests =
      (p.work (p.session arrivals)).2.requests.filterMap p.client.sent? := by
  rw [carryOut]
  generalize p.work (p.session arrivals) = done
  exact requests_eq p done.2

theorem carryOut_exitCode (p : Plan) (arrivals : List Arrival) :
    (p.carryOut arrivals).ending.exitCode =
      if (p.work (p.session arrivals)).1.isOk then 0 else 1 := by
  rw [carryOut]
  generalize p.work (p.session arrivals) = done
  obtain ⟨result, s⟩ := done
  cases result <;> rfl

end Plan

/-- A run comes to this exit code and makes these requests, in this order. Nothing can be sent to a
URL that is too long or whose host does not fit in a header; all other requests are sent once. -/
structure Outcome.Ends (o : Outcome) (c : Client) (code : Nat) (calls : List Request) : Prop where
  exitCode : o.ending.exitCode = code
  sendable : o.requests = calls.filterMap c.sent?
  sent : (∀ r ∈ calls, (c.address r.path).isOk = true) → o.requests.map (·.request) = calls

theorem Client.sent?_request (c : Client) {calls : List Request}
    (h : ∀ r ∈ calls, (c.address r.path).isOk = true) :
    (calls.filterMap c.sent?).map HttpRequest.request = calls := by
  have hs : ∀ r ∈ calls, (c.sent? r).map HttpRequest.request = some r := by
    intro r hr
    have ha := h r hr
    rw [sent?]
    cases hu : c.address r.path with
    | error e =>
      rw [hu] at ha
      cases ha
    | ok url => rfl
  rw [List.map_filterMap, List.filterMap_congr hs]
  exact List.filterMap_some

namespace Plan

variable {p : Plan} {arrivals : List Arrival}

theorem carryOut_ends {isOk : Bool} {calls : List Request}
    (h : (p.work (p.session arrivals)).1.isOk = isOk ∧
      (p.work (p.session arrivals)).2.requests = calls) :
    (p.carryOut arrivals).Ends p.client (if isOk then 0 else 1) calls := by
  obtain ⟨hok, hcalls⟩ := h
  have hr : (p.carryOut arrivals).requests = calls.filterMap p.client.sent? := by
    rw [carryOut_requests, hcalls]
  refine ⟨?_, hr, fun hs => ?_⟩
  · rw [carryOut_exitCode, hok]
  · rw [hr, Client.sent?_request p.client hs]

end Plan

namespace Invocation

/-- A run whose arguments are refused, or that lacks settings, a catalog, a server or translations,
sends nothing. Any other one reads the settings. It ends there with an error if that fails or if it
is to toggle a key that is not in the catalog, and with success if it is not to write. Otherwise it
writes what was read with its toggles, once, and ends with success if that is done with. -/
theorem run_requests (i : Invocation) (arrivals : List Arrival) :
    (∀ e, Arguments.parse i.arguments = .error e →
      (i.run arrivals).requests = [] ∧ (i.run arrivals).ending = .ofArguments e) ∧
    ∀ a, Arguments.parse i.arguments = .ok a →
      ((¬∃ p, i.Prepares a p) →
        (i.run arrivals).requests = [] ∧ (i.run arrivals).ending.exitCode = 1) ∧
      ∀ p, i.Prepares a p →
        let known := ∀ k ∈ a.subscribe ++ a.unsubscribe, k ∈ p.catalog.keys
        (∀ e, p.read arrivals = .error e →
          (i.run arrivals).Ends p.client 1 [.get settingsPath]) ∧
        ∀ r, p.read arrivals = .ok r →
          (¬known → (i.run arrivals).Ends p.client 1 [.get settingsPath]) ∧
          (known → a.submits = false → (i.run arrivals).Ends p.client 0 [.get settingsPath]) ∧
          (known → a.submits = true →
            (i.run arrivals).Ends p.client (if Plan.isDone (p.written arrivals) then 0 else 1)
              [.get settingsPath, p.update r]) := by
  refine ⟨fun e he => ?_, fun a ha => ⟨fun hn => ?_, fun p hp => ?_⟩⟩
  · simp only [run, he, and_self]
  · cases hplan : i.plan a with
    | error e =>
      simp only [run, ha, hplan]
      exact ⟨trivial, rfl⟩
    | ok p => exact absurd ⟨p, (i.plan_eq_ok_iff a p).mp hplan⟩ hn
  · have hrun : i.run arrivals = p.carryOut arrivals := by
      simp only [run, ha, (i.plan_eq_ok_iff a p).mpr hp]
    obtain rfl := hp.arguments
    rw [hrun]
    refine ⟨fun e he => Plan.carryOut_ends (Plan.work_unread he), fun r hr => ⟨?_, ?_, ?_⟩⟩
    · intro hk
      rw [← Plan.toggles_known] at hk
      exact Plan.carryOut_ends (Plan.work_unknown hr hk)
    · intro hk hs
      rw [← Plan.toggles_known] at hk
      exact Plan.carryOut_ends (Plan.work_unsubmitted hr hk hs)
    · intro hk hs
      rw [← Plan.toggles_known] at hk
      exact Plan.carryOut_ends (Plan.work_submitted hr hk hs)

theorem run_requests_toggled :
    ∃ (i : Invocation) (a : Arguments) (p : Plan) (r : Report) (arrivals : List Arrival),
      i.arguments = ["--unsubscribe", "osf_help", "--subscribe", "osf_help",
        "--subscribe", "osf_general"] ∧
      Arguments.parse i.arguments = .ok a ∧ i.Prepares a p ∧ p.read arrivals = .ok r ∧
      (∀ k ∈ a.subscribe ++ a.unsubscribe, k ∈ p.catalog.keys) ∧ a.submits = true ∧
      (i.run arrivals).Ends p.client 0
        [.get settingsPath,
          .post settingsUpdatePath
            (.object [("osf_general", .bool true), ("osf_help", .bool true)])] := by
  have hc : Client.ofUrl "http://127.0.0.1:5000" = .ok ⟨"http://127.0.0.1:5000"⟩ := by rfl
  let body := "\x7b\"mailing_lists\":\x7b\"osf_help\":true\x7d\x7d".toUTF8.toList
  let arrivals : List Arrival := [⟨40, some ⟨200, some body⟩⟩, ⟨7000, some ⟨200, some []⟩⟩]
  let i : Invocation :=
    ⟨["--unsubscribe", "osf_help", "--subscribe", "osf_help", "--subscribe", "osf_general"],
      fun _ => .error .notFound, fun _ => none⟩
  let a : Arguments := { subscribe := ["osf_help", "osf_general"], unsubscribe := ["osf_help"] }
  let p : Plan :=
    ⟨a, {}, ⟨["osf_general", "osf_help"], by decide, by decide⟩, ⟨"http://127.0.0.1:5000"⟩,
      .passthrough, []⟩
  have ha : Arguments.parse i.arguments = .ok a := by decide +kernel
  have hp : i.Prepares a p := ⟨rfl, by decide +kernel, rfl, hc, rfl⟩
  have hok : (p.read arrivals).isOk = true := by decide +kernel
  have hd : Plan.isDone (p.written arrivals) = true := by decide +kernel
  have hk : ∀ k ∈ a.subscribe ++ a.unsubscribe, k ∈ p.catalog.keys := by decide
  cases hr : p.read arrivals with
  | error e =>
    rw [hr] at hok
    cases hok
  | ok r =>
    have hu : p.update r = .post settingsUpdatePath
        (.object [("osf_general", .bool true), ("osf_help", .bool true)]) := by
      simp [Plan.update, p, a]
    have he := ((((run_requests i arrivals).2 a ha).2 p hp).2 r hr).2.2 hk rfl
    rw [hd, hu] at he
    exact ⟨i, a, p, r, arrivals, rfl, ha, hp, hr, hk, rfl, he⟩

end Invocation

end MailPrefs
