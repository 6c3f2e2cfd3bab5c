import MailPrefs.Proofs.Session.Lockstep
import MailPrefs.Proofs.View.Bare

namespace MailPrefs

namespace Session

def Command.concerns (side : Side) : Command → Bool
  | .toggle _ _ => side = .subscribed
  | .message _ _ _ => side = .status
  | _ => true

variable {side : Side} {s s' : Session} {c : Command} {cs cs' : List Command}

/-- Nobody waits in the session, which is sound. -/
structure Steady (s : Session) : Prop where
  sound : s.Sound
  free : ∀ p ∈ s.tasks, p.1 ≠ .caller

theorem Steady.drifts (h : s.Steady) (hd : s.Drifts KeepsTime s') : s'.Steady := by
  refine ⟨hd.sound h.sound, fun p hp => ?_⟩
  obtain ⟨ms, hi, _, rfl⟩ := hd
  apply h.free
  have ht := play_tasks s ms
  rw [tasks_of_internal hi, List.append_nil] at ht
  exact ht.mem_iff.mpr (List.mem_append_right _ hp)

theorem Steady.move (h : s.Steady) {m : Move} (hm : ∀ p ∈ m.task?, p.1 ≠ .caller) :
    (s.move m).Steady := by
  refine ⟨h.sound.move m, fun p hp => ?_⟩
  have ht := (move_tasks s m).mem_iff.mpr (List.mem_append_right _ hp)
  rcases List.mem_append.mp ht with ht | ht
  · exact h.free p ht
  · exact hm p (Option.mem_toList.mp ht)

theorem Steady.call (h : s.Steady) (operation : Operation) : (s.call operation).2.Steady := by
  obtain ⟨ms, hi, _, he, hdel⟩ := call_result h.sound h.free operation
  have ht := (play_tasks s (.call operation :: ms)).filter (fun p => decide (p.1 = .caller))
  have hm : (Move.call operation :: ms).filterMap Move.task? =
      [Move.call operation].filterMap Move.task? := by
    rw [← List.singleton_append, List.filterMap_append, tasks_of_internal hi, List.append_nil]
  have hd : ((s.deliveries (.call operation :: ms)).map Delivery.task).filter
      (fun p => decide (p.1 = .caller)) = [(.caller, operation)] := by
    rw [List.filter_map]
    exact congrArg (List.map Delivery.task) hdel
  rw [hm, tasks_called h.free, List.filter_append, hd, List.singleton_append] at ht
  obtain ⟨_, hn⟩ := List.cons_eq_cons.mp (List.singleton_perm.mp ht)
  rw [he]
  refine ⟨h.sound.play _, fun p hp hc => ?_⟩
  exact List.filter_eq_nil_iff.mp hn.symm p hp (decide_eq_true hc)

theorem Steady.perform (h : s.Steady) (hc : c.isBare = true) : (s.perform c).2.Steady := by
  cases c with
  | load => exact h.call .load
  | submit => exact h.call .submit
  | spawn name operation => exact h.move (m := .spawn name operation) (by rintro _ ⟨⟩; exact nofun)
  | toggle key checked => exact h.move (m := .toggle key checked) nofun
  | message message timeout clockRuns =>
    exact h.move (m := .message message timeout clockRuns) nofun
  | advance ms => exact h.drifts (drifts_advance ms h.sound)
  | settle => exact h.drifts (.settle keepsTime_run s)
  | awaitLoad | unmount => cases hc

theorem Shares.call (h : s.Shares side s') (hs : s.Steady) (hs' : s'.Steady)
    (operation : Operation) :
    (s.call operation).1 = (s'.call operation).1 ∧
      (s.call operation).2.Shares side (s'.call operation).2 := by
  have hserver : s.server = s'.server := congrArg Outline.server h.outline
  obtain ⟨_, _, _, he, _⟩ := call_result hs.sound hs.free operation
  obtain ⟨_, _, _, he', _⟩ := call_result hs'.sound hs'.free operation
  obtain ⟨_, _, _, _, _, _, _, _, hr⟩ := await_result [.call operation] hs.sound (Nat.le_refl _)
    s.toldAfter_length (tasks_called hs.free operation)
  refine ⟨by rw [he, he', hserver], ?_⟩
  have hstart : (s.start .caller operation).Shares side (s'.start .caller operation) := by
    have hj : (Job.start .caller operation).concerns side = true := rfl
    exact h.runJob hj
  have hsince : Since s.trace s'.trace (s.start .caller operation)
      (s'.start .caller operation) := by
    refine ⟨(move_tells s (.call operation)).trace_grows,
      (move_tells s' (.call operation)).trace_grows, ?_⟩
    have hold : (s.outline side).told = (s'.outline side).told := by rw [h.outline]
    exact hold
  exact hstart.await hsince (Option.isSome_of_eq_some hr)

theorem toggle_goes (s : Session) (key : String) (checked : Bool) :
    s.Goes (s.moveDeed (.toggle key checked)) (s.toggle key checked).2 := by
  rw [toggle_eq_does]
  exact does_goes s _

theorem message_goes (s : Session) (message : StatusMessage) (timeout : Option Nat)
    (clockRuns : Bool) :
    s.Goes (s.moveDeed (.message message timeout clockRuns))
      (s.apply (s.model.showMessage message timeout clockRuns)) := by
  rw [apply_eq_does]
  exact does_goes s _

theorem Shares.toggle (h : s.Shares .subscribed s') (key : String) (checked : Bool) :
    (s.toggle key checked).1 = (s'.toggle key checked).1 ∧
      (s.toggle key checked).2.Shares .subscribed (s'.toggle key checked).2 := by
  have hm : s.model.half .subscribed = s'.model.half .subscribed :=
    congrArg Outline.model h.outline
  obtain ⟨hc, hs⟩ := ViewModel.half_subscribed_eq_iff.mp hm
  refine ⟨?_, h.does (s.toggle_goes key checked) (s'.toggle_goes key checked) ?_⟩
  · simp only [Session.toggle, ViewModel.setSubscribed_eq, hc, hs]
    by_cases hk : s'.model.catalog.contains key = true
    · simp only [hk, if_true]
    · simp only [hk]
      rfl
  · simp only [moveDeed, ViewModel.setSubscribed_eq, hc, hs]
    split <;> rfl

theorem Shares.message (h : s.Shares .status s') (message : StatusMessage) (timeout : Option Nat)
    (clockRuns : Bool) :
    (s.apply (s.model.showMessage message timeout clockRuns)).Shares .status
      (s'.apply (s'.model.showMessage message timeout clockRuns)) := by
  have hm : s.model.half .status = s'.model.half .status := congrArg Outline.model h.outline
  obtain ⟨hc, hl, ht, hs⟩ := ViewModel.half_status_eq_iff.mp hm
  refine h.does (s.message_goes message timeout clockRuns)
    (s'.message_goes message timeout clockRuns) ?_
  simp only [moveDeed, Deed.half, ViewModel.showMessage_fst, ViewModel.showMessage_jobs,
    Option.map_some, ViewModel.half, hc, hl, ht, hs]

/-- A command that matters to a half is answered from it and leads from it to the next. -/
theorem Shares.perform (h : s.Shares side s') (hs : s.Steady) (hs' : s'.Steady)
    (hb : c.isBare = true) (hc : c.concerns side = true) :
    (s.perform c).1 = (s'.perform c).1 ∧ (s.perform c).2.Shares side (s'.perform c).2 := by
  cases c with
  | load => exact h.call hs hs' .load
  | submit => exact h.call hs hs' .submit
  | spawn name operation =>
    exact ⟨rfl, h.does (s.move_goes nofun (m := .spawn name operation))
      (s'.move_goes nofun (m := .spawn name operation)) rfl⟩
  | toggle key checked =>
    cases side with
    | subscribed => exact h.toggle key checked
    | status => cases hc
  | message message timeout clockRuns =>
    cases side with
    | subscribed => cases hc
    | status => exact ⟨rfl, h.message message timeout clockRuns⟩
  | advance ms => exact ⟨rfl, h.advance ms⟩
  | settle => exact ⟨rfl, h.settle⟩
  | awaitLoad | unmount => cases hb

/-- A command that is there for the other half leaves a half as it is. -/
theorem perform_shares (s : Session) (hc : c.concerns side = false) :
    (s.perform c).2.Shares side s := by
  cases c with
  | toggle key checked =>
    cases side with
    | subscribed => cases hc
    | status =>
      have hg := s.toggle_goes key checked
      refine ⟨hg.outline.trans ?_, hg.now⟩
      simp only [moveDeed, ViewModel.setSubscribed_eq]
      split
      · exact Outline.does_same (s.outline .status)
      · exact Outline.does_nothing _
  | message message timeout clockRuns =>
    cases side with
    | subscribed =>
      have hg := s.message_goes message timeout clockRuns
      have hj : (((ViewModel.clearing? timeout clockRuns).map Job.armReset).toList).filter
          (Job.concerns .subscribed) = [] := by
        cases ViewModel.clearing? timeout clockRuns <;> rfl
      refine ⟨hg.outline.trans ?_, hg.now⟩
      simp only [moveDeed, Deed.half, ViewModel.showMessage_fst, ViewModel.showMessage_jobs, hj]
      exact Outline.does_same (s.outline .subscribed)
    | status => cases hc
  | load | submit | spawn | advance | awaitLoad | unmount | settle => cases hc

def pause (rests : Bool) (s : Session) : Session :=
  if rests then s.settle else s

def record (rests : Bool) (s : Session) : List Command → List (Command × Answer × Session)
  | [] => []
  | c :: cs =>
    let next := (s.perform c).2.pause rests
    (c, (s.perform c).1, next) :: next.record rests cs

/-- What there is of a half after each command that matters to it. -/
def glimpses (side : Side) (rests : Bool) (s : Session) (cs : List Command) :
    List (Command × Answer × Outline) :=
  ((s.record rests cs).filter (·.1.concerns side)).map fun (c, answer, t) =>
    (c, answer, t.outline side)

variable {rests : Bool}

theorem glimpses_cons (hc : c.concerns side = true) :
    s.glimpses side rests (c :: cs) =
      (c, (s.perform c).1, ((s.perform c).2.pause rests).outline side) ::
        ((s.perform c).2.pause rests).glimpses side rests cs := by
  simp only [glimpses, record, List.filter_cons, hc, if_true, List.map_cons]

theorem glimpses_skip (hc : c.concerns side = false) :
    s.glimpses side rests (c :: cs) = ((s.perform c).2.pause rests).glimpses side rests cs := by
  simp only [glimpses, record, List.filter_cons, hc, Bool.false_eq_true, if_false]

/-- A session in a pause is at rest, unless the caller does not pause. -/
def Paused (rests : Bool) (s : Session) : Prop :=
  s.Steady ∧ (rests = true → s.ready = [])

theorem Steady.pause (h : s.Steady) (rests : Bool) : (s.pause rests).Paused rests := by
  cases rests with
  | false => exact ⟨h, nofun⟩
  | true => exact ⟨h.drifts (.settle keepsTime_run s), fun _ => s.settle_rest⟩

theorem Shares.pause (h : s.Shares side s') (rests : Bool) :
    (s.pause rests).Shares side (s'.pause rests) := by
  cases rests with
  | false => exact h
  | true => exact h.settle

theorem Shares.pause_left (h : s.Shares side s') (hr : rests = true → s'.ready = []) :
    (s.pause rests).Shares side s' := by
  cases rests with
  | false => exact h
  | true =>
    have hs := h.settle
    rw [settle_of_rest (hr rfl)] at hs
    exact hs

/-- What is seen of a half in a run is what is seen in the run of the commands that matter. -/
theorem glimpses_filter (h : s.Shares side s') (hs : s.Paused rests) (hs' : s'.Paused rests)
    (hb : ∀ c ∈ cs, c.isBare = true) :
    s.glimpses side rests cs = s'.glimpses side rests (cs.filter (·.concerns side)) := by
  induction cs generalizing s s' with
  | nil => rfl
  | cons c cs ih =>
    have hbc := hb c List.mem_cons_self
    have hbs : ∀ c ∈ cs, c.isBare = true := fun c hm => hb c (List.mem_cons_of_mem _ hm)
    have hn := (hs.1.perform hbc).pause rests
    cases hc : c.concerns side with
    | false =>
      rw [glimpses_skip hc, List.filter_cons_of_neg (by rw [hc]; exact Bool.false_ne_true)]
      exact ih (((perform_shares s hc).trans h).pause_left hs'.2) hn hs' hbs
    | true =>
      obtain ⟨ha, hp⟩ := h.perform hs.1 hs'.1 hbc hc
      have hn' := (hs'.1.perform hbc).pause rests
      rw [glimpses_cons hc, List.filter_cons_of_pos hc, glimpses_cons hc, ha,
        (hp.pause rests).outline, ih (hp.pause rests) hn hn' hbs]

theorem glimpses_eq (h : s.Shares side s') (hs : s.Paused rests) (hs' : s'.Paused rests)
    (hb : ∀ c ∈ cs, c.isBare = true) (hb' : ∀ c ∈ cs', c.isBare = true)
    (hc : cs.filter (·.concerns side) = cs'.filter (·.concerns side)) :
    s.glimpses side rests cs = s'.glimpses side rests cs' := by
  rw [glimpses_filter h hs hs' hb, hc, glimpses_filter ⟨rfl, rfl⟩ hs' hs' hb']

theorem steady_opened (isMounted : Bool) (c : Catalog) (l : Localizer) (t : SupportContact)
    (server : Script) : (opened isMounted c l t server).Steady := by
  refine ⟨sound_opened isMounted c l t server, ?_⟩
  cases isMounted with
  | false => exact nofun
  | true =>
    intro p hp
    have hm : p ∈ [(Owner.mount, Operation.load)] := hp
    rw [List.mem_singleton.mp hm]
    exact nofun

def listsSeen : Command × Answer × Session →
    Command × Answer × Observable (List String) × List (String × Bool) × List Request ×
      List (Owner × Result)
  | (c, answer, s) =>
    (c, answer, s.model.subscribed, s.model.checkboxes, s.requests, s.toldAfter 0)

def statusSeen : Command × Answer × Session →
    Command × Answer × Observable StatusMessage × List (Method × String) × List (Owner × Result)
  | (c, answer, s) =>
    (c, answer, s.model.status, s.requests.map fun r => (r.method, r.path), s.toldAfter 0)

def IsOfHalf {α : Type} (side : Side) (f : Command × Answer × Session → α) : Prop :=
  ∃ g : Command × Answer × Outline → α, ∀ r, f r = g (r.1, r.2.1, r.2.2.outline side)

theorem listsSeen_ofHalf : IsOfHalf .subscribed listsSeen := by
  refine ⟨fun (c, answer, o) => (c, answer, o.model.subscribed, o.model.checkboxes, o.requests,
    o.told), fun r => ?_⟩
  have hr : (r.2.2.outline .subscribed).requests = r.2.2.requests :=
    (List.map_congr_left fun request _ => by cases request <;> rfl).trans (List.map_id _)
  simp only [hr]
  rfl

theorem statusSeen_ofHalf : IsOfHalf .status statusSeen := by
  refine ⟨fun (c, answer, o) => (c, answer, o.model.status,
    o.requests.map fun request => (request.method, request.path), o.told), fun r => ?_⟩
  have hr : (r.2.2.outline .status).requests.map (fun request => (request.method, request.path)) =
      r.2.2.requests.map fun request => (request.method, request.path) := by
    rw [outline, List.map_map]
    exact List.map_congr_left fun request _ => by cases request <;> rfl
  simp only [hr]
  rfl

theorem IsOfHalf.eq {α : Type} {f : Command × Answer × Session → α} (hf : IsOfHalf side f)
    (h : s.glimpses side rests cs = s'.glimpses side rests cs') :
    ((s.record rests cs).filter (·.1.concerns side)).map f =
      ((s'.record rests cs').filter (·.1.concerns side)).map f := by
  obtain ⟨g, hg⟩ := hf
  have hm (s : Session) (cs : List Command) :
      ((s.record rests cs).filter (·.1.concerns side)).map f =
        (s.glimpses side rests cs).map g := by
    rw [glimpses, List.map_map]
    exact List.map_congr_left fun r _ => hg r
  rw [hm, hm, h]

/-- Two runs over the same catalog and script that differ in the messages of the caller, in the
texts and in the support contact go through the same subscribed lists, checkboxes, requests and
results. Two runs that differ in the toggles go through the same status, make requests of the same
methods and paths and have the same results. Callers either let all jobs run after each command that
can, before the first as well, or none of them do. -/
theorem halves_apart (rests isMounted : Bool) (c : Catalog) (server : Script)
    (cs cs' : List Command) (hb : ∀ k ∈ cs ++ cs', k.isBare = true) :
    let run := fun l t cs => (((opened isMounted c l t server).pause rests).record rests cs)
    (cs.filter (·.concerns .subscribed) = cs'.filter (·.concerns .subscribed) →
      ∀ l l' t t',
        ((run l t cs).filter (·.1.concerns .subscribed)).map listsSeen =
          ((run l' t' cs').filter (·.1.concerns .subscribed)).map listsSeen) ∧
    (cs.filter (·.concerns .status) = cs'.filter (·.concerns .status) →
      ∀ l t,
        ((run l t cs).filter (·.1.concerns .status)).map statusSeen =
          ((run l t cs').filter (·.1.concerns .status)).map statusSeen) := by
  intro run
  have hp (l : Localizer) (t : SupportContact) := (steady_opened isMounted c l t server).pause rests
  have hbs : ∀ k ∈ cs, k.isBare = true := fun k hk => hb k (List.mem_append_left _ hk)
  have hbs' : ∀ k ∈ cs', k.isBare = true := fun k hk => hb k (List.mem_append_right _ hk)
  refine ⟨fun hc l l' t t' => ?_, fun hc l t => ?_⟩
  · have ho : (opened isMounted c l t server).Shares .subscribed
        (opened isMounted c l' t' server) := by
      cases isMounted <;> exact ⟨rfl, rfl⟩
    exact listsSeen_ofHalf.eq (glimpses_eq (ho.pause rests) (hp l t) (hp l' t') hbs hbs' hc)
  · exact statusSeen_ofHalf.eq (glimpses_eq ⟨rfl, rfl⟩ (hp l t) (hp l t) hbs hbs' hc)

/-- A load and a submit are under way together while messages come and go and a list is toggled:
the lists are the same with other messages in other texts, the status is the same without toggle. -/
theorem halves_apart_overlapping :
    let c : Catalog := ⟨["news", "digest"], by decide, by decide⟩
    let report := Json.object [("mailing_lists", .object [("news", .bool true)])]
    let server : Script := ⟨[⟨5, some (.ok report)⟩], [⟨2, some (.ok .null)⟩], ⟨0, none⟩⟩
    let french : Localizer := .table [(settingsUpdatedText, "Préférences enregistrées.")]
    let cs : List Command :=
      [.spawn "first" .load, .toggle "digest" true, .message ⟨"Hello", .success⟩ (some 1) true,
        .submit, .advance 9]
    let quiet : List Command := [.spawn "first" .load, .toggle "digest" true, .submit, .advance 9]
    let still : List Command :=
      [.spawn "first" .load, .message ⟨"Hello", .success⟩ (some 1) true, .submit, .advance 9]
    let run := fun l cs => (bare { catalog := c, localizer := l } server).record false cs
    (∀ k ∈ cs ++ quiet, k.isBare = true) ∧ (∀ k ∈ cs ++ still, k.isBare = true) ∧
      ((run .passthrough cs).filter (·.1.concerns .subscribed)).map listsSeen =
        ((run french quiet).filter (·.1.concerns .subscribed)).map listsSeen ∧
      ((run .passthrough cs).filter (·.1.concerns .status)).map statusSeen =
        ((run .passthrough still).filter (·.1.concerns .status)).map statusSeen ∧
      (run .passthrough cs).map (·.2.2.model.status.value.text) =
        ["", "", "Hello", settingsUpdatedText, settingsUpdatedText] ∧
      (run french quiet).map (·.2.2.model.status.value.text) =
        ["", "", "Préférences enregistrées.", "Préférences enregistrées."] ∧
      (run french quiet).map (·.2.2.model.subscribed.value) =
        [[], ["digest"], ["digest"], ["digest", "news"]] := by
  intro c report server french cs quiet still run
  have hq : ∀ k ∈ cs ++ quiet, k.isBare = true := by decide
  have hs : ∀ k ∈ cs ++ still, k.isBare = true := by decide
  refine ⟨hq, hs, ?_, ?_, by decide +kernel, by decide +kernel, by decide +kernel⟩
  · have h := (halves_apart false false c server cs quiet hq).1 rfl
    exact h .passthrough french .default .default
  · exact (halves_apart false false c server cs still hs).2 rfl .passthrough .default

end Session

end MailPrefs
