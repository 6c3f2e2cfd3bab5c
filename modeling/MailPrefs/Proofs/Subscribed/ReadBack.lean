import MailPrefs.Client
import MailPrefs.Proofs.Preferences.Text
import MailPrefs.Proofs.Session.Alone
import MailPrefs.Proofs.Subscribed.Consistency

namespace MailPrefs

theorem lookup_of_unique {α : Type} {ms : List (String × α)} {k : String} {v : α}
    (hm : (k, v) ∈ ms) (hu : ∀ v', (k, v') ∈ ms → v' = v) : ms.lookup k = some v := by
  induction ms with
  | nil => cases hm
  | cons m ms ih =>
    obtain ⟨k', v'⟩ := m
    rcases eq_or_ne k k' with rfl | hk
    · rw [List.lookup_cons_self, hu v' List.mem_cons_self]
    · rw [List.lookup_cons, beq_false_of_ne hk]
      apply ih
      · rcases List.mem_cons.mp hm with he | hm
        · exact absurd (congrArg Prod.fst he) hk
        · exact hm
      · intro v'' hm'
        exact hu v'' (List.mem_cons_of_mem _ hm')

/-- A response that hands back members which were sent: a success whose text denotes an object that
has them in its map, in any order and among others that the catalog does not know. -/
structure HandsBack (c : Catalog) (sent : Json.Members) (response : HttpResponse) : Prop where
  isSuccess : response.isSuccess = true
  body : ∃ members lists others, Client.bodyJson? response = some (.object members) ∧
    Json.Members.get? Report.mailingListsKey members = some (.object lists) ∧
    lists.Perm (sent ++ others) ∧ ∀ m ∈ others, m.1 ∉ c.keys

namespace ViewModel

variable {c : Catalog} {r : Report} {subscribed now : List String}

def Reports (c : Catalog) (subscribed : List String) (r : Report) : Prop :=
  ∀ k ∈ c.keys, r.isSubscribed k = decide (k ∈ subscribed)

theorem reports_of_handsBack {response : HttpResponse}
    (h : HandsBack c (c.choices subscribed) response) :
    ∃ r, reportOf (Client.classify .get response) = .ok r ∧ Reports c subscribed r := by
  obtain ⟨members, lists, others, hb, hm, hp, ho⟩ := h.body
  have hc : Client.classify .get response = .ok (.object members) := by
    rw [Client.classify, h.isSuccess, hb]
    rfl
  refine ⟨⟨lists⟩, ?_, ?_⟩
  · have hr : Report.ofJson (.object members) = .ok ⟨lists⟩ := by
      rw [Report.ofJson, hm]
      rfl
    rw [hc, reportOf]
    exact congrArg (Except.mapError _) hr
  · intro k hk
    have hl : lists.lookup k = some (.bool (decide (k ∈ subscribed))) := by
      apply lookup_of_unique
      · rw [hp.mem_iff]
        exact List.mem_append_left _ (List.mem_map_of_mem hk)
      · intro v hv
        rcases List.mem_append.mp (hp.mem_iff.mp hv) with hv | hv
        · obtain ⟨k', _, he⟩ := List.mem_map.mp hv
          cases he
          rfl
        · exact absurd hk (ho _ hv)
    rw [Report.isSubscribed, Json.Members.get?, hl]
    rfl

theorem Reports.additions_nil (h : Reports c subscribed r) :
    additions c r [] = c.keys.filter (decide <| · ∈ subscribed) := by
  apply List.filter_congr
  intro k hk
  rw [h k hk]
  exact Bool.and_true _

theorem Reports.additions_known (h : Reports c subscribed r) (hs : subscribed ⊆ now) :
    additions c r now = [] := by
  apply List.filter_eq_nil_iff.mpr
  intro k hk
  rw [h k hk, List.contains_eq_mem]
  by_cases hm : k ∈ subscribed
  · simp [hs hm]
  · simp [hm]

end ViewModel

namespace Session

variable {s : Session} {m : Move} {ms : List Move} {r : Report} {body : Json}
variable {answer : Except HttpError Json}

theorem posted_choices
    (h : (s.move m).requests = s.requests ++ [.post settingsUpdatePath body]) :
    m.isToggle = false ∧ body = .object (s.model.catalog.choices s.model.subscribed.value) := by
  rw [move_requests, List.append_cancel_left_eq] at h
  cases hj : (s.job? m).bind Job.starts? with
  | none =>
    rw [started?, hj] at h
    cases h
  | some operation =>
    rw [started?, hj] at h
    refine ⟨?_, ?_⟩
    · cases m with
      | toggle => cases hj
      | _ => rfl
    · cases operation with
      | load => cases h
      | submit =>
        cases h
        rfl

theorem firstLoad_reports {isMounted : Bool} {c : Catalog} {l : Localizer} {t : SupportContact}
    {server : Script} {subscribed : List String} (hr : ViewModel.reportOf answer = .ok r)
    (hs : ViewModel.Reports c subscribed r)
    (ha : (server.reply .load).1.answer = some answer) :
    ∃ s, (opened isMounted c l t server).step (.firstLoad isMounted) =
        (.result (.loaded (.ok ())), s) ∧
      s.model.catalog = c ∧
      s.model.subscribed.value = c.keys.filter (decide <| · ∈ subscribed) := by
  obtain ⟨ms, d, he, hd, hanswer, halone⟩ := opened_step_firstLoad isMounted c l t server
  rw [ha] at hanswer
  have hc : (opened isMounted c l t server).changes ms = [.reported r] := by
    rw [halone.changes, hd, hanswer, Change.ofAnswer?, hr]
    rfl
  rw [ha, Operation.load_result_of_ok hr] at he
  refine ⟨_, he, (play_catalog _ ms).trans (opened_catalog ..), ?_⟩
  rw [play_subscribed, hc, opened_catalog, opened_subscribed]
  exact hs.additions_nil

theorem checkboxes_of_filter {m m' : ViewModel} (hc : m'.catalog = m.catalog)
    (hs : m'.subscribed.value = m.catalog.keys.filter m.isSubscribed) :
    m'.checkboxes = m.checkboxes := by
  rw [ViewModel.checkboxes, ViewModel.checkboxes, hc]
  apply List.map_congr_left
  intro k hk
  have hf : m'.subscribed.value.contains k = m.subscribed.value.contains k := by
    rw [hs, Bool.eq_iff_iff, List.contains_iff_mem, List.mem_filter]
    exact and_iff_right hk
  rw [hf]

theorem isKnown_of_reports {c : Catalog} {subscribed : List String} {d : Delivery}
    (hc : s.model.catalog = c) (hr : ViewModel.reportOf answer = .ok r)
    (hs : ViewModel.Reports c subscribed r) (hsub : subscribed ⊆ s.model.subscribed.value)
    (ha : d.answer = some answer) : s.IsKnown d := by
  intro _
  refine ⟨answer, r, ha, hr, ?_⟩
  rw [hc]
  exact hs.additions_known hsub

theorem completed_known {d : Delivery} (hr : ViewModel.reportOf answer = .ok r)
    (hk : s.IsKnown d) (hd : s.delivered? m = some d) (hload : d.operation = .load)
    (ha : d.answer = some answer) :
    (s.move m).model.subscribed = s.model.subscribed ∧
      (s.move m).toldAfter s.trace.length = [(d.owner, .loaded (.ok ()))] := by
  refine ⟨?_, ?_⟩
  · apply move_known
    · cases m with
      | toggle => cases hd
      | _ => rfl
    · intro d' hd'
      rw [hd] at hd'
      cases hd'
      exact hk
  · rw [told_of_delivered hd, Delivery.outcome, hload, ha, Operation.load_result_of_ok hr]

/-- A load that is called for and gets a report succeeds. Where that report brings nothing new and
the load is alone, nobody is told of the subscribed list. -/
theorem step_load_known (hsound : s.Sound) (hfree : ∀ p ∈ s.tasks, p.1 ≠ .caller)
    (hr : ViewModel.reportOf answer = .ok r)
    (hk : ∀ d : Delivery, d.answer = some answer → s.IsKnown d)
    (ha : (s.server.reply .load).1.answer = some answer) :
    (s.step .load).1 = .result (.loaded (.ok ())) ∧
      (s.tasks = [] → (s.step .load).2.model.subscribed = s.model.subscribed) := by
  refine ⟨?_, ?_⟩
  · obtain ⟨ms, _, _, he, _⟩ := call_result hsound hfree .load
    rw [ha, Operation.load_result_of_ok hr] at he
    exact congrArg Prod.fst he
  · intro ht
    obtain ⟨ms, d, he, hload, halone⟩ := step_call hsound ht .load
    have hanswer : d.answer = some answer := by
      rw [halone.answer, hload, ha]
    have hstep : (s.step .load).2 = s.play (.call .load :: ms) := congrArg Prod.snd he
    rw [hstep]
    apply play_known s halone.untoggled
    intro d' hd'
    rw [halone.deliveries] at hd'
    obtain rfl := List.mem_singleton.mp hd'
    exact hk d' hanswer

/-- When a submit starts, it posts a text that denotes an object. A fresh session over the same
catalog, with a view or without, that loads a response which hands its members back has the
checkboxes of that time, and its list in the order of the catalog. To the session of the submit
such a response is nothing new, whatever else has happened since then if no list was toggled: a
load that gets it succeeds, leaves the subscribed list alone and tells no watcher. -/
theorem submit_reads_back (isMounted : Bool) (c : Catalog) (l : Localizer) (t : SupportContact)
    (server : Script) (ms ms' : List Move) (m : Move) (body : Json) :
    let s := (opened isMounted c l t server).play ms
    (s.move m).requests = s.requests ++ [.post settingsUpdatePath body] →
    ∃ sent, Json.parseString body.compact = .ok (.object sent) ∧
      ∀ response, HandsBack c sent response →
        let answer := Client.classify .get response
        (∀ isMounted l t server, (server.reply .load).1.answer = some answer →
          ∃ s', (opened isMounted c l t server).step (.firstLoad isMounted) =
              (.result (.loaded (.ok ())), s') ∧
            s'.model.checkboxes = s.model.checkboxes ∧
            s'.model.subscribed.value = c.keys.filter s.model.isSubscribed) ∧
        ((∀ m ∈ ms', m.isToggle = false) →
          let s' := (s.move m).play ms'
          (∀ m' d, s'.delivered? m' = some d → d.operation = .load → d.answer = some answer →
            (s'.move m').model.subscribed = s'.model.subscribed ∧
              (s'.move m').toldAfter s'.trace.length = [(d.owner, .loaded (.ok ()))]) ∧
          ((∀ p ∈ s'.tasks, p.1 ≠ .caller) → (s'.server.reply .load).1.answer = some answer →
            (s'.step .load).1 = .result (.loaded (.ok ())) ∧
              (s'.tasks = [] → (s'.step .load).2.model.subscribed = s'.model.subscribed))) := by
  intro s hpost
  have hcat : s.model.catalog = c := (play_catalog _ ms).trans (opened_catalog ..)
  obtain ⟨hm, hbody⟩ := posted_choices hpost
  rw [hcat] at hbody
  refine ⟨c.choices s.model.subscribed.value, ?_, ?_⟩
  · rw [hbody]
    exact Json.parseString_compact (c.choices_readsBack _)
  · intro response hback answer
    obtain ⟨r, hr, hs⟩ := ViewModel.reports_of_handsBack hback
    refine ⟨?_, ?_⟩
    · intro isMounted l t server ha
      obtain ⟨s', he, hc', hv⟩ := firstLoad_reports hr hs ha
      have hv' : s'.model.subscribed.value = c.keys.filter s.model.isSubscribed := by
        rw [hv]
        apply List.filter_congr
        intro k _
        rw [ViewModel.isSubscribed, List.contains_eq_mem]
      exact ⟨s', he, checkboxes_of_filter (hc'.trans hcat.symm) (hcat ▸ hv'), hv'⟩
    · intro hms s'
      have hplay : s' = s.play (m :: ms') := rfl
      have hc' : s'.model.catalog = c := (play_catalog s (m :: ms')).trans hcat
      have hsub : s.model.subscribed.value ⊆ s'.model.subscribed.value := by
        rw [hplay]
        apply play_subset
        intro m' hm'
        rcases List.mem_cons.mp hm' with rfl | hm'
        · exact hm
        · exact hms m' hm'
      have hsound : s'.Sound := by
        have ho := sound_opened isMounted c l t server
        exact (ho.play ms).play (m :: ms')
      have hk {d : Delivery} (ha : d.answer = some answer) : s'.IsKnown d :=
        isKnown_of_reports hc' hr hs hsub ha
      refine ⟨?_, ?_⟩
      · intro m' d hd hload ha
        exact completed_known hr (hk ha) hd hload ha
      · intro hfree ha
        exact step_load_known hsound hfree hr (fun d => hk) ha

/-- The members come back in another order and with one more; the list keeps the order of its own
session and follows the catalog in a fresh one. -/
theorem submit_reads_back_reversed :
    ∃ (c : Catalog) (server : Script) (s s' : Session),
      s = ((opened false c .passthrough .default server).play
        [.toggle "digest" true, .toggle "news" true]).move (.call .submit) ∧
      s.model.subscribed.value = ["digest", "news"] ∧
      (s.step .load).1 = .result (.loaded (.ok ())) ∧
      (s.step .load).2.model.subscribed = s.model.subscribed ∧
      (opened true c .passthrough .default server).step .awaitLoad =
        (.result (.loaded (.ok ())), s') ∧
      s'.model.subscribed.value = ["news", "digest"] := by
  let c : Catalog := ⟨["news", "events", "digest"], by decide, by decide⟩
  let sent := c.choices ["digest", "news"]
  let others : Json.Members := [("other", .bool true)]
  let lists := (sent ++ others).reverse
  let members : Json.Members := [("mailing_lists", .object lists)]
  let response : HttpResponse := ⟨200, some (Json.compact (.object members)).toUTF8.toList⟩
  let answer := Client.classify .get response
  let server : Script := ⟨[⟨0, some answer⟩], [⟨0, some (.ok .null)⟩], ⟨0, none⟩⟩
  have hlists : Json.ReadsBack 127 (.object lists) := by
    apply Json.readsBack_object
    · decide
    · intro m hm
      rcases List.mem_append.mp (List.mem_reverse.mp hm) with hm | hm
      · obtain ⟨k, _, rfl⟩ := List.mem_map.mp hm
        exact Json.readsBack_bool _
      · rw [List.mem_singleton.mp hm]
        exact Json.readsBack_bool _
  have hmembers : Json.ReadsBack Json.Bytes.maxDepth (.object members) := by
    apply Json.readsBack_object
    · decide
    · intro m hm
      rw [List.mem_singleton.mp hm]
      exact hlists
  have hbody : Client.bodyJson? response = some (.object members) :=
    congrArg Except.toOption (Json.parseString_compact hmembers)
  have hback : HandsBack c sent response := by
    refine ⟨rfl, members, lists, others, hbody, rfl, List.reverse_perm _, ?_⟩
    intro m hm
    rw [List.mem_singleton.mp hm]
    decide
  obtain ⟨s, hs⟩ : ∃ s, s = (opened false c .passthrough .default server).play
      [.toggle "digest" true, .toggle "news" true] := ⟨_, rfl⟩
  have hcat : s.model.catalog = c := by
    rw [hs, play_catalog]
    rfl
  have hsub : s.model.subscribed.value = ["digest", "news"] := by
    rw [hs]
    decide +kernel
  have hpost : (s.move (.call .submit)).requests =
      s.requests ++ [.post settingsUpdatePath (.object sent)] := by
    rw [move_requests, hcat]
    exact congrArg (fun subscribed => _ ++ [requestFor c (.submit, subscribed)]) hsub
  have hall := submit_reads_back false c .passthrough .default server
    [.toggle "digest" true, .toggle "news" true] [] (.call .submit) (.object sent)
  rw [← hs] at hall
  obtain ⟨sent', hsent, hall⟩ := hall hpost
  obtain rfl : sent' = sent := by
    rw [Json.parseString_compact (c.choices_readsBack _)] at hsent
    cases hsent
    rfl
  obtain ⟨hfresh, hown⟩ := hall response hback
  obtain ⟨s', hstep, _, hv⟩ := hfresh true .passthrough .default server rfl
  obtain ⟨_, hload⟩ := hown nofun
  have hnil (s : Session) : s.play [] = s := rfl
  rw [hnil] at hload
  have ht : (s.move (.call .submit)).tasks = [] := by
    rw [hs]
    decide +kernel
  have hreply (answer : Except HttpError Json) :
      ((((opened false c .passthrough .default
        ⟨[⟨0, some answer⟩], [⟨0, some (.ok .null)⟩], ⟨0, none⟩⟩).play
          [.toggle "digest" true, .toggle "news" true]).move (.call .submit)).server.reply
            .load).1.answer = some answer := by
    rfl
  obtain ⟨hr, hk⟩ := hload (by rw [ht]; exact nofun) (hs ▸ hreply answer)
  have hvalue : (s.move (.call .submit)).model.subscribed.value = ["digest", "news"] := by
    rw [hs]
    decide +kernel
  have hfirst : c.keys.filter s.model.isSubscribed = ["news", "digest"] := by
    rw [hs]
    decide +kernel
  exact ⟨c, server, _, s', by rw [hs], hvalue, hr, hk ht, hstep, hv.trans hfirst⟩

end Session

end MailPrefs
