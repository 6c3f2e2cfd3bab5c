import MailPrefs.Proofs.Observable.Watching

namespace MailPrefs

namespace Hub

variable {α : Type} {v : α} {past : List (Exchange α)} {e : Exchange α} {x : Watcher} {h h' : Hub α}

/-- The hubs agree in all but what this watcher remembers. -/
structure SameBut (x : Watcher) (h h' : Hub α) : Prop where
  observable : h'.observable = h.observable
  handles : h'.handles = h.handles
  known : ∀ y, h'.watch? y = none ↔ h.watch? y = none
  watch : ∀ y, y ≠ x → h'.watch? y = h.watch? y

theorem SameBut.symm (hs : SameBut x h h') : SameBut x h' h :=
  ⟨hs.observable.symm, hs.handles.symm, fun y => (hs.known y).symm,
    fun y hy => (hs.watch y hy).symm⟩

theorem SameBut.trans {h'' : Hub α} (hs : SameBut x h h') (hs' : SameBut x h' h'') :
    SameBut x h h'' :=
  ⟨hs'.observable.trans hs.observable, hs'.handles.trans hs.handles,
    fun y => (hs'.known y).trans (hs.known y), fun y hy => (hs'.watch y hy).trans (hs.watch y hy)⟩

theorem length_eq_of_known {ws ws' : List Watch} (hk : ∀ i : Nat, ws'[i]? = none ↔ ws[i]? = none) :
    ws'.length = ws.length := by
  have hle := hk ws.length
  have hle' := hk ws'.length
  simp only [List.getElem?_eq_none_iff] at hle hle'
  omega

theorem SameBut.answer (hs : SameBut x h h') {a : Action α} (ha : a.watcher? ≠ some x) :
    (h'.act a).1 = (h.act a).1 := by
  have hopen : h'.isOpen = h.isOpen := congrArg (· != 0) hs.handles
  cases a with
  | hasChanged i =>
    have hw : h'.receivers[i]? = h.receivers[i]? :=
      hs.watch (.receiver i) fun hx => ha (congrArg some hx)
    rw [act, act, hw, hopen, hs.observable]
    split <;> rfl
  | read i =>
    have hw : h'.receivers[i]? = h.receivers[i]? :=
      hs.watch (.receiver i) fun hx => ha (congrArg some hx)
    rw [act, act, hw, hs.observable]
    split <;> rfl
  | next i =>
    have hw : h'.streams[i]? = h.streams[i]? :=
      hs.watch (.stream i) fun hx => ha (congrArg some hx)
    rw [act, act, hw, hopen, hs.observable]
    split
    · rfl
    · split <;> rfl
  | close => rfl
  | get | set | update | clone =>
    simp only [act, hopen]
    split
    · simp only [actOpen, hs.observable]
    · rfl
  | subscribe =>
    have hl := length_eq_of_known fun i => hs.known (.receiver i)
    simp only [act, hopen]
    split
    · exact congrArg Answer.number hl
    · rfl
  | stream =>
    have hl := length_eq_of_known fun i => hs.known (.stream i)
    simp only [act, hopen]
    split
    · exact congrArg Answer.number hl
    · rfl

theorem Exchange.watcher?_of_shows (hs : e.shows x = true) : e.1.watcher? = some x := by
  obtain ⟨a, r⟩ := e
  cases a <;> cases r <;> first | cases hs | exact congrArg some (of_decide_eq_true hs).symm

theorem Exchange.inert_of_watcher (he : e.1.watcher? = some x) :
    e.written? = none ∧ e.tells = false ∧ (∀ y, e.opens y = false) ∧ ∀ n, e.handles n = n := by
  obtain ⟨a, r⟩ := e
  cases a with
  | hasChanged | read | next => exact ⟨rfl, rfl, fun _ => rfl, fun _ => rfl⟩
  | _ => cases he

theorem observable_eq {o o' : Observable α} (hv : o'.value = o.value)
    (hn : o'.version = o.version) : o' = o := by
  obtain ⟨value, version⟩ := o
  cases hv
  cases hn
  rfl

theorem Does.sameBut (hd : h.Does e h') (he : e.1.watcher? = some x) : SameBut x h h' := by
  obtain ⟨hw, ht, ho, hh⟩ := Exchange.inert_of_watcher he
  have hvalue := hd.value
  have hversion := hd.version
  rw [hw, Option.getD_none] at hvalue
  rw [ht, Bool.toNat_false, Nat.add_zero] at hversion
  have hwatch (y : Watcher) := hd.watch y
  simp only [ho, Bool.false_or] at hwatch
  refine ⟨observable_eq hvalue hversion, hd.handles.trans (hh _), fun y => ?_, fun y hy => ?_⟩
  · rw [hwatch]
    split
    · next hs => exact iff_of_false nofun (Option.isSome_iff_ne_none.mp (hd.shows y hs))
    · exact Iff.rfl
  · have hs : ¬e.shows y = true := fun hs =>
      hy (Option.some.inj ((Exchange.watcher?_of_shows hs).symm.trans he))
    rw [hwatch, if_neg hs]

theorem SameBut.does {k k' : Hub α} (hs : SameBut x h k) (hd : h.Does e h') (hd' : k.Does e k') :
    SameBut x h' k' := by
  have ho : k'.observable = h'.observable := by
    apply observable_eq
    · rw [hd'.value, hd.value, hs.observable]
    · rw [hd'.version, hd.version, hs.observable]
  refine ⟨ho, ?_, fun y => ?_, fun y hy => ?_⟩
  · rw [hd'.handles, hd.handles, hs.handles]
  · rw [hd'.watch, hd.watch, ho]
    split
    · exact Iff.rfl
    · exact hs.known y
  · rw [hd'.watch, hd.watch, ho, hs.watch y hy]

theorem SameBut.act (hs : SameBut x h h') (a : Action α) :
    SameBut x (h.act a).2 (h'.act a).2 := by
  by_cases ha : a.watcher? = some x
  · exact ((does_act h a).sameBut ha).symm.trans (hs.trans ((does_act h' a).sameBut ha))
  · have hd := does_act h' a
    rw [hs.answer ha] at hd
    exact hs.does (does_act h a) hd

/-- Whoever does not ask a watcher cannot tell what it remembers. -/
theorem SameBut.exchanges (hs : SameBut x h h') (as : List (Action α)) :
    (h'.exchanges as).filter (·.1.watcher? ≠ some x) =
      (h.exchanges as).filter (·.1.watcher? ≠ some x) := by
  induction as generalizing h h' with
  | nil => rfl
  | cons a as ih =>
    rw [exchanges_cons, exchanges_cons, List.filter_cons, List.filter_cons, ih (hs.act a)]
    by_cases ha : a.watcher? = some x
    · simp only [ha, ne_eq, not_true_eq_false, decide_false, Bool.false_eq_true, if_false]
    · rw [hs.answer ha]

theorem isOpen_iff (hr : h.Reflects v past) : h.isOpen = true ↔ 0 < handlesLeft past := by
  rw [isOpen, bne_iff_ne, hr.handles, Nat.pos_iff_ne_zero]

theorem Reflects.exists_watch (hr : h.Reflects v past) (ho : Opened past x) :
    ∃ w, h.watch? x = some w :=
  Option.isSome_iff_exists.mp ((hr.opened x).mpr ho)

theorem Reflects.next_of_news (hr : h.Reflects v past) {i : Nat}
    (hn : HasNews past (.stream i)) : (h.act (.next i)).1 = .item (latest v past) := by
  obtain ⟨w, hw⟩ := hr.exists_watch hn.opened
  have hc := (hr.news _ w hw).mpr hn
  rw [watch?] at hw
  simp only [Hub.act, hw, Watch.poll_of_changed hc, hr.value]

theorem Reflects.next_of_no_news (hr : h.Reflects v past) {i : Nat} (ho : Opened past (.stream i))
    (hn : ¬HasNews past (.stream i)) :
    (h.act (.next i)).1 = if 0 < handlesLeft past then .pending else .ended := by
  obtain ⟨w, hw⟩ := hr.exists_watch ho
  have hc := Bool.eq_false_iff.mpr (mt (hr.news _ w hw).mp hn)
  rw [watch?] at hw
  simp only [Hub.act, hw, Watch.poll_of_unchanged hc, isOpen_iff hr]

theorem Reflects.read (hr : h.Reflects v past) {i : Nat} (ho : Opened past (.receiver i)) :
    (h.act (.read i)).1 = .value (latest v past) := by
  obtain ⟨w, hw⟩ := hr.exists_watch ho
  rw [watch?] at hw
  simp only [Hub.act, hw, hr.value]

theorem Reflects.hasChanged (hr : h.Reflects v past) {i : Nat} (ho : Opened past (.receiver i)) :
    (0 < handlesLeft past →
      ∃ b, (h.act (.hasChanged i)).1 = .flag b ∧ (b = true ↔ HasNews past (.receiver i))) ∧
      (handlesLeft past = 0 → (h.act (.hasChanged i)).1 = .closed) := by
  obtain ⟨w, hw⟩ := hr.exists_watch ho
  have hn := hr.news _ w hw
  rw [watch?] at hw
  simp only [Hub.act, hw]
  constructor
  · intro hp
    rw [if_pos ((isOpen_iff hr).mpr hp)]
    exact ⟨_, rfl, hn⟩
  · intro hz
    rw [if_neg fun hopen => Nat.ne_of_gt ((isOpen_iff hr).mp hopen) hz]

theorem act_of_closed (hc : h.handles = 0) (a : Action α) :
    (h.act a).2.observable = h.observable ∧ (h.act a).2.handles = 0 := by
  have hopen : h.isOpen = false := by rw [isOpen, hc]; rfl
  cases a with
  | hasChanged i =>
    rw [act]
    split <;> exact ⟨rfl, hc⟩
  | read i =>
    rw [act]
    split <;> exact ⟨rfl, hc⟩
  | next i =>
    rw [act]
    split
    · exact ⟨rfl, hc⟩
    · split <;> exact ⟨rfl, hc⟩
  | close => exact ⟨rfl, congrArg (· - 1) hc⟩
  | get | set | update | clone | subscribe | stream =>
    simp only [act, hopen, Bool.false_eq_true, if_false]
    exact ⟨trivial, hc⟩

def pollOf? (i : Nat) (e : Exchange α) : Option (Answer α) :=
  if e.1.watcher? = some (.stream i) then some e.2 else none

def polls (h : Hub α) (i : Nat) (as : List (Action α)) : List (Answer α) :=
  (h.exchanges as).filterMap (pollOf? i)

theorem polls_cons_self (h : Hub α) (i : Nat) (as : List (Action α)) :
    h.polls i (.next i :: as) = (h.act (.next i)).1 :: (h.act (.next i)).2.polls i as := by
  have hp : pollOf? i (.next i, (h.act (.next i)).1) = some (h.act (.next i)).1 := if_pos rfl
  rw [polls, exchanges_cons, List.filterMap_cons_some hp, polls]

theorem polls_cons_of_ne {i : Nat} {a : Action α} (ha : a.watcher? ≠ some (.stream i))
    (h : Hub α) (as : List (Action α)) : h.polls i (a :: as) = (h.act a).2.polls i as := by
  have hp : pollOf? i (a, (h.act a).1) = none := if_neg ha
  rw [polls, exchanges_cons, List.filterMap_cons_none hp, polls]

theorem Action.eq_next {i : Nat} {a : Action α} (ha : a.watcher? = some (.stream i)) :
    a = .next i := by
  cases a <;> cases ha
  rfl

theorem Reflects.step_closed (hr : h.Reflects v past) (hc : h.handles = 0) (a : Action α) :
    latest v (past ++ [(a, (h.act a).1)]) = latest v past ∧
      ∀ x, HasNews (past ++ [(a, (h.act a).1)]) x ↔
        HasNews past x ∧ Exchange.shows (a, (h.act a).1) x = false := by
  have hd := does_act h a
  obtain ⟨ho, _⟩ := act_of_closed hc a
  constructor
  · rw [← (hr.step hd).value, ho, hr.value]
  · intro x
    have hv := hd.version
    rw [ho] at hv
    have ht : Exchange.tells (a, (h.act a).1) = false :=
      Bool.toNat_eq_zero.mp (Nat.left_eq_add.mp hv)
    rw [hasNews_concat, ht]
    simp only [Bool.false_eq_true, false_and, false_or]

/-- After the end a stream with news yields the last value and then nothing more. -/
theorem Reflects.polls_closed (hr : h.Reflects v past) (hc : h.handles = 0) {i : Nat}
    (ho : Opened past (.stream i)) (as : List (Action α)) :
    (HasNews past (.stream i) →
      ∃ n, h.polls i as <+: .item (latest v past) :: List.replicate n .ended) ∧
      (¬HasNews past (.stream i) → ∃ n, h.polls i as = List.replicate n .ended) := by
  induction as generalizing h past with
  | nil => exact ⟨fun _ => ⟨0, List.nil_prefix⟩, fun _ => ⟨0, rfl⟩⟩
  | cons a as ih =>
    obtain ⟨hl, hn⟩ := hr.step_closed hc a
    obtain ⟨ihn, ihr⟩ := ih (hr.step (does_act h a)) (act_of_closed hc a).2
      (opened_concat.mpr (.inl ho))
    rw [hl, hn] at ihn
    rw [hn] at ihr
    by_cases ha : a.watcher? = some (.stream i)
    · obtain rfl := Action.eq_next ha
      rw [polls_cons_self]
      constructor
      · intro hnews
        have hitem := hr.next_of_news hnews
        rw [hitem] at ihr ⊢
        obtain ⟨n, hp⟩ := ihr fun hrest => by simp [Exchange.shows] at hrest
        rw [hp]
        exact ⟨n, List.prefix_refl _⟩
      · intro hrest
        have hended := hr.next_of_no_news ho hrest
        rw [← hr.handles, hc, if_neg (Nat.lt_irrefl 0)] at hended
        obtain ⟨n, hp⟩ := ihr fun hnews => hrest hnews.1
        rw [hended, hp]
        exact ⟨n + 1, rfl⟩
    · have hs : Exchange.shows (a, (h.act a).1) (.stream i) = false :=
        Bool.eq_false_iff.mpr fun hs => ha (Exchange.watcher?_of_shows hs)
      rw [polls_cons_of_ne ha]
      exact ⟨fun hnews => ihn ⟨hnews, hs⟩, fun hrest => ihr fun hnews => hrest hnews.1⟩

structure AnswersTo (h : Hub α) (v : α) (past : List (Exchange α)) : Prop where
  get : 0 < handlesLeft past → (h.act .get).1 = .value (latest v past)
  set : 0 < handlesLeft past → ∀ w, (h.act (.set w)).1 = .done
  update : 0 < handlesLeft past → ∀ w told, (h.act (.update w told)).1 = .flag told
  clone : 0 < handlesLeft past → (h.act .clone).1 = .done
  subscribe : 0 < handlesLeft past →
    ∃ i, (h.act .subscribe).1 = .number i ∧ ¬Opened past (.receiver i)
  stream : 0 < handlesLeft past → ∃ i, (h.act .stream).1 = .number i ∧ ¬Opened past (.stream i)
  gone : handlesLeft past = 0 → ∀ a, a.watcher? = none → a ≠ .close → (h.act a).1 = .gone
  read : ∀ i, Opened past (.receiver i) → (h.act (.read i)).1 = .value (latest v past)
  hasChanged : ∀ i, Opened past (.receiver i) → 0 < handlesLeft past →
    ∃ b, (h.act (.hasChanged i)).1 = .flag b ∧ (b = true ↔ HasNews past (.receiver i))
  closed : ∀ i, Opened past (.receiver i) → handlesLeft past = 0 →
    (h.act (.hasChanged i)).1 = .closed
  yields : ∀ i, HasNews past (.stream i) → (h.act (.next i)).1 = .item (latest v past)
  waits : ∀ i, Opened past (.stream i) → ¬HasNews past (.stream i) →
    (h.act (.next i)).1 = if 0 < handlesLeft past then .pending else .ended
  /-- To ask a watcher makes no difference to what anyone else is answered from then on. -/
  apart : ∀ x a, a.watcher? = some x → ∀ as,
    ((h.act a).2.exchanges as).filter (·.1.watcher? ≠ some x) =
      (h.exchanges as).filter (·.1.watcher? ≠ some x)
  /-- Once the last handle is given up, a stream with news yields the last value once and then ends,
  and one without news ends. -/
  ends : handlesLeft past = 0 → ∀ i, Opened past (.stream i) → ∀ as,
    (HasNews past (.stream i) →
      ∃ n, h.polls i as <+: .item (latest v past) :: List.replicate n .ended) ∧
      (¬HasNews past (.stream i) → ∃ n, h.polls i as = List.replicate n .ended)

theorem Reflects.not_opened (hr : h.Reflects v past) (hx : h.watch? x = none) : ¬Opened past x := by
  intro ho
  obtain ⟨w, hw⟩ := hr.exists_watch ho
  rw [hx] at hw
  cases hw

theorem Reflects.subscribe (hr : h.Reflects v past) (hopen : h.isOpen = true) :
    ∃ i, (h.act .subscribe).1 = .number i ∧ ¬Opened past (.receiver i) := by
  refine ⟨h.receivers.length, ?_, hr.not_opened (List.getElem?_eq_none (Nat.le_refl _))⟩
  simp only [Hub.act, hopen, if_true]
  rfl

theorem Reflects.stream (hr : h.Reflects v past) (hopen : h.isOpen = true) :
    ∃ i, (h.act .stream).1 = .number i ∧ ¬Opened past (.stream i) := by
  refine ⟨h.streams.length, ?_, hr.not_opened (List.getElem?_eq_none (Nat.le_refl _))⟩
  simp only [Hub.act, hopen, if_true]
  rfl

theorem act_gone (hopen : h.isOpen = false) {a : Action α} (ha : a.watcher? = none)
    (hc : a ≠ .close) : (h.act a).1 = .gone := by
  cases a with
  | hasChanged | read | next => cases ha
  | close => exact absurd rfl hc
  | get | set | update | clone | subscribe | stream =>
    simp only [act, hopen, Bool.false_eq_true, if_false]

/-- Whatever was done before through any handle, and whoever watched from whenever on, a hub answers
by what was written and what each watcher was shown. -/
theorem answers_follow_writes (v : α) (as : List (Action α)) :
    ((new v).run as).2.AnswersTo v ((new v).exchanges as) := by
  have hr : ((new v).run as).2.Reflects v ((new v).exchanges as) := (reflects_new v).run as
  generalize ((new v).run as).2 = h at hr
  generalize (new v).exchanges as = past at hr
  have hopen (hp : 0 < handlesLeft past) : h.isOpen = true := (isOpen_iff hr).mpr hp
  have hclosed (hz : handlesLeft past = 0) : h.isOpen = false :=
    Bool.eq_false_iff.mpr fun ho => Nat.ne_of_gt ((isOpen_iff hr).mp ho) hz
  constructor
  case get =>
    intro hp
    simp only [act, hopen hp, if_true, actOpen, hr.value]
  case set =>
    intro hp w
    simp only [act, hopen hp, if_true, actOpen]
  case update =>
    intro hp w told
    simp only [act, hopen hp, if_true]
    rfl
  case clone =>
    intro hp
    simp only [act, hopen hp, if_true, actOpen]
  case subscribe => exact fun hp => hr.subscribe (hopen hp)
  case stream => exact fun hp => hr.stream (hopen hp)
  case gone => exact fun hz a ha hc => act_gone (hclosed hz) ha hc
  case read => exact fun i ho => hr.read ho
  case hasChanged => exact fun i ho hp => (hr.hasChanged ho).1 hp
  case closed => exact fun i ho hz => (hr.hasChanged ho).2 hz
  case yields => exact fun i hn => hr.next_of_news hn
  case waits => exact fun i ho hn => hr.next_of_no_news ho hn
  case apart => exact fun x a ha as => ((does_act h a).sameBut ha).exchanges as
  case ends => exact fun hz i ho as => hr.polls_closed (hr.handles.trans hz) ho as

end Hub

end MailPrefs
