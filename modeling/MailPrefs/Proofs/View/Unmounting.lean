import MailPrefs.Proofs.View.Overlooking
import MailPrefs.Proofs.View.Transparency

namespace MailPrefs

def Event.bared (name : String) : Event → Event
  | .finished owner result => .finished (owner.bared name) result
  | e => e

/-- Two names are enough to tell the mounting of a view from any background task. -/
theorem Owner.bared_injective :
    Function.Injective fun owner : Owner => (owner.bared "", owner.bared "a") := by
  intro owner owner' h
  cases owner <;> cases owner' <;> grind [Owner.bared]

theorem Event.bared_injective :
    Function.Injective fun e : Event => (e.bared "", e.bared "a") := by
  intro e e' h
  obtain ⟨h, h'⟩ := Prod.mk.inj h
  cases e with
  | finished owner result =>
    cases e' with
    | finished owner' result' =>
      injection h with ho hr
      injection h' with ho' _
      rw [hr, Owner.bared_injective (Prod.ext ho ho')]
    | _ => cases h
  | _ =>
    cases e' with
    | finished => cases h
    | _ => exact h

theorem Event.bared?_of_heard {name : String} {e : Event} (h : e.frame? = none) :
    e.bared? name = some (e.bared name) := by
  cases e with
  | rendered => cases h
  | requested | logged | finished => rfl

theorem Job.isSome_bared? (name : String) (job : Job) :
    (job.bared? name).isSome = !job.isLook := by
  rw [bared?]
  cases job.isLook <;> rfl

section Places

variable {α β : Type} {f : α → Option β} {l : List α} {i : Nat} {a : α} {b : β}

theorem filterMap_around (h : l[i]? = some a) :
    l.filterMap f = (l.take i).filterMap f ++ (a :: l.drop (i + 1)).filterMap f := by
  obtain ⟨hi, rfl⟩ := List.getElem?_eq_some_iff.mp h
  rw [← List.filterMap_append, List.getElem_cons_drop, List.take_append_drop]

theorem filterMap_eraseIdx (f : α → Option β) (l : List α) (i : Nat) :
    (l.eraseIdx i).filterMap f = (l.take i).filterMap f ++ (l.drop (i + 1)).filterMap f := by
  rw [List.eraseIdx_eq_take_drop_succ, List.filterMap_append]

theorem filterMap_eraseIdx_of_none (h : l[i]? = some a) (hf : f a = none) :
    (l.eraseIdx i).filterMap f = l.filterMap f := by
  rw [filterMap_eraseIdx, filterMap_around h, List.filterMap_cons_none hf]

/-- What is kept of a list has its place behind what is kept before it. -/
theorem filterMap_place (h : l[i]? = some a) (hf : f a = some b) :
    (l.filterMap f)[((l.take i).filterMap f).length]? = some b ∧
      (l.filterMap f).eraseIdx ((l.take i).filterMap f).length = (l.eraseIdx i).filterMap f := by
  rw [filterMap_eraseIdx, filterMap_around h, List.filterMap_cons_some hf]
  constructor
  · rw [List.getElem?_append_right (Nat.le_refl _), Nat.sub_self, List.getElem?_cons_zero]
  · rw [List.eraseIdx_append_of_length_le (Nat.le_refl _), Nat.sub_self, List.eraseIdx_cons_zero]

end Places

namespace Session

variable {s s' s'' : Session} {name : String}

def heard (s : Session) : List Event :=
  s.trace.filter (·.frame?.isNone)

/-- Nothing is to be told of two sessions that is not the same, their views apart. -/
structure Agrees (s s' : Session) : Prop where
  model : s'.model = s.model
  now : s'.now = s.now
  heard : s'.heard = s.heard

theorem bared_trace (s : Session) : (s.bared name).trace = s.heard.map (Event.bared name) := by
  rw [heard, ← List.filterMap_eq_map, List.filterMap_filter]
  apply List.filterMap_congr
  intro e _
  cases h : e.frame? with
  | none => exact Event.bared?_of_heard h
  | some frame =>
    cases e with
    | rendered => rfl
    | requested | logged | finished => cases h

theorem Agrees.of_bared (h : ∀ name, s'.bared name = s.bared name) : s.Agrees s' := by
  have ht (name : String) : s'.heard.map (Event.bared name) = s.heard.map (Event.bared name) := by
    rw [← bared_trace, ← bared_trace, h]
  have hm : (s'.bared "").model = (s.bared "").model := by rw [h]
  have hn : (s'.bared "").now = (s.bared "").now := by rw [h]
  refine ⟨hm, hn, ?_⟩
  apply List.map_injective_iff.mpr Event.bared_injective
  rw [← List.zip_map', ← List.zip_map', ht, ht]

/-- The move that does without the view what a move does beside it, if it does anything. -/
def bareMove? (s : Session) : Move → Option Move
  | .run index =>
    if (s.ready[index]?).any (!·.isLook) then
      some (.run ((s.ready.take index).countP (!·.isLook)))
    else none
  | .nudge | .takeLoad | .unmount => none
  | m => some m

theorem bareMove?_run {index : Nat} {job : Job} (h : s.ready[index]? = some job) (name : String) :
    s.bareMove? (.run index) = (job.bared? name).map fun _ =>
      .run ((s.ready.take index).filterMap (Job.bared? name)).length := by
  rw [bareMove?, h, Option.any_some, List.length_filterMap_eq_countP,
    funext (Job.isSome_bared? name), Job.bared?]
  cases job.isLook <;> rfl

theorem bared_run (s : Session) (index : Nat) :
    (s.move (.run index)).bared name =
      (s.bared name).play (s.bareMove? (.run index)).toList := by
  cases hr : s.ready[index]? with
  | none =>
    have hm : s.move (.run index) = s := by simp only [move, hr]
    have hb : s.bareMove? (.run index) = none := by
      rw [bareMove?, hr]
      rfl
    rw [hm, hb]
    rfl
  | some job =>
    have hm : s.move (.run index) = { s with ready := s.ready.eraseIdx index }.runJob job := by
      simp only [move, hr]
    rw [hm, bareMove?_run hr name]
    cases hj : job.bared? name with
    | none =>
      have hl : ({ s with ready := s.ready.eraseIdx index } : Session).bared name =
          s.bared name := by
        simp only [bared, filterMap_eraseIdx_of_none hr hj]
      cases job with
      | render => exact (bared_render _).trans hl
      | start | resume | armReset | reset => cases hj
    | some job' =>
      obtain ⟨hp, he⟩ := filterMap_place hr hj
      have hp' : (s.bared name).ready[((s.ready.take index).filterMap (Job.bared? name)).length]? =
          some job' := hp
      rw [bared_runJob _ hj]
      simp only [Option.map_some, Option.toList_some, play, List.foldl_cons, List.foldl_nil, move,
        hp']
      simp only [bared, he]

theorem bared_move (hs : s.Sound) (m : Move) :
    (s.move m).bared name = (s.bared name).play (s.bareMove? m).toList := by
  cases m with
  | toggle | message | call | spawn => exact bared_move_of_caller s rfl
  | run index => exact bared_run s index
  | tick time => exact bared_tick hs time
  | nudge => exact ((nudge_goes s).bared name).trans (does_nothing _)
  | takeLoad | unmount => rfl

theorem bared_play (hs : s.Sound) (ms : List Move) :
    (s.play ms).bared name = (s.bared name).play (s.collect bareMove? ms) := by
  induction ms generalizing s with
  | nil => rfl
  | cons m ms ih =>
    rw [collect, play_append, ← bared_move hs]
    exact ih (hs.move m)

def Dark (s s' : Session) : Prop :=
  s.view = none → s'.view = none ∧ s'.frames = s.frames

theorem Dark.trans (h : s.Dark s') (h' : s'.Dark s'') : s.Dark s'' := by
  intro hv
  obtain ⟨hv', hf⟩ := h hv
  obtain ⟨hv'', hf'⟩ := h' hv'
  exact ⟨hv'', hf'.trans hf⟩

theorem Overlooks.dark (h : s.Overlooks s') : s.Dark s' :=
  fun hv => ⟨h.view_eq_none hv, h.frames⟩

theorem Dark.look {m : Move} (h : s.IsLook m) : s.Dark (s.move m) := by
  intro hv
  obtain ⟨index, rfl, hr⟩ := h.eq_run
  simp only [Session.move, hr, Session.runJob, Session.render, hv, true_and]
  rfl

theorem Dark.move (s : Session) (m : Move) : s.Dark (s.move m) := by
  by_cases hl : s.IsLook m
  · exact .look hl
  · by_cases hu : m = .unmount
    · subst hu
      exact fun _ => ⟨rfl, rfl⟩
    · exact (IsBlind.overlooks ⟨hl, hu⟩).dark

theorem Dark.play (s : Session) (ms : List Move) : s.Dark (s.play ms) := by
  induction ms generalizing s with
  | nil => exact fun hv => ⟨hv, rfl⟩
  | cons m ms ih => exact (Dark.move s m).trans (ih (s.move m))

theorem Agrees.performAll {cs : List Command} (hs : s.Sound) (hs' : s'.Sound)
    (h : ∀ name, s'.bared name = s.bared name) (hc : ∀ c ∈ cs, c.isBare = true) :
    (s'.performAll cs).1 = (s.performAll cs).1 ∧
      (s.performAll cs).2.Agrees (s'.performAll cs).2 := by
  refine ⟨?_, .of_bared fun name => ?_⟩
  · rw [(bared_performAll "" hs hc).1, (bared_performAll "" hs' hc).1, h]
  · rw [(bared_performAll name hs hc).2, (bared_performAll name hs' hc).2, h]

theorem Agrees.play {ms ms' : List Move} (hs : s.Sound) (hs' : s'.Sound)
    (h : ∀ name, s'.bared name = s.bared name)
    (hm : s.collect bareMove? ms = s'.collect bareMove? ms') :
    (s.play ms).Agrees (s'.play ms') := by
  refine .of_bared fun name => ?_
  rw [bared_play hs, bared_play hs', h, hm]

/-- A view that is taken down at any point of a run is shown nothing from then on, whatever comes
next. All else goes on as if the view were still there: commands are answered alike and lead to the
same, and so do any two runs from there on that make the same moves beside the view, whichever
looks the view takes in between. -/
theorem unmount_transparent (c : Catalog) (l : Localizer) (t : SupportContact) (server : Script)
    (ms : List Move) :
    let s := (opened true c l t server).play ms
    let dropped := s.move .unmount
    (∀ ms', (dropped.play ms').frames = s.frames) ∧
      (∀ cs, (∀ c ∈ cs, c.isBare = true) →
        (dropped.performAll cs).1 = (s.performAll cs).1 ∧
          (s.performAll cs).2.Agrees (dropped.performAll cs).2) ∧
      ∀ ms' ms'', s.collect bareMove? ms' = dropped.collect bareMove? ms'' →
        (s.play ms').Agrees (dropped.play ms'') := by
  intro s dropped
  have hs : s.Sound := (sound_opened true c l t server).play ms
  have hd : dropped.Sound := hs.move .unmount
  have hb (name : String) : dropped.bared name = s.bared name := rfl
  refine ⟨fun ms' => ?_, fun cs hc => Agrees.performAll hs hd hb hc,
    fun ms' ms'' hm => .play hs hd hb hm⟩
  exact (Dark.play dropped ms' rfl).2

/-- The view goes while its first load is under way, a message waits to be reset and a look is to
come: the load is finished and the message reset all the same. -/
theorem unmount_transparent_underway :
    let c : Catalog := ⟨["news"], by decide, by decide⟩
    let report := Json.object [("mailing_lists", .object [("news", .bool true)])]
    let server : Script := ⟨[⟨5, some (.ok report)⟩], [], ⟨0, none⟩⟩
    let ms : List Move := [.run 1, .message ⟨"Hello", .success⟩ (some 3) true, .run 1]
    let s := (opened true c .passthrough .default server).play ms
    let dropped := s.move .unmount
    let cs : List Command := [.settle, .advance 4, .advance 4]
    (∀ m ∈ cs, m.isBare = true) ∧ s.sleeping.length = 2 ∧ s.frames.length = 2 ∧
      (s.play [.run 0]).frames.length = 3 ∧ (dropped.play [.run 0]).frames = s.frames ∧
      (s.performAll cs).2.Agrees (dropped.performAll cs).2 ∧
      (dropped.performAll cs).2.model.subscribed.value = ["news"] ∧
      (dropped.performAll cs).2.model.status.value = {} ∧
      ((dropped.performAll cs).2.toldAfter 0).map Prod.fst = [.mount] ∧
      (s.play [.run 0, .tick 3]).Agrees (dropped.play [.tick 3]) := by
  intro c report server ms s dropped cs
  obtain ⟨hf, hp, hm⟩ := unmount_transparent c .passthrough .default server ms
  have hc : ∀ m ∈ cs, m.isBare = true := by decide
  refine ⟨hc, by decide +kernel, by decide +kernel, by decide +kernel, hf [.run 0],
    (hp cs hc).2, by decide +kernel, by decide +kernel, by decide +kernel, ?_⟩
  exact hm [.run 0, .tick 3] [.tick 3] rfl

end Session

end MailPrefs
