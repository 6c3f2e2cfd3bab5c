import MailPrefs.Proofs.Session.Settling
import MailPrefs.Proofs.Subscribed.Alterations
import MailPrefs.Proofs.View.Overlooking

namespace MailPrefs

namespace Mount

variable {v : Mount} {m : ViewModel}

def due (v : Mount) (m : ViewModel) : List Frame :=
  (if v.subscribed.hasChanged m.subscribed then [.checkboxes m.checkboxes] else []) ++
    if v.status.hasChanged m.status then [.status m.status.value] else []

theorem length_due (v : Mount) (m : ViewModel) : (v.due m).length = v.unseen m := by
  rw [due, unseen]
  cases v.subscribed.hasChanged m.subscribed <;> cases v.status.hasChanged m.status <;> rfl

theorem due_of_no_news (h : v.hasNews m = false) : v.due m = [] := by
  obtain ⟨hs, ht⟩ := Bool.or_eq_false_iff.mp h
  rw [due, hs, ht]
  rfl

/-- What a look finds was due and is so no longer. -/
theorem due_look (v : Mount) (m : ViewModel) :
    (v.due m).Perm ((v.look m).1.toList ++ (v.look m).2.due m) := by
  have hl := v.look_looks m
  have hs : (Watch.start m.subscribed).hasChanged m.subscribed = false :=
    Watch.hasChanged_eq_false.mpr rfl
  have ht : (Watch.start m.status).hasChanged m.status = false :=
    Watch.hasChanged_eq_false.mpr rfl
  generalize v.look m = found at hl
  cases hl with
  | nothing first hn => exact .refl _
  | checkboxes first hn =>
    rw [due, due, if_pos hn, hs]
    exact .refl _
  | status first hn =>
    rw [due, due, if_pos hn, ht]
    exact List.perm_append_comm.trans (.of_eq (congrArg (_ :: ·) (List.append_nil _).symm))

end Mount

theorem Watch.hasChanged_setAll {α : Type} (o : Observable α) (values : List α) :
    (Watch.start o).hasChanged (o.setAll values) = true ↔ values ≠ [] := by
  have hv : (start o).seen = o.version := rfl
  rw [hasChanged_eq_true, hv, Observable.setAll_version, ← List.length_pos_iff]
  omega

namespace Session

variable {s s' s'' : Session} {m : Move} {ms : List Move} {shown shown' : List Frame}

def IsParked (s : Session) : Prop :=
  Job.render ∉ s.ready

/-- The view is shown these frames, which were due and are so no longer. -/
structure Presents (s : Session) (shown : List Frame) (s' : Session) : Prop where
  model : s'.model = s.model
  frames : s'.frames = s.frames ++ shown
  view : ∀ v, s.view = some v →
    ∃ v', s'.view = some v' ∧ (v.due s.model).Perm (shown ++ v'.due s.model)

theorem Presents.refl (s : Session) : s.Presents [] s :=
  ⟨rfl, (List.append_nil _).symm, fun v hv => ⟨v, hv, .refl _⟩⟩

theorem Presents.trans (h : s.Presents shown s') (h' : s'.Presents shown' s'') :
    s.Presents (shown ++ shown') s'' := by
  refine ⟨h'.model.trans h.model, ?_, fun v hv => ?_⟩
  · rw [h'.frames, h.frames, List.append_assoc]
  · obtain ⟨v', hv', hp⟩ := h.view v hv
    obtain ⟨v'', hv'', hp'⟩ := h'.view v' hv'
    rw [h.model] at hp'
    refine ⟨v'', hv'', hp.trans ?_⟩
    rw [List.append_assoc]
    exact hp'.append_left shown

def looks (s : Session) : Nat :=
  s.ready.countP Job.isLook

theorem presents_render (s : Session) :
    ∃ shown, s.Presents shown s.render ∧ s.render.looks = s.looks + shown.length := by
  rw [render]
  split
  · exact ⟨[], .refl s, rfl⟩
  · next v hv =>
    have hd := v.due_look s.model
    split
    · next frame v' hl =>
      rw [hl] at hd
      refine ⟨[frame], ⟨rfl, frames_rendered s frame, fun w hw => ?_⟩, ?_⟩
      · cases hv.symm.trans hw
        exact ⟨v', rfl, hd⟩
      · exact List.countP_cons_of_pos rfl
    · next v' hl =>
      rw [hl] at hd
      refine ⟨[], ⟨rfl, (List.append_nil _).symm, fun w hw => ?_⟩, rfl⟩
      cases hv.symm.trans hw
      exact ⟨_, rfl, hd⟩

theorem IsLook.presents (h : s.IsLook m) :
    ∃ shown, s.Presents shown (s.move m) ∧ (s.move m).looks + 1 = s.looks + shown.length := by
  obtain ⟨index, rfl, hr⟩ := h.eq_run
  have hm : s.move (.run index) =
      ({ s with ready := s.ready.eraseIdx index } : Session).render := by
    simp only [Session.move, hr]
    rfl
  obtain ⟨shown, hp, hl⟩ := presents_render { s with ready := s.ready.eraseIdx index }
  have hc : s.looks = (s.ready.eraseIdx index).countP Job.isLook + 1 :=
    ((perm_cons_eraseIdx hr).countP_eq Job.isLook).trans (List.countP_cons_of_pos rfl)
  rw [hm]
  refine ⟨shown, ⟨hp.model, hp.frames, hp.view⟩, ?_⟩
  rw [hl, hc]
  exact Nat.add_right_comm _ _ 1

theorem presents_play (h : s.Each IsLook ms) : ∃ shown, s.Presents shown (s.play ms) := by
  induction ms generalizing s with
  | nil => exact ⟨[], .refl s⟩
  | cons m ms ih =>
    obtain ⟨shown, hp, _⟩ := h.1.presents
    obtain ⟨shown', hp'⟩ := ih h.2
    exact ⟨shown ++ shown', hp.trans hp'⟩

theorem exists_looks {v : Mount} (hv : s.view = some v) :
    ∃ ms, s.Each IsLook ms ∧ (s.play ms).IsParked := by
  induction hn : s.looks + v.unseen s.model using Nat.strongRecOn generalizing s v with
  | ind n ih =>
    by_cases hp : s.IsParked
    · exact ⟨[], trivial, hp⟩
    · obtain ⟨index, hr⟩ := List.mem_iff_getElem?.mp (not_not.mp hp)
      have hl : s.IsLook (.run index) := hr
      obtain ⟨shown, hs, hc⟩ := hl.presents
      obtain ⟨v', hv', hd⟩ := hs.view v hv
      have hu := hd.length_eq
      rw [List.length_append, Mount.length_due, Mount.length_due] at hu
      have hlt : (s.move (.run index)).looks + v'.unseen (s.move (.run index)).model < n := by
        rw [hs.model]
        omega
      obtain ⟨ms, he, hp'⟩ := ih _ hlt hv' rfl
      exact ⟨.run index :: ms, ⟨hl, he⟩, hp'⟩

/-- After a burst the parts that it wrote are due, as they are then. -/
theorem due_burst {v : Mount} (hv : s.view = some v) (hn : v.hasNews s.model = false)
    (hb : s.Each IsBlind ms) :
    ∃ v', (s.play ms).view = some v' ∧
      v'.due (s.play ms).model =
        (if s.alterations ms = [] then [] else [.checkboxes (s.play ms).model.checkboxes]) ++
          if s.writes ms = [] then [] else [.status (s.play ms).model.status.value] := by
  obtain ⟨hs, ht⟩ := Bool.or_eq_false_iff.mp hn
  have hs' : v.subscribed = .start s.model.subscribed :=
    congrArg Watch.mk (Watch.hasChanged_eq_false.mp hs)
  have ht' : v.status = .start s.model.status :=
    congrArg Watch.mk (Watch.hasChanged_eq_false.mp ht)
  obtain ⟨v', hv', hvs, hvt⟩ := (overlooks_play hb).exists_view hv
  have ha : (Watch.start s.model.subscribed).hasChanged (s.play ms).model.subscribed = true ↔
      s.alterations ms ≠ [] := by
    rw [play_alterations, Watch.hasChanged_setAll]
  have hw : (Watch.start s.model.status).hasChanged (s.play ms).model.status = true ↔
      s.writes ms ≠ [] := by
    rw [play_status, Watch.hasChanged_setAll]
  refine ⟨v', hv', ?_⟩
  simp only [Mount.due, hvs, hvt, hs', ht', ha, hw, ite_not]

theorem filterMap_checkboxes (kept unwritten : Prop) [Decidable kept] [Decidable unwritten]
    (entries : List (String × Bool)) (message : StatusMessage) :
    ((if kept then [] else [Frame.checkboxes entries]) ++
      if unwritten then [] else [Frame.status message]).filterMap Frame.checkboxes? =
        if kept then [] else [entries] := by
  split <;> split <;> rfl

variable (c : Catalog) (l : Localizer) (t : SupportContact) (server : Script)

/-- However much happens before a view that is at rest looks again, once it has come to rest it was
shown each part that was written meanwhile once, as it was left, and no other. No checkboxes are
shown just if every move of the burst is one that leaves the subscribed list alone. -/
theorem one_frame_per_burst (before burst : List Move) {v : Mount} :
    let s := (opened true c l t server).play before
    let s' := s.play burst
    s.view = some v → s.IsParked → s.Each IsBlind burst →
      (∃ ms, s'.Each IsLook ms ∧ (s'.play ms).IsParked) ∧
        ∀ ms, s'.Each IsLook ms → (s'.play ms).IsParked →
          ∃ shown, (s'.play ms).frames = s.frames ++ shown ∧
            shown.Perm
              ((if s.alterations burst = [] then [] else [.checkboxes s'.model.checkboxes]) ++
                if s.writes burst = [] then [] else [.status s'.model.status.value]) ∧
            (shown.filterMap Frame.checkboxes? = [] ↔ s.Each Spares burst) := by
  intro s s' hv hp hb
  have htracks : s.Tracks _ := tracks_play c l t server before
  obtain ⟨v', hv', hdue⟩ := due_burst hv (htracks.hasNews_of_parked hv hp) hb
  refine ⟨exists_looks hv', fun ms hl hp' => ?_⟩
  obtain ⟨shown, hs⟩ := presents_play hl
  obtain ⟨v'', hv'', hperm⟩ := hs.view v' hv'
  -- Nothing is due any more, so all that was due after the burst has been shown.
  have hrest : v''.due s'.model = [] := by
    have htracks' := tracks_play c l t server (before ++ burst ++ ms)
    rw [play_append, play_append] at htracks'
    have hn := htracks'.hasNews_of_parked hv'' hp'
    rw [hs.model] at hn
    exact Mount.due_of_no_news hn
  rw [hrest, List.append_nil, hdue] at hperm
  refine ⟨shown, ?_, hperm.symm, ?_⟩
  · rw [hs.frames, (overlooks_play hb).frames]
  · have hf := hperm.symm.filterMap Frame.checkboxes?
    rw [filterMap_checkboxes] at hf
    rw [← alterations_eq_nil_iff]
    by_cases ha : s.alterations burst = []
    · rw [if_pos ha] at hf
      exact iff_of_true hf.eq_nil ha
    · rw [if_neg ha, List.perm_singleton] at hf
      exact iff_of_false (hf ▸ List.cons_ne_nil _ _) ha

/-- A list that is left and joined again before the view looks is shown once, as it was before. -/
theorem one_frame_per_burst_toggled_back :
    let c : Catalog := ⟨["news", "digest"], by decide, by decide⟩
    let report := Json.object [("mailing_lists", .object [("news", .bool true)])]
    let server : Script := ⟨[], [], ⟨0, some (.ok report)⟩⟩
    let before : List Move := [.run 0, .run 0, .run 0, .run 0]
    let burst : List Move :=
      [.toggle "news" false, .message ⟨"Hello", .success⟩ none true, .toggle "news" true]
    ∃ s ms shown, s = (opened true c .passthrough .default server).play before ∧
      (s.play burst).Each IsLook ms ∧ ((s.play burst).play ms).IsParked ∧
      ((s.play burst).play ms).frames = s.frames ++ shown ∧
      shown.Perm
        [.checkboxes [("news", true), ("digest", false)], .status ⟨"Hello", .success⟩] := by
  intro c report server before burst
  obtain ⟨s, hs⟩ : ∃ s, s = (opened true c .passthrough .default server).play before := ⟨_, rfl⟩
  have hr : s.ready.length = 0 := by
    rw [hs]
    decide +kernel
  have hp : s.IsParked := by
    rw [IsParked, List.eq_nil_of_length_eq_zero hr]
    exact List.not_mem_nil
  have hm : s.view.isSome = true := by
    rw [hs]
    decide +kernel
  obtain ⟨v, hv⟩ := Option.isSome_iff_exists.mp hm
  have hb : s.Each IsBlind burst := ⟨⟨nofun, nofun⟩, ⟨nofun, nofun⟩, ⟨nofun, nofun⟩, trivial⟩
  have ha : s.alterations burst ≠ [] := by
    rw [hs]
    decide +kernel
  have hw : s.writes burst ≠ [] := by
    rw [hs]
    decide +kernel
  have hc : (s.play burst).model.checkboxes = [("news", true), ("digest", false)] := by
    rw [hs]
    decide +kernel
  have ht : (s.play burst).model.status.value = ⟨"Hello", .success⟩ := by
    rw [hs]
    decide +kernel
  have h := one_frame_per_burst c .passthrough .default server before burst (v := v)
  rw [← hs] at h
  obtain ⟨⟨ms, hl, hp'⟩, h⟩ := h hv hp hb
  obtain ⟨shown, hf, hperm, _⟩ := h ms hl hp'
  rw [if_neg ha, if_neg hw, hc, ht] at hperm
  exact ⟨s, ms, shown, hs, hl, hp', hf, hperm⟩

end Session

end MailPrefs
