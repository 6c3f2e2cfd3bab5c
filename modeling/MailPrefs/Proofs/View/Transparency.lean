import MailPrefs.Proofs.View.Bare
import MailPrefs.Proofs.View.FirstLoad

namespace MailPrefs.Session

variable {name : String} {s : Session} {model : ViewModel} {server : Script}

theorem bared_requests (s : Session) : (s.bared name).requests = s.requests := by
  rw [requests, requests, bared, List.filterMap_filterMap]
  apply List.filterMap_congr
  intro e _
  cases e <;> rfl

theorem bared_toldAfter (s : Session) :
    (s.bared name).toldAfter 0 = (s.toldAfter 0).map fun (owner, result) =>
      (owner.bared name, result) := by
  rw [toldAfter, toldAfter, bared, List.drop_zero, List.drop_zero, List.filterMap_filterMap,
    List.map_filterMap]
  apply List.filterMap_congr
  intro e _
  cases e <;> rfl

theorem bared_mount (model : ViewModel) (server : Script) (name : String) :
    (mount model server).bared name = ((bare model server).perform (.spawn name .load)).2 := rfl

theorem mem_moves {cs : List Command} {ms : List Move}
    (h : ms.filter (!·.isInternal) = cs.flatMap Command.moves) {m : Move} (hm : m ∈ ms) :
    m.isInternal = true ∨ ∃ c ∈ cs, m ∈ c.moves := by
  cases hi : m.isInternal with
  | true => exact .inl rfl
  | false =>
    have hf : m ∈ ms.filter (!·.isInternal) := List.mem_filter.mpr ⟨hm, by rw [hi]; rfl⟩
    rw [h] at hf
    exact .inr (List.mem_flatMap.mp hf)

theorem not_takeLoad_of_mem_moves {c : Command} {m : Move} (hc : c.isBare = true)
    (h : m ∈ c.moves) : m ≠ .takeLoad ∧ m ≠ .unmount := by
  cases c with
  | load | submit | spawn | toggle | message =>
    cases List.mem_singleton.mp h
    exact ⟨nofun, nofun⟩
  | advance | settle => cases h
  | awaitLoad | unmount => cases hc

theorem not_unmount_of_mem_moves {c : Command} {m : Move} (hc : c ≠ .unmount) (h : m ∈ c.moves) :
    m ≠ .unmount := by
  cases c with
  | load | submit | spawn | toggle | message | awaitLoad =>
    cases List.mem_singleton.mp h
    exact nofun
  | advance | settle => cases h
  | unmount => exact absurd rfl hc

theorem performAll_loadTaken {cs : List Command} (hs : s.Sound)
    (hc : ∀ c ∈ cs, c.isBare = true) :
    ∃ ms, (s.performAll cs).2 = s.play ms ∧ (s.play ms).loadTaken? = s.loadTaken? := by
  obtain ⟨ms, he, _, hf⟩ := performAll_eq_play cs hs
  refine ⟨ms, he, play_loadTaken fun m hm => ?_⟩
  rcases mem_moves hf hm with hi | ⟨c, hmem, hcm⟩
  · refine ⟨?_, ?_⟩ <;>
      (rintro rfl; cases hi)
  · exact not_takeLoad_of_mem_moves (hc c hmem) hcm

theorem performAll_loadTaken_true {cs : List Command} (hs : s.Sound)
    (ht : s.loadTaken? = some true) (hc : ∀ c ∈ cs, c ≠ .unmount) :
    (s.performAll cs).2.loadTaken? = some true := by
  obtain ⟨ms, he, _, hf⟩ := performAll_eq_play cs hs
  rw [he]
  refine play_loadTaken_true ht fun m hm => ?_
  rcases mem_moves hf hm with hi | ⟨c, hmem, hcm⟩
  · rintro rfl
    cases hi
  · exact not_unmount_of_mem_moves (hc c hmem) hcm

/-- Who waits first is told the result of the first reply, if the first load could start at once. -/
theorem settled_awaitLoad (model : ViewModel) (server : Script) {cs : List Command}
    (hc : ∀ c ∈ cs, c.isBare = true) :
    ((mount model server).performAll (.settle :: cs)).2.awaitLoad.1 =
      .result (Operation.load.result (server.reply .load).1.answer) := by
  obtain ⟨ms, hi, _, he⟩ := Drifts.settle keepsTime_run (mount model server)
  have hs : (mount model server).settle.Sound := turns_sound _ (sound_mount model server)
  obtain ⟨ms', hp, ht⟩ := performAll_loadTaken hs hc
  have hm : (mount model server).settle.loadTaken? = some false := by
    rw [he]
    refine play_loadTaken fun m hm => ⟨?_, ?_⟩ <;>
      (rintro rfl; cases hi _ hm)
  have hr : ((mount model server).play ms).ready = [] := he ▸ settle_rest _
  rw [hm, he, ← play_append] at ht
  have hps : ((mount model server).performAll (.settle :: cs)).2 =
      (mount model server).play (ms ++ ms') := by
    rw [play_append, ← he]
    exact hp
  rw [hps]
  exact mount_awaitLoad_of_rest (tasks_of_internal hi) hr ht

/-- A session with a view does what a session without one does on which a load is started in the
background: it answers commands alike, sends the same requests, and its view model, its clock and
what it tells of operations are the same. Who waits for the first load first, however late, is
told its one result, which is that of the first reply if the load could start at once. Whoever
waits later is told at once that there is nothing to wait for. -/
theorem mount_transparent (model : ViewModel) (server : Script) (name : String) (cs : List Command)
    (hc : ∀ c ∈ cs, c.isBare = true) :
    let mounted := (mount model server).performAll cs
    let plain := (bare model server).performAll (.spawn name .load :: cs)
    let loaded := mounted.2.awaitLoad
    plain.1 = .done :: mounted.1 ∧ plain.2.model = mounted.2.model ∧
      plain.2.now = mounted.2.now ∧ plain.2.requests = mounted.2.requests ∧
      (plain.2.toldAfter 0 = (mounted.2.toldAfter 0).map fun (owner, result) =>
        (owner.bared name, result)) ∧
      (∃ result, loaded.1 = .result result ∧
        (loaded.2.toldAfter 0).filter (·.1 = .mount) = [(.mount, result)] ∧
        ∀ cs', cs = .settle :: cs' →
          result = Operation.load.result (server.reply .load).1.answer) ∧
      ∀ cs', (∀ c ∈ cs', c ≠ .unmount) →
        (loaded.2.performAll cs').2.awaitLoad =
          (.result (.loaded (.ok ())), (loaded.2.performAll cs').2) := by
  have hs := sound_mount model server
  obtain ⟨ha, hb⟩ := bared_performAll name hs hc
  rw [bared_mount] at ha hb
  have hp : ((bare model server).performAll (.spawn name .load :: cs)).2 =
      ((mount model server).performAll cs).2.bared name := hb.symm
  obtain ⟨ms, he, ht⟩ := performAll_loadTaken hs hc
  have ht' : ((mount model server).play ms).loadTaken? = some false := ht
  obtain ⟨result, hr, htold⟩ := toldAfter_awaitLoad ht'
  have hl := loadTaken_awaitLoad ht'
  have hsl := perform_sound (hs.play ms) .awaitLoad
  rw [← he] at hr htold hl hsl
  intro mounted plain loaded
  simp only [mounted, plain, loaded, hp]
  refine ⟨congrArg (Answer.done :: ·) ha.symm, rfl, rfl, bared_requests _, bared_toldAfter _,
    ⟨result, hr, htold, ?_⟩, ?_⟩
  · rintro cs' rfl
    have hf := settled_awaitLoad model server fun c h => hc c (List.mem_cons_of_mem _ h)
    rw [hr] at hf
    exact Answer.result.inj hf
  · intro cs' hcs
    exact awaitLoad_of_taken (performAll_loadTaken_true hsl hl hcs)

/-- A client that breaks down at the first load stops that, and nothing else. -/
theorem mount_transparent_stopped :
    let model : ViewModel := { catalog := ⟨["news"], by decide, by decide⟩ }
    let server : Script := ⟨[⟨2, none⟩], [], ⟨1, some (.ok .null)⟩⟩
    let cs : List Command := [.settle, .toggle "news" true, .submit]
    (∀ c ∈ cs, c.isBare = true) ∧
      ((bare model server).performAll (.spawn "first" .load :: cs)).2.model =
        ((mount model server).performAll cs).2.model ∧
      ((mount model server).performAll cs).2.awaitLoad.1 =
        .result (.loaded (.error (.taskStopped ""))) := by
  intro model server cs
  have hc : ∀ c ∈ cs, c.isBare = true := by decide
  obtain ⟨_, hm, _, _, _, ⟨result, hr, _, hf⟩, _⟩ := mount_transparent model server "first" cs hc
  refine ⟨hc, hm, ?_⟩
  rw [hr, hf _ rfl]
  rfl

end MailPrefs.Session
