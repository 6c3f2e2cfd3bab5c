import MailPrefs.Proofs.Session.Clock

namespace MailPrefs

inductive Write where
  /-- A message that is to be cleared after so many milliseconds, or is not to be cleared. -/
  | shown (time : Nat) (message : StatusMessage) (timeout : Option Nat)
  | cleared (time : Nat)
deriving DecidableEq, Repr

namespace Write

def time : Write → Nat
  | .shown time _ _ => time
  | .cleared time => time

def message : Write → StatusMessage
  | .shown _ message _ => message
  | .cleared _ => {}

def deadline? : Write → Option Nat
  | .shown time _ timeout => timeout.map (time + ·)
  | .cleared _ => none

def cleared? : Write → Option Nat
  | .shown _ _ _ => none
  | .cleared time => some time

end Write

namespace Session

variable {s : Session} {m : Move} {w : Write}

/-- What a job writes to the status: a reset clears it, an answer that is taken up shows what the
operation came to. -/
def jobDated? (s : Session) : Job → Option Write
  | .reset => some (.cleared s.now)
  | job => (s.taken? job).bind fun (operation, answer) =>
    (s.model.outcome? operation answer).map (.shown s.now · (some outcomeTimeout))

def dated? (s : Session) : Move → Option Write
  | .message message timeout clockRuns =>
    some (.shown s.now message (ViewModel.clearing? timeout clockRuns))
  | m => (s.job? m).bind s.jobDated?

def timeline (s : Session) (ms : List Move) : List Write :=
  s.collect dated? ms

theorem dated?_cases {P : Write → Prop} (h : s.dated? m = some w)
    (hm : ∀ message timeout clockRuns,
      P (.shown s.now message (ViewModel.clearing? timeout clockRuns)))
    (ho : ∀ message, P (.shown s.now message (some outcomeTimeout))) (hc : P (.cleared s.now)) :
    P w := by
  have hj {job : Job} (h : s.jobDated? job = some w) : P w := by
    cases job with
    | reset =>
      cases h
      exact hc
    | _ =>
      simp only [jobDated?] at h
      obtain ⟨_, _, he⟩ := Option.bind_eq_some_iff.mp h
      obtain ⟨message, _, rfl⟩ := Option.map_eq_some_iff.mp he
      exact ho message
  cases m with
  | message message timeout clockRuns =>
    cases h
    exact hm message timeout clockRuns
  | _ =>
    simp only [dated?] at h
    obtain ⟨job, _, he⟩ := Option.bind_eq_some_iff.mp h
    exact hj he

theorem dated?_time (h : s.dated? m = some w) : w.time = s.now :=
  dated?_cases (P := fun w => w.time = s.now) h (fun _ _ _ => rfl) (fun _ => rfl) rfl

theorem dated?_deadline (h : s.dated? m = some w) {time : Nat} (hd : w.deadline? = some time) :
    w.time < time := by
  revert hd
  refine dated?_cases (P := fun w => w.deadline? = some time → w.time < time) h ?_ ?_ nofun
  · intro message timeout clockRuns hd
    obtain ⟨ms, hms, rfl⟩ := Option.map_eq_some_iff.mp hd
    exact Nat.lt_add_of_pos_right (ViewModel.clearing?_pos hms)
  · rintro message ⟨⟩
    exact Nat.lt_add_of_pos_right (by decide)

theorem dated?_message (s : Session) (m : Move) :
    (s.dated? m).map Write.message = s.written? m := by
  have hj (job : Job) : (s.jobDated? job).map Write.message = s.jobWrite? job := by
    cases job with
    | reset => rfl
    | _ =>
      simp only [jobDated?, jobWrite?, Option.map_bind]
      congr 1
      funext p
      simp only [Function.comp_apply, Option.map_map]
      exact Option.map_id'
  cases m with
  | message message timeout clockRuns => rfl
  | _ =>
    simp only [dated?, written?, Option.map_bind]
    congr 1
    exact funext hj

theorem timeline_message (s : Session) (ms : List Move) :
    (s.timeline ms).map Write.message = s.writes ms := by
  rw [timeline, writes, ← collect_map]
  exact congrArg (s.collect · ms) (funext fun s => funext (dated?_message s))

theorem play_status_value (s : Session) (ms : List Move) :
    (s.play ms).model.status.value =
      ((s.timeline ms).getLast?.map Write.message).getD s.model.status.value := by
  rw [play_status, Observable.setAll_value, ← timeline_message, List.getLast?_map]

/-- The time at which a job clears the status, if it is one that does so or leads to one. -/
def clearsAt : Nat → Job → Option Nat
  | time, .reset => some time
  | time, .armReset timeout => some (time + timeout)
  | _, _ => none

def expected (s : Session) : List Nat :=
  s.survey clearsAt

theorem answering_expected (s : Session) (owner : Owner) (operation : Operation)
    (answer : Option (Except HttpError Json)) :
    let shown := (s.model.outcome? operation answer).map
      (Write.shown s.now · (some outcomeTimeout))
    ((s.answering owner operation answer).ready.filterMap (clearsAt s.now) ++
      (shown.bind Write.cleared?).toList).Perm (shown.bind Write.deadline?).toList := by
  rw [answering, ViewModel.effects_jobs]
  cases s.model.outcome? operation answer <;> exact List.Perm.refl _

theorem job_expected (s : Session) (job : Job) :
    ((s.deed job).ready.filterMap (clearsAt s.now) ++
        (s.deed job).sleeping.filterMap (fun z => clearsAt z.due z.job) ++
          ((s.jobDated? job).bind Write.cleared?).toList).Perm
      ((clearsAt s.now job).toList ++ ((s.jobDated? job).bind Write.deadline?).toList) := by
  cases job with
  | start owner operation =>
    by_cases hd : (s.server.reply operation).1.delay = 0
    · simp only [deed, starting_of_prompt hd, jobDated?, taken?, send_eq, if_pos hd]
      exact (List.Perm.of_eq (congrArg (· ++ _) (List.append_nil _))).trans
        (s.answering_expected owner operation _)
    · simp only [deed, starting_of_delayed hd, jobDated?, taken?, send_eq, if_neg hd]
      exact List.Perm.refl _
  | resume owner operation answer =>
    exact (List.Perm.of_eq (congrArg (· ++ _) (List.append_nil _))).trans
      (s.answering_expected owner operation answer)
  | render | armReset | reset => exact List.Perm.refl _

/-- A reset that a message asks for is expected until it is made. -/
theorem move_expected (hk : s.KeepsTime m) :
    (s.expected ++ ((s.dated? m).bind Write.deadline?).toList).Perm
      (((s.dated? m).bind Write.cleared?).toList ++ (s.move m).expected) := by
  have ht (time : Nat) (he : m = .tick time) :
      (s.survey clearsAt).Perm ((s.tick time).survey clearsAt) := by
    subst he
    obtain ⟨hr, _, hd⟩ := hk
    apply survey_tick
    · rw [hr]
      exact nofun
    · intro z hz hle
      rw [Nat.le_antisymm hle (hd z hz)]
  have hp := s.survey_step m clearsAt (fun job => (s.jobDated? job).bind Write.deadline?)
    (fun job => (s.jobDated? job).bind Write.cleared?) (fun _ => rfl) s.job_expected ht
  cases m with
  | message message timeout clockRuns =>
    have hm : (Move.message message timeout clockRuns).jobs.filterMap (clearsAt s.now) =
        ((ViewModel.clearing? timeout clockRuns).map (s.now + ·)).toList := by
      rw [Move.jobs]
      cases ViewModel.clearing? timeout clockRuns <;> rfl
    simp only [hm, job?, Option.bind_none, Option.toList_none, List.append_nil] at hp
    exact hp
  | _ =>
    simp only [dated?, Option.bind_assoc]
    exact hp

theorem timeline_cons (s : Session) (m : Move) (ms : List Move) :
    s.timeline (m :: ms) = (s.dated? m).toList ++ (s.move m).timeline ms := rfl

/-- Of the resets that are expected or that a run asks for, each is made in the run, at its time,
or is still expected. -/
theorem play_expected {ms : List Move} (hc : s.Clocked ms) :
    (s.expected ++ (s.timeline ms).filterMap Write.deadline?).Perm
      ((s.timeline ms).filterMap Write.cleared? ++ (s.play ms).expected) := by
  have hp := (clocked_iff_each.mp hc).perm_play fun _ _ => move_expected
  rw [collect_bind, collect_bind] at hp
  exact hp

theorem now_le_move (hk : s.KeepsTime m) : s.now ≤ (s.move m).now := by
  rcases m.tick_or_ne with ⟨time, rfl⟩ | ht
  · exact hk.2.1
  · exact Nat.le_of_eq (s.move_now ht).symm

theorem now_le_play {ms : List Move} (hc : s.Clocked ms) : s.now ≤ (s.play ms).now := by
  induction ms generalizing s with
  | nil => exact Nat.le_refl _
  | cons m ms ih => exact Nat.le_trans (now_le_move hc.1) (ih hc.2)

theorem timeline_time {ms : List Move} (hc : s.Clocked ms) :
    ∀ w ∈ s.timeline ms, s.now ≤ w.time ∧ w.time ≤ (s.play ms).now := by
  induction ms generalizing s with
  | nil => exact nofun
  | cons m ms ih =>
    have hn := now_le_move hc.1
    intro w hw
    rw [timeline_cons] at hw
    rcases List.mem_append.mp hw with hw | hw
    · rw [dated?_time (Option.mem_toList.mp hw)]
      exact ⟨Nat.le_refl _, now_le_play hc⟩
    · obtain ⟨hl, hu⟩ := ih hc.2 w hw
      exact ⟨Nat.le_trans hn hl, hu⟩

theorem timeline_pairwise {ms : List Move} (hc : s.Clocked ms) :
    (s.timeline ms).Pairwise fun a b => a.time ≤ b.time := by
  induction ms generalizing s with
  | nil => exact .nil
  | cons m ms ih =>
    rw [timeline_cons]
    refine List.pairwise_append.mpr ⟨?_, ih hc.2, ?_⟩
    · cases s.dated? m with
      | none => exact .nil
      | some w => exact List.pairwise_singleton _ w
    · intro a ha b hb
      rw [dated?_time (Option.mem_toList.mp ha)]
      exact Nat.le_trans (now_le_move hc.1) (timeline_time hc.2 b hb).1

theorem timeline_deadline (s : Session) (ms : List Move) :
    ∀ w ∈ s.timeline ms, ∀ time, w.deadline? = some time → w.time < time := by
  induction ms generalizing s with
  | nil => exact nofun
  | cons m ms ih =>
    intro w hw time hd
    rw [timeline_cons] at hw
    rcases List.mem_append.mp hw with hw | hw
    · exact dated?_deadline (Option.mem_toList.mp hw) hd
    · exact ih (s.move m) w hw time hd

theorem expected_time (h : s.Sound) {time : Nat} (he : time ∈ s.expected) :
    s.now ≤ time ∧ (s.ready = [] → s.now < time) := by
  rw [expected, survey] at he
  rcases List.mem_append.mp he with he | he
  · obtain ⟨job, hj, hc⟩ := List.mem_filterMap.mp he
    refine ⟨?_, fun hr => absurd hj (hr ▸ List.not_mem_nil)⟩
    cases job with
    | reset =>
      cases hc
      exact Nat.le_refl _
    | armReset timeout =>
      cases hc
      exact Nat.le_add_right _ _
    | render | start | resume => cases hc
  · obtain ⟨z, hz, hc⟩ := List.mem_filterMap.mp he
    have hlt : s.now < time := by
      have hl := h.later z hz
      cases hj : z.job with
      | reset =>
        rw [hj] at hc
        cases hc
        exact hl
      | armReset timeout =>
        rw [hj] at hc
        cases hc
        exact Nat.lt_of_lt_of_le hl (Nat.le_add_right _ _)
      | render | start | resume =>
        rw [hj] at hc
        cases hc
    exact ⟨Nat.le_of_lt hlt, fun _ => hlt⟩

theorem expected_opened (isMounted : Bool) (c : Catalog) (l : Localizer) (t : SupportContact)
    (server : Script) : (opened isMounted c l t server).expected = [] := by
  cases isMounted <;> rfl

theorem status_opened (isMounted : Bool) (c : Catalog) (l : Localizer) (t : SupportContact)
    (server : Script) : (opened isMounted c l t server).model.status.value = {} := by
  cases isMounted <;> rfl

/-- A message that is to be cleared and is the last write leaves its reset to come. -/
theorem deadline_pending {ms : List Move} {pending : List Nat} (hc : s.Clocked ms)
    (hp : ((s.timeline ms).filterMap Write.deadline?).Perm
      ((s.timeline ms).filterMap Write.cleared? ++ pending))
    {w : Write} (hl : (s.timeline ms).getLast? = some w) {time : Nat}
    (hd : w.deadline? = some time) : time ∈ pending := by
  obtain ⟨before, he⟩ := List.getLast?_eq_some_iff.mp hl
  have hw : w ∈ s.timeline ms := List.mem_of_getLast? hl
  have hm := hp.mem_iff.mp (List.mem_filterMap.mpr ⟨w, hw, hd⟩)
  rcases List.mem_append.mp hm with hm | hm
  · -- A reset at that time would come after the message and so be the last write.
    obtain ⟨reset, hr, ht⟩ := List.mem_filterMap.mp hm
    cases reset with
    | shown => cases ht
    | cleared at_ =>
      cases ht
      have hlt := s.timeline_deadline ms w hw time hd
      have ho := timeline_pairwise hc
      rw [he] at hr ho
      rcases List.mem_append.mp hr with hr | hr
      · have hle : time ≤ w.time :=
          (List.pairwise_append.mp ho).2.2 _ hr w (List.mem_singleton.mpr rfl)
        exact absurd hle (Nat.not_le.mpr hlt)
      · cases List.mem_singleton.mp hr
        cases hd
  · exact hm

/-- The status is what the last write left. The writes are messages of the caller, outcomes of
operations and resets, in the order of their times. Each message that is to be cleared has one
reset, at its own time and whatever is shown by then: that has been made, or is still to come. So
no such message outlives its time. -/
theorem status_timeline (isMounted : Bool) (c : Catalog) (l : Localizer) (t : SupportContact)
    (server : Script) (ms : List Move) (hc : (opened isMounted c l t server).Clocked ms) :
    let s := (opened isMounted c l t server).play ms
    let writes := (opened isMounted c l t server).timeline ms
    s.model.status.value = (writes.getLast?.map Write.message).getD {} ∧
      writes.Pairwise (fun a b => a.time ≤ b.time) ∧ (∀ w ∈ writes, w.time ≤ s.now) ∧
      (∃ pending,
        (writes.filterMap Write.deadline?).Perm (writes.filterMap Write.cleared? ++ pending) ∧
          ∀ time ∈ pending, s.now ≤ time ∧ (s.ready = [] → s.now < time)) ∧
      ∀ time message timeout, writes.getLast? = some (.shown time message (some timeout)) →
        s.now ≤ time + timeout ∧ (s.ready = [] → s.now < time + timeout) := by
  intro s writes
  have hs : s.Sound := (sound_opened isMounted c l t server).play ms
  have hp := play_expected hc
  rw [expected_opened, List.nil_append] at hp
  refine ⟨?_, timeline_pairwise hc, fun w hw => (timeline_time hc w hw).2,
    ⟨s.expected, hp, fun time he => expected_time hs he⟩, ?_⟩
  · rw [play_status_value, status_opened]
  · intro time message timeout hl
    exact expected_time hs (deadline_pending hc hp hl rfl)

/-- The reset of a message clears the one that was shown after it, before the time of that. -/
theorem status_timeline_overlapping :
    let c : Catalog := ⟨["news"], by decide, by decide⟩
    let server : Script := ⟨[], [], ⟨0, none⟩⟩
    let first : StatusMessage := ⟨"first", .info⟩
    let second : StatusMessage := ⟨"second", .danger⟩
    let ms : List Move :=
      [.message first (some 5) true, .run 0, .tick 3, .message second (some 5) true, .run 0,
        .tick 5, .run 0]
    ∃ start, start = opened false c .passthrough .default server ∧ start.Clocked ms ∧
      start.timeline ms = [.shown 0 first (some 5), .shown 3 second (some 5), .cleared 5] ∧
      (start.play ms).now = 5 ∧ (start.play ms).model.status.value = {} ∧
      ∃ pending, [5, 8].Perm (5 :: pending) ∧ ∀ time ∈ pending, 5 < time := by
  intro c server first second ms
  have hc : (opened false c .passthrough .default server).Clocked ms := by decide +kernel
  have hw : (opened false c .passthrough .default server).timeline ms =
      [.shown 0 first (some 5), .shown 3 second (some 5), .cleared 5] := by decide +kernel
  have hn : ((opened false c .passthrough .default server).play ms).now = 5 := by decide +kernel
  have hr : ((opened false c .passthrough .default server).play ms).ready = [] :=
    List.isEmpty_iff.mp (by decide +kernel)
  obtain ⟨hv, _, _, ⟨pending, hp, ht⟩, _⟩ :=
    status_timeline false c .passthrough .default server ms hc
  rw [hw] at hv hp
  refine ⟨_, rfl, hc, hw, hn, hv, pending, hp, ?_⟩
  intro time h
  have hlt := (ht time h).2 hr
  rw [hn] at hlt
  exact hlt

end Session

end MailPrefs
