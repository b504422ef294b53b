import BuildLoop.Proofs.Run.Batch
import BuildLoop.Proofs.Workflow.Alike

/-!
# Fatal failures

A wave that meets a fatal failure is finished all the same: every result is taken, and what broke down
is swept up. Then the batch answers the first fatal failure in the order in which the tasks finished,
and starts no further wave:

    rounds c n b ids = (error e, b')   →   the last wave, and no earlier one, meets a fatal failure;
                                           e is its first, and b' is the batch after it
                                                                              (rounds_eq_error)
    after a wave its tasks are over, and no task is the current one           (current_after)
-/

namespace BuildLoop

/-! ## What events say of tasks -/

namespace Event

/-- The task that an event tells the start of. -/
def started? : Event → Option String
  | taskStarted t => some t.id
  | _ => none

/-- The task that an event tells the end of. -/
def settled? : Event → Option String
  | taskCompleted t _ => some t.id
  | taskFailed _ id _ => some id
  | _ => none

end Event

namespace Dispatch

variable {σ : Type} {c : Crew σ}

/-- What one move tells. -/
theorem exists_told_play {s : RunState σ} {m : Move} (hm : m.Allowed s) :
    ∃ told, (m.play c s).log.entries = s.log.entries ++ told ∧
      told.filterMap Event.started? = starts [m] ∧
      told.filterMap Event.settled? = [m].filterMap Move.settled? := by
  cases m with
  | start id =>
    obtain ⟨t, ht, -⟩ := hm
    obtain ⟨w, -, hb⟩ := begin_some ht
    have hid : t.id = id := WorkflowState.id_of_task? ht
    refine ⟨[.taskStarted t.begin], ?_, ?_, rfl⟩
    · simp only [Move.play, hb, Option.map_some, Option.getD_some]
      rfl
    · rw [← hid]
      rfl
  | work t => exact ⟨[], (List.append_nil _).symm, rfl, rfl⟩
  | complete t report => exact ⟨[.taskCompleted t report], rfl, rfl, rfl⟩
  | fail id reason =>
    obtain ⟨role, htold⟩ : ∃ role, ((Move.fail id reason).play c s).log.entries =
        s.log.entries ++ [.taskFailed role id reason] := ⟨_, rfl⟩
    exact ⟨[.taskFailed role id reason], htold, rfl, rfl⟩

/-- Allowed moves tell which tasks start and which come to their end, in order. -/
theorem exists_told_playAll {s : RunState σ} {ms : List Move} (h : Legal c s ms) :
    ∃ told, (playAll c s ms).log.entries = s.log.entries ++ told ∧
      told.filterMap Event.started? = starts ms ∧
      told.filterMap Event.settled? = ms.filterMap Move.settled? := by
  induction ms generalizing s with
  | nil => exact ⟨[], (List.append_nil _).symm, rfl, rfl⟩
  | cons m r ih =>
    obtain ⟨told, hlog, hstarts, hsettled⟩ := exists_told_play (c := c) h.1
    obtain ⟨more, hlog', hstarts', hsettled'⟩ := ih h.2
    refine ⟨told ++ more, ?_, ?_, ?_⟩
    · rw [playAll_cons, hlog', hlog, List.append_assoc]
    · rw [List.filterMap_append, hstarts, hstarts', ← starts_append, List.singleton_append]
    · rw [List.filterMap_append, hsettled, hsettled', ← List.filterMap_append, List.singleton_append]

theorem exists_task?_playAll {s : RunState σ} {ms : List Move} {id : String} {t : Task}
    (h : s.workflow.task? id = some t) : ∃ u, (playAll c s ms).workflow.task? id = some u := by
  induction ms generalizing s t with
  | nil => exact ⟨t, h⟩
  | cons m r ih =>
    refine ih (s := m.play c s) (t := m.change id t) ?_
    rw [task?_play, h]
    rfl

/-! ## The current task -/

/-- Whether the current task, if there is one, is open and among some ids. -/
def CurrentAmong (ids : List String) (w : WorkflowState) : Prop :=
  ∀ t, w.current = some t → t.id ∈ ids ∧ w.isOpen t.id = true

theorem CurrentAmong.settle {ids : List String} {w : WorkflowState} (h : CurrentAmong ids w)
    (id : String) (f : Task → Task) (add : CompletedTasks → CompletedTasks) :
    CurrentAmong ids (w.settle id f add) := by
  intro t ht
  rw [WorkflowState.current_settle] at ht
  obtain ⟨hcurrent, hopen⟩ := Option.filter_eq_some_iff.1 ht
  refine ⟨(h t hcurrent).1, ?_⟩
  rw [WorkflowState.isOver] at hopen
  rw [WorkflowState.isOpen, WorkflowState.task?, WorkflowState.queue_settle]
  generalize (modifyTask id f w.queue).find? (·.id == t.id) = u at hopen
  cases u with
  | none => cases hopen
  | some u => exact hopen

theorem CurrentAmong.complete {ids : List String} {b : Batch σ} (h : CurrentAmong ids b.run.workflow)
    (t : Task) (report : WorkerReport) : CurrentAmong ids (complete b t report).run.workflow := by
  show CurrentAmong ids (b.run.workflow.mergeCompleted (.single t.complete))
  rw [WorkflowState.mergeCompleted_single_eq_settle]
  exact h.settle _ _ _

theorem CurrentAmong.fail {ids : List String} {b : Batch σ} (h : CurrentAmong ids b.run.workflow)
    (id reason : String) : CurrentAmong ids (fail b id reason).run.workflow := by
  show CurrentAmong ids (b.run.workflow.markFailed id reason)
  rw [WorkflowState.markFailed_eq_settle]
  exact h.settle _ _ _

/-- Taking results leaves the current task among some ids or forgets it, -/
theorem CurrentAmong.settleAll {ids : List String} {b : Batch σ} (h : CurrentAmong ids b.run.workflow)
    (fatal : Option Failure) (fs : List Finished) :
    CurrentAmong ids (settleAll c fatal b fs).2.run.workflow := by
  induction fs generalizing fatal b with
  | nil => exact h
  | cons f r ih =>
    unfold Dispatch.settleAll
    cases c.result? f with
    | none => exact ih h fatal
    | some result =>
      cases result with
      | ok report => exact ih (h.complete f.task report) fatal
      | error e => exact ih (h.fail f.task.id e.message) _

/-- and so does the sweep. -/
theorem CurrentAmong.sweep {ids swept : List String} {b : Batch σ}
    (h : CurrentAmong ids b.run.workflow) : CurrentAmong ids (sweep b swept).run.workflow := by
  induction swept generalizing b with
  | nil => exact h
  | cons id r ih =>
    unfold Dispatch.sweep
    split
    · exact ih (h.fail id Crew.brokenDown)
    · exact ih h

theorem current_start {s : RunState σ} {id : String} {t : Task} (h : s.workflow.task? id = some t) :
    ((Move.start id).play c s).workflow.current = some t.begin := by
  obtain ⟨w, hw, hb⟩ := begin_some h
  obtain ⟨u, hu, he⟩ := Option.map_eq_some_iff.1 hw
  rw [h] at hu
  cases hu
  cases he
  rw [Move.play, hb]
  rfl

/-- Starting tasks keeps the current task among some ids, if these are among them. -/
theorem mem_of_current_starts {ids sub : List String} {s : RunState σ} (hsub : ∀ id ∈ sub, id ∈ ids)
    (h : ∀ t, s.workflow.current = some t → t.id ∈ ids) :
    ∀ t, (playAll c s (sub.map .start)).workflow.current = some t → t.id ∈ ids := by
  induction sub generalizing s with
  | nil => exact h
  | cons id r ih =>
    rw [List.map_cons, playAll_cons]
    refine ih (fun i hi => hsub i (List.mem_cons_of_mem _ hi)) ?_
    intro t ht
    cases htask : s.workflow.task? id with
    | none =>
      rw [Move.play, begin_none htask] at ht
      exact h t ht
    | some u =>
      rw [current_start htask] at ht
      cases ht
      rw [Task.id_begin, WorkflowState.id_of_task? htask]
      exact hsub id List.mem_cons_self

/-! ## The first fatal failure -/

/-- The fatal failure that the work on a task ended with, if it did. -/
def fatal? (c : Crew σ) (f : Finished) : Option Failure :=
  match c.result? f with
  | some (.error e) => if e.isFatal then some e else none
  | _ => none

theorem fatal?_eq_some {f : Finished} {e : Failure} :
    fatal? c f = some e ↔ c.result? f = some (.error e) ∧ e.isFatal = true := by
  unfold fatal?
  cases c.result? f with
  | none => simp
  | some result =>
    cases result with
    | ok report => simp
    | error e' =>
      by_cases he : e'.isFatal = true
      · simp only [he, if_true, Option.some.injEq, Except.error.injEq]
        constructor
        · rintro rfl
          exact ⟨rfl, he⟩
        · exact fun h => h.1
      · simp only [he, Bool.false_eq_true, if_false, Option.some.injEq, Except.error.injEq]
        constructor
        · intro h
          cases h
        · rintro ⟨rfl, hfatal⟩
          exact absurd hfatal he

/-- Of all results taken the first fatal failure is kept. -/
theorem fst_settleAll (fatal : Option Failure) (b : Batch σ) (fs : List Finished) :
    (settleAll c fatal b fs).1 = fatal.or (fs.findSome? (fatal? c)) := by
  induction fs generalizing fatal b with
  | nil => simp [settleAll]
  | cons f r ih =>
    unfold settleAll
    rw [List.findSome?_cons]
    unfold fatal?
    cases c.result? f with
    | none => exact ih fatal b
    | some result =>
      cases result with
      | ok report => exact ih fatal _
      | error e =>
        simp only
        rw [ih, Option.or_assoc]
        cases e.isFatal <;> rfl

/-- A fatal failure with which the work on a task ends: the worker's of its role, or for want of one. -/
inductive EndsFatally (c : Crew σ) (f : Finished) : Failure → Prop
  | worker {work : Task → σ → Effort × σ} {o : σ} {e : Failure}
      (hworker : c.worker? f.task.role = some work) (heffort : f.effort = (work f.task o).1)
      (hresult : c.result? f = some (.error e)) (hfatal : e.isFatal = true) : EndsFatally c f e
  | unserved (h : c.worker? f.task.role = none) : EndsFatally c f (Crew.unserved f.task)

theorem endsFatally_iff {f : Finished} {e : Failure} (hf : ∃ o, f.effort = (c.work f.task o).1) :
    EndsFatally c f e ↔ fatal? c f = some e := by
  obtain ⟨o, heffort⟩ := hf
  unfold Crew.work at heffort
  rw [fatal?_eq_some]
  constructor
  · intro h
    cases h with
    | worker _ _ hresult hfatal => exact ⟨hresult, hfatal⟩
    | unserved hnone =>
      rw [hnone] at heffort
      refine ⟨?_, rfl⟩
      unfold Crew.result?
      rw [heffort]
  · rintro ⟨hresult, hfatal⟩
    cases hworker : c.worker? f.task.role with
    | some work =>
      rw [hworker] at heffort
      exact .worker hworker heffort hresult hfatal
    | none =>
      rw [hworker] at heffort
      unfold Crew.result? at hresult
      rw [heffort] at hresult
      cases hresult
      exact .unserved hworker

/-! ## Waves -/

/-- A wave of a batch: the batch before it, and the ids of the tasks that are ready. -/
structure Wave (σ : Type) where
  before : Batch σ
  ready : List String

namespace Wave

/-- What came of the tasks of a wave, in the order in which they finish. -/
def finished (c : Crew σ) (w : Wave σ) : List Finished := (attempt c w.before.run w.ready).1

/-- The batch after a wave. -/
def after (c : Crew σ) (w : Wave σ) : Batch σ := (wave c w.before w.ready).2

/-- The fatal failure that a wave answers. -/
def fatal? (c : Crew σ) (w : Wave σ) : Option Failure := (w.finished c).findSome? (Dispatch.fatal? c)

theorem fst_wave (w : Wave σ) : (wave c w.before w.ready).1 = w.fatal? c := by
  rw [wave_eq]
  show (settleAll c none (worked c w.before w.ready) (attempt c w.before.run w.ready).1).1 = _
  rw [fst_settleAll, Option.none_or]
  rfl

theorem fatal?_eq_none {w : Wave σ} :
    w.fatal? c = none ↔ ∀ f ∈ w.finished c, Dispatch.fatal? c f = none :=
  List.findSome?_eq_none_iff

end Wave

/-- The wave of a round. -/
def waveOf (b : Batch σ) (ids : List String) : Wave σ :=
  let f := frontier b.run.workflow ids
  ⟨failAll b f.blocked, f.ready⟩

/-- The waves of what remains of a batch, in at most `n` rounds. -/
def waves (c : Crew σ) : Nat → Batch σ → List String → List (Wave σ)
  | 0, _, _ => []
  | n + 1, b, ids =>
    if ids.isEmpty then []
    else
      match round c b ids with
      | .ended _ => []
      | .stopped _ _ => [waveOf b ids]
      | .goesOn b' rest => waveOf b ids :: waves c n b' rest

/-- The waves of a batch. -/
def wavesOf (c : Crew σ) (ids : List String) (s : RunState σ) : List (Wave σ) :=
  waves c (pendingOf s.workflow ids).length ⟨s, .empty⟩ (pendingOf s.workflow ids)

section
variable {b b' : Batch σ} {ids rest : List String} {e : Failure}

theorem round_eq_stopped (h : round c b ids = .stopped e b') :
    (waveOf b ids).ready ≠ [] ∧ (waveOf b ids).fatal? c = some e ∧ b' = (waveOf b ids).after c := by
  rw [← Wave.fst_wave]
  unfold round at h
  simp only at h
  split at h
  · cases h
  · next hne =>
    split at h
    · next hw =>
      cases h
      refine ⟨?_, congrArg Prod.fst hw, (congrArg Prod.snd hw).symm⟩
      exact fun hnil => hne (List.isEmpty_iff.2 hnil)
    · cases h

theorem round_eq_goesOn (h : round c b ids = .goesOn b' rest) : (waveOf b ids).fatal? c = none := by
  rw [← Wave.fst_wave]
  unfold round at h
  simp only at h
  split at h
  · cases h
  · split at h
    · cases h
    · next hw => exact congrArg Prod.fst hw

/-- A batch that fails does so after its last wave, the only one with a fatal failure. -/
theorem rounds_eq_error {n : Nat} (h : rounds c n b ids = (.error e, b')) :
    ∃ earlier last, waves c n b ids = earlier ++ [last] ∧ (∀ w ∈ earlier, w.fatal? c = none) ∧
      last.fatal? c = some e ∧ b' = last.after c := by
  induction n generalizing b ids with
  | zero => cases h
  | succ n ih =>
    rw [rounds] at h
    rw [waves]
    by_cases hids : ids.isEmpty = true
    · rw [if_pos hids] at h
      cases h
    · rw [if_neg hids] at h ⊢
      cases hround : round c b ids with
      | ended b₁ =>
        rw [hround] at h
        cases h
      | stopped fatal b₁ =>
        rw [hround] at h
        cases h
        obtain ⟨-, hfatal, hafter⟩ := round_eq_stopped hround
        exact ⟨[], waveOf b ids, rfl, fun w hw => absurd hw List.not_mem_nil, hfatal, hafter⟩
      | goesOn b₁ rest =>
        rw [hround] at h
        obtain ⟨earlier, last, hwaves, hearlier, hlast⟩ := ih h
        refine ⟨waveOf b ids :: earlier, last, ?_, ?_, hlast⟩
        · simp only [hwaves, List.cons_append]
        · intro w hw
          rcases List.mem_cons.1 hw with rfl | hw
          · exact round_eq_goesOn hround
          · exact hearlier w hw

/-- No wave of a batch that comes to its end meets a fatal failure. -/
theorem rounds_eq_ok {n : Nat} (h : (rounds c n b ids).1 = .ok ()) :
    ∀ w ∈ waves c n b ids, w.fatal? c = none := by
  induction n generalizing b ids with
  | zero => exact fun w hw => absurd hw List.not_mem_nil
  | succ n ih =>
    intro w hw
    rw [rounds] at h
    rw [waves] at hw
    by_cases hids : ids.isEmpty = true
    · rw [if_pos hids] at hw
      exact absurd hw List.not_mem_nil
    · rw [if_neg hids] at h hw
      cases hround : round c b ids with
      | ended b₁ =>
        rw [hround] at hw
        exact absurd hw List.not_mem_nil
      | stopped fatal b₁ =>
        rw [hround] at h
        cases h
      | goesOn b₁ rest =>
        rw [hround] at h hw
        rcases List.mem_cons.1 hw with rfl | hw
        · exact round_eq_goesOn hround
        · exact ih h w hw

/-- Whether a wave's tasks are different ones that may start. -/
structure Wave.Startable (w : Wave σ) : Prop where
  nodup : w.ready.Nodup
  nonempty : w.ready ≠ []
  allowed : ∀ id ∈ w.ready, (Move.start id).Allowed w.before.run

section
variable (hn : ids.Nodup) (hp : ∀ id ∈ ids, b.run.workflow.isPending id = true)
include hn hp

theorem startable_waveOf (c : Crew σ) (hne : (frontier b.run.workflow ids).ready ≠ []) :
    (waveOf b ids).Startable := by
  obtain ⟨-, -, -, -, hallowed⟩ := leads_failBlocked (c := c) hn hp
  exact ⟨(sublist_ready b.run.workflow [] ids).nodup hn, hne, hallowed⟩

/-- The moves of a batch start the tasks of its waves, in order, and each may start. -/
theorem leads_waves {n : Nat} (hlen : ids.length ≤ n) :
    (∀ w ∈ waves c n b ids, w.Startable) ∧
      ∃ ms, Leads c ids ms b (rounds c n b ids).2 ∧
        starts ms = (waves c n b ids).flatMap (·.ready) := by
  induction n generalizing b ids with
  | zero => exact ⟨fun w hw => absurd hw List.not_mem_nil, [], .refl ids b, rfl⟩
  | succ n ih =>
    rw [waves, rounds]
    by_cases hids : ids.isEmpty = true
    · rw [if_pos hids, if_pos hids]
      exact ⟨fun w hw => absurd hw List.not_mem_nil, [], .refl ids b, rfl⟩
    · rw [if_neg hids, if_neg hids]
      obtain ⟨ms, hl, hs, -, -, -⟩ := leads_round (c := c) hn hp
      cases hround : round c b ids with
      | ended b₁ =>
        rw [hround] at hl
        rw [round_ended hround] at hs
        exact ⟨fun w hw => absurd hw List.not_mem_nil, ms, hl, hs⟩
      | stopped fatal b₁ =>
        rw [hround] at hl
        obtain ⟨hready, -, -⟩ := round_eq_stopped hround
        refine ⟨?_, ms, hl, ?_⟩
        · intro w hw
          rw [List.mem_singleton.1 hw]
          exact startable_waveOf hn hp c hready
        · rw [hs]
          exact (List.append_nil _).symm
      | goesOn b₁ rest =>
        rw [hround] at hl
        obtain ⟨-, -, hn₁, hp₁, hsub, -⟩ := leads_goesOn hn hp hround
        have hlt := length_lt_of_goesOn hn hp hround
        obtain ⟨hready, -⟩ := round_goesOn hround
        obtain ⟨hstartable, ns, hl', hs'⟩ := ih hn₁ hp₁ (by omega)
        refine ⟨?_, ms ++ ns, hl.append (hl'.mono hsub), ?_⟩
        · intro w hw
          rcases List.mem_cons.1 hw with rfl | hw
          · exact startable_waveOf hn hp c hready
          · exact hstartable w hw
        · rw [starts_append, hs, hs', List.flatMap_cons]
          rfl

end

end

/-! ## After a wave -/

/-- Whatever is worked on, its effort is that of a worker of its role. -/
theorem exists_effort_workAll {ts : List Task} {o : σ} {f : Finished} (hf : f ∈ (c.workAll ts o).1) :
    ∃ o', f.effort = (c.work f.task o').1 := by
  induction ts generalizing o with
  | nil => cases hf
  | cons t r ih =>
    rcases List.mem_cons.1 hf with rfl | hr
    · exact ⟨o, rfl⟩
    · exact ih hr

/-- The ids of the results that are taken, in order. -/
def taken (c : Crew σ) (fs : List Finished) : List String :=
  fs.filterMap fun f => (c.result? f).map fun _ => f.task.id

/-- Results are told in the order in which they are taken. -/
theorem exists_told_settleAll (fatal : Option Failure) (b : Batch σ) (fs : List Finished) :
    ∃ told, (settleAll c fatal b fs).2.run.log.entries = b.run.log.entries ++ told ∧
      told.filterMap Event.settled? = taken c fs := by
  induction fs generalizing fatal b with
  | nil => exact ⟨[], (List.append_nil _).symm, rfl⟩
  | cons f r ih =>
    unfold settleAll taken
    rw [List.filterMap_cons]
    cases c.result? f with
    | none => exact ih fatal b
    | some result =>
      cases result with
      | ok report =>
        obtain ⟨told, hlog, htold⟩ := ih fatal (complete b f.task report)
        refine ⟨.taskCompleted f.task report :: told, ?_, ?_⟩
        · refine hlog.trans ?_
          show (b.run.log.entries ++ [_]) ++ told = _
          rw [List.append_assoc, List.singleton_append]
        · rw [List.filterMap_cons]
          exact congrArg (f.task.id :: ·) htold
      | error e =>
        obtain ⟨told, hlog, htold⟩ :=
          ih (fatal.or (if e.isFatal then some e else none)) (fail b f.task.id e.message)
        have hfail : ∃ role, (fail b f.task.id e.message).run.log.entries =
            b.run.log.entries ++ [.taskFailed role f.task.id e.message] := ⟨_, rfl⟩
        obtain ⟨role, hfail⟩ := hfail
        refine ⟨.taskFailed role f.task.id e.message :: told, ?_, ?_⟩
        · refine hlog.trans ?_
          rw [hfail, List.append_assoc, List.singleton_append]
        · rw [List.filterMap_cons]
          exact congrArg (f.task.id :: ·) htold

section
variable {w : Wave σ} (hw : w.Startable)
include hw

/-- Each task of a wave finishes once. -/
theorem perm_finished (c : Crew σ) : ((w.finished c).map (·.task.id)).Perm w.ready :=
  (finished_attempt hw.nodup hw.allowed).1

omit hw in
theorem exists_effort {f : Finished} (hf : f ∈ w.finished c) : ∃ o, f.effort = (c.work f.task o).1 :=
  exists_effort_workAll ((c.finish.perm _).mem_iff.1 hf)

/-- While the tasks of a wave are under way, the current task is one of them. -/
theorem currentAmong_worked (c : Crew σ) :
    CurrentAmong w.ready (worked c w.before w.ready).run.workflow := by
  intro t ht
  have hflow : (worked c w.before w.ready).run.workflow =
      (playAll c w.before.run (w.ready.map .start)).workflow := by
    rw [← run_beginAll]
    rfl
  rw [hflow] at ht ⊢
  have hmem : t.id ∈ w.ready := by
    obtain ⟨id, r, hready⟩ := List.exists_cons_of_ne_nil hw.nonempty
    obtain ⟨u, hu, -⟩ := hw.allowed id (hready ▸ List.mem_cons_self)
    rw [hready, List.map_cons, playAll_cons] at ht
    refine mem_of_current_starts (c := c) ?_ ?_ t ht
    · intro i hi
      rw [hready]
      exact List.mem_cons_of_mem _ hi
    · intro v hv
      rw [current_start hu] at hv
      cases hv
      rw [Task.id_begin, WorkflowState.id_of_task? hu, hready]
      exact List.mem_cons_self
  have hstarted := hmem
  rw [← map_id_beginAll hw.nodup hw.allowed] at hstarted
  obtain ⟨u, hu, hid⟩ := List.mem_map.1 hstarted
  obtain ⟨htask, hstatus⟩ := task?_beginAll hw.nodup c u hu
  rw [hid] at htask
  refine ⟨hmem, WorkflowState.isOpen_iff.2 ⟨u, htask, ?_⟩⟩
  rw [hstatus]
  rfl

theorem closed_after (c : Crew σ) : ∀ id ∈ w.ready, (w.after c).run.workflow.isOpen id = false := by
  obtain ⟨-, -, -, hclosed⟩ := leads_wave (c := c) hw.nodup hw.allowed
  exact hclosed

/-- After a wave each of its tasks is completed or failed, -/
theorem over_after (c : Crew σ) : ∀ id ∈ w.ready, ∃ t, (w.after c).run.workflow.task? id = some t ∧
    (t.status = .completed ∨ t.status = .failed) := by
  intro id hid
  obtain ⟨ms, hl, -, hclosed⟩ := leads_wave (c := c) hw.nodup hw.allowed
  obtain ⟨t, ht, -⟩ := hw.allowed id hid
  obtain ⟨u, hu⟩ : ∃ u, (playAll c w.before.run ms).workflow.task? id = some u :=
    exists_task?_playAll ht
  rw [← hl.run] at hu
  have hclose := hclosed id hid
  rw [WorkflowState.isOpen, hu] at hclose
  refine ⟨u, hu, ?_⟩
  cases hs : u.status with
  | completed => exact .inl rfl
  | failed => exact .inr rfl
  | pending | inProgress =>
    rw [Option.any_some, hs] at hclose
    cases hclose

/-- and no task is the current one. -/
theorem current_after (c : Crew σ) : (w.after c).run.workflow.current = none := by
  have hamong : CurrentAmong w.ready (w.after c).run.workflow := by
    rw [Wave.after, wave_eq]
    exact ((currentAmong_worked hw c).settleAll none _).sweep
  rw [Option.eq_none_iff_forall_not_mem]
  intro t ht
  obtain ⟨hmem, hopen⟩ := hamong t ht
  rw [closed_after hw c t.id hmem] at hopen
  cases hopen

omit hw in
theorem exists_told_sweep (b : Batch σ) (ids : List String) :
    ∃ told, (sweep b ids).run.log.entries = b.run.log.entries ++ told := by
  induction ids generalizing b with
  | nil => exact ⟨[], (List.append_nil _).symm⟩
  | cons id r ih =>
    unfold sweep
    split
    · obtain ⟨told, htold⟩ := ih (fail b id Crew.brokenDown)
      obtain ⟨role, hfail⟩ : ∃ role, (fail b id Crew.brokenDown).run.log.entries =
          b.run.log.entries ++ [.taskFailed role id Crew.brokenDown] := ⟨_, rfl⟩
      refine ⟨.taskFailed role id Crew.brokenDown :: told, ?_⟩
      rw [htold, hfail, List.append_assoc, List.singleton_append]
    · exact ih b

/-- A wave tells the results that it takes in the order in which its tasks finish, and then what it
sweeps up. -/
theorem exists_told_after (c : Crew σ) :
    ∃ told, (w.after c).run.log.entries = w.before.run.log.entries ++ told ∧
      taken c (w.finished c) <+: told.filterMap Event.settled? := by
  have hids : ((w.ready.map Move.start).map Move.id).Nodup := by
    rw [List.map_map]
    exact (List.map_id w.ready).symm ▸ hw.nodup
  have hlegal : Legal c w.before.run (w.ready.map .start) := by
    refine legal_of_nodup hids ?_
    intro m hm
    obtain ⟨id, hid, rfl⟩ := List.mem_map.1 hm
    exact hw.allowed id hid
  obtain ⟨begun, hbegun, -, hnone⟩ := exists_told_playAll hlegal
  have hnone : begun.filterMap Event.settled? = [] := by
    rw [hnone, List.filterMap_map]
    exact List.filterMap_eq_nil_iff.2 fun _ _ => rfl
  have hworked : (worked c w.before w.ready).run.log.entries = w.before.run.log.entries ++ begun := by
    rw [← hbegun, ← run_beginAll]
    rfl
  obtain ⟨told, htold, hsettled⟩ :=
    exists_told_settleAll (c := c) none (worked c w.before w.ready) (w.finished c)
  obtain ⟨swept, hswept⟩ := exists_told_sweep
    (settleAll c none (worked c w.before w.ready) (w.finished c)).2 w.ready
  refine ⟨begun ++ told ++ swept, ?_, ?_⟩
  · rw [Wave.after, wave_eq]
    refine hswept.trans ?_
    rw [htold, hworked, List.append_assoc, List.append_assoc, List.append_assoc]
  · rw [List.filterMap_append, List.filterMap_append, hnone, hsettled, List.nil_append]
    exact List.prefix_append _ _

end

/-! ## Batches that fail -/

/-- Whether a failure is the first fatal one among what came of some tasks. -/
def FirstFatal (c : Crew σ) (fs : List Finished) (e : Failure) : Prop :=
  ∃ before f after, fs = before ++ f :: after ∧ (∀ g ∈ before, ∀ e', ¬ EndsFatally c g e') ∧
    EndsFatally c f e

/-- How a batch with waves `ws` comes to fail. -/
structure FailsFast (c : Crew σ) (ids : List String) (s : RunState σ) (ws : List (Wave σ)) : Prop where
  /-- The tasks that the batch starts are those of its waves, in order. -/
  started : ∃ told, (runBatch c ids s).2.log.entries = s.log.entries ++ told ∧
    told.filterMap Event.started? = ws.flatMap (·.ready)
  /-- Each task of a wave finishes once, with what its worker did, -/
  finished : ∀ w ∈ ws, ((w.finished c).map (·.task.id)).Perm w.ready ∧
    ∀ f ∈ w.finished c, ∃ o, f.effort = (c.work f.task o).1
  /-- and its result is taken in that order. -/
  taken : ∀ w ∈ ws, ∃ told, (w.after c).run.log.entries = w.before.run.log.entries ++ told ∧
    taken c (w.finished c) <+: told.filterMap Event.settled?
  fails_iff : (∃ e, (runBatch c ids s).1 = .error e) ↔
    ∃ w ∈ ws, ∃ f ∈ w.finished c, ∃ e, EndsFatally c f e
  /-- The failure is the first of the only wave that has a fatal one, which is the last wave. -/
  first : ∀ e, (runBatch c ids s).1 = .error e → ∃ earlier last, ws = earlier ++ [last] ∧
    (∀ w ∈ earlier, ∀ f ∈ w.finished c, ∀ e', ¬ EndsFatally c f e') ∧
    FirstFatal c (last.finished c) e
  /-- The run is as that wave leaves it, with all its tasks over. -/
  left : ∀ e, (runBatch c ids s).1 = .error e → ∀ last, ws.getLast? = some last →
    (runBatch c ids s).2 = (last.after c).run ∧
    (∀ id ∈ last.ready, ∃ t, (runBatch c ids s).2.workflow.task? id = some t ∧
      (t.status = .completed ∨ t.status = .failed)) ∧
    (runBatch c ids s).2.workflow.current = none

theorem not_endsFatally {w : Wave σ} {f : Finished} (hf : f ∈ w.finished c) (h : fatal? c f = none)
    (e : Failure) : ¬ EndsFatally c f e := by
  intro hfatal
  rw [(endsFatally_iff (exists_effort hf)).1 hfatal] at h
  cases h

section
variable {ids : List String} {s : RunState σ}

theorem runBatch_eq_error {e : Failure} (h : (runBatch c ids s).1 = .error e) :
    ∃ earlier last, wavesOf c ids s = earlier ++ [last] ∧ (∀ w ∈ earlier, w.fatal? c = none) ∧
      last.fatal? c = some e ∧ (runBatch c ids s).2 = (last.after c).run := by
  rw [runBatch_eq] at h ⊢
  rw [wavesOf]
  generalize hr : rounds c _ _ _ = r at h ⊢
  obtain ⟨result, b⟩ := r
  cases result with
  | ok u => cases h
  | error e' =>
    cases h
    obtain ⟨earlier, last, hwaves, hearlier, hlast, hafter⟩ := rounds_eq_error hr
    exact ⟨earlier, last, hwaves, hearlier, hlast, congrArg Batch.run hafter⟩

theorem runBatch_eq_ok {summary : BatchSummary} (h : (runBatch c ids s).1 = .ok summary) :
    ∀ w ∈ wavesOf c ids s, w.fatal? c = none := by
  rw [runBatch_eq] at h
  refine rounds_eq_ok ?_
  generalize rounds c _ _ _ = r at h
  obtain ⟨result, b⟩ := r
  cases result with
  | ok u => rfl
  | error e => cases h

end

theorem firstFatal_of_fatal? {w : Wave σ} {e : Failure} (h : w.fatal? c = some e) :
    FirstFatal c (w.finished c) e := by
  obtain ⟨before, f, after, hfinished, hf, hbefore⟩ := List.findSome?_eq_some_iff.1 h
  refine ⟨before, f, after, hfinished, ?_, ?_⟩
  · intro g hg
    refine not_endsFatally (w := w) ?_ (hbefore g hg)
    rw [hfinished]
    exact List.mem_append_left _ hg
  · refine (endsFatally_iff (exists_effort (w := w) ?_)).2 hf
    rw [hfinished]
    exact List.mem_append_right _ List.mem_cons_self

/-- A batch fails exactly if some task that it started ended with a fatal failure. -/
theorem runBatch_fails_fast (c : Crew σ) {ids : List String} (hids : ids.Nodup) (s : RunState σ) :
    FailsFast c ids s (wavesOf c ids s) := by
  have hn : (pendingOf s.workflow ids).Nodup := hids.filter _
  obtain ⟨hstartable, ms, hl, hstarts⟩ := leads_waves (c := c) (b := ⟨s, .empty⟩) hn
    (fun id hid => (mem_pendingOf.1 hid).2) (Nat.le_refl _)
  rw [← wavesOf] at hstartable hstarts
  constructor
  case started =>
    obtain ⟨told, hlog, hstarted, -⟩ := exists_told_playAll hl.legal
    rw [← hl.run] at hlog
    refine ⟨told, ?_, hstarted.trans hstarts⟩
    rw [runBatch_eq]
    exact hlog
  case finished =>
    intro w hw
    exact ⟨perm_finished (hstartable w hw) c, fun f hf => exists_effort hf⟩
  case taken => exact fun w hw => exists_told_after (hstartable w hw) c
  case fails_iff =>
    constructor
    · rintro ⟨e, he⟩
      obtain ⟨earlier, last, hwaves, -, hlast, -⟩ := runBatch_eq_error he
      obtain ⟨before, f, after, hfinished, -, hf⟩ := firstFatal_of_fatal? hlast
      refine ⟨last, ?_, f, ?_, e, hf⟩
      · rw [hwaves]
        exact List.mem_append_right _ (List.mem_singleton_self last)
      · rw [hfinished]
        exact List.mem_append_right _ List.mem_cons_self
    · rintro ⟨w, hw, f, hf, e, he⟩
      cases hresult : (runBatch c ids s).1 with
      | error e' => exact ⟨e', rfl⟩
      | ok summary =>
        have hnone := Wave.fatal?_eq_none.1 (runBatch_eq_ok hresult w hw) f hf
        exact absurd he (not_endsFatally hf hnone e)
  case first =>
    intro e he
    obtain ⟨earlier, last, hwaves, hearlier, hlast, -⟩ := runBatch_eq_error he
    refine ⟨earlier, last, hwaves, ?_, firstFatal_of_fatal? hlast⟩
    intro w hmem f hf
    exact not_endsFatally hf (Wave.fatal?_eq_none.1 (hearlier w hmem) f hf)
  case left =>
    intro e he w hlast
    obtain ⟨earlier, last, hwaves, -, -, hafter⟩ := runBatch_eq_error he
    have hw := hstartable w (List.mem_of_getLast? hlast)
    rw [hwaves, List.getLast?_concat] at hlast
    cases hlast
    rw [hafter]
    exact ⟨rfl, over_after hw c, current_after hw c⟩

end Dispatch

end BuildLoop
