import BuildLoop.Proofs.Run.Batch

/-!
# Waves without failures

If every call of a worker in a wave ends with a report, the wave completes the tasks that it starts
and changes nothing else in the queue:

    wave c b ready = (none, b')   with   Completes ready b b'                     (wave_of_reports)
    round c b ids = goesOn b' _   with   Completes ready b b'   if nothing is blocked (round_of_reports)
-/

namespace BuildLoop.Dispatch

variable {σ : Type} {c : Crew σ}

/-- Whether the work on a task ended with a report. -/
def Reports (f : Finished) : Prop := ∃ report, f.effort = .ends (.ok report)

/-- Some tasks are completed between two batches, and no others change. -/
structure Completes (ids : List String) (b b' : Batch σ) : Prop where
  failed : b'.summary.failed = b.summary.failed
  task? : ∀ id, b'.run.workflow.task? id =
    (b.run.workflow.task? id).map fun t => if id ∈ ids then t.complete else t
  contains : ∀ id, b'.run.workflow.completed.contains id = true ↔
    b.run.workflow.completed.contains id = true ∨ id ∈ ids

/-! ## Settling -/

theorem completes_complete (b : Batch σ) (t : Task) (report : WorkerReport) :
    Completes [t.id] b (complete b t report) where
  failed := rfl
  task? id := by
    simp only [List.mem_singleton]
    exact b.run.workflow.task?_mergeCompleted_single t.complete id
  contains id := by
    rw [List.mem_singleton]
    have h := b.run.workflow.completed_mergeCompleted_single t.complete
    rw [show (complete b t report).run.workflow.completed = _ from h]
    exact CompletedTasks.contains_insert

theorem Completes.append {ids ids' : List String} {b b' b'' : Batch σ} (h : Completes ids b b')
    (h' : Completes ids' b' b'') : Completes (ids ++ ids') b b'' where
  failed := h'.failed.trans h.failed
  task? id := by
    rw [h'.task?, h.task?, Option.map_map]
    refine congrFun (congrArg Option.map (funext fun t => ?_)) _
    by_cases hid : id ∈ ids <;> by_cases hid' : id ∈ ids' <;> simp [hid, hid', Task.complete]
  contains id := by rw [h'.contains, h.contains, List.mem_append, or_assoc]

theorem settleAll_of_reports (fatal : Option Failure) {b : Batch σ} {fs : List Finished}
    (h : ∀ f ∈ fs, Reports f) :
    (settleAll c fatal b fs).1 = fatal ∧
      (settleAll c fatal b fs).2.summary.waves = b.summary.waves ∧
      Completes (fs.map (·.task.id)) b (settleAll c fatal b fs).2 := by
  induction fs generalizing b with
  | nil => exact ⟨rfl, rfl, rfl, fun id => by simp [settleAll], fun id => by simp [settleAll]⟩
  | cons f r ih =>
    obtain ⟨report, hf⟩ := h f List.mem_cons_self
    have hresult : c.result? f = some (.ok report) := by rw [Crew.result?, hf]
    obtain ⟨hfatal, hwaves, hc⟩ := ih (b := complete b f.task report) fun g hg =>
      h g (List.mem_cons_of_mem _ hg)
    simp only [settleAll, hresult]
    exact ⟨hfatal, hwaves, (completes_complete b f.task report).append hc⟩

theorem sweep_of_not_underway {b : Batch σ} {ids : List String}
    (h : ∀ id ∈ ids, ∀ t, b.run.workflow.task? id = some t → t.status ≠ .inProgress) :
    sweep b ids = b := by
  induction ids with
  | nil => rfl
  | cons id r ih =>
    have hid : ¬ (b.run.workflow.task? id).any (fun t => t.status == .inProgress) = true := by
      intro hany
      obtain ⟨t, ht, hs⟩ := (Option.any_eq_true _ _).1 hany
      exact h id List.mem_cons_self t ht (eq_of_beq hs)
    rw [sweep, if_neg hid]
    exact ih fun i hi => h i (List.mem_cons_of_mem _ hi)

/-! ## Waves -/

theorem task?_playAll_start (s : RunState σ) (ready : List String) (id : String) :
    (playAll c s (ready.map .start)).workflow.task? id =
      (s.workflow.task? id).map fun t => if id ∈ ready then t.begin else t := by
  induction ready generalizing s with
  | nil => simp
  | cons i r ih =>
    rw [List.map_cons, playAll_cons, ih, task?_play, Option.map_map]
    refine congrFun (congrArg Option.map (funext fun t => ?_)) _
    by_cases hi : id = i <;> by_cases hr : id ∈ r <;> simp [Move.change, hi, hr, Task.begin]

theorem completed_playAll_start (s : RunState σ) (ready : List String) :
    (playAll c s (ready.map .start)).workflow.completed = s.workflow.completed := by
  induction ready generalizing s with
  | nil => rfl
  | cons i r ih => rw [List.map_cons, playAll_cons, ih, completed_play]

theorem workflow_attempt (c : Crew σ) (s : RunState σ) (ready : List String) :
    (attempt c s ready).2.workflow = (playAll c s (ready.map .start)).workflow := by
  rw [← run_beginAll]
  rfl

section
variable {b : Batch σ}

/-- A wave whose workers all report completes its tasks. -/
theorem wave_of_reports {ready : List String} (hn : ready.Nodup)
    (hr : ∀ id ∈ ready, (Move.start id).Allowed b.run)
    (hok : ∀ f ∈ (attempt c b.run ready).1, Reports f) :
    ∃ b', wave c b ready = (none, b') ∧ b'.summary.waves = b.summary.waves + 1 ∧
      Completes ready b b' := by
  obtain ⟨hperm, -⟩ := finished_attempt (c := c) hn hr
  have hmem : ∀ id, id ∈ (attempt c b.run ready).1.map (·.task.id) ↔ id ∈ ready :=
    fun id => hperm.mem_iff
  have hstart : ∀ id, (worked c b ready).run.workflow.task? id =
      (b.run.workflow.task? id).map fun t => if id ∈ ready then t.begin else t := by
    intro id
    rw [worked, workflow_attempt, task?_playAll_start]
  have hsame : (worked c b ready).run.workflow.completed = b.run.workflow.completed := by
    rw [worked, workflow_attempt, completed_playAll_start]
  obtain ⟨hfatal, hwaves, hc⟩ := settleAll_of_reports (c := c) none
    (b := worked c b ready) hok
  rw [wave_eq]
  generalize settleAll c none (worked c b ready) (attempt c b.run ready).1 = r at *
  have hdone : Completes ready b r.2 := by
    refine ⟨hc.failed, fun id => ?_, fun id => ?_⟩
    · rw [hc.task?, hstart, Option.map_map]
      refine congrFun (congrArg Option.map (funext fun t => ?_)) _
      by_cases hid : id ∈ ready <;> simp [hmem, hid, Task.begin, Task.complete]
    · rw [hc.contains, hmem, hsame]
  have hsweep : sweep r.2 ready = r.2 := by
    refine sweep_of_not_underway fun id hid t ht h => ?_
    rw [hdone.task?] at ht
    obtain ⟨u, -, rfl⟩ := Option.map_eq_some_iff.1 ht
    rw [if_pos hid] at h
    cases h
  exact ⟨r.2, Prod.ext hfatal hsweep, hwaves, hdone⟩

/-- A round in which nothing is blocked, something is ready and all workers report goes on. -/
theorem round_of_reports {ids : List String} (hn : ids.Nodup)
    (hb : (frontier b.run.workflow ids).blocked = []) (hr : (frontier b.run.workflow ids).ready ≠ [])
    (hok : ∀ f ∈ (attempt c b.run (frontier b.run.workflow ids).ready).1, Reports f) :
    ∃ b', round c b ids = .goesOn b' (pendingOf b'.run.workflow ids) ∧
      b'.summary.waves = b.summary.waves + 1 ∧
      Completes (frontier b.run.workflow ids).ready b b' := by
  have hnr : (frontier b.run.workflow ids).ready.Nodup :=
    (sublist_ready b.run.workflow [] ids).nodup hn
  obtain ⟨b', hw, hwaves, hc⟩ := wave_of_reports hnr (fun id => allowed_of_mem_ready) hok
  refine ⟨b', ?_, hwaves, hc⟩
  have he : ¬ (frontier b.run.workflow ids).ready.isEmpty = true := fun h =>
    hr (List.isEmpty_iff.1 h)
  have hfail : failAll b (frontier b.run.workflow ids).blocked = b := by rw [hb]; rfl
  unfold round
  simp only [hfail, if_neg he, hw]

end

end BuildLoop.Dispatch
