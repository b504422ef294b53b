import BuildLoop.Proofs.Run.Success
import BuildLoop.Proofs.Workflow.Alike

/-!
# The order in which tasks finish

Taking the results of a wave is a list of moves that settle different tasks, so that the order in which
the tasks finish does not matter for what the queue holds afterwards. Two crews whose work on a task
ends in the same way then lead a batch to the same end, whatever the order of each wave:

    ms.Perm ns   →   playAll c s ms and playAll c s ns are alike, if ms settle different tasks
                                                                                 (alike_playAll_perm)
    (runBatch c ids s).1 = ok b   with   b.completed, b.failed and the queue the same for both crews
                                                                                 (runBatch_confluent)
-/

namespace BuildLoop

/-- Whether work that ends this way ends a run. -/
def Effort.isFatal : Effort → Bool
  | ends (.error e) => e.isFatal
  | unserved => true
  | _ => false

/-- A crew whose work on a task ends as is given for its id, whatever the world. -/
def Crew.Follows {σ : Type} (c : Crew σ) (outcome : String → Effort) : Prop :=
  ∀ t o, (c.work t o).1 = outcome t.id

namespace Dispatch

variable {σ τ : Type} {c : Crew σ} {c' : Crew τ}

/-! ## Moves in another order -/

theorem alike_play {s : RunState σ} {s' : RunState τ} (h : s.workflow.Alike s'.workflow) (m : Move) :
    (m.play c s).workflow.Alike (m.play c' s').workflow := by
  cases m with
  | start id =>
    cases hb : s.workflow.task? id with
    | none =>
      have hb' : s'.workflow.task? id = none := (h.task? id).symm.trans hb
      simpa only [Move.play, begin_none hb, begin_none hb', Option.map_none, Option.getD_none] using h
    | some t =>
      obtain ⟨v, hv, hrun⟩ := begin_some hb
      obtain ⟨v', hv', hrun'⟩ := begin_some ((h.task? id).symm.trans hb)
      obtain ⟨u, hu, halike⟩ := h.begin hv
      rw [hv'] at hu
      cases hu
      simpa only [Move.play, hrun, hrun', Option.map_some, Option.getD_some, RunState.emit] using halike
  | work t => exact h
  | complete t report => exact h.mergeCompleted_single t.complete
  | fail id reason => exact h.markFailed id reason

theorem alike_playAll {s : RunState σ} {s' : RunState τ} (h : s.workflow.Alike s'.workflow)
    (ms : List Move) : (playAll c s ms).workflow.Alike (playAll c' s' ms).workflow := by
  induction ms generalizing s s' with
  | nil => exact h
  | cons m r ih => exact ih (alike_play h m)

/-- Two moves that settle different tasks may change places. -/
theorem alike_play_play (s : RunState σ) {m n : Move} (hm : m.settled?.isSome = true)
    (hn : n.settled?.isSome = true) (h : m.id ≠ n.id) :
    (n.play c (m.play c s)).workflow.Alike (m.play c (n.play c s)).workflow := by
  have hcomplete : ∀ (v : RunState σ) t report, ((Move.complete t report).play c v).workflow =
      v.workflow.settle t.id Task.complete fun d => (d.insert t.complete).1 :=
    fun v t _ => v.workflow.mergeCompleted_single_eq_settle t.complete
  have hfail : ∀ (v : RunState σ) id reason, ((Move.fail id reason).play c v).workflow =
      v.workflow.settle id (Task.fail · reason) fun d => d :=
    fun v id reason => v.workflow.markFailed_eq_settle id reason
  cases m with
  | start _ | work _ => cases hm
  | complete t report =>
    cases n with
    | start _ | work _ => cases hn
    | complete u report' =>
      rw [hcomplete, hcomplete, hcomplete, hcomplete]
      exact WorkflowState.alike_settle_settle _ h Task.id_complete Task.id_complete (fun _ => rfl)
        (fun _ => rfl) (CompletedTasks.same_insert_insert _ h)
    | fail id reason =>
      rw [hcomplete, hfail, hcomplete, hfail]
      exact WorkflowState.alike_settle_settle _ h Task.id_complete (Task.id_fail · reason)
        (fun _ => rfl) (fun _ => rfl) (.refl _)
  | fail id reason =>
    cases n with
    | start _ | work _ => cases hn
    | complete u report =>
      rw [hcomplete, hfail, hfail, hcomplete]
      exact WorkflowState.alike_settle_settle _ h (Task.id_fail · reason) Task.id_complete
        (fun _ => rfl) (fun _ => rfl) (.refl _)
    | fail id' reason' =>
      rw [hfail, hfail, hfail, hfail]
      exact WorkflowState.alike_settle_settle _ h (Task.id_fail · reason) (Task.id_fail · reason')
        (fun _ => rfl) (fun _ => rfl) (.refl _)

/-- Moves that settle different tasks may be made in any order. -/
theorem alike_playAll_perm {ms ns : List Move} (hp : ms.Perm ns)
    (hset : ∀ m ∈ ms, m.settled?.isSome = true) (hn : (ms.map Move.id).Nodup) (s : RunState σ) :
    (playAll c s ms).workflow.Alike (playAll c s ns).workflow := by
  induction hp generalizing s with
  | nil => exact .refl _
  | cons m _ ih =>
    rw [List.map_cons, List.nodup_cons] at hn
    exact ih (fun n hmem => hset n (List.mem_cons_of_mem _ hmem)) hn.2 _
  | swap m n r =>
    have hne : n.id ≠ m.id := fun he => by simp [he] at hn
    exact alike_playAll (alike_play_play s (hset n (by simp)) (hset m (by simp)) hne) r
  | trans hp _ ih₁ ih₂ =>
    refine (ih₁ hset hn s).trans (ih₂ (fun m hmem => hset m (hp.mem_iff.2 hmem)) ?_ s)
    exact (hp.map Move.id).nodup_iff.1 hn

/-! ## Results as moves -/

/-- The move that takes the result of a finished task. -/
def settlement? (c : Crew σ) (f : Finished) : Option Move :=
  match c.result? f with
  | none => none
  | some (.ok report) => some (.complete f.task report)
  | some (.error e) => some (.fail f.task.id e.message)

/-- The moves that take the results of finished tasks. -/
def settlements (c : Crew σ) (fs : List Finished) : List Move := fs.filterMap (settlement? c)

theorem id_of_settlement? {f : Finished} {m : Move} (h : settlement? c f = some m) :
    m.id = f.task.id ∧ m.settled?.isSome = true := by
  unfold settlement? at h
  split at h
  · cases h
  · cases h
    exact ⟨rfl, rfl⟩
  · cases h
    exact ⟨rfl, rfl⟩

theorem sublist_settlements (c : Crew σ) (fs : List Finished) :
    ((settlements c fs).map Move.id).Sublist (fs.map (·.task.id)) := by
  induction fs with
  | nil => exact .slnil
  | cons f r ih =>
    unfold settlements at *
    rw [List.filterMap_cons]
    cases h : settlement? c f with
    | none => exact ih.cons _
    | some m =>
      rw [List.map_cons, List.map_cons, (id_of_settlement? h).1]
      exact ih.cons_cons _

/-- A batch to which some moves are added. -/
def Batch.extend (c : Crew σ) (b : Batch σ) (ms : List Move) : Batch σ where
  run := playAll c b.run ms
  summary := { b.summary with
    completed := b.summary.completed ++ completions ms
    failed := b.summary.failed ++ failures ms }

theorem settleAll_eq (fatal : Option Failure) (b : Batch σ) (fs : List Finished) :
    (settleAll c fatal b fs).2 = b.extend c (settlements c fs) := by
  induction fs generalizing fatal b with
  | nil => simp [settleAll, settlements, Batch.extend, completions, failures]
  | cons f r ih =>
    have hcons : settlements c (f :: r) = (settlement? c f).toList ++ settlements c r := by
      unfold settlements
      rw [List.filterMap_cons]
      cases settlement? c f <;> rfl
    rw [settleAll, hcons, settlement?]
    cases c.result? f with
    | none => exact ih fatal b
    | some result =>
      cases result with
      | ok report =>
        refine (ih fatal _).trans ?_
        simp [Batch.extend, complete, BatchSummary.addCompleted, completions, failures,
          List.filterMap_cons, Move.completed?, Move.failure?, Move.play]
      | error e =>
        refine (ih _ _).trans ?_
        simp [Batch.extend, fail, BatchSummary.addFailed, completions, failures,
          List.filterMap_cons, Move.completed?, Move.failure?, Move.play]

/-- Without a fatal result there is no fatal failure. -/
theorem settleAll_none {b : Batch σ} {fs : List Finished}
    (h : ∀ f ∈ fs, f.effort.isFatal = false) : (settleAll c none b fs).1 = none := by
  induction fs generalizing b with
  | nil => rfl
  | cons f r ih =>
    have hr : ∀ g ∈ r, g.effort.isFatal = false := fun g hg => h g (List.mem_cons_of_mem _ hg)
    have hf := h f List.mem_cons_self
    rw [settleAll]
    cases hres : c.result? f with
    | none => exact ih hr
    | some result =>
      cases result with
      | ok report => exact ih hr
      | error e =>
        have he : e.isFatal = false := by
          unfold Crew.result? at hres
          split at hres
          · next heff =>
            cases hres
            rw [heff] at hf
            exact hf
          · cases hres
            rfl
          · next heff =>
            rw [heff] at hf
            cases hf
          · cases hres
        simp only [he]
        exact ih hr

/-! ## Alike batches -/

/-- Whether two batches have come equally far, but for the order in which tasks were settled. -/
structure Batch.Alike (b : Batch σ) (b' : Batch τ) : Prop where
  workflow : b.run.workflow.Alike b'.run.workflow
  completed : b.summary.completed.Perm b'.summary.completed
  failed : b.summary.failed.Perm b'.summary.failed
  waves : b.summary.waves = b'.summary.waves

theorem alike_fail {b : Batch σ} {b' : Batch τ} (h : b.Alike b') (id reason : String) :
    (fail b id reason).Alike (fail b' id reason) :=
  ⟨h.workflow.markFailed id reason, h.completed, h.failed.append_right [(id, reason)], h.waves⟩

theorem alike_failAll {b : Batch σ} {b' : Batch τ} (h : b.Alike b') (l : List (String × String)) :
    (failAll b l).Alike (failAll b' l) := by
  induction l generalizing b b' with
  | nil => exact h
  | cons p r ih => exact ih (alike_fail h p.1 p.2)

theorem alike_sweep {b : Batch σ} {b' : Batch τ} (h : b.Alike b') (ids : List String) :
    (sweep b ids).Alike (sweep b' ids) := by
  induction ids generalizing b b' with
  | nil => exact h
  | cons id r ih =>
    rw [sweep, sweep, h.workflow.task?]
    split
    · exact ih (alike_fail h id Crew.brokenDown)
    · exact ih h

theorem frontierFrom_congr {w w' : WorkflowState} (h : w.Alike w') (claimed ids : List String) :
    frontierFrom w claimed ids = frontierFrom w' claimed ids := by
  have hfailed : failedDependency? w = failedDependency? w' := by
    funext t
    unfold failedDependency?
    simp only [h.task?]
  have hunblocked : isUnblocked w = isUnblocked w' := by
    funext t
    unfold isUnblocked
    rw [funext h.completed.contains]
  induction ids generalizing claimed with
  | nil => rfl
  | cons id r ih => simp only [frontierFrom, h.task?, hfailed, hunblocked, ih]

theorem pendingOf_congr {w w' : WorkflowState} (h : w.Alike w') (ids : List String) :
    pendingOf w ids = pendingOf w' ids := by
  unfold pendingOf
  rw [funext h.isPending]

/-! ## Crews that follow the same outcomes -/

section
variable {outcome : String → Effort}

theorem workAll_of_follows (hc : c.Follows outcome) (ts : List Task) (o : σ) :
    (c.workAll ts o).1 = ts.map fun t => ⟨t, outcome t.id⟩ := by
  induction ts generalizing o with
  | nil => rfl
  | cons t r ih =>
    simp only [Crew.workAll, List.map_cons, ih]
    rw [hc]

/-- The tasks that some ids start. -/
def begun (w : WorkflowState) (ids : List String) : List Task :=
  ids.filterMap fun id => (w.task? id).map Task.begin

theorem sublist_begun (w : WorkflowState) (ids : List String) :
    ((begun w ids).map (·.id)).Sublist ids := by
  induction ids with
  | nil => exact .slnil
  | cons id r ih =>
    unfold begun at *
    rw [List.filterMap_cons]
    cases ht : w.task? id with
    | none => exact ih.cons id
    | some t =>
      simp only [Option.map_some, List.map_cons, Task.id_begin, WorkflowState.id_of_task? ht]
      exact ih.cons_cons id

/-- What finishes in a wave is given by the outcomes, in some order. -/
theorem perm_attempt (hc : c.Follows outcome) {s : RunState σ} {ready : List String}
    (hn : ready.Nodup) :
    (attempt c s ready).1.Perm ((begun s.workflow ready).map fun t => ⟨t, outcome t.id⟩) := by
  show (c.finish.arrange (c.workAll (beginAll s ready).1 (beginAll s ready).2.outside).1).Perm _
  rw [workAll_of_follows hc, tasks_beginAll hn]
  exact c.finish.perm _

theorem nodup_attempt (hc : c.Follows outcome) {s : RunState σ} {ready : List String}
    (hn : ready.Nodup) : ((attempt c s ready).1.map (·.task.id)).Nodup := by
  have hids := ((perm_attempt hc (s := s) hn).map (·.task.id)).nodup_iff
  rw [List.map_map] at hids
  exact hids.2 ((sublist_begun s.workflow ready).nodup hn)

variable (hc : c.Follows outcome) (hc' : c'.Follows outcome)
  (htime : c.taskMilliseconds = c'.taskMilliseconds)
  (hsafe : ∀ id, (outcome id).isFatal = false)
include hc hc' htime hsafe

/-- A wave of two crews in alike batches meets no fatal failure and leaves them alike. -/
theorem alike_wave {b : Batch σ} {b' : Batch τ} (h : b.Alike b') {ready : List String}
    (hn : ready.Nodup) :
    (wave c b ready).1 = none ∧ (wave c' b' ready).1 = none ∧
      (wave c b ready).2.Alike (wave c' b' ready).2 := by
  have hp := perm_attempt hc (s := b.run) hn
  have hp' := perm_attempt hc' (s := b'.run) hn
  have hsame : begun b.run.workflow ready = begun b'.run.workflow ready := by
    unfold begun
    rw [funext h.workflow.task?]
  have hnodup : ((settlements c (attempt c b.run ready).1).map Move.id).Nodup :=
    (sublist_settlements c _).nodup (nodup_attempt hc hn)
  have hstart : (attempt c b.run ready).2.workflow.Alike (attempt c' b'.run ready).2.workflow := by
    rw [workflow_attempt, workflow_attempt]
    exact alike_playAll h.workflow _
  have hresult : settlement? c' = settlement? c := by
    funext f
    unfold settlement? Crew.result? Crew.overdue
    rw [htime]
  rw [← hsame] at hp'
  rw [wave_eq, wave_eq]
  unfold worked
  generalize attempt c b.run ready = r at *
  generalize attempt c' b'.run ready = r' at *
  have hnone : ∀ {fs : List Finished}, fs.Perm ((begun b.run.workflow ready).map fun t =>
      ⟨t, outcome t.id⟩) → ∀ f ∈ fs, f.effort.isFatal = false := by
    intro fs hfs f hf
    obtain ⟨t, -, rfl⟩ := List.mem_map.1 (hfs.mem_iff.1 hf)
    exact hsafe t.id
  -- both waves take the same results, in two orders
  have hmoves : (settlements c r.1).Perm (settlements c' r'.1) := by
    unfold settlements
    rw [hresult]
    exact (hp.trans hp'.symm).filterMap _
  refine ⟨settleAll_none (hnone hp), settleAll_none (hnone hp'), ?_⟩
  refine alike_sweep ?_ ready
  rw [settleAll_eq, settleAll_eq]
  refine ⟨?_, ?_, ?_, ?_⟩
  · refine (alike_playAll_perm hmoves ?_ hnodup _).trans (alike_playAll hstart _)
    intro m hm
    obtain ⟨f, -, hf⟩ := List.mem_filterMap.1 hm
    exact (id_of_settlement? hf).2
  · exact h.completed.append (hmoves.filterMap _)
  · exact h.failed.append (hmoves.filterMap _)
  · exact congrArg (· + 1) h.waves

/-! ## Whole batches -/

/-- A round of two crews in alike batches ends alike, and the same tasks remain. -/
theorem alike_round {b : Batch σ} {b' : Batch τ} (h : b.Alike b') {ids : List String}
    (hn : ids.Nodup) :
    (∃ r r', round c b ids = .ended r ∧ round c' b' ids = .ended r' ∧ r.Alike r') ∨
      ∃ r r' rest, round c b ids = .goesOn r rest ∧ round c' b' ids = .goesOn r' rest ∧
        r.Alike r' ∧ rest.Nodup := by
  have hf : frontier b'.run.workflow ids = frontier b.run.workflow ids :=
    (frontierFrom_congr h.workflow [] ids).symm
  have hready : (frontier b.run.workflow ids).ready.Nodup :=
    (sublist_ready b.run.workflow [] ids).nodup hn
  unfold round
  simp only [hf]
  generalize frontier b.run.workflow ids = f at *
  have hblocked := alike_failAll h f.blocked
  generalize failAll b f.blocked = b₁ at *
  generalize failAll b' f.blocked = b₁' at *
  by_cases he : f.ready.isEmpty = true
  · simp only [if_pos he, ← pendingOf_congr hblocked.workflow]
    exact .inl ⟨_, _, rfl, rfl, alike_failAll hblocked _⟩
  · obtain ⟨hnone, hnone', halike⟩ := alike_wave hc hc' htime hsafe hblocked hready
    simp only [if_neg he]
    generalize wave c b₁ f.ready = r at *
    generalize wave c' b₁' f.ready = r' at *
    obtain ⟨fatal, r⟩ := r
    obtain ⟨fatal', r'⟩ := r'
    obtain rfl : fatal = none := hnone
    obtain rfl : fatal' = none := hnone'
    simp only [← pendingOf_congr halike.workflow]
    exact .inr ⟨r, r', _, rfl, rfl, halike, hn.filter _⟩

theorem alike_rounds {b : Batch σ} {b' : Batch τ} (h : b.Alike b') {ids : List String}
    (hn : ids.Nodup) (n : Nat) :
    (rounds c n b ids).1 = .ok () ∧ (rounds c' n b' ids).1 = .ok () ∧
      (rounds c n b ids).2.Alike (rounds c' n b' ids).2 := by
  induction n generalizing b b' ids with
  | zero => exact ⟨rfl, rfl, h⟩
  | succ n ih =>
    rw [rounds, rounds]
    by_cases he : ids.isEmpty = true
    · rw [if_pos he, if_pos he]
      exact ⟨rfl, rfl, h⟩
    · rw [if_neg he, if_neg he]
      rcases alike_round hc hc' htime hsafe h hn with
        ⟨r, r', hr, hr', halike⟩ | ⟨r, r', rest, hr, hr', halike, hrest⟩
      · rw [hr, hr']
        exact ⟨rfl, rfl, halike⟩
      · rw [hr, hr']
        exact ih halike hrest

end

/-- Two crews whose work on each task ends in the same way, none of them fatal, lead a batch to the
same end: in whatever order the tasks of each wave finish and however many are under way at once, the
queue, the current task and the number of waves are the same, and so are, in some order, the completed
tasks and the failed ones with their reasons. -/
theorem runBatch_confluent {outcome : String → Effort} (hc : c.Follows outcome)
    (hc' : c'.Follows outcome) (htime : c.taskMilliseconds = c'.taskMilliseconds)
    (hsafe : ∀ id, (outcome id).isFatal = false) {ids : List String} (hids : ids.Nodup)
    {s : RunState σ} {s' : RunState τ} (hs : s.workflow = s'.workflow) :
    ∃ b b', (runBatch c ids s).1 = .ok b ∧ (runBatch c' ids s').1 = .ok b' ∧
      b.completed.Perm b'.completed ∧ b.failed.Perm b'.failed ∧ b.waves = b'.waves ∧
      (runBatch c ids s).2.workflow.queue = (runBatch c' ids s').2.workflow.queue ∧
      (runBatch c ids s).2.workflow.current = (runBatch c' ids s').2.workflow.current ∧
      (runBatch c ids s).2.workflow.completed.tasks.Perm
        (runBatch c' ids s').2.workflow.completed.tasks := by
  have hstart : Batch.Alike ⟨s, .empty⟩ ⟨s', .empty⟩ := ⟨hs ▸ .refl _, .refl _, .refl _, rfl⟩
  obtain ⟨hok, hok', h⟩ := alike_rounds hc hc' htime hsafe hstart (hids.filter s.workflow.isPending)
    (pendingOf s.workflow ids).length
  rw [runBatch_eq, runBatch_eq, ← hs]
  unfold pendingOf at *
  generalize rounds c _ _ _ = r at *
  generalize rounds c' _ _ _ = r' at *
  refine ⟨r.2.summary, r'.2.summary, ?_, ?_, h.completed, h.failed, h.waves, h.workflow.queue,
    h.workflow.current, h.workflow.completed.tasks⟩
  · simp only [hok, Except.map]
  · simp only [hok', Except.map]

/-- A crew whose work ends as is given for each id, and in the order that is given. -/
def crewWith (outcome : String → Effort) (finish : FinishOrder) : Crew Unit where
  worker? _ := some fun t o => (outcome t.id, o)
  finish := finish
  taskMilliseconds := 5000

/-- The last task of a wave finishes first. -/
def backwards : FinishOrder := ⟨List.reverse, List.reverse_perm⟩

/-- One task hangs, one fails, one breaks its worker, and all others are done. -/
def mixedOutcome (id : String) : Effort :=
  if id = "a" then .hangs
  else if id = "b" then .ends (.error (.task "b" "no such table"))
  else if id = "c" then .panics
  else .ends (.ok (.new id))

/-- Four tasks that can go together, and one that depends on the one that hangs. -/
def mixedTasks : List Task :=
  [.new "a" "Create app.py" .backend, .new "b" "Create models.py" .backend,
    .new "c" "Create index.html" .frontend, .new "d" "Create style.css" .frontend,
    { Task.new "e" "Create main.py" .backend with dependencies := ["d", "a"] }]

theorem runBatch_confluent_mixed :
    ["a", "b", "c", "d", "e"].Nodup ∧ (∀ id, (mixedOutcome id).isFatal = false) ∧
      (runBatch (crewWith mixedOutcome backwards) ["a", "b", "c", "d", "e"] (runOf mixedTasks)).1 =
        .ok ⟨["d"], [("b", "task b failed: no such table"), ("a", "'task a' exceeded 5s"),
          ("c", "worker panicked"), ("e", "dependency a failed")], 1⟩ ∧
      ∃ b, (runBatch (crewWith mixedOutcome (.slots 2)) ["a", "b", "c", "d", "e"]
          (runOf mixedTasks)).1 = .ok b ∧
        b.failed.Perm [("b", "task b failed: no such table"), ("a", "'task a' exceeded 5s"),
          ("c", "worker panicked"), ("e", "dependency a failed")] ∧
        (runBatch (crewWith mixedOutcome (.slots 2)) ["a", "b", "c", "d", "e"]
            (runOf mixedTasks)).2.workflow.queue =
          (runBatch (crewWith mixedOutcome backwards) ["a", "b", "c", "d", "e"]
            (runOf mixedTasks)).2.workflow.queue := by
  have hfollows : ∀ order, (crewWith mixedOutcome order).Follows mixedOutcome := fun _ _ _ => rfl
  have hsafe : ∀ id, (mixedOutcome id).isFatal = false := by
    intro id
    unfold mixedOutcome
    repeat' split
    all_goals rfl
  have hids : ["a", "b", "c", "d", "e"].Nodup := by decide
  have hbackwards :
      (runBatch (crewWith mixedOutcome backwards) ["a", "b", "c", "d", "e"] (runOf mixedTasks)).1 =
        .ok ⟨["d"], [("b", "task b failed: no such table"), ("a", "'task a' exceeded 5s"),
          ("c", "worker panicked"), ("e", "dependency a failed")], 1⟩ := by decide +kernel
  have hstart : (runOf mixedTasks).workflow = (runOf mixedTasks).workflow := rfl
  obtain ⟨b, b', hb, hb', -, hfailed, -, hqueue, -⟩ := runBatch_confluent (hfollows (.slots 2))
    (hfollows backwards) rfl hsafe hids hstart
  cases hbackwards.symm.trans hb'
  exact ⟨hids, hsafe, hbackwards, b, hb, hfailed, hqueue⟩

end Dispatch

end BuildLoop
