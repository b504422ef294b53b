import BuildLoop.Proofs.Run.Bound
import BuildLoop.Proofs.Run.Fatal
import BuildLoop.Proofs.Run.Batch

/-!
# Runs that abort

A run works on a batch after its plan is approved, and again after each correction
(`Dispatched`). There it stands at the stage at which it dispatches, so that a batch that fails aborts
it: what follows the batch is the last event of the run, and no role is asked anything more.

    Dispatched roles s₀ a k batch s   →   (drive roles).run s₀ = (cycles roles a k batch).run s
    runBatch roles.crew batch s = (error e, s')   →   the run is aborted, with e   (run_fails_fast)
-/

namespace BuildLoop.Run

variable {σ α β : Type} {roles : Roles σ}

/-! ## Where a run works on a batch -/

/-- Everything between the first event of a run and its first batch. -/
def opening (roles : Roles σ) : Step σ Architecture := do
  let s ← get
  let a ← outside (resolve roles s.workflow.requirements)
  know (·.setArchitecture a)
  emit (.architectureResolved a)
  planUntilApproved roles a (s.progress.maxReplans - s.progress.replans)
  return a

/-- A cycle up to the next batch, if one follows: the id of its corrective task. -/
def cycle (roles : Roles σ) (a : Architecture) (batch : List String) : Step σ (Option String) := do
  let _ ← dispatch roles.crew batch
  let _ ← advance .batchSettled
  let stage ← verify roles a
  if stage = .diagnosing then
    let id ← correct roles a
    return some id
  else return none

/-- The batches that a run works on after its first event: how many cycles may follow, the ids of the
batch, and the run just before it. -/
inductive Dispatched (roles : Roles σ) (s₀ : RunState σ) (a : Architecture) :
    Nat → List String → RunState σ → Prop
  | first {s : RunState σ} (h : (opening roles).run s₀ = (.ok a, s)) :
      Dispatched roles s₀ a (s₀.progress.maxCycles - s₀.progress.cycles) s.workflow.pendingIds s
  | next {k : Nat} {batch : List String} {s s' : RunState σ} {id : String}
      (before : Dispatched roles s₀ a (k + 1) batch s)
      (h : (cycle roles a batch).run s = (.ok (some id), s')) : Dispatched roles s₀ a k [id] s'

theorem drive_eq (roles : Roles σ) (s₀ : RunState σ) :
    (drive roles).run s₀ = (opening roles >>= fun a => get >>= fun s =>
      cycles roles a (s₀.progress.maxCycles - s₀.progress.cycles) s.workflow.pendingIds).run s₀ := by
  unfold drive opening
  simp only [bind_assoc, pure_bind]
  rw [run_bind_ok (run_get s₀), run_bind_ok (run_get s₀)]

theorem cycleOnce_eq (roles : Roles σ) (a : Architecture) (batch : List String)
    (again : List String → Step σ Unit) :
    cycleOnce roles a batch again =
      cycle roles a batch >>= fun id => id.elim (pure ()) fun id => again [id] := by
  unfold cycleOnce cycle
  simp only [bind_assoc]
  refine bind_congr fun _ => bind_congr fun _ => bind_congr fun stage => ?_
  by_cases hstage : stage = .diagnosing
  · rw [if_pos hstage, if_pos hstage]
    simp only [bind_assoc, pure_bind]
    rfl
  · rw [if_neg hstage, if_neg hstage, pure_bind]
    rfl

namespace Dispatched

variable {s₀ s : RunState σ} {a : Architecture} {k : Nat} {batch : List String}

/-- The cycles that begin with a batch are what the rest of the run does. -/
theorem run_drive (h : Dispatched roles s₀ a k batch s) :
    (drive roles).run s₀ = (cycles roles a k batch).run s := by
  induction h with
  | first h =>
    rw [drive_eq, run_bind_ok h]
    rfl
  | @next k batch s s' id before h ih =>
    rw [ih, cycles, cycleOnce_eq, run_bind_ok h]
    rfl

end Dispatched

/-! ## At which stage a run works on a batch -/

section
variable {a : Architecture} {s : RunState σ}

/-- Whether a step that is not halted leaves a run at the stage at which it dispatches. -/
def Dispatches (x : Step σ α) : Prop :=
  ∀ s, After x s (fun _ s' => s'.progress.stage = .dispatching) fun _ _ => True

theorem Dispatches.bind {x : Step σ α} {f : α → Step σ β} (h : ∀ a, Dispatches (f a)) :
    Dispatches (x >>= f) := by
  intro s
  exact after_bind.2 (after_of_forall (fun a s' => h a s') fun _ _ => trivial)

theorem Dispatches.map {x : Step σ α} (h : Dispatches x) (f : α → β) :
    Dispatches (x >>= fun a => pure (f a)) := by
  intro s
  exact after_bind.2 ((h s).mono (fun _ _ hs => hs) fun _ _ _ => trivial)

/-- Two signals lead to that stage, whatever the progress was. -/
theorem stage_of_next? {p q : Progress} {g : Signal} (hg : g = .planApproved ∨ g = .correctiveReady)
    (h : p.next? g = some q) : q.stage = .dispatching := by
  unfold Progress.next? at h
  rcases hg with rfl | rfl
  · simp only at h
    split at h
    · cases h
      rfl
    · cases h
  · simp only at h
    split at h
    · cases h
      rfl
    · cases h

theorem dispatches_advance {g : Signal} (hg : g = .planApproved ∨ g = .correctiveReady) :
    Dispatches (advance g : Step σ Stage) := by
  intro s
  unfold After
  cases hnext : s.progress.next? g with
  | none =>
    have hfire : s.progress.fire g = .error (.transition s.progress.stage.name g.name) := by
      rw [Progress.fire, hnext]
    rw [run_advance_of_error hfire]
    trivial
  | some q =>
    have hfire : s.progress.fire g = .ok q := by rw [Progress.fire, hnext]
    rw [run_advance_of_ok hfire]
    exact stage_of_next? hg hnext

theorem dispatches_throw (e : Halt) : Dispatches (throw e : Step σ α) := fun _ => trivial

theorem dispatches_planOnce {again : List String → Step σ Unit}
    (h : ∀ reasons, Dispatches (again reasons)) : Dispatches (planOnce roles a again) := by
  refine .bind fun tasks => .bind fun _ => .bind fun _ => ?_
  cases Plan.validate tasks with
  | approved summary => exact .bind fun _ => .bind fun _ => (dispatches_advance (.inl rfl)).map fun _ => ()
  | rejected reasons =>
    refine .bind fun _ => .bind fun stage => ?_
    by_cases hstage : stage = .aborted
    · simp only [hstage, if_true]
      exact dispatches_throw _
    · simp only [hstage, if_false]
      exact h reasons

theorem dispatches_planUntilApproved (n : Nat) : Dispatches (planUntilApproved roles a n) := by
  induction n with
  | zero => exact dispatches_planOnce fun reasons => dispatches_throw _
  | succ n ih => exact dispatches_planOnce fun _ => ih

theorem dispatches_opening : Dispatches (opening roles) := by
  refine .bind fun s => .bind fun a => .bind fun _ => .bind fun _ => ?_
  exact (dispatches_planUntilApproved _).map fun _ => a

theorem dispatches_correct : Dispatches (correct roles a) := by
  refine .bind fun s => .bind fun d => ?_
  cases Plan.validateCorrective d.task s.workflow.queue with
  | rejected reasons => exact dispatches_throw _
  | approved summary =>
    refine .bind fun _ => .bind fun _ => .bind fun _ => ?_
    exact (dispatches_advance (.inr rfl)).map fun _ => d.task.id

/-- A cycle that another batch follows leaves a run at that stage, too. -/
theorem after_cycle (batch : List String) :
    After (cycle roles a batch) s
      (fun id s' => id.isSome = true → s'.progress.stage = .dispatching) fun _ _ => True := by
  refine after_bind.2 (after_of_forall (fun _ s₁ => ?_) fun _ _ => trivial)
  refine after_bind.2 (after_of_forall (fun _ s₂ => ?_) fun _ _ => trivial)
  refine after_bind.2 (after_of_forall (fun stage s₃ => ?_) fun _ _ => trivial)
  by_cases hstage : stage = .diagnosing
  · rw [if_pos hstage]
    refine ((dispatches_correct.map some) s₃).mono ?_ fun _ _ _ => trivial
    exact fun _ _ h _ => h
  · rw [if_neg hstage]
    refine after_pure.2 ?_
    intro hsome
    cases hsome

end

theorem Dispatched.stage {s₀ s : RunState σ} {a : Architecture} {k : Nat} {batch : List String}
    (h : Dispatched roles s₀ a k batch s) : s.progress.stage = .dispatching := by
  cases h with
  | first h =>
    have hopening : Dispatches (opening roles) := dispatches_opening
    have hafter := hopening s₀
    unfold After at hafter
    rw [h] at hafter
    exact hafter
  | @next _ batch s _ id before h =>
    have hafter : After (cycle roles a batch) s
        (fun id s' => id.isSome = true → s'.progress.stage = .dispatching) fun _ _ => True :=
      after_cycle batch
    unfold After at hafter
    rw [h] at hafter
    exact hafter rfl

/-! ## A batch that fails -/

/-- Whether an event tells of the work on a task. -/
def isWork (e : Event) : Bool := e.started?.isSome || e.settled?.isSome

/-- Whether a run has told nothing but work since some point, and is no further on. -/
structure WorkedSince (s s' : RunState σ) : Prop where
  progress : s'.progress = s.progress
  told : ∃ told, s'.log.entries = s.log.entries ++ told ∧ ∀ e ∈ told, isWork e = true

theorem WorkedSince.refl (s : RunState σ) : WorkedSince s s :=
  ⟨rfl, [], (List.append_nil _).symm, fun _ he => absurd he List.not_mem_nil⟩

theorem WorkedSince.tell {s s' s'' : RunState σ} {e : Event} (h : WorkedSince s s') (he : isWork e = true)
    (hp : s''.progress = s'.progress) (hlog : s''.log = s'.log.put e) : WorkedSince s s'' := by
  obtain ⟨told, htold, hwork⟩ := h.told
  refine ⟨hp.trans h.progress, told ++ [e], ?_, ?_⟩
  · rw [hlog, Log.entries_put, htold, List.append_assoc]
  · intro x hx
    rcases List.mem_append.1 hx with hx | hx
    · exact hwork x hx
    · rw [List.mem_singleton.1 hx]
      exact he

theorem keeps_workedSince (c : Crew σ) (s : RunState σ) : Dispatch.Keeps c (WorkedSince s) where
  begin s' id t s'' hb h := by
    obtain ⟨q, -, hq⟩ := Option.map_eq_some_iff.1 hb
    cases hq
    exact h.tell (e := .taskStarted q.1) rfl rfl rfl
  work _ _ h := ⟨h.progress, h.told⟩
  complete _ t report h := h.tell (e := .taskCompleted t report) rfl rfl rfl
  fail s' id reason h :=
    h.tell (e := .taskFailed (((s'.workflow.markFailed id reason).task? id).map (·.role)) id reason)
      rfl rfl rfl

/-- How a run ends whose batch fails: `s` is the run just before the batch. -/
structure Aborts (roles : Roles σ) (runId : String) (s₀ : RunState σ) (batch : List String)
    (s : RunState σ) (e : Failure) : Prop where
  outcome : (run roles runId s₀).1.outcome = .aborted
  stage : (run roles runId s₀).1.stage = .aborted
  failure : (run roles runId s₀).1.failure = some e
  /-- From the batch on the run tells of the work on tasks, and how it ended: no verification. -/
  told : ∃ told, (∀ x ∈ told, isWork x = true) ∧
    (run roles runId s₀).1.events = s.log.entries ++ told ++
      [.runEnded .aborted (run roles runId s₀).1.status (run roles runId s₀).1.cycles
        (run roles runId s₀).1.completed (some e.message)]
  /-- What it knows, and the world, are as the batch left them: no role is asked anything more. -/
  workflow : (run roles runId s₀).2.workflow = (Dispatch.runBatch roles.crew batch s).2.workflow
  outside : (run roles runId s₀).2.outside = (Dispatch.runBatch roles.crew batch s).2.outside

section
variable {s : RunState σ} {batch : List String} {e : Failure}

theorem run_cycles_of_error {a : Architecture} {k : Nat}
    (h : (Dispatch.runBatch roles.crew batch s).1 = .error e) :
    (cycles roles a k batch).run s =
      (.error (.failed e), (Dispatch.runBatch roles.crew batch s).2) := by
  have hdispatch : (dispatch roles.crew batch).run s =
      (.error (.failed e), (Dispatch.runBatch roles.crew batch s).2) := by
    rw [run_dispatch, h]
    rfl
  cases k with
  | zero => exact run_bind_error hdispatch
  | succ k => exact run_bind_error hdispatch

theorem aborts_of_error {runId : String} {s₀ : RunState σ} {a : Architecture} {k : Nat}
    (h : Dispatched roles
      (s₀.emit (.runStarted runId s₀.workflow.projectRoot s₀.progress.maxCycles)) a k batch s)
    (he : (Dispatch.runBatch roles.crew batch s).1 = .error e) :
    Aborts roles runId s₀ batch s e := by
  have hdrive := h.run_drive
  rw [run_cycles_of_error he] at hdrive
  have hrun := run_of_halt hdrive
  have hworked := (keeps_workedSince roles.crew s).runBatch (WorkedSince.refl s) batch
  have hstage : (stopped (Dispatch.runBatch roles.crew batch s).2.progress).stage = .aborted := by
    refine (stage_stopped ?_).1
    rw [hworked.progress, h.stage]
    rfl
  obtain ⟨told, htold, hwork⟩ := hworked.told
  obtain ⟨hout, hfail⟩ := failure_finish (o := .aborted)
    (s := { (Dispatch.runBatch roles.crew batch s).2 with
      progress := stopped (Dispatch.runBatch roles.crew batch s).2.progress }) hstage rfl runId (some e)
  have houtcome : (run roles runId s₀).1.outcome = .aborted := by
    rw [hrun]
    exact hout
  have hfailure : (run roles runId s₀).1.failure = some e := by
    rw [hrun]
    exact hfail
  have hreport : (run roles runId s₀).1.events =
      (Dispatch.runBatch roles.crew batch s).2.log.entries ++
        [.runEnded (run roles runId s₀).1.outcome (run roles runId s₀).1.status
          (run roles runId s₀).1.cycles (run roles runId s₀).1.completed
          (run roles runId s₀).1.error?] := by
    rw [hrun]
    rfl
  constructor
  case outcome => exact houtcome
  case stage =>
    rw [hrun]
    exact hstage
  case failure => exact hfailure
  case told =>
    refine ⟨told, hwork, ?_⟩
    rw [hreport, htold, houtcome, RunReport.error?, hfailure]
    rfl
  case workflow =>
    rw [hrun]
    rfl
  case outside =>
    rw [hrun]
    rfl

end

/-- A batch fails exactly if some task that it started ended with a fatal failure, and with the first one
of the wave. In a run such a failure is the end: the run is aborted, and nothing more is verified. -/
theorem run_fails_fast (roles : Roles σ) :
    (∀ (ids : List String) (s : RunState σ), ids.Nodup →
      Dispatch.FailsFast roles.crew ids s (Dispatch.wavesOf roles.crew ids s)) ∧
    ∀ (runId : String) (s₀ : RunState σ) (a : Architecture) (k : Nat) (batch : List String)
      (s : RunState σ) (e : Failure),
      Dispatched roles
        (s₀.emit (.runStarted runId s₀.workflow.projectRoot s₀.progress.maxCycles)) a k batch s →
      (Dispatch.runBatch roles.crew batch s).1 = .error e → Aborts roles runId s₀ batch s e := by
  constructor
  · intro ids s hids
    exact Dispatch.runBatch_fails_fast roles.crew hids s
  · intro runId s₀ a k batch s e h he
    exact aborts_of_error h he

/-- The design of a page and its server. -/
def servedPage : Architecture where
  stack := ⟨"python", "html", "none", []⟩
  overview := "A page"
  files := ⟨[⟨"app.py", "server"⟩], [⟨"index.html", "page"⟩], []⟩
  dependencies := ⟨[], []⟩
  endpoints := []
  dataFlow := "none"
  instructions := ""

/-- Three tasks that may start at once, and one that waits for the third. -/
def pageTasks : List Task :=
  [.new "TASK-001" "Serve the page" .backend, .new "TASK-002" "Lay out the page" .frontend,
    .new "TASK-003" "Style the page" .frontend,
    { Task.new "TASK-004" "Animate the page" .frontend with dependencies := ["TASK-003"] }]

/-- A crew that nobody works in for the server, and that leaves the project with the second task. Of a
wave the last task finishes first. -/
def escapingCrew : Crew Unit where
  worker?
    | .backend => none
    | .frontend => some fun t o =>
      (.ends (if t.id = "TASK-002" then .error (.path "../index.html") else .ok (.new t.id)), o)
  finish := ⟨List.reverse, List.reverse_perm⟩
  taskMilliseconds := 0

/-- Roles that design the page and its server, and plan these tasks for that crew. -/
def escapingRoles : Roles Unit where
  architect _ := ExceptT.mk (pure (.ok servedPage))
  planner _ := ExceptT.mk (pure (.ok pageTasks))
  verifier _ := ExceptT.mk (pure (.error (.planning "nothing to verify")))
  diagnoser _ _ _ _ := ExceptT.mk (pure (.error (.planning "nothing to diagnose")))
  crew := escapingCrew

/-- The run of these roles just before its first batch. -/
def escapingRun : RunState Unit :=
  ((opening escapingRoles).run
    ((RunState.start "a page" "app" 3 false ()).emit (.runStarted "r" "app" 3))).2

/-- Both the first and the second task of the wave fail for good. The second one finishes first, the
third one is completed, and the fourth one never starts. -/
theorem run_fails_fast_escaping :
    Dispatch.FailsFast escapingCrew ["TASK-001", "TASK-002", "TASK-003", "TASK-004"] escapingRun
      (Dispatch.wavesOf escapingCrew ["TASK-001", "TASK-002", "TASK-003", "TASK-004"] escapingRun) ∧
    (Dispatch.wavesOf escapingCrew ["TASK-001", "TASK-002", "TASK-003", "TASK-004"] escapingRun).map
      (·.ready) = [["TASK-001", "TASK-002", "TASK-003"]] ∧
    Aborts escapingRoles "r" (RunState.start "a page" "app" 3 false ()) escapingRun.workflow.pendingIds
      escapingRun (.path "../index.html") := by
  have hopened : ((opening escapingRoles).run
      ((RunState.start "a page" "app" 3 false ()).emit (.runStarted "r" "app" 3))).1 = .ok servedPage := by
    decide +kernel
  have hfails : (Dispatch.runBatch escapingCrew escapingRun.workflow.pendingIds escapingRun).1 =
      .error (.path "../index.html") := by
    decide +kernel
  refine ⟨(run_fails_fast escapingRoles).1 _ escapingRun (by decide), by decide +kernel, ?_⟩
  exact (run_fails_fast escapingRoles).2 "r" _ servedPage 3 _ escapingRun _
    (.first (Prod.ext hopened rfl)) hfails

end BuildLoop.Run
