import BuildLoop.Plan.Queue
import BuildLoop.Plan.Validation
import BuildLoop.Run.Dispatch
import BuildLoop.Run.Report
import BuildLoop.World

/-!
# The loop of a run

A run resolves the architecture, plans until a plan is approved, and then goes through cycles: the
tasks of a batch are done, the project is verified, and if that fails, one corrective task is the next
batch. The roles that do the work are parameters.

    (run roles id s).1.outcome = passed            ↔   the last verification passed
    (run roles id s).1.cycles ≤ s.progress.maxCycles
-/

namespace BuildLoop

open Text

/-- What does the work of a run, in a world `σ`. -/
structure Roles (σ : Type) where
  architect : String → Act σ Architecture
  planner : Architecture → Act σ (List Task)
  verifier : Architecture → Act σ VerificationReport
  /-- The diagnosis of logs in a cycle, given the ids that are taken. -/
  diagnoser : String → Architecture → Nat → List String → Act σ Diagnosis
  crew : Crew σ

namespace Run

variable {σ : Type}

/-! ## Steps -/

/-- Why a run stops early. -/
inductive Halt where
  | failed (failure : Failure)
  /-- A stage did not accept a signal. -/
  | refused (failure : Failure)
  deriving DecidableEq, Repr

/-- The failure that a run reports. -/
def Halt.failure : Halt → Failure
  | failed f | refused f => f

/-- A step of a run. -/
abbrev Step (σ : Type) := ExceptT Halt (StateM (RunState σ))

/-- Tells an event. -/
def emit (e : Event) : Step σ Unit := modify fun s => s.emit e

/-- Lets a role act on the world. -/
def outside {α : Type} (act : Act σ α) : Step σ α :=
  ExceptT.mk fun s =>
    match act.run s.outside with
    | (r, o) => (r.mapError .failed, { s with outside := o })

/-- Changes what the run knows, unless that is refused. -/
def know (f : WorkflowState → Except Failure WorkflowState) : Step σ Unit :=
  ExceptT.mk fun s =>
    match f s.workflow with
    | .ok w => (.ok (), { s with workflow := w })
    | .error e => (.error (.failed e), s)

/-- Goes to the next stage, tells it, and answers it. -/
def advance (signal : Signal) : Step σ Stage :=
  ExceptT.mk fun s =>
    match s.progress.fire signal with
    | .ok p =>
      (.ok p.stage,
        { s with progress := p }.emit (.stageChanged s.progress.stage p.stage signal))
    | .error e => (.error (.refused e), s)

/-- Works on a batch. -/
def dispatch (c : Crew σ) (ids : List String) : Step σ BatchSummary :=
  ExceptT.mk fun s =>
    match Dispatch.runBatch c ids s with
    | (r, s) => (r.mapError .failed, s)

/-! ## Planning -/

/-- Resolves the architecture of a request. -/
def resolve (roles : Roles σ) (request : String) : Act σ Architecture := do
  if isBlankText request then throw (.planning "requirements are empty")
  let a ← roles.architect request
  ExceptT.mk (pure a.normalized.validate)
  return a.normalized

/-- Plans an architecture, with every dependency earlier in the queue. -/
def plan (roles : Roles σ) (a : Architecture) : Act σ (List Task) := do
  let tasks ← roles.planner a
  ExceptT.mk (pure (Plan.checkOrder a tasks))
  return tasks

/-- What a run would build. -/
def preview (roles : Roles σ) (request : String) : Act σ Preview := do
  let a ← resolve roles request
  let tasks ← plan roles a
  return ⟨a, tasks, Plan.validate tasks⟩

/-- The failure of a run whose plan was rejected for good. -/
def planRejected (reasons : List String) : Failure :=
  .planning ("plan rejected: " ++ "; ".intercalate reasons)

/-- Plans once. A plan that is approved becomes the queue; after one that is rejected comes `again`,
unless the run is over. -/
def planOnce (roles : Roles σ) (a : Architecture) (again : List String → Step σ Unit) :
    Step σ Unit := do
  let tasks ← outside (plan roles a)
  emit (.planReady tasks)
  let _ ← advance .queueReady
  match Plan.validate tasks with
  | .approved summary =>
    know (·.setQueue tasks)
    emit (.planApproved summary)
    let _ ← advance .planApproved
  | .rejected reasons =>
    emit (.planRejected reasons)
    if (← advance .planRejected) = .aborted then throw (.failed (planRejected reasons))
    else again reasons

/-- Plans until a plan is approved, again at most `n` times. -/
def planUntilApproved (roles : Roles σ) (a : Architecture) : Nat → Step σ Unit
  | 0 => planOnce roles a fun reasons => throw (.failed (planRejected reasons))
  | n + 1 => planOnce roles a fun _ => planUntilApproved roles a n

/-! ## Cycles -/

/-- Verifies the project, tells and records it, and answers the next stage. -/
def verify (roles : Roles σ) (a : Architecture) : Step σ Stage := do
  emit .verificationStarted
  let report ← outside (roles.verifier a)
  know fun w => .ok (w.recordVerification report.status report.logs)
  if report.isPassed then
    emit (.verificationPassed report)
    advance .verificationPassed
  else
    emit (.verificationFailed report)
    advance .verificationFailed

/-- The failure of a run whose corrective task was rejected. -/
def correctionRejected (id : String) (reasons : List String) : Failure :=
  .planning ("corrective task " ++ id ++ " rejected: " ++ "; ".intercalate reasons)

/-- Diagnoses the last verification, appends the corrective task and answers its id. -/
def correct (roles : Roles σ) (a : Architecture) : Step σ String := do
  let w := (← get).workflow
  let d ← outside
    (roles.diagnoser w.testLogs a (w.iterations + 1) (w.queue.map (·.id)))
  match Plan.validateCorrective d.task w.queue with
  | .rejected reasons => throw (.failed (correctionRejected d.task.id reasons))
  | .approved _ =>
    know fun w => .ok w.incrementIteration
    emit (.correctiveTask (w.iterations + 1) d)
    know fun w => .ok (w.append d.task)
    let _ ← advance .correctiveReady
    return d.task.id

/-- Works on a batch and verifies the project. If that fails, `again` goes on with the corrective
task, unless the run is over. -/
def cycleOnce (roles : Roles σ) (a : Architecture) (batch : List String)
    (again : List String → Step σ Unit) : Step σ Unit := do
  let _ ← dispatch roles.crew batch
  let _ ← advance .batchSettled
  let stage ← verify roles a
  if stage = .diagnosing then
    let id ← correct roles a
    again [id]

/-- Goes through cycles, at most `n` after the first one. -/
def cycles (roles : Roles σ) (a : Architecture) : Nat → List String → Step σ Unit
  | 0, batch => cycleOnce roles a batch fun _ => return ()
  | n + 1, batch => cycleOnce roles a batch (cycles roles a n)

/-! ## Runs -/

/-- Everything between the first event of a run and the last. -/
def drive (roles : Roles σ) : Step σ Unit := do
  let s ← get
  let a ← outside (resolve roles s.workflow.requirements)
  know (·.setArchitecture a)
  emit (.architectureResolved a)
  planUntilApproved roles a (s.progress.maxReplans - s.progress.replans)
  cycles roles a (s.progress.maxCycles - s.progress.cycles) (← get).workflow.pendingIds

/-- The progress of a run after a failure. -/
def stopped (p : Progress) : Progress := (p.next? .abort).getD p

/-- Ends a run: its last event and its report. -/
def finish (runId : String) (failure : Option Failure) (s : RunState σ) :
    RunReport × RunState σ :=
  let outcome := Outcome.ofStage s.progress.stage
  let failure :=
    if outcome = .budgetExhausted then failure.or (some (.budget s.progress.maxCycles)) else failure
  let w := s.workflow
  let s := s.emit (.runEnded outcome w.testStatus w.iterations w.completed.size
    (failure.map Failure.message))
  ({ runId
     outcome
     stage := s.progress.stage
     status := w.testStatus
     cycles := w.iterations
     completed := w.completed.size
     failed := w.failedTasks.length
     failure
     logs := w.testLogs
     architecture := w.architecture
     tasks := w.queue
     events := s.log.entries }, s)

/-- A whole run from its start. -/
def run (roles : Roles σ) (runId : String) (s : RunState σ) : RunReport × RunState σ :=
  let s := s.emit (.runStarted runId s.workflow.projectRoot s.progress.maxCycles)
  match (drive roles).run s with
  | (.ok (), s) => finish runId none s
  | (.error h, s) => finish runId (some h.failure) { s with progress := stopped s.progress }

end Run

end BuildLoop
