import BuildLoop.Architecture.Record
import BuildLoop.Diagnosis.Correction
import BuildLoop.Plan.Verdict
import BuildLoop.Run.Stage
import BuildLoop.Verification.Report
import BuildLoop.Worker.Action

/-!
# Events of a run

What happens in a run is an event. Whoever follows the run sees its notice: the kind of event, the
role it comes from, the task it is about and its data.

    e.notice.kind.isFinal   ↔   e tells how the run ended
-/

namespace BuildLoop

open Json

/-- The kind of an event. -/
inductive EventKind where
  | runStarted
  | stageChanged
  | architectureResolved
  | planReady
  | planApproved
  | planRejected
  | taskStarted
  | taskCompleted
  | taskFailed
  | verificationStarted
  | verificationPassed
  | verificationFailed
  | correctiveTask
  | runCompleted
  | runFailed
  | runAborted
  deriving DecidableEq, Repr

namespace EventKind

/-- The kind's name. -/
def name : EventKind → String
  | runStarted => "run_started"
  | stageChanged => "stage_changed"
  | architectureResolved => "architecture_resolved"
  | planReady => "plan_ready"
  | planApproved => "plan_approved"
  | planRejected => "plan_rejected"
  | taskStarted => "task_started"
  | taskCompleted => "task_completed"
  | taskFailed => "task_failed"
  | verificationStarted => "verification_started"
  | verificationPassed => "verification_passed"
  | verificationFailed => "verification_failed"
  | correctiveTask => "corrective_task"
  | runCompleted => "run_completed"
  | runFailed => "run_failed"
  | runAborted => "run_aborted"

/-- Every kind. -/
def all : List EventKind :=
  [runStarted, stageChanged, architectureResolved, planReady, planApproved, planRejected,
    taskStarted, taskCompleted, taskFailed, verificationStarted, verificationPassed,
    verificationFailed, correctiveTask, runCompleted, runFailed, runAborted]

/-- Whether no event of the run follows. -/
def isFinal : EventKind → Bool
  | runCompleted | runFailed | runAborted => true
  | _ => false

end EventKind

instance : Form EventKind where
  shape := .choice (EventKind.all.map EventKind.name)
  toJson k := .text k.name
  ofJson? := named? EventKind.name EventKind.all

/-- What is seen of an event. -/
structure Notice where
  kind : EventKind
  /-- The role that the event comes from. -/
  agent : String
  taskId : Option String
  data : Option Json

/-- The members of a notice. -/
def Notice.members (n : Notice) : List (String × Json) := [
  ("kind", toJson n.kind),
  ("agent", .text n.agent),
  ("task_id", optionalText n.taskId),
  ("data", n.data.getD .null)]

/-- How a run ended. -/
inductive Outcome where
  | passed
  | budgetExhausted
  | aborted
  deriving DecidableEq, Repr

namespace Outcome

/-- The outcome's name. -/
def name : Outcome → String
  | passed => "passed"
  | budgetExhausted => "budget_exhausted"
  | aborted => "aborted"

/-- The outcome of a run that ended at a stage. -/
def ofStage : Stage → Outcome
  | .done => passed
  | .doneWithFailure => budgetExhausted
  | _ => aborted

/-- The kind of the event that tells the outcome. -/
def eventKind : Outcome → EventKind
  | passed => .runCompleted
  | budgetExhausted => .runFailed
  | aborted => .runAborted

end Outcome

/-- What happens in a run. -/
inductive Event where
  | runStarted (runId root : String) (maxCycles : Nat)
  | stageChanged (source target : Stage) (signal : Signal)
  | architectureResolved (a : Architecture)
  | planReady (tasks : List Task)
  | planApproved (summary : PlanSummary)
  | planRejected (reasons : List String)
  | taskStarted (task : Task)
  | taskCompleted (task : Task) (report : WorkerReport)
  | taskFailed (role : Option Role) (id reason : String)
  | verificationStarted
  | verificationPassed (report : VerificationReport)
  | verificationFailed (report : VerificationReport)
  /-- A cycle begins with its corrective task. -/
  | correctiveTask (cycle : Nat) (diagnosis : Diagnosis)
  | runEnded (outcome : Outcome) (status : TestStatus) (cycles completed : Nat)
    (error : Option String)
  deriving DecidableEq, Repr

namespace Event

/-- The kind of an event. -/
def kind : Event → EventKind
  | runStarted .. => .runStarted
  | stageChanged .. => .stageChanged
  | architectureResolved _ => .architectureResolved
  | planReady _ => .planReady
  | planApproved _ => .planApproved
  | planRejected _ => .planRejected
  | taskStarted _ => .taskStarted
  | taskCompleted .. => .taskCompleted
  | taskFailed .. => .taskFailed
  | verificationStarted => .verificationStarted
  | verificationPassed _ => .verificationPassed
  | verificationFailed _ => .verificationFailed
  | correctiveTask .. => .correctiveTask
  | runEnded outcome .. => outcome.eventKind

/-- The role that an event comes from. -/
def agent : Event → String
  | runStarted .. | stageChanged .. | runEnded .. => "coordinator"
  | architectureResolved _ => "architect"
  | planReady _ => "planner"
  | planApproved _ | planRejected _ => "orchestrator"
  | taskStarted t => t.role.name
  | taskCompleted t _ => t.role.name
  | taskFailed role _ _ => (role.map Role.name).getD "dispatcher"
  | verificationStarted | verificationPassed _ | verificationFailed _ => "tester"
  | correctiveTask .. => "debugger"

/-- The task that an event is about. -/
def taskId? : Event → Option String
  | taskStarted t => some t.id
  | taskCompleted t _ => some t.id
  | taskFailed _ id _ => some id
  | correctiveTask _ d => some d.task.id
  | _ => none

/-- A task of a plan, without its description. -/
def plannedJson (t : Task) : Json := .object [
  ("id", .text t.id),
  ("assigned_agent", toJson t.role),
  ("dependencies", texts t.dependencies)]

/-- The data of an event. -/
def data? : Event → Option Json
  | runStarted runId root maxCycles => some (.object [
      ("run_id", .text runId),
      ("project_root", .text root),
      ("max_iterations", .ofNat maxCycles)])
  | stageChanged source target signal => some (.object [
      ("from", .text source.name),
      ("to", .text target.name),
      ("event", .text signal.name)])
  | architectureResolved a => some (.object [
      ("tech_stack", toJson a.stack),
      ("files", texts a.files.paths)])
  | planReady tasks => some (.object [("tasks", .list (tasks.map plannedJson))])
  | planApproved summary => some (toJson summary)
  | planRejected reasons => some (.object [("reasons", texts reasons)])
  | taskStarted t => some (.object [("description", .text t.description)])
  | taskCompleted _ report => some (toJson report)
  | taskFailed _ _ reason => some (.object [("reason", .text reason)])
  | verificationStarted => none
  | verificationPassed r => some (.object [
      ("check", .text r.check),
      ("command", optionalText r.command)])
  | verificationFailed r => some (.object [
      ("check", .text r.check),
      ("command", optionalText r.command),
      ("failure", toJson r.failure)])
  | correctiveTask cycle d => some (.object [
      ("iteration", .ofNat cycle),
      ("error_type", toJson d.fault),
      ("file", optionalText d.file),
      ("line", optionalNat d.line),
      ("assigned_agent", toJson d.task.role),
      ("description", .text d.task.description)])
  | runEnded _ status cycles completed error => some (.object [
      ("test_status", toJson status),
      ("iteration_count", .ofNat cycles),
      ("completed_task_count", .ofNat completed),
      ("error", optionalText error)])

/-- What is seen of an event. -/
def notice (e : Event) : Notice := ⟨e.kind, e.agent, e.taskId?, e.data?⟩

end Event

end BuildLoop
