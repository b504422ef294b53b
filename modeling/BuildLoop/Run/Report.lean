import BuildLoop.Run.State

/-!
# Reports of runs

A run always ends with a report: how it ended, what came of its tasks, and everything it told.

    r.exitCode = 0   ↔   r.outcome = passed
-/

namespace BuildLoop

open Json

/-- The report of a run. -/
structure RunReport where
  runId : String
  outcome : Outcome
  stage : Stage
  status : TestStatus
  cycles : Nat
  completed : Nat
  failed : Nat
  /-- Why the run did not pass. -/
  failure : Option Failure
  logs : String
  architecture : Option Architecture
  tasks : List Task
  events : List Event
  deriving DecidableEq, Repr

namespace RunReport

/-- The exit code of the run as a program. -/
def exitCode (r : RunReport) : Nat :=
  match r.outcome with
  | .passed => 0
  | .budgetExhausted => 1
  | .aborted => 2

def isSuccess (r : RunReport) : Bool := r.outcome == .passed

/-- Why the run did not pass, in words. -/
def error? (r : RunReport) : Option String := r.failure.map Failure.message

/-- An event with its place among the events of the run. -/
def eventJson (p : Event × Nat) : Json := .object (("id", .text (toString p.2)) :: p.1.notice.members)

/-- The events of a run, each with its place. -/
def eventsJson (events : List Event) : Json := .list (events.zipIdx.map eventJson)

/-- The report as a JSON value. -/
def json (r : RunReport) : Json := .object [
  ("run_id", .text r.runId),
  ("outcome", .text r.outcome.name),
  ("final_stage", .text r.stage.name),
  ("test_status", toJson r.status),
  ("iteration_count", .ofNat r.cycles),
  ("completed_task_count", .ofNat r.completed),
  ("failed_task_count", .ofNat r.failed),
  ("total_task_count", .ofNat r.tasks.length),
  ("error", optionalText r.error?),
  ("error_kind", optionalText (r.failure.map Failure.kind)),
  ("test_logs", .text r.logs),
  ("architecture", toJson r.architecture),
  ("tasks", toJson r.tasks),
  ("events", eventsJson r.events)]

end RunReport

/-- What a run would build. -/
structure Preview where
  architecture : Architecture
  tasks : List Task
  verdict : PlanVerdict
  deriving DecidableEq, Repr

/-- The preview as a JSON value. -/
def Preview.json (p : Preview) : Json := .object [
  ("architecture", toJson p.architecture),
  ("tasks", toJson p.tasks),
  ("verdict", toJson p.verdict)]

end BuildLoop
