/-!
# Failures

What can go wrong in a run, and how it is worded. A fatal failure ends the run; any other is
recorded against the task it happened to.

    isFatal f   ↔   f is about planning, a role's answer, a path, a missing role or a stage
-/

namespace BuildLoop

/-- Why a step of a run failed. -/
inductive Failure where
  /-- The architecture or the queue is malformed or was rejected. -/
  | planning (reason : String)
  /-- A role answered something of another shape. -/
  | answer (role reason : String)
  /-- A path leads out of the project. -/
  | path (path : String)
  | notFound (path : String)
  /-- A worker could not do its task. -/
  | task (id reason : String)
  /-- A file was not written because it is incomplete. -/
  | incompleteWrite (path reason : String)
  /-- A command was refused before it was started. -/
  | commandRejected (command reason : String)
  /-- A command or a task ran past its bound. -/
  | timeout (command : String) (milliseconds : Nat)
  | verification (cause reason : String)
  /-- The corrective cycles are used up. -/
  | budget (cycles : Nat)
  /-- Nothing serves a role. -/
  | unavailable (role reason : String)
  /-- A stage does not accept an event. -/
  | transition (stage event : String)
  /-- The system refused an operation. -/
  | system (reason : String)
  deriving DecidableEq, Repr

namespace Failure

/-- Whether the failure ends the run. -/
def isFatal : Failure → Bool
  | planning _ | answer .. | path _ | unavailable .. | transition .. => true
  | _ => false

/-- The name of the class of failure. -/
def kind : Failure → String
  | planning _ => "planning_error"
  | answer .. => "schema_violation"
  | path _ => "path_violation"
  | notFound _ => "not_found"
  | task .. => "dispatch_error"
  | incompleteWrite .. => "incomplete_write"
  | commandRejected .. => "command_rejected"
  | timeout .. => "timeout_exceeded"
  | verification .. => "verification_failure"
  | budget _ => "budget_exhausted"
  | unavailable .. => "role_unavailable"
  | transition .. => "invalid_transition"
  | system _ => "io_error"

/-- The failure in words. -/
def message : Failure → String
  | planning reason => "planning failed: " ++ reason
  | answer role reason => role ++ " returned malformed output: " ++ reason
  | path p => "path escapes project root: " ++ p
  | notFound p => "not found: " ++ p
  | task id reason => "task " ++ id ++ " failed: " ++ reason
  | incompleteWrite p reason => "refused to write incomplete file " ++ p ++ ": " ++ reason
  | commandRejected command reason => "command '" ++ command ++ "' rejected: " ++ reason
  | timeout command ms => "'" ++ command ++ "' exceeded " ++ toString (ms / 1000) ++ "s"
  | verification cause reason => "verification failed (" ++ cause ++ "): " ++ reason
  | budget n => "iteration budget of " ++ toString n ++ " exhausted without passing verification"
  | unavailable role reason => role ++ " unavailable: " ++ reason
  | transition stage event => "invalid transition from " ++ stage ++ " on " ++ event
  | system reason => reason

end Failure

end BuildLoop
