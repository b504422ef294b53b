import BuildLoop.Model.Roles
import BuildLoop.Request.Design
import BuildLoop.Run.Config
import BuildLoop.Run.Loop
import BuildLoop.Verification.Check

/-!
# The standard roles

The roles that a configuration chooses: rules and templates, or language models. The verifier is the
same for both. Work on a task whose command takes longer than the task may take does not end in time.

    (standardRoles c w h).crew.worker? r ≠ none
-/

namespace BuildLoop.Run

/-- Seconds in milliseconds. -/
def milliseconds (seconds : Nat) : Nat := 1000 * seconds

/-- How the work on a task ends whose commands may take `seconds`. -/
def effortOf (c : RunConfig) : Except Failure WorkerReport → Effort
  | .error (.timeout command ms) =>
    if c.taskSeconds < c.commandSeconds then .hangs else .ends (.error (.timeout command ms))
  | r => .ends r

/-- The work of a role on a task. -/
def workBy (c : RunConfig) (w : Workspace) (h : Host) (role : Role) (t : Task) :
    Act World WorkerReport :=
  match c.service with
  | .rules => Worker.scaffold w h (milliseconds c.commandSeconds) t
  | .models => Model.work h w (c.modelFor role.name) role (milliseconds c.commandSeconds) t

/-- A crew that serves every role. -/
def standardCrew (c : RunConfig) (w : Workspace) (h : Host) : Crew World where
  worker? role := some fun t world =>
    match (workBy c w h role t).run world with
    | (r, world) => (effortOf c r, world)
  finish := .slots (max 1 c.maxConcurrentTasks)
  taskMilliseconds := milliseconds c.taskSeconds

/-- The roles that a configuration chooses. -/
def standardRoles (c : RunConfig) (w : Workspace) (h : Host) : Roles World where
  architect request :=
    match c.service with
    | .rules => ExceptT.mk (pure (resolveByRule request))
    | .models => Model.resolve h w (c.modelFor "architect") request
  planner a :=
    match c.service with
    | .rules => ExceptT.mk (pure (Plan.build a))
    | .models => Model.plan h w (c.modelFor "planner") a
  verifier := Verification.verify w h (milliseconds c.checkSeconds)
  diagnoser logs a cycle taken :=
    match c.service with
    | .rules => return Diagnosis.diagnose logs a cycle taken
    | .models => Model.diagnose h (c.modelFor "debugger") logs a cycle taken
  crew := standardCrew c w h

/-- Runs a request in a workspace with the standard roles. -/
def runStandard (c : RunConfig) (w : Workspace) (h : Host) (runId request : String) (world : World) :
    RunReport × World :=
  let (report, s) := run (standardRoles c w h) runId
    (.start request (Path.text w.root) c.maxCycles false world)
  (report, s.outside)

end BuildLoop.Run
