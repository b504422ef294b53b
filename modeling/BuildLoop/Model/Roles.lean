import BuildLoop.Architecture.Record
import BuildLoop.Diagnosis.Correction
import BuildLoop.Model.Chat
import BuildLoop.Model.Prompt
import BuildLoop.Plan.Queue
import BuildLoop.Request.Profile
import BuildLoop.Worker.Scaffolding

/-!
# Roles served by a model

Each role tells its model what it has to know and checks what comes back: the architecture has a
backend exactly if the request needs one, the plan keeps its order, actions are carried out by the
workspace, and a correction gets an id of its own.

    resolve … = ok a   →   a.hasBackend = (classify request).needsBackend
-/

namespace BuildLoop.Model

open Text

/-! ## The architect -/

/-- What the architect has to know. -/
def architectInput (w : Workspace) (request : String) (needsBackend : Bool) : String :=
  "Requirements:\n" ++ request ++ "\n\nProject root: " ++ Path.text w.root ++
    "\n\nBackend required: " ++
    if needsBackend then "yes" else "no - backend must be \"none\""

/-- Checks that an architecture has a backend exactly if it needs one. -/
def checkBackend (a : Architecture) (needsBackend : Bool) : Except Failure Unit :=
  if a.hasBackend = needsBackend then .ok ()
  else .error (.planning ("architect chose backend '" ++ a.stack.backend ++ "' but the request " ++
    (if needsBackend then "requires" else "does not need") ++ " a backend"))

/-- The architecture of a request. -/
def resolve (h : Host) (w : Workspace) (m : ModelConfig) (request : String) :
    Act World Architecture := do
  let needsBackend := (RequestProfile.classify request).needsBackend
  let a ← ask Architecture h ⟨"architect", m⟩ Prompt.architect
    (architectInput w request needsBackend)
  ExceptT.mk (pure (checkBackend a.normalized needsBackend))
  return a.normalized

/-! ## The planner -/

/-- What the planner has to know. -/
def plannerInput (w : Workspace) (a : Architecture) : String :=
  "Project root: " ++ Path.text w.root ++ "\n\nArchitecture:\n" ++ (Json.toJson a).indented

/-- The plan of an architecture. -/
def plan (h : Host) (w : Workspace) (m : ModelConfig) (a : Architecture) : Act World (List Task) := do
  let answer ← ask PlannedTasks h ⟨"planner", m⟩ Prompt.planner (plannerInput w a)
  ExceptT.mk (pure (Plan.checkOrder a answer.tasks))
  return answer.tasks

/-! ## Workers -/

/-- How many bytes of files a worker is shown. -/
def contextLimit : Nat := 12000

/-- The contents of files that are there, each only if it fits into what is left of the limit. -/
def fileContexts (w : Workspace) (fs : Files) : Nat → List String → String
  | _, [] => ""
  | left, file :: rest =>
    match w.read fs file with
    | .error _ => fileContexts w fs left rest
    | .ok content =>
      if content.utf8ByteSize > left then fileContexts w fs left rest
      else
        "\nCurrent contents of " ++ file ++ ":\n```\n" ++ content ++ "\n```\n" ++
          fileContexts w fs (left - content.utf8ByteSize) rest

/-- What a worker has to know. -/
def workerInput (w : Workspace) (fs : Files) (t : Task) : String :=
  "Task " ++ t.id ++ ":\n" ++ t.description ++ "\n\nProject files:\n" ++
    "\n".intercalate (w.tree fs) ++ "\n" ++ fileContexts w fs contextLimit t.files

/-- Does a task by the actions that the model of a role's worker asks for. -/
def work (h : Host) (w : Workspace) (m : ModelConfig) (role : Role) (milliseconds : Nat) (t : Task) :
    Act World WorkerReport := do
  let input := workerInput w (← get).files t
  let actions ← ask WorkerPlan h ⟨role.name, m⟩ (Prompt.worker role) input
  Worker.apply w h milliseconds t actions

/-! ## The debugger -/

/-- How many lines of logs the debugger is shown. -/
def logLimit : Nat := 200

/-- What the debugger has to know. -/
def debuggerInput (logs : String) (a : Architecture) (cycle : Nat) (taken : List String) : String :=
  "Iteration: " ++ toString cycle ++ "\nExisting task ids: " ++ ", ".intercalate taken ++
    "\n\nTest logs:\n" ++ Worker.lastLines logs logLimit ++ "\n\nArchitecture:\n" ++
    (Json.toJson a).indented

/-- The diagnosis of the logs of a failed check. -/
def diagnose (h : Host) (m : ModelConfig) (logs : String) (a : Architecture) (cycle : Nat)
    (taken : List String) : Act World Diagnosis := do
  let answer ← ask ProposedFix h ⟨"debugger", m⟩ Prompt.debugger (debuggerInput logs a cycle taken)
  ExceptT.mk (pure (Diagnosis.finalize answer a cycle taken))

end BuildLoop.Model
