import BuildLoop.Json.Form
import BuildLoop.Task.Record

/-!
# Actions of a worker

A model works on a task by actions: writing a whole file or running a command. What a worker did is
its report.

    ofJson? (toJson a) = some a
-/

namespace BuildLoop

open Json

/-- One step that a model asks for. -/
inductive WorkerAction where
  | writeFile (path content : String)
  | runCommand (command : String) (workdir : Option String)
  deriving DecidableEq, Repr

/-- The steps that a model asks for, and a remark. -/
structure WorkerPlan where
  actions : List WorkerAction
  notes : Option String
  deriving DecidableEq, Repr

/-- What a worker did for a task. -/
structure WorkerReport where
  taskId : String
  filesWritten : List String
  commandsRun : List String
  notes : List String
  deriving DecidableEq, Repr

/-- The report of a worker that has done nothing yet. -/
def WorkerReport.new (taskId : String) : WorkerReport := ⟨taskId, [], [], []⟩

/-- The tasks that a planning model answers with. -/
structure PlannedTasks where
  tasks : List Task
  deriving DecidableEq, Repr

instance : Form WorkerAction where
  shape := .tagged "WorkerAction" "action"
    (.cons "write_file" "WorkerAction::WriteFile"
      (.ofList [("path", .text, .required), ("content", .text, .required)])
    (.cons "run_command" "WorkerAction::RunCommand"
      (.ofList [("command", .text, .required), ("workdir", .optional .text, .default .null)])
      .nil))
  toJson
    | .writeFile path content => .object [
        ("action", .text "write_file"), ("path", toJson path), ("content", toJson content)]
    | .runCommand command workdir => .object [
        ("action", .text "run_command"), ("command", toJson command), ("workdir", toJson workdir)]
  ofJson? j := do
    if (← j.field? "action").asText? = some "write_file" then
      some (.writeFile (← get? j "path") (← get? j "content"))
    else some (.runCommand (← get? j "command") (← get? j "workdir"))

instance : Form WorkerPlan where
  shape := .record "WorkerPlan" (.ofList [
    ("actions", Form.shape (List WorkerAction), .required),
    ("notes", .optional .text, .default .null)])
  toJson p := .object [("actions", toJson p.actions), ("notes", toJson p.notes)]
  ofJson? j := do some { actions := ← get? j "actions", notes := ← get? j "notes" }

instance : Form WorkerReport where
  shape := .record "WorkerReport" (.ofList [
    ("task_id", .text, .required),
    ("files_written", .list .text, .required),
    ("commands_run", .list .text, .required),
    ("notes", .list .text, .default (.list []))])
  toJson r := .object [
    ("task_id", toJson r.taskId),
    ("files_written", toJson r.filesWritten),
    ("commands_run", toJson r.commandsRun),
    ("notes", toJson r.notes)]
  ofJson? j := do
    some {
      taskId := ← get? j "task_id"
      filesWritten := ← get? j "files_written"
      commandsRun := ← get? j "commands_run"
      notes := ← get? j "notes" }

instance : Form PlannedTasks where
  shape := .record "PlanOutput" (.ofList [("tasks", Form.shape (List Task), .required)])
  toJson p := .object [("tasks", toJson p.tasks)]
  ofJson? j := do some { tasks := ← get? j "tasks" }

end BuildLoop
