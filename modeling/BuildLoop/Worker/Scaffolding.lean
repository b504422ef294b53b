import BuildLoop.Scaffold.Render
import BuildLoop.Task.Mentions
import BuildLoop.Worker.Action
import BuildLoop.Worker.Dependency
import BuildLoop.Worker.Directive
import BuildLoop.Workspace.Basic

/-!
# Workers

A worker does one task. The scaffolding worker runs the command that the description tells, or writes
the first file it names from a template. A plan of actions, as a model gives it, is carried out in
order up to the first action that fails.

    scaffold writes at most the file that its task names first, or runs at most one command
-/

namespace BuildLoop.Worker

open Text

/-- The last lines of a text. -/
def lastLines (s : String) (n : Nat) : String :=
  let ls := linesOf s
  "\n".intercalate (ls.drop (ls.length - n))

/-- An exit code as it is shown. -/
def exitText : Option Int → String
  | some n => "Some(" ++ toString n ++ ")"
  | none => "None"

/-- Runs a command for a task; one that says that it failed fails the task. -/
def runChecked (w : Workspace) (h : Host) (taskId command workdir : String) (milliseconds : Nat) :
    Act World Unit := do
  let output ← w.running h command workdir milliseconds
  if output.success then return ()
  else throw (.task taskId ("'" ++ command ++ "' exited with " ++ exitText output.exitCode ++ ": " ++
    lastLines output.combined 20))

/-! ## Scaffolding -/

/-- The manifests of packages that a template looks at, the first that can be read. -/
def manifestPaths : List String :=
  ["backend/requirements.txt", "backend/package.json", "requirements.txt"]

/-- What the templates have to know to write a file. -/
def contextOf (w : Workspace) (fs : Files) (t : Task) (path : String) : Scaffold.Context where
  path := path
  description := t.description
  tree := w.tree fs
  siblings :=
    match w.list fs ((dirName? path).getD ".") with
    | .ok l => l.files.filter (· != baseName path)
    | .error _ => []
  manifest :=
    (manifestPaths.findSome? fun m => (w.read fs m).toOption).getD ""

/-- The manifest with a package recorded in it, if it has to change. -/
def updated (w : Workspace) (fs : Files) (t : Task) (file package : String) :
    Except Failure (Option String) :=
  let name := baseName file
  if name = "requirements.txt" then
    .ok (recordedLine ((w.read fs file).toOption.getD "") package)
  else if name = "package.json" then
    match w.read fs file with
    | .error e => .error e
    | .ok current =>
      match Json.parse current with
      | .error e => .error (.task t.id (file ++ " is not valid JSON: " ++ e.text))
      | .ok manifest => .ok (recordedMember manifest package)
  else .ok none

/-- Records a package in the manifests among some files, and answers those it changed. -/
def recordIn (w : Workspace) (t : Task) (package : String) : List String → Act World (List String)
  | [] => return []
  | file :: rest => do
    match ← ExceptT.mk (pure (updated w (← get).files t file package)) with
    | none => recordIn w t package rest
    | some content =>
      let receipt ← w.writing file content
      return receipt.path :: (← recordIn w t package rest)

/-- Records what a command installed in the manifests that the task names. -/
def recordDependency (w : Workspace) (t : Task) (command : String) : Act World (List String) :=
  match installedPackage? command with
  | none => return []
  | some package => recordIn w t package t.files

/-- Writes the file that a task names first. -/
def writeScaffold (w : Workspace) (t : Task) : Act World WorkerReport :=
  match t.primaryFile? with
  | none => throw (.task t.id "description names no file to write")
  | some path => do
    match Scaffold.render (contextOf w (← get).files t path) with
    | .error reason => throw (.task t.id reason)
    | .ok body =>
      let receipt ← w.writing path body
      return { WorkerReport.new t.id with
        filesWritten := [receipt.path]
        notes := if t.isCorrective then ["regenerated " ++ path ++ " from template"] else [] }

/-- Does a task by its directive or from a template. -/
def scaffold (w : Workspace) (h : Host) (milliseconds : Nat) (t : Task) : Act World WorkerReport :=
  match directive? t.description with
  | some (command, workdir) => do
    runChecked w h t.id command workdir milliseconds
    let written ←
      if t.fault = some .missingDependency then recordDependency w t command else pure []
    return { WorkerReport.new t.id with commandsRun := [command], filesWritten := written }
  | none => writeScaffold w t

/-! ## Actions -/

/-- Carries out actions in order and adds what they did to a report. -/
def perform (w : Workspace) (h : Host) (milliseconds : Nat) (t : Task) :
    WorkerReport → List WorkerAction → Act World WorkerReport
  | report, [] => return report
  | report, .writeFile path content :: rest => do
    let receipt ← w.writing path content
    perform w h milliseconds t
      { report with filesWritten := report.filesWritten ++ [receipt.path] } rest
  | report, .runCommand command workdir :: rest => do
    runChecked w h t.id command (workdir.getD ".") milliseconds
    perform w h milliseconds t { report with commandsRun := report.commandsRun ++ [command] } rest

/-- Carries out a plan. -/
def apply (w : Workspace) (h : Host) (milliseconds : Nat) (t : Task) (plan : WorkerPlan) :
    Act World WorkerReport :=
  if plan.actions.isEmpty then throw (.task t.id "worker returned no actions")
  else do
    let report ← perform w h milliseconds t (.new t.id) plan.actions
    return { report with notes := report.notes ++ plan.notes.toList }

end BuildLoop.Worker
