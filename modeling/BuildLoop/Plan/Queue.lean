import BuildLoop.Plan.Description

/-!
# Plans of architectures

The plan of an architecture has a task for each file, in the order of the schedule, and an install
task after each file that sets up a package manager. Tasks of one role form a chain; the first script
of a page also waits for the backend; documents wait for both chains; nothing waits for an install.

    build a = ok ts   →   the ids of ts are task_1, task_2, …
-/

namespace BuildLoop.Plan

/-- The ids that the next tasks depend on. -/
structure Chains where
  /-- How many tasks there are so far. -/
  count : Nat
  backend : Option String
  frontend : Option String
  /-- Whether a script of a page has come. -/
  joined : Bool
  deriving DecidableEq, Repr

namespace Chains

/-- Before the first task. -/
def start : Chains := ⟨0, none, none, false⟩

/-- The id of the `n`-th task after these. -/
def id (c : Chains) (n : Nat) : String := "task_" ++ toString (c.count + n)

/-- Whether a file is the first script of a page. -/
def joins (c : Chains) (f : PlannedFile) : Bool :=
  f.role == .frontend && f.phase == .frontendLogic && !c.joined

/-- What the task of a file depends on. -/
def dependencies (c : Chains) (f : PlannedFile) : List String :=
  if f.phase = .docs then c.backend.toList ++ c.frontend.toList
  else match f.role with
    | .backend => c.backend.toList
    | .frontend => c.frontend.toList ++ if c.joins f then c.backend.toList else []

/-- After the tasks of a file. -/
def next (c : Chains) (f : PlannedFile) : Chains where
  count := c.count + if f.install.isSome then 2 else 1
  backend := if f.role = .backend then some (c.id 1) else c.backend
  frontend := if f.role = .frontend then some (c.id 1) else c.frontend
  joined := c.joined || (f.phase != .docs && c.joins f)

end Chains

/-- The tasks of one file: write it and, if it declares packages, install them. -/
def fileTasks (a : Architecture) (c : Chains) (f : PlannedFile) : List Task :=
  { Task.new (c.id 1) (fileText a f) f.role with dependencies := c.dependencies f } ::
    (f.install.toList.map fun command =>
      { Task.new (c.id 2) (installText a f.entry.path command) f.role with
        dependencies := [c.id 1] })

/-- The tasks of files in order. -/
def tasksFrom (a : Architecture) : Chains → List PlannedFile → List Task
  | _, [] => []
  | c, f :: r => fileTasks a c f ++ tasksFrom a (c.next f) r

/-- Checks tasks in order: dependencies come earlier, and backend work needs a backend. -/
def checkOrderFrom (hasBackend : Bool) : List String → List Task → Except Failure Unit
  | _, [] => .ok ()
  | before, t :: r =>
    match t.dependencies.find? (!before.contains ·) with
    | some dep =>
      .error (.planning ("task " ++ t.id ++ " depends on undeclared or later task '" ++ dep ++ "'"))
    | none =>
      if !hasBackend && t.role == .backend then
        .error (.planning ("task " ++ t.id ++
          " is assigned to backend but the architecture has no backend"))
      else checkOrderFrom hasBackend (t.id :: before) r

/-- What every planner has to keep: there are tasks, each depends on earlier ones only, and none is
for an absent backend. -/
def checkOrder (a : Architecture) (ts : List Task) : Except Failure Unit :=
  if ts.isEmpty then .error (.planning "planner produced no tasks")
  else checkOrderFrom a.hasBackend [] ts

/-- The plan of an architecture. -/
def build (a : Architecture) : Except Failure (List Task) := do
  let files ← schedule a
  let tasks := tasksFrom a .start files
  checkOrder a tasks
  return tasks

end BuildLoop.Plan
