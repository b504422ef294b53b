import BuildLoop.Plan.Reach
import BuildLoop.Plan.Verdict
import BuildLoop.Task.Phase
import BuildLoop.Text.Blank

/-!
# Validation of plans

A plan is approved if it is not empty, its tasks are pending and have distinct ids and a
description, every dependency is scheduled earlier, every task's role owns its file, phases never go
back, and tasks on one file are ordered by a dependency. Every breach is a reason, in that order.

    validate ts = rejected rs   →   rs ≠ []
-/

namespace BuildLoop.Plan

open Text

/-! ## Reasons -/

/-- The place of the last task with an id. -/
def position? (ts : List Task) (id : String) : Option Nat :=
  (ts.zipIdx.reverse.find? fun p => p.1.id == id).map (·.2)

/-- What is wrong with a task on its own and among the ids before it. -/
def taskReasons (before : List String) (index : Nat) (t : Task) : List String :=
  (if isBlankText t.id then ["task at position " ++ toString (index + 1) ++ " has an empty id"]
    else []) ++
  (if isBlankText t.description then ["task " ++ t.id ++ " has an empty description"] else []) ++
  (if t.status ≠ .pending then ["task " ++ t.id ++ " is not pending"] else []) ++
  (if before.contains t.id then ["duplicate task id '" ++ t.id ++ "'"] else [])

/-- What is wrong with the tasks one by one. -/
def ownReasons : List String → Nat → List Task → List String
  | _, _, [] => []
  | before, index, t :: r =>
    taskReasons before index t ++ ownReasons (t.id :: before) (index + 1) r

/-- What is wrong with a dependency of the task at a place. -/
def dependencyReason? (ts : List Task) (index : Nat) (t : Task) (dep : String) : Option String :=
  match position? ts dep with
  | none => some ("task " ++ t.id ++ " depends on unknown task '" ++ dep ++ "'")
  | some at_ =>
    if index ≤ at_ then
      some ("task " ++ t.id ++ " depends on '" ++ dep ++ "', which is not scheduled before it")
    else none

/-- Whether the role of a task is free, because what it corrects lies in the environment. -/
def isEnvironmentFix (t : Task) : Bool := t.fault.any Fault.isEnvironment

/-- What is wrong with the role of a task. -/
def roleReason? (t : Task) : Option String := do
  let file ← t.primaryFile?
  let expected ← Role.ofPath? file
  if isEnvironmentFix t || expected == t.role then none
  else some ("task " ++ t.id ++ " targets " ++ file ++ " but is assigned to " ++ t.role.name ++
    " instead of " ++ expected.name)

/-- What is wrong with the dependencies and the role of the task at a place. -/
def linkReasons (ts : List Task) (index : Nat) (t : Task) : List String :=
  t.dependencies.filterMap (dependencyReason? ts index t) ++ (roleReason? t).toList

/-- Where phases go back, given the phase and the id of the last task that has one. -/
def phaseReasons : Option (Phase × String) → List Task → List String
  | _, [] => []
  | last, t :: r =>
    if t.isCorrective then phaseReasons last r
    else match Phase.ofTask? t with
      | none => phaseReasons last r
      | some phase =>
        (match last with
          | some (before, id) =>
            if phase.rank < before.rank then
              ["task " ++ t.id ++ " (" ++ phase.name ++ ") is scheduled after task " ++ id ++
                " (" ++ before.name ++ ")"]
            else []
          | none => []) ++ phaseReasons (some (phase, t.id)) r

/-- Each item with the one after it. -/
def neighbours {α : Type} : List α → List (α × α)
  | a :: b :: r => (a, b) :: neighbours (b :: r)
  | _ => []

/-- The tasks that name a file, with the first file that each names. -/
def byFile (ts : List Task) : List (String × Task) :=
  ts.filterMap fun t => t.primaryFile?.map fun f => (f, t)

/-- The files that tasks name, each once, sorted. -/
def sharedFiles (named : List (String × Task)) : List String :=
  (named.map (·.1)).eraseDups.mergeSort (fun a b => decide (a ≤ b))

/-- Neighbouring tasks on one file of which the later does not depend on the earlier. -/
def sharedReasons (ts : List Task) : List String :=
  let named := byFile ts
  (sharedFiles named).flatMap fun file =>
    (neighbours ((named.filter (·.1 == file)).map (·.2))).filterMap fun p =>
      if dependsOn ts p.2 p.1.id then none
      else some ("tasks " ++ p.1.id ++ " and " ++ p.2.id ++ " both target " ++ file ++
        " without a dependency between them")

/-! ## Summary -/

/-- The name under which a task is counted. -/
def phaseName (t : Task) : String :=
  match Phase.ofTask? t with
  | some p => p.name
  | none => "other"

/-- Counts one more under a name, in a table sorted by name. -/
def countName (name : String) : List (String × Nat) → List (String × Nat)
  | [] => [(name, 1)]
  | (k, n) :: r =>
    if k = name then (k, n + 1) :: r
    else if name < k then (name, 1) :: (k, n) :: r
    else (k, n) :: countName name r

/-- The number of tasks by role and phase. -/
def summary (ts : List Task) : PlanSummary where
  total := ts.length
  backend := ts.countP (·.role == .backend)
  frontend := ts.countP (·.role == .frontend)
  phases := ts.foldl (fun table t => countName (phaseName t) table) []

/-! ## Verdicts -/

/-- Approves tasks without reasons against them. -/
def verdict (ts : List Task) (reasons : List String) : PlanVerdict :=
  if reasons.isEmpty then .approved (summary ts) else .rejected reasons

/-- Everything that is wrong with a plan that is not empty. -/
def reasons (ts : List Task) : List String :=
  ownReasons [] 0 ts ++ ts.zipIdx.flatMap (fun p => linkReasons ts p.2 p.1) ++
    phaseReasons none ts ++ sharedReasons ts

/-- Validates a plan. -/
def validate (ts : List Task) : PlanVerdict :=
  if ts.isEmpty then .rejected ["plan contains no tasks"] else verdict ts (reasons ts)

/-- Everything that is wrong with a corrective task for a queue. -/
def correctiveReasons (t : Task) (queue : List Task) : List String :=
  (if isBlankText t.id then ["corrective task has an empty id"] else []) ++
  (if isBlankText t.description then ["corrective task " ++ t.id ++ " has an empty description"]
    else []) ++
  (if t.status ≠ .pending then ["corrective task " ++ t.id ++ " is not pending"] else []) ++
  (if !t.isCorrective then ["corrective task " ++ t.id ++ " has no error_type"] else []) ++
  (t.dependencies.filter fun dep => !queue.any (·.id == dep)).map (fun dep =>
    "corrective task " ++ t.id ++ " depends on unknown task '" ++ dep ++ "'") ++
  (if queue.any (·.id == t.id) then ["duplicate task id '" ++ t.id ++ "'"] else []) ++
  (roleReason? t).toList

/-- Validates a corrective task against the queue it is to be appended to. Corrective tasks may
belong to any phase. -/
def validateCorrective (t : Task) (queue : List Task) : PlanVerdict :=
  verdict [t] (correctiveReasons t queue)

end BuildLoop.Plan
