import BuildLoop.Architecture
import BuildLoop.Task.Basic

/-!
# The state of a run

What a run knows: its requirements, the architecture, the queue of tasks, the task under way, the
completed tasks and the last verification. Every operation that is not refused raises the version by
one; a refused one changes nothing.

    (c.insert t).1.ids = if t.id ∈ c.ids then c.ids else c.ids ++ [t.id]
    (c.merge u).2 = number of tasks of u whose id is new
    s.setQueue ts = refused         once a task of the queue has started
    (s.begin id).current = the task, under way, that the queue holds for id
-/

namespace BuildLoop

/-! ## Completed tasks

The first task of an id stays; merging another set appends what is new in it. -/

/-- A set of tasks by id, in insertion order; the ids are kept beside the tasks. -/
structure CompletedTasks where
  tasks : List Task
  ids : List String
  deriving DecidableEq, Repr

namespace CompletedTasks

/-- The set without tasks. -/
def empty : CompletedTasks := ⟨[], []⟩

/-- Whether a task with this id is in the set. -/
def contains (s : CompletedTasks) (id : String) : Bool := s.ids.contains id

/-- How many tasks are in the set. -/
def size (s : CompletedTasks) : Nat := s.tasks.length

/-- Adds a task unless its id is present, and says whether it was added. -/
def insert (s : CompletedTasks) (t : Task) : CompletedTasks × Bool :=
  if s.contains t.id then (s, false) else (⟨s.tasks ++ [t], s.ids ++ [t.id]⟩, true)

/-- Adds tasks in order, and counts those that were added. -/
def insertAll (s : CompletedTasks) : List Task → CompletedTasks × Nat
  | [] => (s, 0)
  | t :: r =>
    let (s, added) := s.insert t
    let (s, n) := s.insertAll r
    (s, n + if added then 1 else 0)

/-- The union with another set, and how many of its tasks are new. -/
def merge (s other : CompletedTasks) : CompletedTasks × Nat := s.insertAll other.tasks

/-- The set of the tasks of a list. -/
def ofList (ts : List Task) : CompletedTasks := (empty.insertAll ts).1

/-- The set of one task. -/
def single (t : Task) : CompletedTasks := (empty.insert t).1

end CompletedTasks

/-! ## States -/

/-- The outcome of the last verification. -/
inductive TestStatus where
  | pending
  | passed
  | failed
  deriving DecidableEq, Repr

/-- The status's name. -/
def TestStatus.name : TestStatus → String
  | pending => "pending"
  | passed => "passed"
  | failed => "failed"

/-- The state of a run. -/
structure WorkflowState where
  requirements : String
  projectRoot : String
  architecture : Option Architecture
  queue : List Task
  current : Option Task
  completed : CompletedTasks
  testLogs : String
  testStatus : TestStatus
  iterations : Nat
  version : Nat
  deriving DecidableEq, Repr

/-- Changes the first task with an id. -/
def modifyTask (id : String) (f : Task → Task) : List Task → List Task
  | [] => []
  | t :: r => if t.id = id then f t :: r else t :: modifyTask id f r

namespace WorkflowState

/-- The state at the start of a run. -/
def new (requirements projectRoot : String) : WorkflowState :=
  ⟨requirements, projectRoot, none, [], none, .empty, "", .pending, 0, 0⟩

/-- The state one version on. -/
def bump (s : WorkflowState) : WorkflowState := { s with version := s.version + 1 }

/-- The first task of the queue with this id. -/
def task? (s : WorkflowState) (id : String) : Option Task := s.queue.find? (·.id == id)

/-- Whether the queue holds this id and its task is pending. -/
def isPending (s : WorkflowState) (id : String) : Bool :=
  (s.task? id).any fun t => t.status == .pending

/-- The ids of the pending tasks, in queue order. -/
def pendingIds (s : WorkflowState) : List String :=
  (s.queue.filter fun t => t.status == .pending).map (·.id)

/-- The tasks of the queue that failed. -/
def failedTasks (s : WorkflowState) : List Task := s.queue.filter fun t => t.status == .failed

/-- Sets the architecture, once. -/
def setArchitecture (s : WorkflowState) (a : Architecture) : Except Failure WorkflowState :=
  if s.architecture.isSome then .error (.planning "architecture is already set for this run")
  else .ok { s with architecture := some a }.bump

/-- Sets the queue, as long as no task of it has started. -/
def setQueue (s : WorkflowState) (ts : List Task) : Except Failure WorkflowState :=
  if s.queue.any fun t => t.status != .pending then
    .error (.planning "cannot replace a queue that has already been dispatched")
  else .ok { s with queue := ts }.bump

/-- Appends a task to the queue. -/
def append (s : WorkflowState) (t : Task) : WorkflowState :=
  { s with queue := s.queue ++ [t] }.bump

/-- Starts a task of the queue, which becomes the current one. -/
def begin (s : WorkflowState) (id : String) : Option (Task × WorkflowState) :=
  (s.task? id).map fun t =>
    (t.begin, { s with queue := modifyTask id Task.begin s.queue, current := some t.begin }.bump)

/-- Forgets the current task once it is over or gone from the queue. -/
def clearCurrent (s : WorkflowState) : WorkflowState :=
  match s.current with
  | none => s
  | some c =>
    if ((s.task? c.id).map (·.status.isTerminal)).getD true then { s with current := none } else s

/-- Marks tasks of the queue as completed and adds them to the completed ones. -/
def mergeCompleted (s : WorkflowState) (delta : CompletedTasks) : WorkflowState :=
  let queue := delta.tasks.foldl (fun q done => modifyTask done.id Task.complete q) s.queue
  { s with queue, completed := (s.completed.merge delta).1 }.clearCurrent.bump

/-- Marks a task of the queue as failed. -/
def markFailed (s : WorkflowState) (id reason : String) : WorkflowState :=
  { s with queue := modifyTask id (Task.fail · reason) s.queue }.clearCurrent.bump

/-- Records a verification. -/
def recordVerification (s : WorkflowState) (status : TestStatus) (logs : String) :
    WorkflowState :=
  { s with testStatus := status, testLogs := logs }.bump

/-- Counts one more corrective cycle. -/
def incrementIteration (s : WorkflowState) : WorkflowState :=
  { s with iterations := s.iterations + 1 }.bump

end WorkflowState

end BuildLoop
