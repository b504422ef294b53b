import BuildLoop.Run.Crew
import BuildLoop.Run.State
import BuildLoop.Task.Mentions

/-!
# Dispatch

A batch of tasks is worked on in waves. A wave holds every pending task of the batch whose
dependencies are completed, but at most one for each file; a task with a failed dependency fails
without being started. All tasks of a wave are started before any result is taken. What is left when
no task is ready fails too, so that every task of a batch comes to an end.

    runBatch c ids s = ok summary   →   every id of ids that was pending is in one of the summary's lists
    runBatch c ids s = error f      →   f is fatal, and no later wave was started
-/

namespace BuildLoop

/-- What became of a batch. -/
structure BatchSummary where
  completed : List String
  /-- The ids of the tasks that failed, with the reason. -/
  failed : List (String × String)
  waves : Nat
  deriving DecidableEq, Repr

namespace BatchSummary

/-- The summary of a batch that has not begun. -/
def empty : BatchSummary := ⟨[], [], 0⟩

/-- The summary as a JSON value. -/
def json (b : BatchSummary) : Json := .object [
  ("completed", .texts b.completed),
  ("failed", .list (b.failed.map fun p => .texts [p.1, p.2])),
  ("waves", .ofNat b.waves)]

/-- Adds a task that was completed. -/
def addCompleted (b : BatchSummary) (id : String) : BatchSummary :=
  { b with completed := b.completed ++ [id] }

/-- Adds a task that failed. -/
def addFailed (b : BatchSummary) (id reason : String) : BatchSummary :=
  { b with failed := b.failed ++ [(id, reason)] }

end BatchSummary

namespace Dispatch

variable {σ : Type}

/-! ## Waves -/

/-- The dependency of a task that failed, the first one. -/
def failedDependency? (w : WorkflowState) (t : Task) : Option String :=
  t.dependencies.find? fun d => (w.task? d).any fun u => u.status == .failed

/-- Whether all dependencies of a task are completed. -/
def isUnblocked (w : WorkflowState) (t : Task) : Bool := t.dependencies.all w.completed.contains

/-- What can be done about some pending tasks: those ready for a wave, and those with a failed
dependency, with the reason. -/
structure Frontier where
  ready : List String
  blocked : List (String × String)
  deriving DecidableEq, Repr

/-- Adds a task in front of a frontier. -/
def Frontier.addReady (f : Frontier) (id : String) : Frontier := { f with ready := id :: f.ready }

/-- Adds a blocked task in front of a frontier. -/
def Frontier.addBlocked (f : Frontier) (id dependency : String) : Frontier :=
  { f with blocked := (id, "dependency " ++ dependency ++ " failed") :: f.blocked }

/-- The frontier of ids in order; `claimed` are the files of the tasks found ready before. -/
def frontierFrom (w : WorkflowState) : List String → List String → Frontier
  | _, [] => ⟨[], []⟩
  | claimed, id :: r =>
    match w.task? id with
    | none => frontierFrom w claimed r
    | some t =>
      if t.status ≠ .pending then frontierFrom w claimed r
      else match failedDependency? w t with
        | some d => (frontierFrom w claimed r).addBlocked id d
        | none =>
          if !isUnblocked w t then frontierFrom w claimed r
          else match t.primaryFile? with
            | none => (frontierFrom w claimed r).addReady id
            | some file =>
              if claimed.contains file then frontierFrom w claimed r
              else (frontierFrom w (file :: claimed) r).addReady id

/-- The frontier of ids in order. -/
def frontier (w : WorkflowState) (ids : List String) : Frontier := frontierFrom w [] ids

/-! ## Settling tasks -/

/-- A batch under way. -/
structure Batch (σ : Type) where
  run : RunState σ
  summary : BatchSummary

/-- Marks a task of the queue as failed and tells it. -/
def failTask (run : RunState σ) (id reason : String) : RunState σ :=
  let run := run.know fun w => w.markFailed id reason
  run.emit (.taskFailed ((run.workflow.task? id).map (·.role)) id reason)

/-- Marks a task of a batch as failed. -/
def fail (b : Batch σ) (id reason : String) : Batch σ :=
  ⟨failTask b.run id reason, b.summary.addFailed id reason⟩

/-- Marks tasks as failed, each for its reason. -/
def failAll (b : Batch σ) (tasks : List (String × String)) : Batch σ :=
  tasks.foldl (fun b p => fail b p.1 p.2) b

/-- Marks a task of the queue as completed and tells it. -/
def completeTask (run : RunState σ) (t : Task) (report : WorkerReport) : RunState σ :=
  (run.know fun w => w.mergeCompleted (.single t.complete)).emit (.taskCompleted t report)

/-- Marks a task of a batch as completed. -/
def complete (b : Batch σ) (t : Task) (report : WorkerReport) : Batch σ :=
  ⟨completeTask b.run t report, b.summary.addCompleted t.id⟩

/-- Starts a task of the queue and tells it. -/
def begin (run : RunState σ) (id : String) : Option (Task × RunState σ) :=
  (run.workflow.begin id).map fun (t, w) =>
    (t, { run with workflow := w }.emit (.taskStarted t))

/-- Starts tasks in order, those that are in the queue. -/
def beginAll (run : RunState σ) : List String → List Task × RunState σ
  | [] => ([], run)
  | id :: r =>
    match begin run id with
    | none => beginAll run r
    | some (t, run) =>
      let (ts, run) := beginAll run r
      (t :: ts, run)

/-- Takes the results of finished tasks in order, and keeps the first fatal failure. A worker that
broke down leaves nothing to take. -/
def settleAll (c : Crew σ) : Option Failure → Batch σ → List Finished → Option Failure × Batch σ
  | fatal, b, [] => (fatal, b)
  | fatal, b, f :: r =>
    match c.result? f with
    | none => settleAll c fatal b r
    | some (.ok report) => settleAll c fatal (complete b f.task report) r
    | some (.error e) =>
      settleAll c (fatal.or (if e.isFatal then some e else none)) (fail b f.task.id e.message) r

/-- Marks the tasks that are still under way as failed: their workers broke down. -/
def sweep (b : Batch σ) : List String → Batch σ
  | [] => b
  | id :: r =>
    if (b.run.workflow.task? id).any fun t => t.status == .inProgress then
      sweep (fail b id Crew.brokenDown) r
    else sweep b r

/-! ## Batches -/

/-- Starts the tasks of a wave and works on them. They are given in the order in which they finish. -/
def attempt (c : Crew σ) (run : RunState σ) (ready : List String) : List Finished × RunState σ :=
  let (tasks, run) := beginAll run ready
  let (finished, outside) := c.workAll tasks run.outside
  (c.finish.arrange finished, { run with outside })

/-- Works on the tasks of one wave, and answers the first fatal failure. -/
def wave (c : Crew σ) (b : Batch σ) (ready : List String) : Option Failure × Batch σ :=
  let (finished, run) := attempt c b.run ready
  let (fatal, b) :=
    settleAll c none ⟨run, { b.summary with waves := b.summary.waves + 1 }⟩ finished
  (fatal, sweep b ready)

/-- The ids whose tasks are pending. -/
def pendingOf (w : WorkflowState) (ids : List String) : List String := ids.filter w.isPending

/-- What is said of tasks that wait for what cannot come. -/
def neverReady : String := "dependencies can never be satisfied"

/-- How a round ends. -/
inductive Round (σ : Type) where
  /-- Nothing was ready, and what was left has failed. -/
  | ended (b : Batch σ)
  /-- A wave met a fatal failure. -/
  | stopped (fatal : Failure) (b : Batch σ)
  /-- A wave is done, and some tasks remain. -/
  | goesOn (b : Batch σ) (remaining : List String)

/-- One round of a batch: blocked tasks fail, and those that are ready are a wave. -/
def round (c : Crew σ) (b : Batch σ) (remaining : List String) : Round σ :=
  let f := frontier b.run.workflow remaining
  let b := failAll b f.blocked
  if f.ready.isEmpty then
    .ended (failAll b ((pendingOf b.run.workflow remaining).map fun id => (id, neverReady)))
  else
    match wave c b f.ready with
    | (some fatal, b) => .stopped fatal b
    | (none, b) => .goesOn b (pendingOf b.run.workflow remaining)

/-- Works on what remains of a batch, in at most `n` rounds. -/
def rounds (c : Crew σ) : Nat → Batch σ → List String → Except Failure Unit × Batch σ
  | 0, b, _ => (.ok (), b)
  | n + 1, b, remaining =>
    if remaining.isEmpty then (.ok (), b)
    else
      match round c b remaining with
      | .ended b => (.ok (), b)
      | .stopped fatal b => (.error fatal, b)
      | .goesOn b remaining => rounds c n b remaining

/-- Works on the pending tasks of a batch until all are over. Each round settles at least one task, so
that there are at most as many rounds as tasks. -/
def runBatch (c : Crew σ) (ids : List String) (s : RunState σ) :
    Except Failure BatchSummary × RunState σ :=
  let remaining := pendingOf s.workflow ids
  match rounds c remaining.length ⟨s, .empty⟩ remaining with
  | (.ok (), b) => (.ok b.summary, b.run)
  | (.error e, b) => (.error e, b.run)

end Dispatch

end BuildLoop
