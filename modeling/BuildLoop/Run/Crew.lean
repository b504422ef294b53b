import BuildLoop.Failure
import BuildLoop.Task.Basic
import BuildLoop.Worker.Action

/-!
# Crews

A crew has a worker for some roles. The work on a task ends with a report or a failure, or it breaks
down without either, or it does not end at all until the time for the task is up. The tasks of a wave
are worked on in the order of the queue; in which order they finish is up to the crew.

    (c.finish.arrange fs).Perm fs
-/

namespace BuildLoop

/-- How the work on a task ends. -/
inductive Effort where
  | ends (result : Except Failure WorkerReport)
  /-- The worker breaks down and leaves no result. -/
  | panics
  /-- The work does not end by itself. -/
  | hangs
  /-- Nobody works for the role of the task. -/
  | unserved

/-- A task that was worked on. -/
structure Finished where
  task : Task
  effort : Effort

/-- In which order the tasks of a wave finish. -/
structure FinishOrder where
  arrange : List Finished → List Finished
  perm : ∀ fs, (arrange fs).Perm fs

/-! ## Orders -/

namespace FinishOrder

/-- The moment at which each task finishes, if tasks are taken up in order by some slots. Work that
hangs keeps its slot, `held` of them so far, until its time is up; once all slots are kept, the rest
waits for that. Work that ends takes no time, and a task that nobody works on needs no slot. -/
def moments (slots : Nat) : Nat → Nat → List Finished → List (Nat × Finished)
  | _, _, [] => []
  | round, held, f :: r =>
    match f.effort with
    | .unserved => (0, f) :: moments slots round held r
    | .hangs =>
      if held + 1 < slots then (2 * round + 1, f) :: moments slots round (held + 1) r
      else (2 * round + 1, f) :: moments slots (round + 1) 0 r
    | _ => (2 * round, f) :: moments slots round held r

theorem map_moments (slots : Nat) (fs : List Finished) :
    ∀ round held, (moments slots round held fs).map (·.2) = fs := by
  induction fs with
  | nil => intro _ _; rfl
  | cons f r ih =>
    intro round held
    simp only [moments]
    split
    · simp [ih]
    · split <;> simp [ih]
    · simp [ih]

/-- The order of a crew with some slots. -/
def slots (n : Nat) : FinishOrder where
  arrange fs := ((moments n 0 0 fs).mergeSort fun a b => decide (a.1 ≤ b.1)).map (·.2)
  perm fs := by
    have h := (List.mergeSort_perm (moments n 0 0 fs) fun a b => decide (a.1 ≤ b.1)).map (·.2)
    rwa [map_moments] at h

end FinishOrder

/-! ## Crews -/

/-- Who works on tasks, in a world `σ`. -/
structure Crew (σ : Type) where
  worker? : Role → Option (Task → σ → Effort × σ)
  finish : FinishOrder
  /-- How long the work on one task may take. -/
  taskMilliseconds : Nat

namespace Crew

variable {σ : Type}

/-- The failure of a task that nobody can work on. -/
def unserved (t : Task) : Failure := .unavailable t.role.name "no worker registered for this role"

/-- The failure of a task whose time is up. -/
def overdue (c : Crew σ) (t : Task) : Failure := .timeout ("task " ++ t.id) c.taskMilliseconds

/-- Works on a task. -/
def work (c : Crew σ) (t : Task) (outside : σ) : Effort × σ :=
  match c.worker? t.role with
  | none => (.unserved, outside)
  | some f => f t outside

/-- Works on tasks in order. -/
def workAll (c : Crew σ) : List Task → σ → List Finished × σ
  | [], outside => ([], outside)
  | t :: r, outside =>
    let (effort, outside) := c.work t outside
    let (fs, outside) := c.workAll r outside
    (⟨t, effort⟩ :: fs, outside)

/-- What comes of the work on a task: a report or a failure, or nothing from a worker that broke
down. -/
def result? (c : Crew σ) (f : Finished) : Option (Except Failure WorkerReport) :=
  match f.effort with
  | .ends r => some r
  | .hangs => some (.error (c.overdue f.task))
  | .unserved => some (.error (unserved f.task))
  | .panics => none

/-- What is said of a task whose worker broke down. -/
def brokenDown : String := "worker panicked"

/-- Works on one task outside of any run. -/
def workOnce (c : Crew σ) (t : Task) (outside : σ) : Except Failure WorkerReport × σ :=
  let (effort, outside) := c.work t outside
  ((c.result? ⟨t, effort⟩).getD (.error (.task t.id brokenDown)), outside)

end Crew

end BuildLoop
