import Mathlib.Data.List.Nodup
import BuildLoop.Workflow.State

/-!
# The tasks of the queue under the operations of a run

Starting, completing and failing a task each change the first task with an id and no other. What is
looked up afterwards is told by one equation for each operation:

    (modifyTask id f q).find? id' = if id' = id then (q.find? id).map f else q.find? id'
    (w.mergeCompleted (.single t)).completed = (w.completed.insert t).1
-/

namespace BuildLoop

/-! ## Tasks -/

@[simp] theorem Task.id_begin (t : Task) : t.begin.id = t.id := rfl

@[simp] theorem Task.id_complete (t : Task) : t.complete.id = t.id := rfl

@[simp] theorem Task.id_fail (t : Task) (reason : String) : (t.fail reason).id = t.id := rfl

@[simp] theorem Task.status_begin (t : Task) : t.begin.status = .inProgress := rfl

@[simp] theorem Task.status_complete (t : Task) : t.complete.status = .completed := rfl

@[simp] theorem Task.status_fail (t : Task) (reason : String) : (t.fail reason).status = .failed := rfl

/-! ## Changing one task -/

section
variable {id : String} {f : Task → Task} (hf : ∀ t, (f t).id = t.id)
include hf

theorem find?_modifyTask (q : List Task) (id' : String) :
    (modifyTask id f q).find? (·.id == id') =
      (q.find? (·.id == id')).map fun t => if id' = id then f t else t := by
  induction q with
  | nil => rfl
  | cons t r ih =>
    unfold modifyTask
    by_cases ht : t.id = id
    · rw [if_pos ht]
      by_cases hid : id' = id
      · subst hid
        simp [hf, ht]
      · have hne : (t.id == id') = false := by
          rw [ht]; simpa using fun h => hid h.symm
        simp [hf, hne, hid]
    · rw [if_neg ht]
      by_cases hid : t.id = id'
      · have hne : ¬ id' = id := by rw [← hid]; exact ht
        simp [hid, hne]
      · have hne : (t.id == id') = false := by simpa using hid
        simp only [List.find?_cons, hne]
        exact ih

theorem map_id_modifyTask (q : List Task) : (modifyTask id f q).map (·.id) = q.map (·.id) := by
  induction q with
  | nil => rfl
  | cons t r ih =>
    unfold modifyTask
    by_cases ht : t.id = id
    · simp [if_pos ht, hf]
    · simp only [if_neg ht, List.map_cons, ih]

end

/-- Tasks with another id stay in their places. -/
theorem getElem?_modifyTask_of_ne {id : String} {f : Task → Task} {q : List Task} {i : Nat} {t : Task}
    (h : q[i]? = some t) (hne : t.id ≠ id) : (modifyTask id f q)[i]? = some t := by
  induction q generalizing i with
  | nil => simp at h
  | cons u r ih =>
    unfold modifyTask
    cases i with
    | zero =>
      have hu : u = t := by simpa using h
      rw [hu, if_neg hne]
      simp
    | succ i =>
      have hr : r[i]? = some t := by simpa using h
      by_cases hu : u.id = id
      · rw [if_pos hu]; simpa using hr
      · rw [if_neg hu]; simpa using ih hr

/-! ## Operations -/

namespace WorkflowState

@[simp] theorem queue_bump (w : WorkflowState) : w.bump.queue = w.queue := rfl

@[simp] theorem completed_bump (w : WorkflowState) : w.bump.completed = w.completed := rfl

@[simp] theorem queue_clearCurrent (w : WorkflowState) : w.clearCurrent.queue = w.queue := by
  unfold clearCurrent
  split
  · rfl
  · split <;> rfl

@[simp] theorem completed_clearCurrent (w : WorkflowState) :
    w.clearCurrent.completed = w.completed := by
  unfold clearCurrent
  split
  · rfl
  · split <;> rfl

@[simp] theorem version_bump (w : WorkflowState) : w.bump.version = w.version + 1 := rfl

@[simp] theorem version_clearCurrent (w : WorkflowState) : w.clearCurrent.version = w.version := by
  unfold clearCurrent
  split
  · rfl
  · split <;> rfl

@[simp] theorem architecture_bump (w : WorkflowState) : w.bump.architecture = w.architecture := rfl

@[simp] theorem architecture_clearCurrent (w : WorkflowState) :
    w.clearCurrent.architecture = w.architecture := by
  unfold clearCurrent
  split
  · rfl
  · split <;> rfl

@[simp] theorem iterations_bump (w : WorkflowState) : w.bump.iterations = w.iterations := rfl

@[simp] theorem testStatus_bump (w : WorkflowState) : w.bump.testStatus = w.testStatus := rfl

@[simp] theorem iterations_clearCurrent (w : WorkflowState) :
    w.clearCurrent.iterations = w.iterations := by
  unfold clearCurrent
  split
  · rfl
  · split <;> rfl

@[simp] theorem testStatus_clearCurrent (w : WorkflowState) :
    w.clearCurrent.testStatus = w.testStatus := by
  unfold clearCurrent
  split
  · rfl
  · split <;> rfl

theorem id_of_task? {w : WorkflowState} {id : String} {t : Task} (h : w.task? id = some t) :
    t.id = id := by
  simpa using List.find?_some h

/-- Among distinct ids a task of the queue is what is found for its id. -/
theorem task?_of_mem {w : WorkflowState} {t : Task} (hn : (w.queue.map (·.id)).Nodup)
    (h : t ∈ w.queue) : w.task? t.id = some t := by
  cases ht : w.task? t.id with
  | none => simpa using List.find?_eq_none.1 ht t h
  | some u =>
    have hid : u.id = t.id := id_of_task? ht
    rw [List.inj_on_of_nodup_map hn (List.mem_of_find?_eq_some ht) h hid]

theorem isPending_iff {w : WorkflowState} {id : String} :
    w.isPending id = true ↔ ∃ t, w.task? id = some t ∧ t.status = .pending := by
  simp [isPending, Option.any_eq_true]

/-- Whether the queue holds this id and its task is not over. -/
def isOpen (w : WorkflowState) (id : String) : Bool :=
  (w.task? id).any fun t => !t.status.isTerminal

theorem isOpen_iff {w : WorkflowState} {id : String} :
    w.isOpen id = true ↔ ∃ t, w.task? id = some t ∧ t.status.isTerminal = false := by
  simp [isOpen, Option.any_eq_true]

theorem isOpen_of_isPending {w : WorkflowState} {id : String} (h : w.isPending id = true) :
    w.isOpen id = true := by
  obtain ⟨t, ht, hs⟩ := isPending_iff.1 h
  exact isOpen_iff.2 ⟨t, ht, by rw [hs]; rfl⟩

/-- A task that is neither pending nor under way is over. -/
theorem not_isOpen_of_not {w : WorkflowState} {id : String} (hp : w.isPending id = false)
    (hway : ¬ (w.task? id).any (fun t => t.status == .inProgress) = true) :
    w.isOpen id = false := by
  rw [isPending] at hp
  rw [isOpen]
  cases ht : w.task? id with
  | none => rfl
  | some t =>
    rw [ht] at hp hway
    cases hs : t.status <;> simp_all [Status.isTerminal]

/-! ### Setting the queue -/

theorem setQueue_eq_ok {w w' : WorkflowState} {ts : List Task} (h : w.setQueue ts = .ok w') :
    w'.queue = ts ∧ w'.completed = w.completed := by
  unfold setQueue at h
  split at h
  · cases h
  · cases h
    exact ⟨rfl, rfl⟩

theorem kept_setQueue {w w' : WorkflowState} {ts : List Task} (h : w.setQueue ts = .ok w') :
    w'.iterations = w.iterations ∧ w'.testStatus = w.testStatus := by
  unfold setQueue at h
  split at h
  · cases h
  · cases h
    exact ⟨rfl, rfl⟩

theorem kept_setArchitecture {w w' : WorkflowState} {a : Architecture}
    (h : w.setArchitecture a = .ok w') :
    w'.iterations = w.iterations ∧ w'.testStatus = w.testStatus := by
  unfold setArchitecture at h
  split at h
  · cases h
  · cases h
    exact ⟨rfl, rfl⟩

/-! ### Starting -/

theorem queue_begin {w w' : WorkflowState} {id : String} {t : Task} (h : w.begin id = some (t, w')) :
    w'.queue = modifyTask id Task.begin w.queue := by
  obtain ⟨u, -, hu⟩ := Option.map_eq_some_iff.1 h
  simp only [Prod.mk.injEq] at hu
  rw [← hu.2, queue_bump]

theorem completed_begin {w w' : WorkflowState} {id : String} {t : Task}
    (h : w.begin id = some (t, w')) : w'.completed = w.completed := by
  obtain ⟨u, -, hu⟩ := Option.map_eq_some_iff.1 h
  simp only [Prod.mk.injEq] at hu
  rw [← hu.2, completed_bump]

theorem task?_begin {w w' : WorkflowState} {id : String} {t : Task} (h : w.begin id = some (t, w'))
    (id' : String) :
    w'.task? id' = (w.task? id').map fun u => if id' = id then u.begin else u := by
  rw [task?, queue_begin h]
  exact find?_modifyTask Task.id_begin w.queue id'

/-! ### Failing -/

@[simp] theorem queue_markFailed (w : WorkflowState) (id reason : String) :
    (w.markFailed id reason).queue = modifyTask id (Task.fail · reason) w.queue := by
  simp [markFailed]

@[simp] theorem completed_markFailed (w : WorkflowState) (id reason : String) :
    (w.markFailed id reason).completed = w.completed := by
  simp [markFailed]

theorem task?_markFailed (w : WorkflowState) (id reason id' : String) :
    (w.markFailed id reason).task? id' =
      (w.task? id').map fun u => if id' = id then u.fail reason else u := by
  rw [task?, queue_markFailed]
  exact find?_modifyTask (Task.id_fail · reason) w.queue id'

/-! ### Completing -/

@[simp] theorem queue_mergeCompleted_single (w : WorkflowState) (t : Task) :
    (w.mergeCompleted (.single t)).queue = modifyTask t.id Task.complete w.queue := by
  simp [mergeCompleted, CompletedTasks.single, CompletedTasks.insert, CompletedTasks.contains,
    CompletedTasks.empty]

@[simp] theorem completed_mergeCompleted_single (w : WorkflowState) (t : Task) :
    (w.mergeCompleted (.single t)).completed = (w.completed.insert t).1 := by
  simp [mergeCompleted, CompletedTasks.single, CompletedTasks.insert, CompletedTasks.contains,
    CompletedTasks.empty, CompletedTasks.merge, CompletedTasks.insertAll]

theorem task?_mergeCompleted_single (w : WorkflowState) (t : Task) (id' : String) :
    (w.mergeCompleted (.single t)).task? id' =
      (w.task? id').map fun u => if id' = t.id then u.complete else u := by
  rw [task?, queue_mergeCompleted_single]
  exact find?_modifyTask Task.id_complete w.queue id'

end WorkflowState

/-! ## Completed tasks -/

theorem CompletedTasks.contains_insert {s : CompletedTasks} {t : Task} {id : String} :
    (s.insert t).1.contains id = true ↔ s.contains id = true ∨ id = t.id := by
  unfold CompletedTasks.insert
  by_cases h : s.contains t.id
  · rw [if_pos h]
    constructor
    · exact Or.inl
    · rintro (hid | rfl)
      · exact hid
      · exact h
  · rw [if_neg h]
    simp [CompletedTasks.contains]

end BuildLoop
