import Mathlib.Data.List.Perm.Basic
import BuildLoop.Proofs.Workflow.Tasks

/-!
# States that differ in the order of what is completed

Two states are alike if they have the same queue and the same current task, and completed tasks that
are the same in some order. Completing and failing a task are both a way to settle it. Settling keeps
states alike, and two tasks may be settled in either order:

    Alike w w'   →   Alike (w.settle i f a) (w'.settle i f a)                        (Alike.settle)
    i ≠ j        →   Alike ((w.settle i f a).settle j g b) ((w.settle j g b).settle i f a)
                                                                                 (alike_settle_settle)
-/

namespace BuildLoop

/-- Changes of different tasks may change places. -/
theorem modifyTask_comm {i j : String} {f g : Task → Task} (hf : ∀ t, (f t).id = t.id)
    (hg : ∀ t, (g t).id = t.id) (h : i ≠ j) (q : List Task) :
    modifyTask i f (modifyTask j g q) = modifyTask j g (modifyTask i f q) := by
  induction q with
  | nil => rfl
  | cons t r ih =>
    by_cases hi : t.id = i
    · have hj : t.id ≠ j := fun hj => h (hi.symm.trans hj)
      have hfj : (f t).id ≠ j := by rw [hf]; exact hj
      simp only [modifyTask, if_pos hi, if_neg hj, if_neg hfj]
    · by_cases hj : t.id = j
      · have hgi : (g t).id ≠ i := by rw [hg]; exact hi
        simp only [modifyTask, if_pos hj, if_neg hi, if_neg hgi]
      · simp only [modifyTask, if_neg hi, if_neg hj, ih]

/-! ## Completed tasks in some order -/

namespace CompletedTasks

/-- Whether two sets hold the same tasks in some order. -/
structure Same (s s' : CompletedTasks) : Prop where
  tasks : s.tasks.Perm s'.tasks
  ids : s.ids.Perm s'.ids

variable {s s' s'' : CompletedTasks}

theorem Same.refl (s : CompletedTasks) : Same s s := ⟨.refl _, .refl _⟩

theorem Same.trans (h : Same s s') (h' : Same s' s'') : Same s s'' :=
  ⟨h.tasks.trans h'.tasks, h.ids.trans h'.ids⟩

theorem Same.contains (h : Same s s') (id : String) : s.contains id = s'.contains id :=
  h.ids.contains_eq

theorem Same.insert (h : Same s s') (t : Task) : Same (s.insert t).1 (s'.insert t).1 := by
  unfold CompletedTasks.insert
  rw [h.contains]
  split
  · exact h
  · exact ⟨h.tasks.append_right [t], h.ids.append_right [t.id]⟩

/-- Tasks with different ids may be added in either order. -/
theorem same_insert_insert (s : CompletedTasks) {t u : Task} (h : t.id ≠ u.id) :
    Same ((s.insert t).1.insert u).1 ((s.insert u).1.insert t).1 := by
  have hne : ¬ u.id = t.id := fun he => h he.symm
  unfold CompletedTasks.insert CompletedTasks.contains
  by_cases ht : t.id ∈ s.ids <;> by_cases hu : u.id ∈ s.ids <;> simp [ht, hu, h, hne, Same.refl]
  exact ⟨(List.Perm.swap u t []).append_left s.tasks, (List.Perm.swap u.id t.id []).append_left s.ids⟩

end CompletedTasks

namespace WorkflowState

/-! ## Settling a task -/

/-- A state in which a task is brought to its end by `f`, with `add` applied to what is completed. -/
def settle (w : WorkflowState) (id : String) (f : Task → Task)
    (add : CompletedTasks → CompletedTasks) : WorkflowState :=
  { w with queue := modifyTask id f w.queue, completed := add w.completed }.clearCurrent.bump

theorem markFailed_eq_settle (w : WorkflowState) (id reason : String) :
    w.markFailed id reason = w.settle id (Task.fail · reason) fun s => s := rfl

theorem mergeCompleted_single_eq_settle (w : WorkflowState) (t : Task) :
    w.mergeCompleted (.single t) = w.settle t.id Task.complete fun s => (s.insert t).1 := by
  simp [mergeCompleted, settle, CompletedTasks.single, CompletedTasks.insert,
    CompletedTasks.contains, CompletedTasks.empty, CompletedTasks.merge, CompletedTasks.insertAll]

section
variable (w : WorkflowState) (id : String) (f : Task → Task)
  (add : CompletedTasks → CompletedTasks)

@[simp] theorem queue_settle : (w.settle id f add).queue = modifyTask id f w.queue := by
  simp [settle]

@[simp] theorem completed_settle : (w.settle id f add).completed = add w.completed := by
  simp [settle]

/-- Whether the queue has nothing left to do for an id. -/
def isOver (q : List Task) (id : String) : Bool :=
  ((q.find? (·.id == id)).map (·.status.isTerminal)).getD true

theorem current_clearCurrent :
    w.clearCurrent.current = w.current.filter fun c => !isOver w.queue c.id := by
  unfold clearCurrent
  cases hc : w.current with
  | none => simp [hc]
  | some c =>
    rw [Option.filter_some]
    cases ho : isOver w.queue c.id with
    | true =>
      have hover : ((w.task? c.id).map (·.status.isTerminal)).getD true = true := ho
      simp [hover]
    | false =>
      have hover : ((w.task? c.id).map (·.status.isTerminal)).getD true = false := ho
      simp [hover, hc]

/-- The current task is forgotten if the queue has nothing left to do for it. -/
@[simp] theorem current_settle : (w.settle id f add).current =
    w.current.filter fun c => !isOver (modifyTask id f w.queue) c.id := by
  unfold settle
  rw [show ∀ v : WorkflowState, v.bump.current = v.current from fun _ => rfl, current_clearCurrent]

end

/-- What is over stays so when a task is brought to its end. -/
theorem isOver_modifyTask {q : List Task} {i id : String} {f : Task → Task}
    (hf : ∀ t, (f t).id = t.id) (hend : ∀ t, (f t).status.isTerminal = true)
    (h : isOver q id = true) : isOver (modifyTask i f q) id = true := by
  unfold isOver at *
  rw [find?_modifyTask hf]
  cases hq : q.find? (·.id == id) with
  | none => rfl
  | some t =>
    rw [hq] at h
    by_cases hid : id = i
    · simp [hid, hend]
    · simpa [hid] using h

/-! ## Alike states -/

/-- Whether two states have the same queue and current task, and the same completed tasks in some
order. -/
structure Alike (w w' : WorkflowState) : Prop where
  queue : w.queue = w'.queue
  current : w.current = w'.current
  completed : w.completed.Same w'.completed

namespace Alike

variable {w w' w'' : WorkflowState}

theorem refl (w : WorkflowState) : Alike w w := ⟨rfl, rfl, .refl _⟩

theorem trans (h : Alike w w') (h' : Alike w' w'') : Alike w w'' :=
  ⟨h.queue.trans h'.queue, h.current.trans h'.current, h.completed.trans h'.completed⟩

theorem task? (h : Alike w w') (id : String) : w.task? id = w'.task? id := by
  unfold WorkflowState.task?
  rw [h.queue]

theorem isPending (h : Alike w w') (id : String) : w.isPending id = w'.isPending id := by
  unfold WorkflowState.isPending
  rw [h.task?]

/-- Starting a task answers the same task in alike states, and leaves them alike. -/
theorem begin (h : Alike w w') {id : String} {t : Task} {v : WorkflowState}
    (hb : w.begin id = some (t, v)) : ∃ v', w'.begin id = some (t, v') ∧ Alike v v' := by
  obtain ⟨u, hu, he⟩ := Option.map_eq_some_iff.1 hb
  cases he
  have hu' : w'.task? id = some u := (h.task? id).symm.trans hu
  refine ⟨bump { w' with queue := modifyTask id Task.begin w'.queue, current := some u.begin }, ?_,
    congrArg (modifyTask id Task.begin) h.queue, rfl, h.completed⟩
  unfold WorkflowState.begin
  rw [hu']
  rfl

theorem settle (h : Alike w w') (id : String) (f : Task → Task)
    {add : CompletedTasks → CompletedTasks}
    (hadd : ∀ {s s' : CompletedTasks}, s.Same s' → (add s).Same (add s')) :
    Alike (w.settle id f add) (w'.settle id f add) where
  queue := by rw [queue_settle, queue_settle, h.queue]
  current := by rw [current_settle, current_settle, h.queue, h.current]
  completed := by
    rw [completed_settle, completed_settle]
    exact hadd h.completed

theorem markFailed (h : Alike w w') (id reason : String) :
    Alike (w.markFailed id reason) (w'.markFailed id reason) := h.settle id _ fun hs => hs

theorem mergeCompleted_single (h : Alike w w') (t : Task) :
    Alike (w.mergeCompleted (.single t)) (w'.mergeCompleted (.single t)) := by
  rw [mergeCompleted_single_eq_settle, mergeCompleted_single_eq_settle]
  exact h.settle t.id _ fun hs => hs.insert t

end Alike

/-- Two tasks may be settled in either order. -/
theorem alike_settle_settle (w : WorkflowState) {i j : String} {f g : Task → Task}
    {add add' : CompletedTasks → CompletedTasks} (h : i ≠ j) (hf : ∀ t, (f t).id = t.id)
    (hg : ∀ t, (g t).id = t.id) (hfend : ∀ t, (f t).status.isTerminal = true)
    (hgend : ∀ t, (g t).status.isTerminal = true)
    (hadd : (add' (add w.completed)).Same (add (add' w.completed))) :
    Alike ((w.settle i f add).settle j g add') ((w.settle j g add').settle i f add) := by
  have hqueue := modifyTask_comm hg hf h.symm w.queue
  -- what of the current task is left after both is what the last queue leaves of it
  have hlast : ∀ {q : List Task} {k : String} {e : Task → Task}, (∀ t, (e t).id = t.id) →
      (∀ t, (e t).status.isTerminal = true) →
      (w.current.filter fun c => !isOver q c.id).filter (fun c => !isOver (modifyTask k e q) c.id) =
        w.current.filter fun c => !isOver (modifyTask k e q) c.id := by
    intro q k e he hend
    rw [Option.filter_filter]
    refine congrArg (Option.filter · w.current) (funext fun c => ?_)
    cases ho : isOver q c.id with
    | true => simp [isOver_modifyTask he hend ho]
    | false => simp
  refine ⟨?_, ?_, ?_⟩
  · simp only [queue_settle, hqueue]
  · simp only [current_settle, queue_settle]
    rw [hlast hg hgend, hlast hf hfend, hqueue]
  · simpa only [completed_settle] using hadd

end WorkflowState

end BuildLoop
