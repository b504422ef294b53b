import Mathlib.Data.List.Forall2
import Mathlib.Data.List.Perm.Basic
import BuildLoop.Proofs.Workflow.Tasks

/-!
# How a queue grows

A task goes on along a few ways: from pending to under way, and from there to completed or failed, or
straight from pending to failed. A queue goes on if each of its tasks does and new ones come at its
end. A state is sound if its ids are distinct and what it counts as completed is what its queue says
is completed:

    Forall₂ Onward q (modifyTask id f q)           if what id names goes on to its f    (onward_modifyTask)
    w.Sound   →   (w.mergeCompleted (.single t)).Sound     if t was not completed before   (Sound.complete)
    w.Sound   →   w.completed.size + w.failedTasks.length = w.queue.length
                                                           if every task is over    (Sound.size_add_failed)
-/

namespace BuildLoop

/-! ## Tasks -/

/-- Where a task may stand next. -/
inductive Status.Next : Status → Status → Prop
  | start : Next .pending .inProgress
  | drop : Next .pending .failed
  | complete : Next .inProgress .completed
  | fail : Next .inProgress .failed

theorem Status.Next.not_terminal {s s' : Status} (h : Next s s') : s.isTerminal = false := by
  cases h <;> rfl

theorem Status.Next.fail_of_open {s : Status} (h : s.isTerminal = false) : Next s .failed := by
  cases s with
  | pending => exact .drop
  | inProgress => exact .fail
  | completed | failed => cases h

/-- The piece of work that a task is, wherever it stands and for whatever it failed. -/
def Task.work (t : Task) : Task := { t with status := .pending, failure := none }

/-- How a task goes on in one step: it stays as it is, or only its status moves. -/
inductive Task.Onward : Task → Task → Prop
  | same (t : Task) : Onward t t
  | moved {t : Task} {s : Status} (failure : Option String) (h : t.status.Next s) :
      Onward t { t with status := s, failure := failure }

namespace Task.Onward

variable {t u : Task}

theorem work (h : Onward t u) : u.work = t.work := by
  cases h <;> rfl

/-- A task that is over stays as it is. -/
theorem eq_of_terminal (h : Onward t u) (ht : t.status.isTerminal = true) : u = t := by
  cases h with
  | same => rfl
  | moved _ hnext =>
    rw [hnext.not_terminal] at ht
    cases ht

end Task.Onward

/-! ## Queues -/

theorem map_work_of_onward {q q' : List Task} (h : List.Forall₂ Task.Onward q q') :
    q'.map Task.work = q.map Task.work := by
  induction h with
  | nil => rfl
  | cons ht _ ih => rw [List.map_cons, List.map_cons, ht.work, ih]

/-- How a queue goes on in one step: its tasks go on in their places, and new ones come at its end. -/
def QueueOnward (q q' : List Task) : Prop :=
  ∃ old added, q' = old ++ added ∧ List.Forall₂ Task.Onward q old

theorem QueueOnward.refl (q : List Task) : QueueOnward q q :=
  ⟨q, [], (List.append_nil q).symm, List.forall₂_same.2 fun t _ => .same t⟩

theorem QueueOnward.append (q added : List Task) : QueueOnward q (q ++ added) :=
  ⟨q, added, rfl, List.forall₂_same.2 fun t _ => .same t⟩

/-- A queue that goes on without growing has the same tasks in the same places. -/
theorem QueueOnward.forall₂ {q q' : List Task} (h : QueueOnward q q') (hlen : q'.length = q.length) :
    List.Forall₂ Task.Onward q q' := by
  obtain ⟨old, added, rfl, hold⟩ := h
  rw [List.length_append, hold.length_eq] at hlen
  obtain rfl := List.length_eq_zero_iff.1 (Nat.add_eq_left.1 hlen)
  rw [List.append_nil]
  exact hold

/-- A task of a queue that goes on stays in its place. -/
theorem QueueOnward.getElem? {q q' : List Task} (h : QueueOnward q q') {i : Nat} {t : Task}
    (ht : q[i]? = some t) : ∃ u, q'[i]? = some u ∧ t.Onward u := by
  obtain ⟨old, added, rfl, hold⟩ := h
  obtain ⟨hi, rfl⟩ := List.getElem?_eq_some_iff.1 ht
  have hi' : i < old.length := hold.length_eq ▸ hi
  refine ⟨old[i], ?_, hold.get hi hi'⟩
  rw [List.getElem?_append_left hi', List.getElem?_eq_getElem hi']

section
variable {id : String} {f : Task → Task} {q : List Task}

theorem onward_modifyTask (h : ∀ t, q.find? (·.id == id) = some t → t.Onward (f t)) :
    List.Forall₂ Task.Onward q (modifyTask id f q) := by
  induction q with
  | nil => exact .nil
  | cons t r ih =>
    unfold modifyTask
    by_cases ht : t.id = id
    · rw [if_pos ht]
      exact .cons (h t (by simp [ht])) (List.forall₂_same.2 fun u _ => .same u)
    · rw [if_neg ht]
      have hne : (t.id == id) = false := by simpa using ht
      refine .cons (.same t) (ih fun u hu => h u ?_)
      rw [List.find?_cons, hne]
      exact hu

/-- A change of a task that is left out before and after leaves the rest of the tasks as it is. -/
theorem filter_modifyTask {p : Task → Bool}
    (h : ∀ t, q.find? (·.id == id) = some t → p t = false ∧ p (f t) = false) :
    (modifyTask id f q).filter p = q.filter p := by
  induction q with
  | nil => rfl
  | cons t r ih =>
    unfold modifyTask
    by_cases ht : t.id = id
    · obtain ⟨hbefore, hafter⟩ := h t (by simp [ht])
      rw [if_pos ht, List.filter_cons_of_neg (by simp [hafter]),
        List.filter_cons_of_neg (by simp [hbefore])]
    · have hne : (t.id == id) = false := by simpa using ht
      have hr := ih fun u hu => h u (by rw [List.find?_cons, hne]; exact hu)
      rw [if_neg ht, List.filter_cons, List.filter_cons, hr]

end

/-! ## Sound states -/

namespace WorkflowState

/-- The ids of the tasks of a queue that are completed. -/
def doneIds (q : List Task) : List String := (q.filter (·.status == .completed)).map (·.id)

/-- Completing a task adds its id to those that are completed. -/
theorem perm_doneIds_complete {q : List Task} {id : String} {t : Task}
    (ht : q.find? (·.id == id) = some t) (hs : t.status ≠ .completed) :
    (doneIds (modifyTask id Task.complete q)).Perm (id :: doneIds q) := by
  unfold doneIds
  induction q with
  | nil => simp at ht
  | cons u r ih =>
    unfold modifyTask
    by_cases hu : u.id = id
    · have hfound : u = t := by simpa [hu] using ht
      rw [if_pos hu, List.filter_cons_of_pos (by simp), List.filter_cons_of_neg (by simpa [hfound] using hs)]
      exact .of_eq (by simp [hu])
    · have hne : (u.id == id) = false := by simpa using hu
      have hr := ih (by rwa [List.find?_cons, hne] at ht)
      rw [if_neg hu, List.filter_cons, List.filter_cons]
      split
      · exact (hr.cons u.id).trans (.swap id u.id _)
      · exact hr

/-- Whether the ids of the queue are distinct, and the completed tasks are those that the queue says
are completed. -/
structure Sound (w : WorkflowState) : Prop where
  distinct : (w.queue.map (·.id)).Nodup
  ids : w.completed.tasks.map (·.id) = w.completed.ids
  completed : w.completed.ids.Perm (doneIds w.queue)

variable {w w' : WorkflowState}

theorem sound_new (requirements root : String) : (new requirements root).Sound :=
  ⟨.nil, rfl, .nil⟩

namespace Sound

theorem congr (h : w.Sound) (hq : w'.queue = w.queue) (hc : w'.completed = w.completed) : w'.Sound :=
  ⟨hq ▸ h.distinct, hc ▸ h.ids, hc ▸ hq ▸ h.completed⟩

/-- A change of a task that is not completed, neither before nor after. -/
theorem modify (h : w.Sound) {id : String} {f : Task → Task} (hf : ∀ t, (f t).id = t.id)
    (hs : ∀ t, w.task? id = some t → t.status ≠ .completed ∧ (f t).status ≠ .completed)
    (hq : w'.queue = modifyTask id f w.queue) (hc : w'.completed = w.completed) : w'.Sound where
  distinct := by
    rw [hq, map_id_modifyTask hf]
    exact h.distinct
  ids := hc ▸ h.ids
  completed := by
    have hsame : doneIds (modifyTask id f w.queue) = doneIds w.queue := by
      unfold doneIds
      rw [filter_modifyTask fun t ht => by simpa using hs t ht]
    rw [hq, hc, hsame]
    exact h.completed

/-- A task that is not completed is not among the completed ones. -/
theorem notMem_completed (h : w.Sound) {id : String} {t : Task} (ht : w.task? id = some t)
    (hs : t.status ≠ .completed) : id ∉ w.completed.ids := by
  intro hmem
  obtain ⟨u, hu, rfl⟩ := List.mem_map.1 (h.completed.mem_iff.1 hmem)
  obtain ⟨hu, hdone⟩ := List.mem_filter.1 hu
  have hfound := task?_of_mem h.distinct hu
  rw [ht] at hfound
  cases hfound
  exact hs (by simpa using hdone)

theorem complete (h : w.Sound) {t u : Task} (ht : w.task? t.id = some u) (hs : u.status ≠ .completed) :
    (w.mergeCompleted (.single t)).Sound where
  distinct := by
    rw [queue_mergeCompleted_single, map_id_modifyTask Task.id_complete]
    exact h.distinct
  ids := by
    have hnew : w.completed.contains t.id = false := by
      simpa [CompletedTasks.contains] using h.notMem_completed ht hs
    rw [completed_mergeCompleted_single, CompletedTasks.insert, hnew]
    simp [h.ids]
  completed := by
    have hnew : w.completed.contains t.id = false := by
      simpa [CompletedTasks.contains] using h.notMem_completed ht hs
    rw [completed_mergeCompleted_single, queue_mergeCompleted_single, CompletedTasks.insert, hnew]
    have hadd := (h.completed.cons t.id).trans (perm_doneIds_complete ht hs).symm
    exact (List.perm_append_singleton t.id w.completed.ids).trans hadd

/-- Pending tasks with different ids, in place of no tasks. -/
theorem install (h : w.Sound) {ts : List Task} (hnil : w.queue = []) (hn : (ts.map (·.id)).Nodup)
    (hs : ∀ t ∈ ts, t.status = .pending) (hq : w'.queue = ts) (hc : w'.completed = w.completed) :
    w'.Sound where
  distinct := hq ▸ hn
  ids := hc ▸ h.ids
  completed := by
    have hnone : doneIds ts = [] := by
      unfold doneIds
      rw [List.filter_eq_nil_iff.2 fun t ht => by simp [hs t ht], List.map_nil]
    have hbefore := h.completed
    rw [hnil] at hbefore
    rw [hq, hc, hnone]
    exact hbefore

/-- A pending task with a new id at the end of the queue. -/
theorem append (h : w.Sound) {t : Task} (hid : t.id ∉ w.queue.map (·.id)) (hs : t.status = .pending) :
    (w.append t).Sound where
  distinct := by
    show ((w.queue ++ [t]).map (·.id)).Nodup
    rw [List.map_append, List.nodup_append_comm]
    exact List.nodup_cons.2 ⟨hid, h.distinct⟩
  ids := h.ids
  completed := by
    have hsame : doneIds (w.queue ++ [t]) = doneIds w.queue := by
      simp [doneIds, List.filter_append, hs]
    show w.completed.ids.Perm (doneIds (w.queue ++ [t]))
    rw [hsame]
    exact h.completed

/-- Once every task is over, each is either completed or has failed. -/
theorem size_add_failed (h : w.Sound) (hover : ∀ t ∈ w.queue, t.status.isTerminal = true) :
    w.completed.size + w.failedTasks.length = w.queue.length := by
  have hdone : w.completed.size = (w.queue.filter (·.status == .completed)).length := by
    have hlen := h.completed.length_eq
    rw [← h.ids, doneIds, List.length_map, List.length_map] at hlen
    exact hlen
  have hfailed : w.failedTasks = w.queue.filter fun t => !(t.status == .completed) := by
    refine List.filter_congr fun t ht => ?_
    have ht := hover t ht
    cases hs : t.status <;> simp_all [Status.isTerminal]
  rw [hdone, hfailed]
  exact (List.length_eq_length_filter_add _).symm

end Sound

end WorkflowState

end BuildLoop
