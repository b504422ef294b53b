import BuildLoop.Proofs.Workflow.Tasks
import BuildLoop.Run.Dispatch

/-!
# The frontier of a batch

What is ready is pending with all dependencies completed and none failed; what is blocked is pending
with a failed dependency. Both keep the order of the ids they are taken from. Files matter only where
two tasks that could start are on one file:

    (frontier w ids).blocked = ids.filterMap (blockage? w)                            (blocked_eq)
    (frontier w ids).ready = ids.filter (isReady w)         if files differ      (ready_eq_filter)
-/

namespace BuildLoop.Dispatch

/-- Whether the queue holds a pending task for an id that no dependency keeps from starting. -/
def isReady (w : WorkflowState) (id : String) : Bool :=
  (w.task? id).any fun t =>
    t.status == .pending && (failedDependency? w t).isNone && isUnblocked w t

theorem isReady_iff {w : WorkflowState} {id : String} :
    isReady w id = true ↔ ∃ t, w.task? id = some t ∧ t.status = .pending ∧
      failedDependency? w t = none ∧ isUnblocked w t = true := by
  simp [isReady, Option.any_eq_true, and_assoc]

/-- The id of a pending task with a failed dependency, and the reason for which it is to fail. -/
def blockage? (w : WorkflowState) (id : String) : Option (String × String) :=
  (w.task? id).bind fun t =>
    if t.status = .pending then
      (failedDependency? w t).map fun d => (id, "dependency " ++ d ++ " failed")
    else none

theorem of_blockage? {w : WorkflowState} {id : String} {p : String × String}
    (h : blockage? w id = some p) :
    p.1 = id ∧ ∃ t d, w.task? id = some t ∧ t.status = .pending ∧ failedDependency? w t = some d := by
  obtain ⟨t, ht, hp⟩ := Option.bind_eq_some_iff.1 h
  by_cases hs : t.status = .pending
  · rw [if_pos hs] at hp
    obtain ⟨d, hd, rfl⟩ := Option.map_eq_some_iff.1 hp
    exact ⟨rfl, t, d, ht, hs, hd⟩
  · rw [if_neg hs] at hp
    cases hp

/-- The file that the task of an id names first. -/
def fileOf? (w : WorkflowState) (id : String) : Option String :=
  (w.task? id).bind Task.primaryFile?

section
variable (w : WorkflowState) (claimed : List String) (id : String) (r ids : List String)

/-! ## Steps -/

theorem ready_cons : (frontierFrom w claimed (id :: r)).ready =
    if isReady w id then
      match fileOf? w id with
      | none => id :: (frontierFrom w claimed r).ready
      | some file =>
        if claimed.contains file then (frontierFrom w claimed r).ready
        else id :: (frontierFrom w (file :: claimed) r).ready
    else (frontierFrom w claimed r).ready := by
  rw [frontierFrom, isReady, fileOf?]
  cases w.task? id with
  | none => rfl
  | some t =>
    simp only [Option.any_some, Option.bind_some]
    by_cases hs : t.status = .pending
    · cases hf : failedDependency? w t with
      | some d => simp [hs, Frontier.addBlocked]
      | none =>
        cases hu : isUnblocked w t with
        | false => simp [hs]
        | true =>
          cases t.primaryFile? with
          | none => simp [hs, Frontier.addReady]
          | some file => by_cases hc : file ∈ claimed <;> simp [hs, hc, Frontier.addReady]
    · simp [hs]

/-- What is blocked does not depend on files. -/
theorem blocked_eq : (frontierFrom w claimed ids).blocked = ids.filterMap (blockage? w) := by
  induction ids generalizing claimed with
  | nil => rfl
  | cons id r ih =>
    rw [frontierFrom, List.filterMap_cons, blockage?]
    cases w.task? id with
    | none => exact ih claimed
    | some t =>
      simp only [Option.bind_some]
      by_cases hs : t.status = .pending
      · cases hf : failedDependency? w t with
        | some d => simp [hs, Frontier.addBlocked, ih]
        | none =>
          cases hu : isUnblocked w t with
          | false => simp [hs, ih]
          | true =>
            cases t.primaryFile? with
            | none => simp [hs, Frontier.addReady, ih]
            | some file => by_cases hc : file ∈ claimed <;> simp [hs, hc, Frontier.addReady, ih]
      · simp [hs, ih]

/-! ## What is in a frontier -/

theorem sublist_ready : (frontierFrom w claimed ids).ready.Sublist ids := by
  induction ids generalizing claimed with
  | nil => exact List.Sublist.slnil
  | cons id r ih =>
    rw [ready_cons]
    split
    · split
      · exact (ih claimed).cons_cons id
      · split
        · exact (ih claimed).cons id
        · exact (ih _).cons_cons id
    · exact (ih claimed).cons id

theorem sublist_blocked : ((frontierFrom w claimed ids).blocked.map (·.1)).Sublist ids := by
  rw [blocked_eq]
  induction ids with
  | nil => exact List.Sublist.slnil
  | cons id r ih =>
    rw [List.filterMap_cons]
    cases h : blockage? w id with
    | none => exact ih.cons id
    | some p =>
      rw [List.map_cons, (of_blockage? h).1]
      exact ih.cons_cons id

variable {w claimed id ids}

theorem isReady_of_mem_ready (h : id ∈ (frontierFrom w claimed ids).ready) :
    isReady w id = true := by
  induction ids generalizing claimed with
  | nil => cases h
  | cons i r ih =>
    rw [ready_cons] at h
    by_cases hi : isReady w i = true
    · rw [if_pos hi] at h
      split at h
      · rcases List.mem_cons.1 h with rfl | h
        · exact hi
        · exact ih h
      · split at h
        · exact ih h
        · rcases List.mem_cons.1 h with rfl | h
          · exact hi
          · exact ih h
    · rw [if_neg hi] at h
      exact ih h

theorem of_mem_blocked {p : String × String} (h : p ∈ (frontierFrom w claimed ids).blocked) :
    ∃ t d, w.task? p.1 = some t ∧ t.status = .pending ∧ failedDependency? w t = some d := by
  rw [blocked_eq] at h
  obtain ⟨id, -, hp⟩ := List.mem_filterMap.1 h
  obtain ⟨hid, ht⟩ := of_blockage? hp
  rw [hid]
  exact ht

/-- Where no two tasks that could start are on one file, none of them is kept for a later wave. -/
theorem ready_eq_filter
    (hclaimed : ∀ id ∈ ids, isReady w id = true → ∀ file ∈ claimed, fileOf? w id ≠ some file)
    (hpair : ids.Pairwise fun a b => isReady w a = true → isReady w b = true →
      ∀ file, fileOf? w a = some file → fileOf? w b ≠ some file) :
    (frontierFrom w claimed ids).ready = ids.filter (isReady w) := by
  induction ids generalizing claimed with
  | nil => rfl
  | cons id r ih =>
    obtain ⟨hhead, htail⟩ := List.pairwise_cons.1 hpair
    have hrest := fun i hi => hclaimed i (List.mem_cons_of_mem id hi)
    rw [ready_cons, List.filter_cons]
    by_cases hid : isReady w id = true
    · rw [if_pos hid, if_pos hid]
      cases hfile : fileOf? w id with
      | none => exact congrArg (id :: ·) (ih hrest htail)
      | some file =>
        have hnew : file ∉ claimed := fun hmem => hclaimed id List.mem_cons_self hid file hmem hfile
        simp only [List.contains_iff_mem, if_neg hnew]
        refine congrArg (id :: ·) (ih (fun i hi hready f hmem => ?_) htail)
        rcases List.mem_cons.1 hmem with rfl | hmem
        · exact hhead i hi hid hready f hfile
        · exact hrest i hi hready f hmem
    · rw [if_neg hid, if_neg hid]
      exact ih hrest htail

end

section
variable {w : WorkflowState} {ids : List String} (hn : ids.Nodup)
include hn

/-- No task is both ready and blocked. -/
theorem nodup_frontier :
    ((frontier w ids).blocked.map (·.1) ++ (frontier w ids).ready).Nodup := by
  refine List.nodup_append.2 ⟨(sublist_blocked w [] ids).nodup hn, (sublist_ready w [] ids).nodup hn,
    fun a ha b hb hab => ?_⟩
  subst hab
  obtain ⟨p, hp, rfl⟩ := List.mem_map.1 ha
  obtain ⟨t, d, ht, -, hf⟩ := of_mem_blocked hp
  obtain ⟨u, hu, -, hnone, -⟩ := isReady_iff.1 (isReady_of_mem_ready hb)
  have htu : t = u := Option.some.inj (ht.symm.trans hu)
  rw [htu, hnone] at hf
  cases hf

end

end BuildLoop.Dispatch
