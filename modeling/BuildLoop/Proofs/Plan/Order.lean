import BuildLoop.Proofs.Plan.Approval
import BuildLoop.Proofs.Plan.Queue

/-!
# Two checks of one order

A plan is checked twice: its planner walks along the tasks and remembers the ids it has seen, validation
looks up at which place each id is. Among distinct ids both ask the same of a dependency, that it is the
id of an earlier task, and validation says so in words that no other reason has:

    AgainstDependency r   →   r opens like a reason against a task and ends like no other
                                                                              (ends_of_againstDependency)
    checkOrder a ts = ok   ↔   ts ≠ [] and no reason of validate ts is against a dependency
                                                                                    (checkOrder_iff_reasons)
-/

namespace BuildLoop.Plan

/-- Whether a reason says of a dependency that its task is unknown or is not scheduled earlier. -/
def AgainstDependency (reason : String) : Prop := ∃ id dep : String,
  reason = "task " ++ id ++ " depends on unknown task '" ++ dep ++ "'" ∨
    reason = "task " ++ id ++ " depends on '" ++ dep ++ "', which is not scheduled before it"

/-! ## How reasons end -/

section
variable {r s : String} {c : Char}

theorem getLast?_append {s t : String} (h : t.toList.getLast? = some c) : (s ++ t).toList.getLast? = some c := by
  rw [String.toList_append, List.getLast?_append, h, Option.some_or]

theorem ends_of_againstDependency (h : AgainstDependency r) : r.toList.head? = some 't' ∧
    (r.toList.getLast? = some '\x27' ∨ r.toList.getLast? = some 't') := by
  have hhead : ∀ s : String, ("task " ++ s).toList.head? = some 't' := fun s => by
    rw [String.toList_append]
    rfl
  obtain ⟨id, dep, rfl | rfl⟩ := h
  · refine ⟨?_, .inl (getLast?_append rfl)⟩
    simp only [String.append_assoc, hhead]
  · refine ⟨?_, .inr (getLast?_append rfl)⟩
    simp only [String.append_assoc, hhead]

/-- A reason that ends in another way is not against a dependency. -/
theorem not_againstDependency (h : r.toList.getLast? = some c) (hquote : c ≠ '\x27') (ht : c ≠ 't') :
    ¬ AgainstDependency r := by
  intro hr
  rcases (ends_of_againstDependency hr).2 with hlast | hlast
  · exact hquote (Option.some.inj (h.symm.trans hlast))
  · exact ht (Option.some.inj (h.symm.trans hlast))

end

/-! ## Reasons of each kind -/

section
variable {ts : List Task} {t : Task} {r : String}

theorem not_againstDependency_own {before : List String} {index : Nat} (h : r ∈ ownReasons before index ts) :
    ¬ AgainstDependency r := by
  induction ts generalizing before index with
  | nil => cases h
  | cons t ts ih =>
    rcases List.mem_append.1 h with h | h
    · simp only [taskReasons, List.mem_append, List.mem_ite_nil_right, List.mem_singleton] at h
      rcases h with ((⟨-, rfl⟩ | ⟨-, rfl⟩) | ⟨-, rfl⟩) | ⟨-, rfl⟩
      · exact not_againstDependency (getLast?_append rfl) (by decide) (by decide)
      · exact not_againstDependency (getLast?_append rfl) (by decide) (by decide)
      · exact not_againstDependency (getLast?_append rfl) (by decide) (by decide)
      · -- a duplicate is the one reason that ends in a quote as well
        intro hr
        have hhead := (ends_of_againstDependency hr).1
        rw [String.append_assoc, String.toList_append] at hhead
        cases hhead
    · exact ih h

theorem not_againstDependency_role (h : roleReason? t = some r) : ¬ AgainstDependency r := by
  unfold roleReason? at h
  simp only [Option.bind_eq_bind, Option.bind_eq_some_iff] at h
  obtain ⟨file, -, expected, -, h⟩ := h
  split at h
  · cases h
  · cases h
    cases expected <;> exact not_againstDependency (getLast?_append rfl) (by decide) (by decide)

theorem not_againstDependency_phase {last : Option (Phase × String)} (h : r ∈ phaseReasons last ts) :
    ¬ AgainstDependency r := by
  induction ts generalizing last with
  | nil => cases h
  | cons t ts ih =>
    rw [phaseReasons] at h
    split at h
    · exact ih h
    split at h
    · exact ih h
    · rcases List.mem_append.1 h with h | h
      · split at h
        · split at h
          · obtain rfl := List.mem_singleton.1 h
            exact not_againstDependency (getLast?_append rfl) (by decide) (by decide)
          · cases h
        · cases h
      · exact ih h

theorem not_againstDependency_shared (h : r ∈ sharedReasons ts) : ¬ AgainstDependency r := by
  obtain ⟨file, -, h⟩ := List.mem_flatMap.1 h
  obtain ⟨p, -, h⟩ := List.mem_filterMap.1 h
  split at h
  · cases h
  · cases h
    exact not_againstDependency (getLast?_append rfl) (by decide) (by decide)

theorem againstDependency_of_dependencyReason? {index : Nat} {dep : String}
    (h : dependencyReason? ts index t dep = some r) : AgainstDependency r := by
  unfold dependencyReason? at h
  split at h
  · exact ⟨t.id, dep, .inl (Option.some.inj h).symm⟩
  · split at h
    · exact ⟨t.id, dep, .inr (Option.some.inj h).symm⟩
    · cases h

/-- Validation gives no reason against a dependency exactly if there is none to give. -/
theorem forall_reasons_iff : (∀ r ∈ reasons ts, ¬ AgainstDependency r) ↔
    ∀ (i : Nat) t, ts[i]? = some t → ∀ d ∈ t.dependencies, dependencyReason? ts i t d = none := by
  constructor
  · intro h i t ht d hd
    cases hr : dependencyReason? ts i t d with
    | none => rfl
    | some r =>
      have hlink : r ∈ ts.zipIdx.flatMap fun p => linkReasons ts p.2 p.1 :=
        List.mem_flatMap.2 ⟨(t, i), List.mem_zipIdx_iff_getElem?.2 ht,
          List.mem_append_left _ (List.mem_filterMap.2 ⟨d, hd, hr⟩)⟩
      have hmem : r ∈ reasons ts := by
        simp only [reasons, List.mem_append]
        exact .inl (.inl (.inr hlink))
      exact absurd (againstDependency_of_dependencyReason? hr) (h r hmem)
  · intro h r hr
    simp only [reasons, List.mem_append] at hr
    rcases hr with ((hown | hlink) | hphase) | hshared
    · exact not_againstDependency_own hown
    · obtain ⟨⟨t, i⟩, hp, hr⟩ := List.mem_flatMap.1 hlink
      rcases List.mem_append.1 hr with hr | hr
      · obtain ⟨d, hd, hr⟩ := List.mem_filterMap.1 hr
        rw [h i t (List.mem_zipIdx_iff_getElem?.1 hp) d hd] at hr
        cases hr
      · exact not_againstDependency_role (Option.mem_toList.1 hr)
    · exact not_againstDependency_phase hphase
    · exact not_againstDependency_shared hshared

end

/-! ## The two checks -/

theorem reasons_validate {ts : List Task} (h : ts ≠ []) : (validate ts).reasons = reasons ts := by
  rw [validate, if_neg (by simpa using h), verdict]
  split
  · next hnil => exact (List.isEmpty_iff.1 hnil).symm
  · rfl

/-- Where there is a backend, the planner's check passes the plans against whose dependencies validation
has no reason, and so every plan that validation approves. -/
theorem checkOrder_iff_reasons {a : Architecture} (hbackend : a.hasBackend = true) :
    (∀ ts : List Task, (ts.map (·.id)).Nodup →
      (checkOrder a ts = .ok () ↔ ts ≠ [] ∧ ∀ r ∈ (validate ts).reasons, ¬ AgainstDependency r)) ∧
    ∀ ts : List Task, (validate ts).isApproved = true → checkOrder a ts = .ok () := by
  have hcheck : ∀ ts : List Task, (ts.map (·.id)).Nodup →
      (checkOrder a ts = .ok () ↔ ts ≠ [] ∧ ∀ r ∈ (validate ts).reasons, ¬ AgainstDependency r) := by
    intro ts hdistinct
    rw [checkOrder_eq_ok]
    refine and_congr_right fun hne => ?_
    rw [reasons_validate hne, forall_reasons_iff]
    simp only [dependencyReason?_eq_none hdistinct, Earlier, List.not_mem_nil, false_or, hbackend, implies_true,
      and_true]
  refine ⟨hcheck, fun ts happroved => ?_⟩
  cases hverdict : validate ts with
  | rejected rs =>
    rw [hverdict] at happroved
    cases happroved
  | approved s =>
    obtain ⟨happrovable, -⟩ := validate_eq_approved.1 hverdict
    refine (hcheck ts happrovable.distinct).2 ⟨happrovable.nonempty, ?_⟩
    rw [hverdict]
    exact fun r hr => absurd hr List.not_mem_nil

/-- An architecture with a server. -/
def notesServer : Architecture where
  stack := ⟨"Flask", "none", "none", []⟩
  overview := "Keeps notes."
  files := ⟨[⟨"main.py", "Server"⟩], [], []⟩
  dependencies := ⟨[], []⟩
  endpoints := []
  dataFlow := "The server keeps the notes."
  instructions := ""

/-- Two tasks in order. -/
def orderedTasks : List Task := [
  .new "a" "Create models.py" .backend,
  { Task.new "b" "Create main.py" .backend with dependencies := ["a"] }]

theorem approvable_orderedTasks : Approvable orderedTasks := by
  have hown : ownReasons [] 0 orderedTasks = [] := by decide +kernel
  have hlink : orderedTasks.zipIdx.flatMap (fun p => linkReasons orderedTasks p.2 p.1) = [] := by decide +kernel
  have hphase : phaseReasons none orderedTasks = [] := by decide +kernel
  obtain ⟨hsound, hdistinct, -⟩ := ownReasons_eq_nil.1 hown
  obtain ⟨hearlier, howned⟩ := (linkReasons_eq_nil hdistinct).1 hlink
  have hfiles : orderedTasks[0].primaryFile? ≠ orderedTasks[1].primaryFile? := by decide +kernel
  refine ⟨by decide, hsound, hdistinct, hearlier, howned, phaseReasons_eq_nil_iff.1 hphase, ?_⟩
  refine .cons (fun u hu file hfile hfile' => ?_) (List.pairwise_singleton _ _)
  obtain rfl := List.mem_singleton.1 hu
  exact absurd (hfile.trans hfile'.symm) hfiles

/-- A task on a later one, and one on itself. -/
def tangledTasks : List Task := [
  { Task.new "a" "Create models.py" .backend with dependencies := ["b"] },
  { Task.new "b" "Create main.py" .backend with dependencies := ["b"] }]

theorem checkOrder_iff_reasons_tangled : notesServer.hasBackend = true ∧
    ((validate orderedTasks).isApproved = true ∧ checkOrder notesServer orderedTasks = .ok ()) ∧
    (tangledTasks.map (·.id)).Nodup ∧ ∃ r ∈ (validate tangledTasks).reasons, AgainstDependency r := by
  have hbackend : notesServer.hasBackend = true := by decide +kernel
  have happroved : (validate orderedTasks).isApproved = true := by
    rw [validate_eq_approved.2 ⟨approvable_orderedTasks, rfl⟩]
    rfl
  obtain ⟨hreasons, hpasses⟩ := checkOrder_iff_reasons hbackend
  refine ⟨hbackend, ⟨happroved, hpasses orderedTasks happroved⟩, by decide, ?_⟩
  by_contra hnone
  have hcheck : checkOrder notesServer tangledTasks = .ok () := by
    refine (hreasons tangledTasks (by decide)).2 ⟨List.cons_ne_nil _ _, fun r hr hagainst => ?_⟩
    exact hnone ⟨r, hr, hagainst⟩
  cases hcheck

end BuildLoop.Plan
