import Mathlib.Algebra.Ring.Nat
import Mathlib.Data.List.Chain
import BuildLoop.Plan.Validation
import BuildLoop.Proofs.Plan.Reach

/-!
# Approved plans

Validation compares neighbours only: a phase with the one before it, a task with the last one on the
same file. Both orders are transitive, so that an approval speaks of every two tasks of a plan:

    validate ts = approved s   ↔   Approvable ts ∧ s = summary ts             (validate_eq_approved)
    the phases of summary ts add up to ts.length                                        (sum_phases)
-/

namespace BuildLoop.Plan

open Text Relation

/-- A pending task with an id and a description. -/
structure Sound (t : Task) : Prop where
  named : isBlankText t.id = false
  described : isBlankText t.description = false
  pending : t.status = .pending

/-- Whether the role of a task owns the file it names first. What is wrong with the environment is not
in a file. -/
def Owned (t : Task) : Prop :=
  ∀ file, t.primaryFile? = some file → ∀ role, Role.ofPath? file = some role →
    isEnvironmentFix t = true ∨ role = t.role

/-- What every approved plan is. -/
structure Approvable (ts : List Task) : Prop where
  nonempty : ts ≠ []
  sound : ∀ t ∈ ts, Sound t
  distinct : (ts.map (·.id)).Nodup
  /-- Every dependency is the id of an earlier task. -/
  earlier : ∀ (i : Nat) t, ts[i]? = some t → ∀ d ∈ t.dependencies,
    ∃ j < i, ∃ u, ts[j]? = some u ∧ u.id = d
  owned : ∀ t ∈ ts, Owned t
  /-- Phases never go back, whichever two tasks are compared. -/
  ordered : ts.Pairwise fun t u => t.isCorrective = false → u.isCorrective = false →
    ∀ p q, Phase.ofTask? t = some p → Phase.ofTask? u = some q → p.rank ≤ q.rank
  /-- Of two tasks on one file the later depends on the earlier. -/
  chained : ts.Pairwise fun t u => ∀ file, t.primaryFile? = some file →
    u.primaryFile? = some file → TransGen (Requires ts) u.id t.id

/-! ## Single tasks -/

theorem taskReasons_eq_nil {before : List String} {index : Nat} {t : Task} :
    taskReasons before index t = [] ↔ Sound t ∧ t.id ∉ before := by
  simp only [taskReasons, List.append_eq_nil_iff, ite_eq_right_iff, List.cons_ne_nil, imp_false,
    Bool.not_eq_true, not_not, ne_eq, List.contains_iff_mem]
  constructor
  · rintro ⟨⟨⟨h1, h2⟩, h3⟩, h4⟩
    exact ⟨⟨h1, h2, h3⟩, h4⟩
  · rintro ⟨⟨h1, h2, h3⟩, h4⟩
    exact ⟨⟨⟨h1, h2⟩, h3⟩, h4⟩

theorem ownReasons_eq_nil {before : List String} {index : Nat} {ts : List Task} :
    ownReasons before index ts = [] ↔
      (∀ t ∈ ts, Sound t) ∧ (ts.map (·.id)).Nodup ∧ ∀ t ∈ ts, t.id ∉ before := by
  induction ts generalizing before index with
  | nil => simp [ownReasons]
  | cons t r ih =>
    rw [ownReasons, List.append_eq_nil_iff, taskReasons_eq_nil, ih, List.map_cons, List.nodup_cons]
    simp only [List.mem_map, List.mem_cons, forall_eq_or_imp, not_or, not_exists, not_and]
    constructor
    · rintro ⟨⟨hs, hb⟩, hr, hn, hd⟩
      exact ⟨⟨hs, hr⟩, ⟨fun u hu => (hd u hu).1, hn⟩, hb, fun u hu => (hd u hu).2⟩
    · rintro ⟨⟨hs, hr⟩, ⟨hne, hn⟩, hb, hd⟩
      exact ⟨⟨hs, hb⟩, hr, hn, fun u hu => ⟨hne u hu, hd u hu⟩⟩

theorem roleReason?_eq_none {t : Task} : roleReason? t = none ↔ Owned t := by
  unfold roleReason? Owned
  cases t.primaryFile? with
  | none => simp
  | some file =>
    simp only [Option.bind_eq_bind, Option.bind_some, Option.some.injEq, forall_eq']
    cases Role.ofPath? file with
    | none => simp
    | some role => simp [or_iff_not_imp_left]

/-! ## Dependencies -/

theorem getElem?_of_position? {ts : List Task} {id : String} {i : Nat}
    (h : position? ts id = some i) : ∃ u, ts[i]? = some u ∧ u.id = id := by
  obtain ⟨p, hp, rfl⟩ := Option.map_eq_some_iff.1 h
  have hmem := List.mem_of_find?_eq_some hp
  have hid := List.find?_some hp
  exact ⟨p.1, List.mem_zipIdx_iff_getElem?.1 (List.mem_reverse.1 hmem), by simpa using hid⟩

/-- Among distinct ids, the place of an id is the place of its task. -/
theorem position?_of_getElem? {ts : List Task} (hn : (ts.map (·.id)).Nodup) {i : Nat} {u : Task}
    (h : ts[i]? = some u) : position? ts u.id = some i := by
  cases hp : position? ts u.id with
  | none =>
    have hnone := List.find?_eq_none.1 (Option.map_eq_none_iff.1 hp) (u, i)
      (List.mem_reverse.2 (List.mem_zipIdx_iff_getElem?.2 h))
    simp at hnone
  | some j =>
    obtain ⟨v, hv, hid⟩ := getElem?_of_position? hp
    have hi : (ts.map (·.id))[i]? = some u.id := by rw [List.getElem?_map, h]; rfl
    have hj : (ts.map (·.id))[j]? = some u.id := by rw [List.getElem?_map, hv, ← hid]; rfl
    rw [(List.getElem?_inj (List.getElem?_eq_some_iff.1 hj).1 hn).1 (hj.trans hi.symm)]

theorem dependencyReason?_eq_none {ts : List Task} (hn : (ts.map (·.id)).Nodup) {index : Nat}
    {t : Task} {dep : String} :
    dependencyReason? ts index t dep = none ↔ ∃ j < index, ∃ u, ts[j]? = some u ∧ u.id = dep := by
  have hpos : dependencyReason? ts index t dep = none ↔
      ∃ j < index, position? ts dep = some j := by
    unfold dependencyReason?
    cases position? ts dep <;> simp
  rw [hpos]
  refine exists_congr fun j => and_congr_right fun _ => ⟨getElem?_of_position?, ?_⟩
  rintro ⟨u, hu, rfl⟩
  exact position?_of_getElem? hn hu

theorem linkReasons_eq_nil {ts : List Task} (hn : (ts.map (·.id)).Nodup) :
    ts.zipIdx.flatMap (fun p => linkReasons ts p.2 p.1) = [] ↔
      (∀ (i : Nat) t, ts[i]? = some t → ∀ d ∈ t.dependencies,
        ∃ j < i, ∃ u, ts[j]? = some u ∧ u.id = d) ∧ ∀ t ∈ ts, Owned t := by
  have hlink : ∀ i t, linkReasons ts i t = [] ↔
      (∀ d ∈ t.dependencies, ∃ j < i, ∃ u, ts[j]? = some u ∧ u.id = d) ∧ Owned t := by
    intro i t
    rw [linkReasons, List.append_eq_nil_iff, List.filterMap_eq_nil_iff, Option.toList_eq_nil_iff,
      roleReason?_eq_none]
    simp only [dependencyReason?_eq_none hn]
  rw [List.flatMap_eq_nil_iff]
  constructor
  · intro h
    have hat : ∀ (i : Nat) t, ts[i]? = some t → _ := fun i t ht =>
      (hlink i t).1 (h (t, i) (List.mem_zipIdx_iff_getElem?.2 ht))
    refine ⟨fun i t ht => (hat i t ht).1, fun t ht => ?_⟩
    obtain ⟨i, hi⟩ := List.mem_iff_getElem?.1 ht
    exact (hat i t hi).2
  · rintro ⟨hd, ho⟩ ⟨t, i⟩ hp
    have ht : ts[i]? = some t := List.mem_zipIdx_iff_getElem?.1 hp
    exact (hlink i t).2 ⟨hd i t ht, ho t (List.mem_of_getElem? ht)⟩

/-! ## Phases -/

/-- The phase that keeps later tasks from going back behind this one. -/
def boundPhase? (t : Task) : Option Phase := if t.isCorrective then none else Phase.ofTask? t

theorem phaseReasons_eq_nil {last : Option (Phase × String)} {ts : List Task} :
    phaseReasons last ts = [] ↔ ((last.map (·.1)).toList ++ ts.filterMap boundPhase?).IsChain
      fun p q => p.rank ≤ q.rank := by
  induction ts generalizing last with
  | nil => cases last <;> simp [phaseReasons]
  | cons t r ih =>
    rw [phaseReasons, List.filterMap_cons, boundPhase?]
    by_cases hc : t.isCorrective = true
    · simp only [hc, if_true]
      exact ih
    · simp only [hc, Bool.false_eq_true, if_false]
      cases hp : Phase.ofTask? t with
      | none => exact ih
      | some p =>
        simp only [List.append_eq_nil_iff, ih]
        cases last with
        | none => simp
        | some l => simp

theorem phaseReasons_eq_nil_iff {ts : List Task} :
    phaseReasons none ts = [] ↔
      ts.Pairwise fun t u => t.isCorrective = false → u.isCorrective = false →
        ∀ p q, Phase.ofTask? t = some p → Phase.ofTask? u = some q → p.rank ≤ q.rank := by
  have htrans : Trans (fun p q : Phase => p.rank ≤ q.rank) (fun p q : Phase => p.rank ≤ q.rank)
      (fun p q : Phase => p.rank ≤ q.rank) := ⟨Nat.le_trans⟩
  rw [phaseReasons_eq_nil, List.isChain_iff_pairwise, Option.map_none, Option.toList_none,
    List.nil_append, List.pairwise_filterMap]
  refine iff_of_eq (congrArg (List.Pairwise · ts) ?_)
  funext t u
  unfold boundPhase?
  cases t.isCorrective <;> cases u.isCorrective <;> simp
  exact ⟨fun h p q hp hq => h p hp q hq, fun h p hp q hq => h p q hp hq⟩

/-! ## Tasks on one file -/

theorem forall_mem_neighbours {α : Type} {R : α → α → Prop} {l : List α} :
    (∀ p ∈ neighbours l, R p.1 p.2) ↔ l.IsChain R := by
  fun_induction neighbours l with
  | case1 a b r ih => rw [List.forall_mem_cons, List.isChain_cons_cons, ih]
  | case2 l h =>
    match l with
    | [] => simp
    | [a] => simp
    | a :: b :: r => exact absurd rfl (h a b r)

theorem filter_byFile (ts : List Task) (file : String) :
    ((byFile ts).filter (·.1 == file)).map (·.2) =
      ts.filter fun t => t.primaryFile? == some file := by
  induction ts with
  | nil => rfl
  | cons t r ih =>
    rw [byFile, List.filterMap_cons, List.filter_cons, ← byFile]
    cases t.primaryFile? with
    | none => simpa using ih
    | some f =>
      simp only [Option.map_some, List.filter_cons]
      by_cases hf : f = file <;> simp [hf, ih]

theorem sharedReasons_eq_nil {ts : List Task} :
    sharedReasons ts = [] ↔ ∀ file, (ts.filter fun t => t.primaryFile? == some file).IsChain
      fun t u => dependsOn ts u t.id = true := by
  have hgroup : ∀ file, (ts.filter fun t => t.primaryFile? == some file) ≠ [] →
      file ∈ sharedFiles (byFile ts) := by
    intro file hne
    rw [← filter_byFile] at hne
    obtain ⟨p, hp⟩ := List.exists_mem_of_ne_nil _ (mt List.map_eq_nil_iff.2 hne)
    obtain ⟨hmem, hfile⟩ := List.mem_filter.1 hp
    rw [sharedFiles, List.mem_mergeSort, List.mem_eraseDups]
    exact List.mem_map.2 ⟨p, hmem, by simpa using hfile⟩
  simp only [sharedReasons, List.flatMap_eq_nil_iff, List.filterMap_eq_nil_iff, filter_byFile,
    ite_eq_left_iff, reduceCtorEq, imp_false, Bool.not_eq_true, Bool.not_eq_false]
  constructor
  · intro h file
    by_cases hne : (ts.filter fun t => t.primaryFile? == some file) = []
    · rw [hne]
      exact .nil
    · exact forall_mem_neighbours.1 (h file (hgroup file hne))
  · exact fun h file _ => forall_mem_neighbours.2 (h file)

theorem sharedReasons_eq_nil_iff {ts : List Task} (hn : (ts.map (·.id)).Nodup) :
    sharedReasons ts = [] ↔ ts.Pairwise fun t u => ∀ file, t.primaryFile? = some file →
      u.primaryFile? = some file → TransGen (Requires ts) u.id t.id := by
  have htrans : Trans (fun t u : Task => TransGen (Requires ts) u.id t.id)
      (fun t u : Task => TransGen (Requires ts) u.id t.id)
      (fun t u : Task => TransGen (Requires ts) u.id t.id) := ⟨fun h h' => h'.trans h⟩
  have hchain : ∀ file, ((ts.filter fun t => t.primaryFile? == some file).IsChain
      fun t u => dependsOn ts u t.id = true) ↔ ts.Pairwise fun t u => t.primaryFile? = some file →
        u.primaryFile? = some file → TransGen (Requires ts) u.id t.id := by
    intro file
    rw [List.IsChain.iff_of_mem_imp (S := fun t u => TransGen (Requires ts) u.id t.id)
      fun t u _ hu => dependsOn_iff hn (List.mem_filter.1 hu).1, List.isChain_iff_pairwise,
      List.pairwise_filter]
    simp only [beq_iff_eq]
  rw [sharedReasons_eq_nil]
  simp only [hchain, List.pairwise_iff_getElem]
  exact ⟨fun h i j hi hj hlt file => h file i j hi hj hlt,
    fun h file i j hi hj hlt => h i j hi hj hlt file⟩

/-! ## Approval -/

theorem reasons_eq_nil {ts : List Task} (hne : ts ≠ []) : reasons ts = [] ↔ Approvable ts := by
  simp only [reasons, List.append_eq_nil_iff, ownReasons_eq_nil]
  constructor
  · rintro ⟨⟨⟨⟨hs, hn, -⟩, hlink⟩, hphase⟩, hshared⟩
    obtain ⟨hd, ho⟩ := (linkReasons_eq_nil hn).1 hlink
    exact ⟨hne, hs, hn, hd, ho, phaseReasons_eq_nil_iff.1 hphase,
      (sharedReasons_eq_nil_iff hn).1 hshared⟩
  · intro h
    exact ⟨⟨⟨⟨h.sound, h.distinct, by simp⟩, (linkReasons_eq_nil h.distinct).2 ⟨h.earlier, h.owned⟩⟩,
      phaseReasons_eq_nil_iff.2 h.ordered⟩, (sharedReasons_eq_nil_iff h.distinct).2 h.chained⟩

theorem validate_eq_approved {ts : List Task} {s : PlanSummary} :
    validate ts = .approved s ↔ Approvable ts ∧ s = summary ts := by
  unfold validate verdict
  by_cases hnil : ts = []
  · subst hnil
    simpa using fun h : Approvable [] => absurd rfl h.nonempty
  · rw [if_neg (by simpa using hnil), ← reasons_eq_nil hnil]
    by_cases hr : reasons ts = []
    · rw [if_pos (List.isEmpty_iff.2 hr), PlanVerdict.approved.injEq, eq_comm]
      exact (and_iff_right hr).symm
    · rw [if_neg (mt List.isEmpty_iff.1 hr)]
      exact ⟨fun h => (by cases h), fun h => absurd h.1 hr⟩

/-! ## Summaries -/

theorem sum_countName (name : String) (table : List (String × Nat)) :
    ((countName name table).map (·.2)).sum = (table.map (·.2)).sum + 1 := by
  fun_induction countName name table with
  | case1 => rfl
  | case2 n r => simp; omega
  | case3 k n r _ _ => simp; omega
  | case4 k n r _ _ ih => simp [ih]; omega

theorem sum_phases (ts : List Task) : ((summary ts).phases.map (·.2)).sum = ts.length := by
  have hfold : ∀ table : List (String × Nat),
      ((ts.foldl (fun table t => countName (phaseName t) table) table).map (·.2)).sum =
        (table.map (·.2)).sum + ts.length := by
    induction ts with
    | nil => exact fun _ => rfl
    | cons t r ih =>
      intro table
      rw [List.foldl_cons, ih, sum_countName, List.length_cons]
      omega
  exact (hfold []).trans (Nat.zero_add _)

theorem backend_add_frontend (ts : List Task) :
    (summary ts).backend + (summary ts).frontend = ts.length := by
  show ts.countP (·.role == .backend) + ts.countP (·.role == .frontend) = ts.length
  rw [List.length_eq_countP_add_countP (·.role == .backend)]
  congr 2
  funext t
  cases t.role <;> rfl

/-- Validation approves the plans that keep all rules, and counts each task once by role and once by
phase. -/
theorem validate_approves_iff (ts : List Task) :
    ((validate ts).isApproved = true ↔ Approvable ts) ∧
      ∀ s, validate ts = .approved s →
        s.total = ts.length ∧ s.total = s.backend + s.frontend ∧
          s.total = (s.phases.map (·.2)).sum := by
  constructor
  · constructor
    · intro h
      cases hv : validate ts with
      | approved s => exact (validate_eq_approved.1 hv).1
      | rejected rs => rw [hv] at h; cases h
    · intro h
      rw [validate_eq_approved.2 ⟨h, rfl⟩]
      rfl
  · intro s h
    obtain ⟨-, rfl⟩ := validate_eq_approved.1 h
    exact ⟨rfl, (backend_add_frontend ts).symm, (sum_phases ts).symm⟩

end BuildLoop.Plan
