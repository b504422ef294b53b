import Mathlib.Data.List.Basic
import Mathlib.Data.List.Nodup
import BuildLoop.Plan.Queue
import BuildLoop.Plan.Schedule
import BuildLoop.Proofs.Failure
import BuildLoop.Proofs.Text.Fresh

/-!
# What a schedule and its plan are

A schedule exists unless a file needs a backend that the architecture does not have. It holds each
file of the manifest once, placed by its path or else by its section, in the order of phases:

    schedule a = ok fs   ↔   Served a ∧ fs = the places of the manifest, sorted by phase
                                                                                   (schedule_eq_ok)
    schedule a = ok fs   →   fs.map (·.entry) is a permutation of the manifest     (perm_schedule)

The check of a plan passes exactly if each task depends on earlier ones only and none is for an absent
backend. The plan of a schedule passes it, whatever the files are:

    checkOrder a ts = ok   ↔   ts ≠ [] and dependencies are earlier ids and …       (checkOrder_eq_ok)
    build a = ok ts   ↔   ts is the plan of a schedule of a that is not empty            (build_eq_ok)
    the ids of a plan are task_1, task_2, …                                          (map_id_tasksFrom)
-/

namespace BuildLoop.Plan

section

variable {a : Architecture} {fs : List PlannedFile}

/-! ## Places -/

/-- The place of a file of the manifest: what its path tells, or else its section. -/
def place (a : Architecture) (e : FileEntry × Option Role) : PlannedFile where
  entry := e.1
  phase := (Phase.ofFile? e.1.path).getD (sectionPhase e.2)
  role := (Role.ofPath? e.1.path).getD (sectionRole a.hasBackend e.2)
  install := installCommand? e.1.path

/-- Whether no file of the manifest needs a backend that is not there. -/
def Served (a : Architecture) : Prop :=
  ∀ e ∈ sectionEntries a.files, (place a e).role = .backend → a.hasBackend = true

theorem planFile_eq_ok {e : FileEntry × Option Role} {f : PlannedFile} :
    planFile a e = .ok f ↔ ((place a e).role = .backend → a.hasBackend = true) ∧ f = place a e := by
  unfold planFile place
  simp only
  -- what a path tells is not to be computed here
  generalize (Role.ofPath? e.1.path).getD (sectionRole a.hasBackend e.2) = role
  generalize (Phase.ofFile? e.1.path).getD (sectionPhase e.2) = phase
  by_cases h : role = .backend ∧ a.hasBackend = false
  · rw [if_pos h]
    have hnot : ¬ (role = .backend → a.hasBackend = true) := by simp [h]
    exact ⟨fun he => (by cases he), fun he => absurd he.1 hnot⟩
  · rw [if_neg h]
    have himp : role = .backend → a.hasBackend = true := by simpa using h
    exact ⟨fun he => ⟨himp, (Except.ok.inj he).symm⟩, fun he => congrArg Except.ok he.2.symm⟩

theorem mapM_planFile_eq_ok {es : List (FileEntry × Option Role)} :
    es.mapM (planFile a) = .ok fs ↔
      (∀ e ∈ es, (place a e).role = .backend → a.hasBackend = true) ∧ fs = es.map (place a) := by
  induction es generalizing fs with
  | nil =>
    rw [List.mapM_nil, List.map_nil]
    exact ⟨fun h => ⟨fun e he => absurd he List.not_mem_nil, (Except.ok.inj h).symm⟩,
      fun h => congrArg Except.ok h.2.symm⟩
  | cons e es ih =>
    rw [List.mapM_cons, List.forall_mem_cons, List.map_cons]
    constructor
    · intro h
      obtain ⟨f, hf, h⟩ := exists_of_bind h
      obtain ⟨r, hr, h⟩ := exists_of_bind h
      obtain ⟨hrole, rfl⟩ := planFile_eq_ok.1 hf
      obtain ⟨hroles, rfl⟩ := ih.1 hr
      exact ⟨⟨hrole, hroles⟩, (Except.ok.inj h).symm⟩
    · rintro ⟨⟨hrole, hroles⟩, rfl⟩
      rw [planFile_eq_ok.2 ⟨hrole, rfl⟩, ih.2 ⟨hroles, rfl⟩]
      rfl

/-! ## Schedules -/

theorem schedule_eq_ok :
    schedule a = .ok fs ↔ Served a ∧ fs =
      ((sectionEntries a.files).map (place a)).mergeSort fun f g => decide (f.phase.rank ≤ g.phase.rank) := by
  unfold schedule
  cases h : (sectionEntries a.files).mapM (planFile a) with
  | error x =>
    refine ⟨fun he => (by cases he), fun ⟨hserved, _⟩ => ?_⟩
    rw [mapM_planFile_eq_ok.2 ⟨hserved, rfl⟩] at h
    cases h
  | ok gs =>
    obtain ⟨hserved, rfl⟩ := mapM_planFile_eq_ok.1 h
    exact ⟨fun he => ⟨hserved, (Except.ok.inj he).symm⟩, fun he => congrArg Except.ok he.2.symm⟩

theorem exists_schedule (h : Served a) : ∃ fs, schedule a = .ok fs := ⟨_, schedule_eq_ok.2 ⟨h, rfl⟩⟩

section
variable (h : schedule a = .ok fs)
include h

theorem perm_place : fs.Perm ((sectionEntries a.files).map (place a)) := by
  rw [(schedule_eq_ok.1 h).2]
  exact List.mergeSort_perm ..

/-- A schedule holds each file of the manifest once. -/
theorem perm_schedule : (fs.map (·.entry)).Perm a.files.entries := by
  have hentries : ((sectionEntries a.files).map (place a)).map (·.entry) = a.files.entries := by
    simp [sectionEntries, FileStructure.entries, place, Function.comp_def]
  exact hentries ▸ (perm_place h).map _

/-- Phases never go back in a schedule. -/
theorem pairwise_schedule : fs.Pairwise fun f g => f.phase.rank ≤ g.phase.rank := by
  rw [(schedule_eq_ok.1 h).2]
  refine (List.pairwise_mergeSort ?_ ?_ _).imp of_decide_eq_true
  · intro f g k hfg hgk
    rw [decide_eq_true_eq] at *
    omega
  · intro f g
    rw [Bool.or_eq_true, decide_eq_true_eq, decide_eq_true_eq]
    omega

theorem exists_place {f : PlannedFile} (hf : f ∈ fs) :
    ∃ e ∈ sectionEntries a.files, f = place a e := by
  obtain ⟨e, he, rfl⟩ := List.mem_map.1 ((perm_place h).mem_iff.1 hf)
  exact ⟨e, he, rfl⟩

/-- A scheduled file is placed where its path tells, if it does. -/
theorem phase_of_schedule {f : PlannedFile} (hf : f ∈ fs) {p : Phase}
    (hp : Phase.ofFile? f.entry.path = some p) : f.phase = p := by
  obtain ⟨e, -, rfl⟩ := exists_place h hf
  simp only [place] at hp ⊢
  rw [hp, Option.getD_some]

/-- A scheduled file belongs to the role that its path tells, if it does. -/
theorem role_of_schedule {f : PlannedFile} (hf : f ∈ fs) {r : Role}
    (hr : Role.ofPath? f.entry.path = some r) : f.role = r := by
  obtain ⟨e, -, rfl⟩ := exists_place h hf
  simp only [place] at hr ⊢
  rw [hr, Option.getD_some]

/-- Only an architecture with a backend has scheduled files of the backend. -/
theorem hasBackend_of_schedule {f : PlannedFile} (hf : f ∈ fs) (hr : f.role = .backend) :
    a.hasBackend = true := by
  obtain ⟨e, he, rfl⟩ := exists_place h hf
  exact (schedule_eq_ok.1 h).1 e he hr

end

end

variable {a : Architecture} {c : Chains} {f : PlannedFile} {fs : List PlannedFile} {ts : List Task}

/-! ## Checking the order -/

/-- Whether every dependency of each task is known before or the id of an earlier task. -/
def Earlier (before : List String) (ts : List Task) : Prop :=
  ∀ (i : Nat) t, ts[i]? = some t → ∀ d ∈ t.dependencies,
    d ∈ before ∨ ∃ j < i, ∃ u, ts[j]? = some u ∧ u.id = d

theorem earlier_cons {before : List String} {t : Task} :
    Earlier before (t :: ts) ↔ (∀ d ∈ t.dependencies, d ∈ before) ∧ Earlier (t.id :: before) ts := by
  constructor
  · intro h
    refine ⟨fun d hd => ?_, fun i u hu d hd => ?_⟩
    · rcases h 0 t rfl d hd with hmem | ⟨j, hj, -⟩
      · exact hmem
      · exact absurd hj (Nat.not_lt_zero j)
    · rcases h (i + 1) u hu d hd with hmem | ⟨j, hj, v, hv, hid⟩
      · exact .inl (List.mem_cons_of_mem _ hmem)
      · cases j with
        | zero =>
          obtain rfl := Option.some.inj hv
          exact .inl (hid ▸ List.mem_cons_self)
        | succ j => exact .inr ⟨j, Nat.lt_of_succ_lt_succ hj, v, hv, hid⟩
  · rintro ⟨hfirst, hrest⟩ i u hu d hd
    cases i with
    | zero =>
      obtain rfl := Option.some.inj hu
      exact .inl (hfirst d hd)
    | succ i =>
      rcases hrest i u hu d hd with hmem | ⟨j, hj, v, hv, hid⟩
      · rcases List.mem_cons.1 hmem with rfl | hmem
        · exact .inr ⟨0, Nat.succ_pos i, t, rfl, rfl⟩
        · exact .inl hmem
      · exact .inr ⟨j + 1, Nat.succ_lt_succ hj, v, hv, hid⟩

theorem checkOrderFrom_cons {hasBackend : Bool} {before : List String} {t : Task} :
    checkOrderFrom hasBackend before (t :: ts) = .ok () ↔
      (∀ d ∈ t.dependencies, d ∈ before) ∧ (t.role = .backend → hasBackend = true) ∧
        checkOrderFrom hasBackend (t.id :: before) ts = .ok () := by
  rw [checkOrderFrom]
  split
  · next dep hdep =>
    have hmem := List.mem_of_find?_eq_some hdep
    have hnot : dep ∉ before := by simpa using List.find?_some hdep
    exact ⟨fun h => (by cases h), fun h => absurd (h.1 dep hmem) hnot⟩
  · next hnone =>
    have hall : ∀ d ∈ t.dependencies, d ∈ before := by simpa using List.find?_eq_none.1 hnone
    split
    · next h =>
      obtain ⟨hbackend, hrole⟩ := Bool.and_eq_true_iff.1 h
      refine ⟨fun h => (by cases h), fun h => ?_⟩
      rw [h.2.1 (eq_of_beq hrole)] at hbackend
      cases hbackend
    · next h =>
      have himp : t.role = .backend → hasBackend = true := fun hrole => by
        cases hasBackend with
        | true => rfl
        | false => exact absurd hrole (by simpa using h)
      exact ⟨fun h => ⟨hall, himp, h⟩, fun h => h.2.2⟩

theorem checkOrderFrom_eq_ok {hasBackend : Bool} {before : List String} :
    checkOrderFrom hasBackend before ts = .ok () ↔
      Earlier before ts ∧ ∀ t ∈ ts, t.role = .backend → hasBackend = true := by
  induction ts generalizing before with
  | nil => simp [checkOrderFrom, Earlier]
  | cons t ts ih =>
    rw [checkOrderFrom_cons, earlier_cons, ih, List.forall_mem_cons]
    exact ⟨fun ⟨hd, hr, he, hrs⟩ => ⟨⟨hd, he⟩, hr, hrs⟩, fun ⟨⟨hd, he⟩, hr, hrs⟩ => ⟨hd, hr, he, hrs⟩⟩

theorem checkOrder_eq_ok : checkOrder a ts = .ok () ↔
    ts ≠ [] ∧ Earlier [] ts ∧ ∀ t ∈ ts, t.role = .backend → a.hasBackend = true := by
  unfold checkOrder
  by_cases h : ts = []
  · simp [h]
  · rw [if_neg (by simpa using h), checkOrderFrom_eq_ok]
    exact (and_iff_right h).symm

/-! ## The tasks of a file -/

/-- The id of the `n`-th task of a plan. -/
def taskId (n : Nat) : String := "task_" ++ toString n

theorem taskId_injective : Function.Injective taskId := Text.append_toString_injective "task_"

theorem count_next (a : Architecture) (c : Chains) (f : PlannedFile) :
    (c.next f).count = c.count + (fileTasks a c f).length := by
  unfold Chains.next fileTasks
  cases f.install <;> rfl

theorem map_id_fileTasks (a : Architecture) (c : Chains) (f : PlannedFile) :
    (fileTasks a c f).map (·.id) =
      (List.range' (c.count + 1) (fileTasks a c f).length).map taskId := by
  unfold fileTasks
  cases f.install <;> rfl

theorem role_of_mem_fileTasks {t : Task} (h : t ∈ fileTasks a c f) : t.role = f.role := by
  unfold fileTasks at h
  rcases List.mem_cons.1 h with rfl | h
  · rfl
  · obtain ⟨_, -, rfl⟩ := List.mem_map.1 h
    rfl

theorem mem_dependencies {d : String} (h : d ∈ c.dependencies f) :
    d ∈ c.backend.toList ∨ d ∈ c.frontend.toList := by
  unfold Chains.dependencies at h
  split at h
  · exact List.mem_append.1 h
  · split at h
    · exact .inl h
    · rcases List.mem_append.1 h with h | h
      · exact .inr h
      · split at h
        · exact .inl h
        · exact absurd h List.not_mem_nil

/-! ## The tasks of files -/

theorem map_id_tasksFrom (a : Architecture) (c : Chains) (fs : List PlannedFile) :
    (tasksFrom a c fs).map (·.id) =
      (List.range' (c.count + 1) (tasksFrom a c fs).length).map taskId := by
  induction fs generalizing c with
  | nil => rfl
  | cons f fs ih =>
    have hstart : c.count + 1 + (fileTasks a c f).length = (c.next f).count + 1 := by
      rw [count_next a]
      omega
    rw [tasksFrom, List.map_append, List.length_append, map_id_fileTasks, ih, ← hstart,
      ← List.map_append, List.range'_append_1]

theorem nodup_tasksFrom (a : Architecture) (c : Chains) (fs : List PlannedFile) :
    ((tasksFrom a c fs).map (·.id)).Nodup := by
  rw [map_id_tasksFrom]
  exact List.Nodup.map taskId_injective List.nodup_range'

theorem exists_of_mem_tasksFrom {t : Task} (h : t ∈ tasksFrom a c fs) :
    ∃ f ∈ fs, ∃ c', t ∈ fileTasks a c' f := by
  induction fs generalizing c with
  | nil => exact absurd h List.not_mem_nil
  | cons f fs ih =>
    rcases List.mem_append.1 h with h | h
    · exact ⟨f, List.mem_cons_self, c, h⟩
    · obtain ⟨g, hg, c', ht⟩ := ih h
      exact ⟨g, List.mem_cons_of_mem _ hg, c', ht⟩

theorem exists_fileTasks_subset (hf : f ∈ fs) : ∃ c', fileTasks a c' f ⊆ tasksFrom a c fs := by
  induction fs generalizing c with
  | nil => exact absurd hf List.not_mem_nil
  | cons g fs ih =>
    rcases List.mem_cons.1 hf with rfl | hf
    · exact ⟨c, List.subset_append_left _ _⟩
    · obtain ⟨c', hc⟩ := ih (c := c.next g) hf
      exact ⟨c', List.Subset.trans hc (List.subset_append_right _ _)⟩

/-- What holds of the tasks of one file, one after the other, and of those of any two files in order,
holds of every two tasks of a plan in order. -/
theorem pairwise_tasksFrom {R : Task → Task → Prop} {S : PlannedFile → PlannedFile → Prop}
    (hown : ∀ c', ∀ f ∈ fs, fileTasks a c' f ⊆ tasksFrom a c fs → (fileTasks a c' f).Pairwise R)
    (hcross : ∀ f ∈ fs, ∀ g ∈ fs, S f g → ∀ c' c'', ∀ t ∈ fileTasks a c' f,
      ∀ u ∈ fileTasks a c'' g, R t u) (h : fs.Pairwise S) : (tasksFrom a c fs).Pairwise R := by
  have hpart : ∀ gs c', gs ⊆ fs → tasksFrom a c' gs ⊆ tasksFrom a c fs → gs.Pairwise S →
      (tasksFrom a c' gs).Pairwise R := by
    intro gs
    induction gs with
    | nil => exact fun _ _ _ _ => .nil
    | cons g gs ih =>
      intro c' hmem hsub hpair
      obtain ⟨hfirst, hrest⟩ := List.pairwise_cons.1 hpair
      have hg : g ∈ fs := hmem List.mem_cons_self
      have hgs : gs ⊆ fs := fun x hx => hmem (List.mem_cons_of_mem _ hx)
      refine List.pairwise_append.2 ⟨hown c' g hg ?_, ih (c'.next g) hgs ?_ hrest, fun t ht u hu => ?_⟩
      · exact List.Subset.trans (List.subset_append_left _ _) hsub
      · exact List.Subset.trans (List.subset_append_right _ _) hsub
      · obtain ⟨g', hg', c'', hu⟩ := exists_of_mem_tasksFrom hu
        exact hcross g hg g' (hgs hg') (hfirst g' hg') c' c'' t ht u hu
  exact hpart fs c (List.Subset.refl fs) (List.Subset.refl _) h

/-- The tasks of files depend on earlier ones only, once the chains do. -/
theorem earlier_tasksFrom {before : List String} (hb : ∀ d ∈ c.backend.toList, d ∈ before)
    (hf : ∀ d ∈ c.frontend.toList, d ∈ before) : Earlier before (tasksFrom a c fs) := by
  induction fs generalizing c before with
  | nil => exact fun i t h => (by simp [tasksFrom] at h)
  | cons f fs ih =>
    have hfile : ∀ d ∈ c.dependencies f, d ∈ before := fun d hd =>
      (mem_dependencies hd).elim (hb d) (hf d)
    -- the next chains end in the task of this file, or where they ended
    have hnext : ∀ before', c.id 1 ∈ before' → (∀ d ∈ before, d ∈ before') →
        Earlier before' (tasksFrom a (c.next f) fs) := by
      intro before' hid hmono
      refine ih (fun d hd => ?_) (fun d hd => ?_)
      · unfold Chains.next at hd
        simp only at hd
        split at hd
        · exact (List.mem_singleton.1 hd) ▸ hid
        · exact hmono d (hb d hd)
      · unfold Chains.next at hd
        simp only at hd
        split at hd
        · exact (List.mem_singleton.1 hd) ▸ hid
        · exact hmono d (hf d hd)
    rw [tasksFrom, fileTasks, List.cons_append, earlier_cons]
    refine ⟨hfile, ?_⟩
    cases f.install with
    | none => exact hnext _ List.mem_cons_self fun d hd => List.mem_cons_of_mem _ hd
    | some command =>
      rw [Option.toList_some, List.map_singleton, List.singleton_append, earlier_cons]
      refine ⟨fun d hd => ?_, hnext _ (List.mem_cons_of_mem _ List.mem_cons_self) fun d hd =>
        List.mem_cons_of_mem _ (List.mem_cons_of_mem _ hd)⟩
      rw [List.mem_singleton.1 hd]
      exact List.mem_cons_self

/-- A plan has work for the backend exactly if a file of the manifest has. -/
theorem exists_backend_tasksFrom (hs : schedule a = .ok fs) :
    (∃ t ∈ tasksFrom a c fs, t.role = .backend) ↔
      ∃ e ∈ sectionEntries a.files, (place a e).role = .backend := by
  constructor
  · rintro ⟨t, ht, hrole⟩
    obtain ⟨f, hf, c', ht⟩ := exists_of_mem_tasksFrom ht
    obtain ⟨e, he, rfl⟩ := exists_place hs hf
    exact ⟨e, he, (role_of_mem_fileTasks ht).symm.trans hrole⟩
  · rintro ⟨e, he, hrole⟩
    obtain ⟨f, hf, hrole⟩ : ∃ f ∈ fs, f.role = .backend :=
      ⟨place a e, (perm_place hs).mem_iff.2 (List.mem_map_of_mem he), hrole⟩
    obtain ⟨c', hsub⟩ := exists_fileTasks_subset (a := a) (c := c) hf
    exact ⟨_, hsub List.mem_cons_self, hrole⟩

theorem tasksFrom_ne_nil (h : fs ≠ []) : tasksFrom a c fs ≠ [] := by
  cases fs with
  | nil => exact absurd rfl h
  | cons f fs => simp [tasksFrom, fileTasks]

/-! ## Plans -/

/-- The plan of a schedule passes the check. -/
theorem checkOrder_tasksFrom (hs : schedule a = .ok fs) (hne : fs ≠ []) :
    checkOrder a (tasksFrom a .start fs) = .ok () := by
  refine checkOrder_eq_ok.2 ⟨tasksFrom_ne_nil hne, earlier_tasksFrom ?_ ?_, fun t ht hr => ?_⟩
  · exact fun d hd => absurd hd List.not_mem_nil
  · exact fun d hd => absurd hd List.not_mem_nil
  · obtain ⟨f, hf, c', ht⟩ := exists_of_mem_tasksFrom ht
    exact hasBackend_of_schedule hs hf ((role_of_mem_fileTasks ht).symm.trans hr)

theorem build_eq_ok :
    build a = .ok ts ↔ ∃ fs, schedule a = .ok fs ∧ fs ≠ [] ∧ ts = tasksFrom a .start fs := by
  unfold build
  cases hs : schedule a with
  | error e => exact ⟨fun h => (by cases h), fun ⟨_, h, _⟩ => (by cases h)⟩
  | ok fs =>
    by_cases hne : fs = []
    · subst hne
      refine ⟨fun h => (by cases h), ?_⟩
      rintro ⟨_, h, hne, -⟩
      exact absurd (Except.ok.inj h).symm hne
    · have hcheck := checkOrder_tasksFrom hs hne
      simp only [bind, Except.bind, hcheck]
      constructor
      · intro h
        exact ⟨fs, rfl, hne, (Except.ok.inj h).symm⟩
      · rintro ⟨gs, h, -, rfl⟩
        rw [Except.ok.inj h]
        rfl

end BuildLoop.Plan
