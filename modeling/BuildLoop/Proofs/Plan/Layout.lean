import Mathlib.Data.List.Nodup
import Mathlib.Data.List.Pairwise
import Mathlib.Logic.Relation
import BuildLoop.Proofs.Plan.Queue
import BuildLoop.Proofs.Plan.Reach

/-!
# How a plan is laid out

A plan takes one step for each file of its schedule: a task writes the file and, if the file declares
packages, the next task installs them. Three cursors link the steps (`Chains`): the last step of the
backend, the last of the frontend, and whether a script has waited for the backend. What they say of
the steps before (`Chained`) is kept by every step, and so is what the steps depend on (`Linked`):

    build a = ok ts   for some ts   ↔   the manifest has files, and a backend for those that need one
    build a = ok ts   →   ts is the steps of the schedule, linked                  (build_laid_out)
-/

namespace BuildLoop.Plan

open Relation

variable {a : Architecture} {c : Chains} {f : PlannedFile} {fs : List PlannedFile} {ts : List Task}

/-! ## What the place of a file says -/

/-- A file that declares packages for the backend. One for Node is told from that of a page by its
directory. -/
def IsDependencyManifest (path : String) : Prop :=
  Text.baseName path = "requirements.txt" ∨
    Text.baseName path = "package.json" ∧ Role.ofPath? path = some .backend

theorem isSome_installCommand? {path : String} :
    (installCommand? path).isSome = true ↔ IsDependencyManifest path := by
  unfold installCommand? IsDependencyManifest
  by_cases hpip : Text.baseName path = "requirements.txt"
  · simp [hpip]
  · by_cases hnpm : Text.baseName path = "package.json" ∧ Role.ofPath? path = some .backend
    · simp [hnpm]
    · simp [hpip, hnpm]

theorem role_of_frontendLogic {path : String} (h : Phase.ofFile? path = some .frontendLogic) :
    Role.ofPath? path = some .frontend := by
  unfold Phase.ofFile? at h
  simp only at h
  -- the name and its extension are not to be computed here
  generalize Text.baseName _ = name at h
  generalize Role.ofPath? path = role at h ⊢
  split at h
  · cases h
  · split at h
    · cases h
    · cases role with
      | none => cases h
      | some r =>
        cases r with
        | frontend => rfl
        | backend =>
          simp only at h
          split at h <;> cases h

/-- A file of the backend, if its path tells, is set up, served from, or a document. -/
theorem phase_of_backend {path : String} (h : Role.ofPath? path = some .backend) :
    ∃ p, Phase.ofFile? path = some p ∧ (p = .docs ∨ p.rank ≤ Phase.backendApi.rank) := by
  unfold Phase.ofFile?
  simp only [h]
  generalize Text.baseName _ = name
  split
  · exact ⟨.setup, rfl, .inr (by decide)⟩
  · split
    · exact ⟨.docs, rfl, .inl rfl⟩
    · split
      · exact ⟨.backendApi, rfl, .inr (by decide)⟩
      · exact ⟨.backendCore, rfl, .inr (by decide)⟩

/-- A file of no role, if its path tells, is set up or a document. -/
theorem phase_of_unowned {path : String} {p : Phase} (h : Role.ofPath? path = none)
    (hp : Phase.ofFile? path = some p) : p = .docs ∨ p = .setup := by
  unfold Phase.ofFile? at hp
  simp only [h] at hp
  generalize Text.baseName _ = name at hp
  split at hp
  · cases hp
    exact .inr rfl
  · split at hp
    · cases hp
      exact .inl rfl
    · cases hp

/-- What the phase of a file says of its role, and its role of its phase. -/
structure Placed (f : PlannedFile) : Prop where
  script : f.phase = .frontendLogic → f.role = .frontend
  backend : f.role = .backend → f.phase ≠ .docs → f.phase.rank ≤ Phase.backendApi.rank

/-- What is placed as a script is of the frontend, -/
theorem role_place {a : Architecture} {e : FileEntry × Option Role}
    (h : (place a e).phase = .frontendLogic) : (place a e).role = .frontend := by
  unfold place at h ⊢
  simp only at h ⊢
  cases hp : Phase.ofFile? e.1.path with
  | some p =>
    rw [hp, Option.getD_some] at h
    rw [role_of_frontendLogic (hp.trans (congrArg some h)), Option.getD_some]
  | none =>
    rw [hp, Option.getD_none] at h
    cases hr : Role.ofPath? e.1.path with
    | some r =>
      cases r with
      | frontend => rfl
      | backend =>
        obtain ⟨p, hsome, -⟩ := phase_of_backend hr
        rw [hp] at hsome
        cases hsome
    | none =>
      rw [Option.getD_none]
      cases hs : e.2 with
      | none =>
        rw [hs] at h
        cases h
      | some r =>
        rw [hs] at h
        cases r with
        | backend => cases h
        | frontend => rfl

/-- and what is placed in the backend is a document or comes before what is of the frontend. -/
theorem rank_place {a : Architecture} {e : FileEntry × Option Role}
    (hrole : (place a e).role = .backend) (hdocs : (place a e).phase ≠ .docs) :
    (place a e).phase.rank ≤ Phase.backendApi.rank := by
  unfold place at hrole hdocs ⊢
  simp only at hrole hdocs ⊢
  cases hr : Role.ofPath? e.1.path with
  | some r =>
    rw [hr, Option.getD_some] at hrole
    subst hrole
    obtain ⟨p, hp, hrank⟩ := phase_of_backend hr
    rw [hp, Option.getD_some] at hdocs ⊢
    exact hrank.resolve_left hdocs
  | none =>
    rw [hr, Option.getD_none] at hrole
    cases hp : Phase.ofFile? e.1.path with
    | some p =>
      rw [hp, Option.getD_some] at hdocs
      rw [Option.getD_some, (phase_of_unowned hr hp).resolve_left hdocs]
      decide
    | none =>
      rw [Option.getD_none]
      cases hs : e.2 with
      | none => decide
      | some r =>
        rw [hs] at hrole
        cases r with
        | backend => decide
        | frontend => cases hrole

theorem placed_place (a : Architecture) (e : FileEntry × Option Role) : Placed (place a e) :=
  ⟨role_place, rank_place⟩

/-! ## Steps -/

/-- The tasks of one file of a plan. -/
structure Step where
  file : PlannedFile
  /-- The task that writes the file. -/
  write : Task
  /-- The task that installs what the file declares. -/
  install : Option Task

/-- The tasks of a step, in order. -/
def Step.tasks (s : Step) : List Task := s.write :: s.install.toList

/-- The step of a file, after some steps. -/
def stepOf (a : Architecture) (c : Chains) (f : PlannedFile) : Step where
  file := f
  write := { Task.new (c.id 1) (fileText a f) f.role with dependencies := c.dependencies f }
  install := f.install.map fun command =>
    { Task.new (c.id 2) (installText a f.entry.path command) f.role with dependencies := [c.id 1] }

/-- The steps of files in order. -/
def stepsFrom (a : Architecture) : Chains → List PlannedFile → List Step
  | _, [] => []
  | c, f :: r => stepOf a c f :: stepsFrom a (c.next f) r

theorem tasks_stepOf (a : Architecture) (c : Chains) (f : PlannedFile) :
    (stepOf a c f).tasks = fileTasks a c f := by
  unfold Step.tasks stepOf fileTasks
  cases f.install <;> rfl

theorem tasks_stepsFrom (a : Architecture) (c : Chains) (fs : List PlannedFile) :
    (stepsFrom a c fs).flatMap Step.tasks = tasksFrom a c fs := by
  induction fs generalizing c with
  | nil => rfl
  | cons f fs ih => rw [stepsFrom, List.flatMap_cons, tasks_stepOf, ih, tasksFrom]

theorem file_stepsFrom (a : Architecture) (c : Chains) (fs : List PlannedFile) :
    (stepsFrom a c fs).map (·.file) = fs := by
  induction fs generalizing c with
  | nil => rfl
  | cons f fs ih =>
    rw [stepsFrom, List.map_cons, ih]
    rfl

theorem exists_of_mem_stepsFrom {s : Step} (h : s ∈ stepsFrom a c fs) :
    ∃ f ∈ fs, ∃ c', s = stepOf a c' f := by
  induction fs generalizing c with
  | nil => cases h
  | cons f fs ih =>
    rw [stepsFrom] at h
    rcases List.mem_cons.1 h with rfl | h
    · exact ⟨f, List.mem_cons_self, c, rfl⟩
    · obtain ⟨g, hg, c', hs⟩ := ih h
      exact ⟨g, List.mem_cons_of_mem f hg, c', hs⟩

/-! ## Links -/

/-- What a step depends on: the steps before it of its role, every step before a document, and for a
script each of the backend that writes no document. -/
structure Linked (ts : List Task) (s t : Step) : Prop where
  own : s.file.role = t.file.role → TransGen (Requires ts) t.write.id s.write.id
  docs : t.file.phase = .docs → TransGen (Requires ts) t.write.id s.write.id
  script : t.file.phase = .frontendLogic → s.file.role = .backend → s.file.phase ≠ .docs →
    TransGen (Requires ts) t.write.id s.write.id

/-- Whether a cursor stands at a step or at one that depends on it. -/
def Holds (ts : List Task) (cursor : Option String) (s : Step) : Prop :=
  ∃ id, cursor = some id ∧ ReflTransGen (Requires ts) id s.write.id

/-- A cursor at a step stands for what the step depends on. -/
theorem holds_of_requires {s : Step}
    (h : TransGen (Requires ts) (stepOf a c f).write.id s.write.id) :
    Holds ts (some (c.id 1)) s :=
  ⟨c.id 1, rfl, h.to_reflTransGen⟩

/-- What the cursors say of the steps before. -/
structure Chained (ts : List Task) (c : Chains) (done : List Step) : Prop where
  backend : ∀ s ∈ done, s.file.role = .backend → Holds ts c.backend s
  frontend : ∀ s ∈ done, s.file.role = .frontend → Holds ts c.frontend s
  /-- Once a script has waited for the backend, so has all of the frontend after it. -/
  joined : c.joined = true → ∀ s ∈ done, s.file.role = .backend → s.file.phase ≠ .docs →
    Holds ts c.frontend s

theorem mem_dependencies_backend (h : f.phase = .docs ∨ f.role = .backend ∨ c.joins f = true)
    {id : String} (hid : c.backend = some id) : id ∈ c.dependencies f := by
  have hmem : id ∈ c.backend.toList := by rw [hid]; exact List.mem_singleton_self id
  unfold Chains.dependencies
  by_cases hdocs : f.phase = .docs
  · rw [if_pos hdocs]
    exact List.mem_append_left _ hmem
  · rw [if_neg hdocs]
    cases hrole : f.role with
    | backend => exact hmem
    | frontend =>
      have hjoins : c.joins f = true := by
        rcases h with h | h | h
        · exact absurd h hdocs
        · rw [hrole] at h
          cases h
        · exact h
      simp only [hjoins, if_true]
      exact List.mem_append_right _ hmem

theorem mem_dependencies_frontend (h : f.phase = .docs ∨ f.role = .frontend) {id : String}
    (hid : c.frontend = some id) : id ∈ c.dependencies f := by
  have hmem : id ∈ c.frontend.toList := by rw [hid]; exact List.mem_singleton_self id
  unfold Chains.dependencies
  by_cases hdocs : f.phase = .docs
  · rw [if_pos hdocs]
    exact List.mem_append_right _ hmem
  · rw [if_neg hdocs, h.resolve_left hdocs]
    exact List.mem_append_left _ hmem

section
variable {done : List Step} (hc : Chained ts c done) (hsub : (stepOf a c f).tasks ⊆ ts)
  (hf : Placed f)
include hsub

/-- A step depends on what a cursor stands for, if the cursor is among its dependencies. -/
theorem requires_of_holds {cursor : Option String} {s : Step} (h : Holds ts cursor s)
    (hdep : ∀ id, cursor = some id → id ∈ c.dependencies f) :
    TransGen (Requires ts) (stepOf a c f).write.id s.write.id := by
  obtain ⟨id, hid, hreach⟩ := h
  have hmem : (stepOf a c f).write ∈ ts := hsub List.mem_cons_self
  exact TransGen.head' ⟨_, hmem, rfl, hdep id hid⟩ hreach

include hc hf

/-- A step is linked to those before it. -/
theorem linked_stepOf {s : Step} (hs : s ∈ done) : Linked ts s (stepOf a c f) := by
  have hbackend : s.file.role = .backend → f.phase = .docs ∨ f.role = .backend ∨ c.joins f = true →
      TransGen (Requires ts) (stepOf a c f).write.id s.write.id := by
    intro hrole h
    exact requires_of_holds hsub (hc.backend s hs hrole) fun _ => mem_dependencies_backend h
  have hfrontend : s.file.role = .frontend → f.phase = .docs ∨ f.role = .frontend →
      TransGen (Requires ts) (stepOf a c f).write.id s.write.id := by
    intro hrole h
    exact requires_of_holds hsub (hc.frontend s hs hrole) fun _ => mem_dependencies_frontend h
  constructor
  case own =>
    intro hsame
    cases hrole : s.file.role with
    | backend => exact hbackend hrole (.inr (.inl (hsame.symm.trans hrole)))
    | frontend => exact hfrontend hrole (.inr (hsame.symm.trans hrole))
  case docs =>
    intro hdocs
    cases hrole : s.file.role with
    | backend => exact hbackend hrole (.inl hdocs)
    | frontend => exact hfrontend hrole (.inl hdocs)
  case script =>
    intro hscript hrole hdocs
    have hown : f.role = .frontend := hf.script hscript
    by_cases hjoined : c.joined = true
    · exact requires_of_holds hsub (hc.joined hjoined s hs hrole hdocs) fun _ =>
        mem_dependencies_frontend (.inr hown)
    · have hjoins : c.joins f = true := by
        have hphase : f.phase = .frontendLogic := hscript
        simp [Chains.joins, hown, hphase, hjoined]
      exact hbackend hrole (.inr (.inr hjoins))

/-- The cursor of a role goes to the step of a file of that role, and stays right. -/
theorem holds_next {r : Role} {cursor : Option String}
    (h : ∀ s ∈ done, s.file.role = r → Holds ts cursor s) {s : Step}
    (hs : s ∈ done ++ [stepOf a c f]) (hrole : s.file.role = r) :
    Holds ts (if f.role = r then some (c.id 1) else cursor) s := by
  by_cases hown : f.role = r
  · rw [if_pos hown]
    rcases List.mem_append.1 hs with hs | hs
    · have hlinked := linked_stepOf hc hsub hf hs
      exact holds_of_requires (hlinked.own (hrole.trans hown.symm))
    · rw [List.mem_singleton.1 hs]
      exact ⟨c.id 1, rfl, .refl⟩
  · rw [if_neg hown]
    rcases List.mem_append.1 hs with hs | hs
    · exact h s hs hrole
    · rw [List.mem_singleton.1 hs] at hrole
      exact absurd hrole hown

/-- The cursors stay right over a step. -/
theorem chained_next (hlate : c.joined = true → f.role = .backend → f.phase = .docs) :
    Chained ts (c.next f) (done ++ [stepOf a c f]) := by
  constructor
  case backend =>
    intro s hs hrole
    exact holds_next hc hsub hf hc.backend hs hrole
  case frontend =>
    intro s hs hrole
    exact holds_next hc hsub hf hc.frontend hs hrole
  case joined =>
    intro hjoined s hs hrole hdocs
    unfold Chains.next at hjoined ⊢
    simp only at hjoined ⊢
    by_cases hown : f.role = .frontend
    · rw [if_pos hown]
      have hs : s ∈ done := by
        rcases List.mem_append.1 hs with hs | hs
        · exact hs
        · rw [List.mem_singleton.1 hs] at hrole
          exact absurd (hrole.symm.trans hown) (by decide)
      by_cases hbefore : c.joined = true
      · exact holds_of_requires (requires_of_holds hsub (hc.joined hbefore s hs hrole hdocs) fun _ =>
          mem_dependencies_frontend (.inr hown))
      · -- this is the first script, and waits for the backend itself
        have hscript : f.phase = .frontendLogic := by
          simp only [hbefore, Chains.joins, Bool.false_or, Bool.and_eq_true, beq_iff_eq] at hjoined
          exact hjoined.2.1.2
        have hlinked := linked_stepOf hc hsub hf hs
        exact holds_of_requires (hlinked.script hscript hrole hdocs)
    · rw [if_neg hown]
      have hbackend : f.role = .backend := by
        cases hr : f.role with
        | backend => rfl
        | frontend => exact absurd hr hown
      have hbefore : c.joined = true := by
        simpa [Chains.joins, hbackend] using hjoined
      rcases List.mem_append.1 hs with hs | hs
      · exact hc.joined hbefore s hs hrole hdocs
      · rw [List.mem_singleton.1 hs] at hdocs
        exact absurd (hlate hbefore hbackend) hdocs

end

/-- In files sorted by phase every step is linked to those before it. -/
theorem linked_stepsFrom {done : List Step} (hc : Chained ts c done) (hd : done.Pairwise (Linked ts))
    (hsub : tasksFrom a c fs ⊆ ts) (hp : ∀ f ∈ fs, Placed f)
    (hsorted : fs.Pairwise fun f g => f.phase.rank ≤ g.phase.rank)
    (hlate : c.joined = true → ∀ f ∈ fs, f.role = .backend → f.phase = .docs) :
    (done ++ stepsFrom a c fs).Pairwise (Linked ts) := by
  induction fs generalizing c done with
  | nil =>
    rw [stepsFrom, List.append_nil]
    exact hd
  | cons f fs ih =>
    rw [tasksFrom, ← tasks_stepOf] at hsub
    obtain ⟨hfirst, hrest⟩ := List.pairwise_cons.1 hsorted
    have hstep : (stepOf a c f).tasks ⊆ ts := fun t ht => hsub (List.mem_append_left _ ht)
    have hf : Placed f := hp f List.mem_cons_self
    have hfs : ∀ g ∈ fs, Placed g := fun g hg => hp g (List.mem_cons_of_mem f hg)
    have hchained := chained_next hc hstep hf fun hj => hlate hj f List.mem_cons_self
    have hlinked : (done ++ [stepOf a c f]).Pairwise (Linked ts) := by
      rw [List.pairwise_append]
      refine ⟨hd, List.pairwise_singleton _ _, ?_⟩
      intro s hs t ht
      rw [List.mem_singleton.1 ht]
      exact linked_stepOf hc hstep hf hs
    have hlate' : (c.next f).joined = true → ∀ g ∈ fs, g.role = .backend → g.phase = .docs := by
      intro hjoined g hg hrole
      by_cases hbefore : c.joined = true
      · exact hlate hbefore g (List.mem_cons_of_mem f hg) hrole
      · -- after a script no phase of the backend comes but documents
        have hscript : f.phase = .frontendLogic := by
          simp only [Chains.next, hbefore, Chains.joins, Bool.false_or, Bool.and_eq_true,
            beq_iff_eq] at hjoined
          exact hjoined.2.1.2
        by_contra hdocs
        have hle := hfirst g hg
        have hge := (hfs g hg).backend hrole hdocs
        rw [hscript] at hle
        exact absurd (Nat.le_trans hle hge) (by decide)
    have hall := ih hchained hlinked (fun t ht => hsub (List.mem_append_right _ ht)) hfs hrest hlate'
    rw [List.append_assoc, List.singleton_append] at hall
    exact hall

/-! ## Leaves -/

/-- Whatever a task of a plan depends on is written by a step, or was written before. -/
theorem mem_writes_of_mem_dependencies {t : Task} {d : String} (ht : t ∈ tasksFrom a c fs)
    (hd : d ∈ t.dependencies) : d ∈ c.backend.toList ∨ d ∈ c.frontend.toList ∨
      d ∈ (stepsFrom a c fs).map (·.write.id) := by
  induction fs generalizing c with
  | nil => cases ht
  | cons f fs ih =>
    rw [stepsFrom, List.map_cons]
    rw [tasksFrom, ← tasks_stepOf, List.mem_append] at ht
    rcases ht with ht | ht
    · rcases List.mem_cons.1 ht with rfl | ht
      · rcases mem_dependencies hd with hd | hd
        · exact .inl hd
        · exact .inr (.inl hd)
      · obtain ⟨command, -, rfl⟩ := Option.map_eq_some_iff.1 (Option.mem_toList.1 ht)
        rw [List.mem_singleton.1 hd]
        exact .inr (.inr List.mem_cons_self)
    · have hcursor : ∀ {cursor : Option String} {r : Role},
          d ∈ (if f.role = r then some (c.id 1) else cursor).toList →
            d ∈ cursor.toList ∨ d = c.id 1 := by
        intro cursor r h
        by_cases hr : f.role = r
        · rw [if_pos hr] at h
          exact .inr (List.mem_singleton.1 h)
        · rw [if_neg hr] at h
          exact .inl h
      have hhead : d = c.id 1 →
          d ∈ (stepOf a c f).write.id :: (stepsFrom a (c.next f) fs).map (·.write.id) := by
        rintro rfl
        exact List.mem_cons_self
      rcases ih ht with h | h | h
      · rcases hcursor h with h | h
        · exact .inl h
        · exact .inr (.inr (hhead h))
      · rcases hcursor h with h | h
        · exact .inr (.inl h)
        · exact .inr (.inr (hhead h))
      · exact .inr (.inr (List.mem_cons_of_mem _ h))

/-- Among distinct ids, a step writes under no id under which one installs. -/
theorem write_id_ne {steps : List Step} (hn : ((steps.flatMap Step.tasks).map (·.id)).Nodup)
    {s t : Step} (hs : s ∈ steps) (ht : t ∈ steps) {u : Task} (hu : u ∈ t.install) :
    s.write.id ≠ u.id := by
  rw [List.map_flatMap, List.nodup_flatMap] at hn
  obtain ⟨hown, hcross⟩ := hn
  have hinstall : u.id ∈ t.install.toList.map (·.id) :=
    List.mem_map_of_mem (Option.mem_toList.2 hu)
  by_cases hst : s = t
  · subst hst
    have hnodup := hown s hs
    rw [Step.tasks, List.map_cons, List.nodup_cons] at hnodup
    intro he
    exact hnodup.1 (he ▸ hinstall)
  · have hsymm : Std.Symm (Function.onFun List.Disjoint fun v : Step => v.tasks.map (·.id)) :=
      ⟨fun _ _ h _ hx hy => h hy hx⟩
    have hdisjoint := hcross.forall hs ht hst
    have hwrite : s.write.id ∈ s.tasks.map (·.id) := List.mem_cons_self
    intro he
    have hmem : s.write.id ∈ t.tasks.map (·.id) := by
      rw [he]
      exact List.mem_cons_of_mem _ hinstall
    exact hdisjoint hwrite hmem

/-! ## Schedules are stable -/

/-- The files of one phase are scheduled in the order of the manifest. -/
theorem filter_schedule (hs : schedule a = .ok fs) (p : Phase) :
    fs.filter (·.phase == p) = ((sectionEntries a.files).map (place a)).filter (·.phase == p) := by
  have hperm := (perm_place hs).filter (·.phase == p)
  rw [(schedule_eq_ok.1 hs).2] at hperm ⊢
  generalize (sectionEntries a.files).map (place a) = places at hperm ⊢
  have hpair : (places.filter (·.phase == p)).Pairwise fun f g =>
      decide (f.phase.rank ≤ g.phase.rank) = true := by
    refine List.pairwise_of_forall_mem_list ?_
    intro f hf g hg
    have hfp : f.phase = p := eq_of_beq (List.mem_filter.1 hf).2
    have hgp : g.phase = p := eq_of_beq (List.mem_filter.1 hg).2
    rw [hfp, hgp]
    exact decide_eq_true (Nat.le_refl _)
  have htrans : ∀ f g k : PlannedFile, decide (f.phase.rank ≤ g.phase.rank) = true →
      decide (g.phase.rank ≤ k.phase.rank) = true → decide (f.phase.rank ≤ k.phase.rank) = true := by
    intro f g k hfg hgk
    rw [decide_eq_true_eq] at *
    omega
  have htotal : ∀ f g : PlannedFile,
      (decide (f.phase.rank ≤ g.phase.rank) || decide (g.phase.rank ≤ f.phase.rank)) = true := by
    intro f g
    rw [Bool.or_eq_true, decide_eq_true_eq, decide_eq_true_eq]
    omega
  have hsub := List.sublist_mergeSort htrans htotal hpair List.filter_sublist
  have hfiltered := hsub.filter (·.phase == p)
  rw [List.filter_filter] at hfiltered
  simp only [Bool.and_self] at hfiltered
  exact (hfiltered.eq_of_length hperm.length_eq.symm).symm

/-! ## Plans -/

/-- What the steps of a plan are. -/
structure LaidOut (a : Architecture) (ts : List Task) (steps : List Step) : Prop where
  /-- The tasks are those of the steps in order, numbered from one. -/
  tasks : ts = steps.flatMap Step.tasks
  ids : ts.map (·.id) = (List.range' 1 ts.length).map taskId
  /-- There is one step for each file of the manifest, -/
  files : (steps.map (·.file)).Perm ((sectionEntries a.files).map (place a))
  /-- in the order of phases and, within a phase, of the manifest. -/
  sorted : (steps.map (·.file)).Pairwise fun f g => f.phase.rank ≤ g.phase.rank
  stable : ∀ p, (steps.map (·.file)).filter (·.phase == p) =
    ((sectionEntries a.files).map (place a)).filter (·.phase == p)
  /-- A step writes its file. -/
  write : ∀ s ∈ steps, s.write.description = fileText a s.file ∧ s.write.role = s.file.role
  /-- A step installs exactly if its file declares packages, once the file is written. -/
  install : ∀ s ∈ steps, (s.install.isSome = true ↔ IsDependencyManifest s.file.entry.path) ∧
    ∀ u ∈ s.install, u.dependencies = [s.write.id] ∧ u.role = s.file.role ∧
      ∃ command, installCommand? s.file.entry.path = some command ∧
        u.description = installText a s.file.entry.path command
  earlier : ∀ (i : Nat) t, ts[i]? = some t → ∀ d ∈ t.dependencies,
    ∃ j < i, ∃ u, ts[j]? = some u ∧ u.id = d
  /-- Nothing waits for an install. -/
  leaf : ∀ s ∈ steps, ∀ u ∈ s.install, ∀ t ∈ ts, u.id ∉ t.dependencies
  /-- A file waits for those before it of its role, -/
  own : steps.Pairwise fun s t => s.file.role = t.file.role →
    TransGen (Requires ts) t.write.id s.write.id
  /-- a document for every file before it, -/
  docs : steps.Pairwise fun s t => t.file.phase = .docs →
    TransGen (Requires ts) t.write.id s.write.id
  /-- and a script for every file of the backend that is no document. -/
  script : ∀ s ∈ steps, ∀ t ∈ steps, t.file.phase = .frontendLogic → s.file.role = .backend →
    s.file.phase ≠ .docs → TransGen (Requires ts) t.write.id s.write.id

theorem install_of_schedule (hs : schedule a = .ok fs) {f : PlannedFile} (hf : f ∈ fs) :
    f.install = installCommand? f.entry.path := by
  obtain ⟨e, -, rfl⟩ := exists_place hs hf
  rfl

theorem linked_of_schedule (hs : schedule a = .ok fs) :
    (stepsFrom a .start fs).Pairwise (Linked (tasksFrom a .start fs)) := by
  have hplaced : ∀ f ∈ fs, Placed f := by
    intro f hf
    obtain ⟨e, -, rfl⟩ := exists_place hs hf
    exact placed_place a e
  have hstart : Chained (tasksFrom a .start fs) .start [] := by
    constructor <;> simp
  have hjoined : Chains.start.joined = true → ∀ f ∈ fs, f.role = .backend → f.phase = .docs := by
    intro h
    cases h
  exact linked_stepsFrom hstart .nil (List.Subset.refl _) hplaced (pairwise_schedule hs) hjoined

/-- A script comes after every file of the backend that is no document. -/
theorem script_of_linked {steps : List Step} (hl : steps.Pairwise (Linked ts))
    (hp : ∀ s ∈ steps, Placed s.file)
    (hsorted : steps.Pairwise fun s t => s.file.phase.rank ≤ t.file.phase.rank) {s t : Step}
    (hs : s ∈ steps) (ht : t ∈ steps) (hscript : t.file.phase = .frontendLogic)
    (hrole : s.file.role = .backend) (hdocs : s.file.phase ≠ .docs) :
    TransGen (Requires ts) t.write.id s.write.id := by
  have hrank : s.file.phase.rank < t.file.phase.rank := by
    have hle := (hp s hs).backend hrole hdocs
    rw [hscript]
    exact Nat.lt_of_le_of_lt hle (by decide)
  induction steps with
  | nil => cases hs
  | cons u r ih =>
    obtain ⟨hfirst, hrest⟩ := List.pairwise_cons.1 hl
    obtain ⟨hbefore, hafter⟩ := List.pairwise_cons.1 hsorted
    rcases List.mem_cons.1 hs with rfl | hsr
    · rcases List.mem_cons.1 ht with rfl | htr
      · exact absurd hrank (Nat.lt_irrefl _)
      · exact (hfirst t htr).script hscript hrole hdocs
    · rcases List.mem_cons.1 ht with rfl | htr
      · exact absurd (hbefore s hsr) (Nat.not_le_of_lt hrank)
      · exact ih hrest (fun v hv => hp v (List.mem_cons_of_mem u hv)) hafter hsr htr

theorem laidOut_of_schedule (hs : schedule a = .ok fs) (hne : fs ≠ []) :
    LaidOut a (tasksFrom a .start fs) (stepsFrom a .start fs) := by
  have hlinked := linked_of_schedule hs
  have hfiles := file_stepsFrom a .start fs
  have htasks := tasks_stepsFrom a .start fs
  have hcheck := (checkOrder_eq_ok.1 (checkOrder_tasksFrom hs hne)).2.1
  have hsorted := pairwise_schedule hs
  constructor
  case tasks => exact htasks.symm
  case ids => exact map_id_tasksFrom a .start fs
  case files =>
    rw [hfiles]
    exact perm_place hs
  case sorted =>
    rw [hfiles]
    exact hsorted
  case stable =>
    rw [hfiles]
    exact filter_schedule hs
  case write =>
    intro s hmem
    obtain ⟨f, -, c, rfl⟩ := exists_of_mem_stepsFrom hmem
    exact ⟨rfl, rfl⟩
  case install =>
    intro s hmem
    obtain ⟨f, hf, c, rfl⟩ := exists_of_mem_stepsFrom hmem
    have hinstall := install_of_schedule hs hf
    constructor
    · show (f.install.map _).isSome = true ↔ _
      rw [Option.isSome_map, hinstall]
      exact isSome_installCommand?
    · intro u hu
      obtain ⟨command, hcommand, rfl⟩ := Option.map_eq_some_iff.1 hu
      exact ⟨rfl, rfl, command, hinstall.symm.trans hcommand, rfl⟩
  case earlier =>
    intro i t ht d hd
    exact (hcheck i t ht d hd).resolve_left List.not_mem_nil
  case leaf =>
    intro s hmem u hu t ht hdep
    have hn := nodup_tasksFrom a .start fs
    rw [← htasks] at hn
    rcases mem_writes_of_mem_dependencies ht hdep with h | h | h
    · cases h
    · cases h
    · obtain ⟨w, hw, hid⟩ := List.mem_map.1 h
      exact write_id_ne hn hw hmem hu hid
  case own => exact hlinked.imp fun h => h.own
  case docs => exact hlinked.imp fun h => h.docs
  case script =>
    intro s hmem t ht
    refine script_of_linked hlinked ?_ ?_ hmem ht
    · intro u hu
      obtain ⟨f, hf, c, rfl⟩ := exists_of_mem_stepsFrom hu
      obtain ⟨e, -, rfl⟩ := exists_place hs hf
      exact placed_place a e
    · rw [← hfiles, List.pairwise_map] at hsorted
      exact hsorted

theorem served_iff : Served a ↔ a.hasBackend = true ∨
    ∀ e ∈ sectionEntries a.files, (place a e).role ≠ .backend := by
  unfold Served
  cases a.hasBackend with
  | true => simp
  | false => simp

/-- A plan is built exactly if there are files and a backend for those that need one. It writes each
file of the manifest once, installs what a manifest of packages declares right after it, and depends
on what comes before so that files of one role, scripts and documents find what they build on. -/
theorem build_laid_out (a : Architecture) :
    ((∃ ts, build a = .ok ts) ↔ a.files.entries ≠ [] ∧ (a.hasBackend = true ∨
      ∀ e ∈ sectionEntries a.files, (place a e).role ≠ .backend)) ∧
    ∀ ts, build a = .ok ts → ∃ steps, LaidOut a ts steps := by
  constructor
  · rw [← served_iff]
    constructor
    · rintro ⟨ts, hbuild⟩
      obtain ⟨fs, hs, hne, -⟩ := build_eq_ok.1 hbuild
      refine ⟨?_, (schedule_eq_ok.1 hs).1⟩
      intro hnil
      have hperm := perm_schedule hs
      rw [hnil] at hperm
      exact hne (List.map_eq_nil_iff.1 hperm.eq_nil)
    · rintro ⟨hentries, hserved⟩
      obtain ⟨fs, hs⟩ := exists_schedule hserved
      refine ⟨tasksFrom a .start fs, build_eq_ok.2 ⟨fs, hs, ?_, rfl⟩⟩
      rintro rfl
      exact hentries (perm_schedule hs).nil_eq.symm
  · intro ts hbuild
    obtain ⟨fs, hs, hne, rfl⟩ := build_eq_ok.1 hbuild
    exact ⟨stepsFrom a .start fs, laidOut_of_schedule hs hne⟩

end BuildLoop.Plan
