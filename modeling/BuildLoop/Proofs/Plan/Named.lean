import BuildLoop.Proofs.Plan.Built
import BuildLoop.Proofs.Plan.Layout
import BuildLoop.Proofs.Run.Frontier
import BuildLoop.Proofs.Task.Named
import BuildLoop.Proofs.Worker.Scaffolding

/-!
# Which files a plan is about

A plan tells each file of the manifest to a task, in words. Whoever reads the task again takes the first
file that these words name. That is the file of the manifest exactly if its path is one that a text can
name; a logo or a file called like a library is not found again:

    Settles (creation path) path   ↔   NamedPath path                          (settles_creation_iff)
    the task of a step names its file first   ↔   the file's path is such a path       (build_names_files)
-/

namespace BuildLoop.Plan

open Text Dispatch Worker

variable {a : Architecture} {ts : List Task}

/-- The creation of a file names it first exactly if a text can name it. -/
theorem settles_creation_iff {path : String} : Settles (creation path) path ↔ NamedPath path.toList := by
  have hopening : IsOpening "Create ".toList := by decide
  exact settles_iff hopening

/-- What reads a task takes it to be about a file. -/
structure ActsOn (t : Task) (path : String) : Prop where
  primary : t.primaryFile? = some path
  /-- The phase of the task is the file's, -/
  phase : Phase.ofTask? t = Phase.ofFile? path
  /-- and so is its role, if the file tells one. -/
  role : roleReason? t = none
  /-- A wave takes the task only if no other task of the wave has the file, and keeps the file for it. -/
  claim : ∀ (w : WorkflowState) (claimed : List String) (id : String) (rest : List String),
    w.task? id = some t → isReady w id = true →
      (frontierFrom w claimed (id :: rest)).ready =
        if claimed.contains path then (frontierFrom w claimed rest).ready
        else id :: (frontierFrom w (path :: claimed) rest).ready
  /-- The template for the task is the file's, and is written to the file. -/
  write : ∀ (w : Workspace) (world : World) (body : String) (receipt : Receipt) (files : Files),
    Scaffold.render (contextOf w world.files t path) = .ok body →
      w.write world.files path body = (.ok receipt, files) →
        ∃ report, (writeScaffold w t).run world = (.ok report, { world with files })

theorem actsOn_of_primaryFile {t : Task} {path : String} (h : t.primaryFile? = some path)
    (hrole : ∀ r, Role.ofPath? path = some r → r = t.role) : ActsOn t path := by
  constructor
  case primary => exact h
  case phase =>
    unfold Phase.ofTask?
    rw [h, Option.bind_some]
  case role =>
    unfold roleReason?
    rw [h]
    cases hr : Role.ofPath? path with
    | none => simp [hr]
    | some r => simp [hr, hrole r hr]
  case claim =>
    intro w claimed id rest ht hready
    have hfile : fileOf? w id = some path := by rw [fileOf?, ht, Option.bind_some, h]
    rw [ready_cons, if_pos hready, hfile]
  case write =>
    intro w world body receipt files hrender hwrite
    exact run_writeScaffold_of_ok h hrender hwrite

/-- A plan writes each file of the manifest by one task. The task is about the file, for whatever reads
it, exactly if the file's path is one that a text can name. -/
theorem build_names_files (h : build a = .ok ts) : ∃ steps, LaidOut a ts steps ∧
    (steps.map (·.file.entry)).Perm a.files.entries ∧
    ∀ s ∈ steps, (s.write.primaryFile? = some s.file.entry.path ↔ NamedPath s.file.entry.path.toList) ∧
      (NamedPath s.file.entry.path.toList → ActsOn s.write s.file.entry.path) := by
  obtain ⟨fs, hs, hne, rfl⟩ := build_eq_ok.1 h
  have hlaid := laidOut_of_schedule hs hne
  have hfiles := file_stepsFrom a .start fs
  refine ⟨stepsFrom a .start fs, hlaid, ?_, ?_⟩
  · have hentries : (stepsFrom a .start fs).map (·.file.entry) = fs.map (·.entry) := by
      conv_rhs => rw [← hfiles, List.map_map]
      rfl
    rw [hentries]
    exact perm_schedule hs
  · intro s hmem
    obtain ⟨htext, hrole⟩ := hlaid.write s hmem
    have hfile : s.file ∈ fs := hfiles ▸ List.mem_map_of_mem hmem
    have hprimary : NamedPath s.file.entry.path.toList → s.write.primaryFile? = some s.file.entry.path := by
      intro hnamed
      have hopens := opens_fileText a s.file
      rw [← htext] at hopens
      exact hopens.head?_mentioned (settles_creation_iff.2 hnamed)
    refine ⟨⟨fun hfirst => namedPath_of_mentioned (List.mem_of_mem_head? hfirst), hprimary⟩, fun hnamed => ?_⟩
    refine actsOn_of_primaryFile (hprimary hnamed) fun r hr => ?_
    rw [hrole, role_of_schedule hs hfile hr]

/-- A page that draws a chart by a script of its own, called like a library. -/
def chartPage : Architecture where
  stack := ⟨"none", "HTML/CSS/JavaScript (Vanilla)", "none", []⟩
  overview := "A page that draws a chart."
  files := ⟨[], [⟨"index.html", "Page"⟩, ⟨"chart.js", "Draws the chart"⟩], []⟩
  dependencies := ⟨[], []⟩
  endpoints := []
  dataFlow := "The script draws the chart into the page."
  instructions := "Open index.html."

theorem exists_build_chartPage : ∃ ts, build chartPage = .ok ts := by
  have hserved : Served chartPage := by
    unfold Served
    decide +kernel
  obtain ⟨fs, hs⟩ := exists_schedule hserved
  refine ⟨tasksFrom chartPage .start fs, build_eq_ok.2 ⟨fs, hs, ?_, rfl⟩⟩
  rintro rfl
  cases (perm_schedule hs).nil_eq

/-- The page is written by a task about it, the script by a task that does not name it. -/
theorem build_chartPage_names_files : ∃ ts, build chartPage = .ok ts ∧ ∃ steps, LaidOut chartPage ts steps ∧
    (steps.map (·.file.entry)).Perm chartPage.files.entries ∧
    ∀ s ∈ steps, (s.write.primaryFile? = some s.file.entry.path ↔ NamedPath s.file.entry.path.toList) ∧
      (NamedPath s.file.entry.path.toList → ActsOn s.write s.file.entry.path) := by
  obtain ⟨ts, hts⟩ := exists_build_chartPage
  exact ⟨ts, hts, build_names_files hts⟩

/-- No task of an accepted architecture need be about a file of its manifest. -/
theorem exists_file_unnamed : ¬ ∀ (a : Architecture) (ts : List Task), a.validate = .ok () → build a = .ok ts →
    ∀ e ∈ a.files.entries, ∃ t ∈ ts, t.primaryFile? = some e.path := by
  intro h
  obtain ⟨ts, hts⟩ := exists_build_chartPage
  obtain ⟨t, -, ht⟩ := h chartPage ts (by decide) hts ⟨"chart.js", "Draws the chart"⟩ (by decide)
  have hnamed : NamedPath "chart.js".toList := namedPath_of_mentioned (List.mem_of_mem_head? ht)
  exact hnamed.foreign (by decide)

end BuildLoop.Plan
