import BuildLoop.Proofs.Request.Design
import BuildLoop.Proofs.Request.Directive
import BuildLoop.Proofs.Request.Page
import BuildLoop.Proofs.Run.Relay
import BuildLoop.Proofs.Worker.Scaffolding

/-!
# The plan of a request without a server

It has four files, in the order of the manifest, and one task for each, which waits for the one before it.
Each task names its file first, and tells no command unless the first sentence of the overview does:

    schedule (clientOnly request) = ok clientFiles                               (schedule_clientOnly)
    the tasks are a row                                                                (row_clientTasks)
-/

namespace BuildLoop.Design

open Text Plan Worker

variable (request : String)

/-- The page, -/
def pageFile : PlannedFile :=
  ⟨⟨"index.html", "Complete HTML structure and UI elements"⟩, .frontendStructure, .frontend, none⟩

/-- its stylesheet, -/
def styleFile : PlannedFile := ⟨⟨"style.css", "All styling, responsive layout"⟩, .frontendStyle, .frontend, none⟩

/-- its script -/
def scriptFile : PlannedFile :=
  ⟨⟨"script.js", "All application logic and DOM event handlers"⟩, .frontendLogic, .frontend, none⟩

/-- and the manual. -/
def manualFile : PlannedFile := ⟨⟨"README.md", "How to open and use the app"⟩, .docs, .frontend, none⟩

/-- The files of a request without a server, in the order of the plan. -/
def clientFiles : List PlannedFile := [pageFile, styleFile, scriptFile, manualFile]

theorem map_place_clientOnly :
    (sectionEntries (clientOnly request).files).map (place (clientOnly request)) = clientFiles := by
  have hentries : sectionEntries (clientOnly request).files = clientFiles.map fun f =>
      (f.entry, if f.phase = .docs then none else some .frontend) := rfl
  have hplace : ∀ e, place (clientOnly request) e = ⟨e.1, (Phase.ofFile? e.1.path).getD (sectionPhase e.2),
      (Role.ofPath? e.1.path).getD (sectionRole false e.2), installCommand? e.1.path⟩ := by
    intro e
    unfold place
    rw [hasBackend_clientOnly]
  rw [hentries, List.map_congr_left fun e _ => hplace e]
  decide +kernel

theorem schedule_clientOnly : schedule (clientOnly request) = .ok clientFiles := by
  have hsorted : clientFiles.Pairwise fun f g => decide (f.phase.rank ≤ g.phase.rank) = true := by decide
  rw [schedule_eq_ok, map_place_clientOnly]
  exact ⟨served_clientOnly, (List.mergeSort_of_pairwise hsorted).symm⟩

/-- The task for a file, which waits for some others. -/
def clientTask (n : Nat) (f : PlannedFile) (deps : List String) : Task :=
  { Task.new ("task_" ++ toString n) (fileText (clientOnly request) f) .frontend with dependencies := deps }

/-- The plan of a request without a server. -/
def clientTasks : List Task := [clientTask request 1 pageFile [], clientTask request 2 styleFile ["task_1"],
  clientTask request 3 scriptFile ["task_2"], clientTask request 4 manualFile ["task_3"]]

theorem tasksFrom_clientFiles : tasksFrom (clientOnly request) .start clientFiles = clientTasks request := rfl

theorem build_clientOnly : build (clientOnly request) = .ok (clientTasks request) ∧
    checkOrder (clientOnly request) (clientTasks request) = .ok () ∧
    ∃ s, validate (clientTasks request) = .approved s := by
  obtain ⟨fs, hs, -, hbuild, hcheck, happroved⟩ := (plannable_clientOnly request).planned
  obtain rfl : clientFiles = fs := Except.ok.inj ((schedule_clientOnly request).symm.trans hs)
  rw [tasksFrom_clientFiles] at hbuild hcheck happroved
  exact ⟨hbuild, hcheck, happroved⟩

theorem row_clientTasks : Dispatch.Row [] (clientTasks request) := by
  refine ⟨?_, ?_, ?_, ?_, trivial⟩ <;> rfl

/-! ## What the tasks say -/

theorem description_page : (clientTask request 1 pageFile []).description = pageTask request := by
  show fileText (clientOnly request) pageFile = pageTask request
  unfold fileText
  rw [if_neg (by decide), if_neg (by decide), if_neg (by decide)]
  rfl

variable {request}

theorem asks_clientTask (hquiet : directive? (firstSentence (clientOnly request).overview) = none)
    {f : PlannedFile} (hf : f ∈ clientFiles) (n : Nat) (deps : List String) :
    Asks (clientTask request n f deps) f.entry.path := by
  have hknown : ∀ f ∈ clientFiles, f.entry.path ∈ knownPaths ∧ unquoted f.entry.path = true ∧
      unquoted f.entry.purpose = true := by decide +kernel
  obtain ⟨hpath, hunquoted⟩ := hknown f hf
  constructor
  · exact (opens_fileText (clientOnly request) f).head?_mentioned (settles_creation _ hpath)
  · have hdirective := isSome_directive_fileText (quiet_clientOnly request) hunquoted
    rw [hquiet, Option.isSome_none, Bool.and_false, Option.isSome_eq_false_iff] at hdirective
    exact Option.isNone_iff_eq_none.1 hdirective

end BuildLoop.Design
