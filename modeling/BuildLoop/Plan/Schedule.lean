import BuildLoop.Architecture
import BuildLoop.Task.Phase

/-!
# Schedules

The files of an architecture in the order in which they are written: by phase and, within a phase,
as the manifest lists them. A file that sets up a package manager is followed by an install.

    schedule a = ok fs   →   fs is a permutation of the manifest, sorted by phase
-/

namespace BuildLoop.Plan

open Text

/-- A file of the manifest with its place in a plan. -/
structure PlannedFile where
  entry : FileEntry
  phase : Phase
  role : Role
  /-- The command that installs what the file declares. -/
  install : Option String
  deriving DecidableEq, Repr

/-- The entries of the manifest with the role that owns their section, if one does. -/
def sectionEntries (f : FileStructure) : List (FileEntry × Option Role) :=
  f.backend.map (·, some .backend) ++ f.frontend.map (·, some .frontend) ++ f.config.map (·, none)

/-- The phase of a file whose path does not tell. -/
def sectionPhase : Option Role → Phase
  | some .backend => .backendCore
  | some .frontend => .frontendLogic
  | none => .setup

/-- The role of a file whose path does not tell. -/
def sectionRole (hasBackend : Bool) : Option Role → Role
  | some r => r
  | none => if hasBackend then .backend else .frontend

/-- The command that installs the packages that a file declares. -/
def installCommand? (path : String) : Option String :=
  let name := baseName path
  if name = "requirements.txt" then some "pip install -r requirements.txt"
  else if name = "package.json" ∧ Role.ofPath? path = some .backend then some "npm install"
  else none

/-- Gives a file its place. A backend file needs a backend. -/
def planFile (a : Architecture) (e : FileEntry × Option Role) : Except Failure PlannedFile :=
  let path := e.1.path
  let role := (Role.ofPath? path).getD (sectionRole a.hasBackend e.2)
  if role = .backend ∧ a.hasBackend = false then
    .error (.planning ("manifest lists backend file '" ++ path ++ "' but the backend is '" ++
      a.stack.backend ++ "'"))
  else .ok ⟨e.1, (Phase.ofFile? path).getD (sectionPhase e.2), role, installCommand? path⟩

/-- The files in the order in which they are written. -/
def schedule (a : Architecture) : Except Failure (List PlannedFile) :=
  ((sectionEntries a.files).mapM (planFile a)).map fun fs =>
    fs.mergeSort fun f g => decide (f.phase.rank ≤ g.phase.rank)

end BuildLoop.Plan
