import BuildLoop.Proofs.Run.Step
import BuildLoop.Worker.Scaffolding

/-!
# Work from templates

A task that names a file first and tells no command asks for that file. The worker that writes files from
templates answers it with what the template gives, as far as the workspace takes it:

    Asks t f, render … = ok s, w.write … f s = (ok …, fs')    →   it reports, with the files fs'
                                                                                       (run_scaffold_of_ok)
    Asks t f, render … = ok s, w.write … f s = (error e, …)   →   it fails with e   (run_scaffold_of_error)

A task that tells a command in a place outside the project fails with that    (run_scaffold_of_unresolved).
-/

namespace BuildLoop.Worker

open Text

/-- Whether a task asks for a file from a template: it names the file first and tells no command. -/
structure Asks (t : Task) (f : String) : Prop where
  file : t.primaryFile? = some f
  quiet : directive? t.description = none

theorem Asks.begin {t : Task} {f : String} (h : Asks t f) : Asks t.begin f := ⟨h.file, h.quiet⟩

variable {w : Workspace} {h : Host} {world : World} {t : Task} {f body : String}

/-! ## Files and commands -/

theorem run_writing {path content : String} {r : Except Failure Receipt} {files : Files}
    (hwrite : w.write world.files path content = (r, files)) :
    (w.writing path content).run world = (r, { world with files }) := by
  unfold Workspace.writing
  exact congrArg (fun written => (written.1, { world with files := written.2 })) hwrite

section
variable {ms : Nat} {command dir : String} {world' : World}

theorem run_runChecked_of_error {e : Failure} (hrun : w.run h world command dir ms = (.error e, world')) :
    (runChecked w h t.id command dir ms).run world = (.error e, world') := by
  have hrunning : (w.running h command dir ms).run world = (.error e, world') := hrun
  unfold runChecked
  rw [Run.run_bind_error hrunning]

end

/-! ## Templates -/

section
variable (hfile : t.primaryFile? = some f) (hrender : Scaffold.render (contextOf w world.files t f) = .ok body)
include hfile hrender

theorem run_writeScaffold_eq : (writeScaffold w t).run world =
    (do
      let receipt ← w.writing f body
      return { WorkerReport.new t.id with
        filesWritten := [receipt.path]
        notes := if t.isCorrective then ["regenerated " ++ f ++ " from template"] else [] } :
      Act World WorkerReport).run world := by
  have hget : (get : Act World World).run world = (.ok world, world) := rfl
  unfold writeScaffold
  simp only [hfile]
  rw [Run.run_bind_ok hget]
  simp only [hrender]

theorem run_writeScaffold_of_ok {receipt : Receipt} {files : Files}
    (hwrite : w.write world.files f body = (.ok receipt, files)) :
    ∃ report, (writeScaffold w t).run world = (.ok report, { world with files }) := by
  rw [run_writeScaffold_eq hfile hrender, Run.run_bind_ok (run_writing hwrite)]
  exact ⟨_, rfl⟩

theorem run_writeScaffold_of_error {e : Failure} (hwrite : w.write world.files f body = (.error e, world.files)) :
    (writeScaffold w t).run world = (.error e, world) := by
  rw [run_writeScaffold_eq hfile hrender, Run.run_bind_error (run_writing hwrite)]

end

theorem Asks.scaffold_eq (ht : Asks t f) (ms : Nat) : scaffold w h ms t = writeScaffold w t := by
  unfold scaffold
  rw [ht.quiet]

section
variable {ms : Nat} (ht : Asks t f) (hrender : Scaffold.render (contextOf w world.files t f) = .ok body)
include ht hrender

theorem run_scaffold_of_ok {receipt : Receipt} {files : Files}
    (hwrite : w.write world.files f body = (.ok receipt, files)) :
    ∃ report, (scaffold w h ms t).run world = (.ok report, { world with files }) := by
  rw [ht.scaffold_eq]
  exact run_writeScaffold_of_ok ht.file hrender hwrite

theorem run_scaffold_of_error {e : Failure} (hwrite : w.write world.files f body = (.error e, world.files)) :
    (scaffold w h ms t).run world = (.error e, world) := by
  rw [ht.scaffold_eq]
  exact run_writeScaffold_of_error ht.file hrender hwrite

end

/-- A command in a place that the workspace does not resolve is refused. -/
theorem run_scaffold_of_unresolved {ms : Nat} {command dir : String} {e : Failure}
    (hdirective : directive? t.description = some (command, dir)) (hresolve : w.resolve world.files dir = .error e) :
    (scaffold w h ms t).run world = (.error e, world) := by
  have hrun : w.run h world command dir ms = (.error e, world) := by
    unfold Workspace.run Workspace.permitted
    rw [hresolve]
    rfl
  unfold scaffold
  simp only [hdirective]
  rw [Run.run_bind_error (run_runChecked_of_error hrun)]

end BuildLoop.Worker
