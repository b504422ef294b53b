import BuildLoop.Proofs.Worker.Scaffolding
import BuildLoop.Proofs.Workspace.Write

/-!
# Plans of actions

A plan is carried out action by action, up to the first that fails. An action is carried out or fails in
the world that those before it lead to, and which of the two, and how the world is afterwards, depends on
nothing else:

    Done world a world'           →   carrying out a :: rest goes on with rest in world'   (run_perform_of_done)
    Fails world a e world'        →   carrying out a :: rest ends with e in world'        (run_perform_of_fails)
    Fails world a e world'        →   Leaves world a world'                                     (Fails.leaves)
    Carries world actions world'  →   the report tells every action                        (run_perform_of_carries)

What a failing action leaves is no file of its own: a write leaves at most directories, a command what the one
program that was started for it did.
-/

namespace BuildLoop

namespace WorkerAction

/-- The path of a written file as a report shows it: its place, relative to the root. -/
def shownPath? (w : Workspace) : WorkerAction → Option String
  | writeFile path _ =>
    (Workspace.climb (if Workspace.isAbsolute path then [] else w.root) (Workspace.namesIn path)).map w.below
  | runCommand .. => none

/-- The command that is run. -/
def command? : WorkerAction → Option String
  | writeFile .. => none
  | runCommand command _ => some command

end WorkerAction

/-- A report with one more action in it. -/
def WorkerReport.tell (r : WorkerReport) (w : Workspace) (a : WorkerAction) : WorkerReport :=
  { r with
    filesWritten := r.filesWritten ++ (a.shownPath? w).toList
    commandsRun := r.commandsRun ++ a.command?.toList }

namespace Worker

variable {w : Workspace} {h : Host} {ms : Nat} {t : Task} {world world' reached : World} {a : WorkerAction}
  {actions : List WorkerAction} {e : Failure}

/-! ## One action -/

/-- Whether an action is carried out in a world, which leads to another. -/
inductive Done (w : Workspace) (h : Host) (ms : Nat) (world : World) : WorkerAction → World → Prop
  | write {path content : String} {receipt : Receipt} {files : Files}
      (hwrite : w.write world.files path content = (.ok receipt, files)) :
      Done w h ms world (.writeFile path content) { world with files }
  | run {command : String} {workdir : Option String} {output : CommandOutput} {world' : World}
      (hrun : w.run h world command (workdir.getD ".") ms = (.ok output, world')) (hexit : output.success = true) :
      Done w h ms world (.runCommand command workdir) world'

theorem Done.unique {last : World} (hdone : Done w h ms world a world') (hdone' : Done w h ms world a last) :
    last = world' := by
  cases hdone with
  | write hwrite =>
    cases hdone' with
    | write hwrite' =>
      rw [hwrite] at hwrite'
      cases hwrite'
      rfl
  | run hrun _ =>
    cases hdone' with
    | run hrun' _ =>
      rw [hrun] at hrun'
      cases hrun'
      rfl

/-- What may be left of an action: of a write no file, of a command what one program did that was started
for it. -/
def Leaves (w : Workspace) (h : Host) (world : World) : WorkerAction → World → Prop
  | .writeFile .., world' => (∃ files, world' = { world with files }) ∧
      ∀ q, world'.files.content? q = world.files.content? q
  | .runCommand .., world' => world' = world ∨
      ∃ call, w.Startable world.files call ∧ Workspace.Started h world world' call

end Worker

end BuildLoop
