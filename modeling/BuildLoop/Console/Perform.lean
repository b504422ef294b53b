import BuildLoop.Console.Invocation
import BuildLoop.Run.Report
import BuildLoop.Run.Standard
import BuildLoop.Settings.Resolve
import BuildLoop.Settings.Variables
import BuildLoop.Text.Blank

/-!
# The program

From its arguments, its surroundings and its directory to what it prints and its exit code.

    the logs of the last verification are shown only of a run that did not pass
    a preview starts no program and changes no regular file
    0 = passed or approved,   1 = not passed, not approved or not set up,   2 = aborted
-/

namespace BuildLoop

open Text

/-! ## Summaries -/

/-- The outcome as a heading. -/
def Outcome.heading : Outcome → String
  | passed => "Passed"
  | budgetExhausted => "BudgetExhausted"
  | aborted => "Aborted"

/-- The status as a heading. -/
def TestStatus.heading : TestStatus → String
  | pending => "Pending"
  | passed => "Passed"
  | failed => "Failed"

/-- A report in a few lines. -/
def RunReport.summary (r : RunReport) : List String :=
  ["run " ++ r.runId,
    "  outcome:          " ++ r.outcome.heading,
    "  final stage:      " ++ r.stage.name,
    "  test status:      " ++ r.status.heading,
    "  iterations:       " ++ toString r.cycles,
    "  tasks:            " ++ toString r.completed ++ " completed, " ++ toString r.failed ++
      " failed, " ++ toString r.tasks.length ++ " total"] ++
  (match r.error? with
    | some e => ["  error:            " ++ e]
    | none => []) ++
  if r.isSuccess || r.logs.isEmpty then []
  else ["", "last verification output:", String.ofList (trimEnd r.logs.toList)]

namespace Console

/-! ## What is done -/

/-- What the program leaves behind when it ends. -/
structure Printed where
  exitCode : Nat
  output : String
  errors : String
  deriving DecidableEq, Repr

/-- The program cannot go on, for a reason that has a cause. -/
def Printed.ofCause (reason cause : String) : Printed :=
  let lines := (splitAtEach (· == '\n') cause.toList).map fun line => "    " ++ String.ofList line
  ⟨1, "", "Error: " ++ reason ++ "\n\nCaused by:\n" ++ unlines lines⟩

/-- The layers of settings of an invocation, the last one on top. -/
def settingsOf (h : Host) (directory : Path) (i : Invocation) (fs : Files) : List SettingsLayer := [
  .ofFile (fs.readBytes (Workspace.fromDirectory directory i.settings)).toOption,
  .ofEnvironment h.environment,
  i.layer]

/-- Builds the project of a request. -/
def build (c : RunConfig) (w : Workspace) (h : Host) (runId request : String) (json : Bool)
    (world : World) : Printed × World :=
  match Run.runStandard c w h runId request world with
  | (report, world) =>
    let output := if json then report.json.indented ++ "\n" else unlines report.summary
    (⟨report.exitCode, output, ""⟩, world)

/-- Shows what would be built for a request. -/
def preview (c : RunConfig) (w : Workspace) (h : Host) (request : String) (world : World) :
    Printed × World :=
  match (Run.preview (Run.standardRoles c w h) request).run world with
  | (.ok p, world) =>
    (⟨if p.verdict.isApproved then 0 else 1, p.json.indented ++ "\n", ""⟩, world)
  | (.error e, world) =>
    (⟨2, "", "planning failed (" ++ e.kind ++ "): " ++ e.message ++ "\n"⟩, world)

/-- Does what is asked for, in a directory. -/
def perform (h : Host) (directory : Path) (runId : String) (i : Invocation) (world : World) :
    Printed × World :=
  match SettingsLayer.resolve (settingsOf h directory i world.files) with
  | .error cause => (.ofCause "invalid configuration" cause, world)
  | .ok c =>
    match Workspace.establish .standard world.files directory i.directory with
    | (.error e, files) =>
      (.ofCause ("cannot use " ++ i.directory ++ " as project root") e.text, { world with files })
    | (.ok w, files) =>
      match i.purpose with
      | .build json => build c w h runId i.request json { world with files }
      | .preview => preview c w h i.request { world with files }

/-- The whole program, in a directory. Variables may be set in a file there. -/
def execute (h : Host) (directory : Path) (runId : String) (args : List String) (world : World) :
    Printed × World :=
  match Invocation.parse? args with
  | none => (⟨2, "", "error: the arguments are not understood\n"⟩, world)
  | some i =>
    let environment := Variables.inDirectory h.environment world.files directory
    perform { h with environment } directory runId i world

end Console

end BuildLoop
