import BuildLoop.Run.Standard
import BuildLoop.Service.Message
import BuildLoop.Service.Path

/-!
# The service

The service starts runs and lets clients follow them. Each run has a directory of its own below the
service's, named by the client or by the run's id, and goes on in the background: a request sees it
either under way or over.

    handle s id m fs has at most one run more than s, and only for a request that posts to all runs
    a run's directory is a child of the service's directory
-/

namespace BuildLoop.Service

open Text Json

/-- A run of the service. -/
structure RunRecord where
  id : String
  requirements : String
  config : RunConfig
  workspace : Workspace
  feed : Feed Event
  /-- The report, once the run is over. -/
  report : Option RunReport

namespace RunRecord

/-- How the run stands. -/
def status (r : RunRecord) : String :=
  match r.report with
  | some report => report.outcome.name
  | none => "running"

/-- The members that tell of a run in short. -/
def summary (r : RunRecord) : List (String × Json) := [
  ("id", .text r.id),
  ("requirements", .text r.requirements),
  ("project_root", .text (Path.text r.workspace.root)),
  ("status", .text r.status),
  ("iteration_count", optionalNat (r.report.map (·.cycles)))]

/-- All that is told of a run. -/
def detail (r : RunRecord) : Json :=
  .object (r.summary ++ [("report", (r.report.map RunReport.json).getD .null)])

/-- Brings a run to its end. -/
def complete (r : RunRecord) (h : Host) (world : World) : RunRecord × World :=
  if r.report.isSome then (r, world)
  else
    let (report, world) := Run.runStandard r.config r.workspace h r.id r.requirements world
    ({ r with
        feed := r.feed.forward (report.events.zipIdx.map fun p => (p.2, p.1))
        report := some report }, world)

end RunRecord

/-- What the service knows. -/
structure Runs where
  /-- What every run starts from. -/
  config : RunConfig
  /-- The directory of the runs' directories. -/
  directory : Path
  /-- The runs in the order in which they were started. -/
  records : List RunRecord

namespace Runs

/-- A service that has no run yet. -/
def new (config : RunConfig) (directory : Path) : Runs := ⟨config, directory, []⟩

/-- The run with an id. -/
def find? (s : Runs) (id : String) : Option RunRecord := s.records.find? (·.id == id)

/-! ## New runs -/

/-- Whether a name may be the name of a project's directory. -/
def isProjectName (name : String) : Bool :=
  !name.isEmpty && name.utf8ByteSize ≤ 64 &&
    name.toList.all fun c => c.isAlphanum || c == '-' || c == '_'

/-- The configuration of a new run. -/
def configFor (s : Runs) (o : RunOrder) : RunConfig :=
  { s.config with maxCycles := o.maxCycles.getD s.config.maxCycles }

/-- Starts a run, under an id that no run has. -/
def create (s : Runs) (id : String) (o : RunOrder) (fs : Files) : Answer × Runs × Files :=
  let project := o.project.getD id
  if isBlankText o.requirements then
    (.ofError 400 "requirements must not be empty", s, fs)
  else if !isProjectName project then
    (.ofError 400 ("invalid project name '" ++ project ++ "': use letters, digits, '-' and '_'"), s,
      fs)
  else
    match Workspace.establish .standard fs s.directory project with
    | (.error e, fs) => (.ofError 500 e.text, s, fs)
    | (.ok workspace, fs) =>
      let r : RunRecord := ⟨id, o.requirements, s.configFor o, workspace, .empty, none⟩
      (.ofJson 202 (.object r.summary), { s with records := s.records ++ [r] }, fs)

/-! ## Requests -/

/-- All runs in short, by id. -/
def list (s : Runs) : Answer :=
  let records := s.records.mergeSort fun a b => decide (a.id ≤ b.id)
  .ofJson 200 (.list (records.map fun r => .object r.summary))

/-- Answers about the run of a name in a path. -/
def onRun (s : Runs) (part : String) (answer : RunRecord → Answer) : Answer :=
  match partName? part with
  | none => ⟨400, .text "Invalid URL: Invalid UTF-8 in `id`"⟩
  | some id =>
    match s.find? id with
    | some r => answer r
    | none => .ofError 404 ("no run with id '" ++ id ++ "'")

/-- The answer to a request that only looks. -/
def look (s : Runs) : Route → Answer
  | .runs => s.list
  | .run part => s.onRun part fun r => .ofJson 200 r.detail
  | .events part => s.onRun part fun r => ⟨200, .events r.id r.feed.join⟩

/-- Answers a request; a run that it starts gets the id. -/
def handle (s : Runs) (id : String) (m : Message) (fs : Files) : Answer × Runs × Files :=
  match route? m.path with
  | none => (.bare 404, s, fs)
  | some route =>
    if m.method = "GET" then (s.look route, s, fs)
    else if m.method = "HEAD" then (.bare (s.look route).status, s, fs)
    else if m.method = "POST" ∧ route = .runs then
      match readOrder m.body with
      | .error answer => (answer, s, fs)
      | .ok order => s.create id order fs
    else (.bare 405, s, fs)

/-! ## The background -/

/-- Replaces the run with an id. -/
def update (s : Runs) (r : RunRecord) : Runs :=
  { s with records := s.records.map fun q => if q.id = r.id then r else q }

/-- Brings the run with an id to its end. -/
def complete (s : Runs) (h : Host) (id : String) (world : World) : Runs × World :=
  match s.find? id with
  | none => (s, world)
  | some r =>
    match r.complete h world with
    | (r, world) => (s.update r, world)

/-- What a client has been shown of the events of a run. -/
def shown (s : Runs) (id : String) (subscription : Subscription Event) : List (Nat × Event) :=
  match s.find? id with
  | none => []
  | some r => r.feed.shown (fun e => e.kind.isFinal) subscription

end Runs

end BuildLoop.Service
