import BuildLoop.Diagnosis.Finding
import BuildLoop.Json.Form
import BuildLoop.Task.Phase
import BuildLoop.Task.Record
import BuildLoop.Text.Fresh

/-!
# Corrections

The one task that corrects a finding: what it says, its id and its role. A correction that a model
proposes is brought into the same form: an id of its own and the role that owns its file.

    correctiveId n ids ∉ ids
    (diagnose logs a n ids).task.fault = some (analyze logs a).kind
-/

namespace BuildLoop

open Text Json

/-- What one failed verification calls for. -/
structure Diagnosis where
  fault : Fault
  file : Option String
  line : Option Nat
  message : String
  task : Task
  deriving DecidableEq, Repr

/-- The diagnosis as a JSON value. -/
def Diagnosis.json (d : Diagnosis) : Json := .object [
  ("error_type", toJson d.fault),
  ("file", optionalText d.file),
  ("line", optionalNat d.line),
  ("message", .text d.message),
  ("task", toJson d.task)]

/-- A correction as a model proposes it. -/
structure ProposedFix where
  id : String
  description : String
  role : Role
  fault : Fault
  file : Option String
  line : Option Nat
  deriving DecidableEq, Repr

instance : Form ProposedFix where
  shape := .record "DiagnosisOutput" (.ofList [
    ("id", .text, .required),
    ("description", .text, .required),
    ("assigned_agent", Form.shape Role, .required),
    ("error_type", Form.shape Fault, .required),
    ("file", .optional .text, .default .null),
    ("line", .optional countShape, .default .null)])
  toJson p := .object [
    ("id", toJson p.id),
    ("description", toJson p.description),
    ("assigned_agent", toJson p.role),
    ("error_type", toJson p.fault),
    ("file", toJson p.file),
    ("line", optionalNat p.line)]
  ofJson? j := do
    some {
      id := ← get? j "id"
      description := ← get? j "description"
      role := ← get? j "assigned_agent"
      fault := ← get? j "error_type"
      file := ← get? j "file"
      line := (← j.field? "line").asNat? }

namespace Diagnosis

/-! ## What a correction says -/

/-- The stack, the overview's first sentence and the endpoints. -/
def background (a : Architecture) : String :=
  "Stack: backend " ++ a.stack.backend ++ "; frontend " ++ a.stack.frontend ++ "; database " ++
    a.stack.database ++ ". " ++ firstSentence a.overview ++
    (if a.endpoints.isEmpty then ""
    else " Endpoints: " ++
      ", ".intercalate (a.endpoints.map fun e => e.method ++ " " ++ e.path) ++ ".")

/-- The directory of the first file of the manifest with a name. -/
def manifestDir? (a : Architecture) (name : String) : Option String :=
  (a.files.paths.find? (baseName · == name)).map parentDir

/-- What an install task says. -/
def installText (a : Architecture) (isNode : Bool) (package : String) : String :=
  let manifest := if isNode then "package.json" else "requirements.txt"
  let tool := if isNode then "npm install" else "pip install"
  let label := if isNode then "Node.js package" else "Python dependency"
  let dir := (manifestDir? a manifest).getD "backend"
  "Install missing " ++ label ++ " '" ++ package ++ "' by running '" ++ tool ++ " " ++ package ++
    "' in " ++ (if dir.isEmpty then "the project root" else dir ++ "/") ++ " and add it to " ++
    (if dir.isEmpty then manifest else dir ++ "/" ++ manifest) ++ "."

/-- What the task for a finding says. -/
def describe (f : Finding) (a : Architecture) : String :=
  let place := match f.line with
    | some n => " at line " ++ toString n
    | none => ""
  let file := f.file.getD "the entry point"
  let tail := background a
  match f.kind with
  | .missingDependency =>
    installText a (startsWith f.message "Cannot find module") (f.package.getD "")
  | .missingFile =>
    "Create missing file " ++ file ++ " as a complete, working file (" ++ f.message ++ "). " ++ tail
  | .syntaxError =>
    "Rewrite " ++ file ++ " as a complete, valid file, fixing the syntax error" ++ place ++ ": " ++
      f.message ++ ". " ++ tail
  | .importError =>
    "Fix " ++ file ++ place ++ ": " ++ f.message ++
      ". Define or correctly import every name it uses. " ++ tail
  | .configurationError =>
    "Fix the configuration of " ++ file ++ ": " ++ f.message ++
      ". Read the port from the PORT environment variable (default 8000) and start the server " ++
      "only when run directly. " ++ tail
  | .runtimeError =>
    "Fix " ++ file ++ place ++ ": " ++ f.message ++
      ". Start any server only under the main guard, never on import. " ++ tail

/-! ## Its id and its role -/

/-- The `n`-th id. -/
def fixId (n : Nat) : String := "fix_" ++ toString n

/-- The first free id from the cycle's number on. -/
def correctiveId (cycle : Nat) (taken : List String) : String :=
  fresh fixId taken (max cycle 1)

/-- The role that owns a correction. -/
def correctiveRole (fault : Fault) (file : Option String) (a : Architecture) : Role :=
  if fault.isEnvironment && a.hasBackend then .backend
  else (file.bind Role.ofPath?).getD (if a.hasBackend then .backend else .frontend)

/-! ## Diagnoses -/

/-- The task that corrects a finding. -/
def correction (f : Finding) (a : Architecture) (cycle : Nat) (taken : List String) : Task :=
  { Task.new (correctiveId cycle taken) (describe f a) (correctiveRole f.kind f.file a) with
    fault := some f.kind }

/-- The diagnosis of the logs of a failed check. -/
def diagnose (logs : String) (a : Architecture) (cycle : Nat) (taken : List String) : Diagnosis :=
  let f := analyze logs a
  ⟨f.kind, f.file, f.line, f.message, correction f a cycle taken⟩

/-- The diagnosis of a proposed correction: with an id of its own and, if it names a file, with the
role that owns the file. -/
def finalize (p : ProposedFix) (a : Architecture) (cycle : Nat) (taken : List String) :
    Except Failure Diagnosis :=
  if isBlankText p.description then
    .error (.answer "debugger" "corrective task has an empty description")
  else
    let id := if isBlankText p.id || taken.contains p.id then correctiveId cycle taken else p.id
    let task := { Task.new id p.description p.role with fault := some p.fault }
    let file := p.file.or task.primaryFile?
    let role := if file.isSome then correctiveRole p.fault file a else p.role
    .ok ⟨p.fault, file, p.line, p.description, { task with role }⟩

end Diagnosis

end BuildLoop
