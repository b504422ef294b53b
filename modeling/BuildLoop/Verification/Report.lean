import BuildLoop.Failure
import BuildLoop.Json.Form
import BuildLoop.Workflow.State

/-!
# Reports of verifications

A verification runs one check and reports that it passed, or which fatal class of error it found.

    (passed check command logs).asFailure? = none
    (failed check command logs kind m).asFailure? = some (verification kind.name m)
-/

namespace BuildLoop

open Json

/-- A class of errors that makes a check fail. -/
inductive FatalKind where
  | missingDependency
  | syntaxError
  | undefinedReference
  | missingFile
  | portConflict
  | timeout
  deriving DecidableEq, Repr

namespace FatalKind

/-- The class's name. -/
def name : FatalKind → String
  | missingDependency => "missing_dependency"
  | syntaxError => "syntax_error"
  | undefinedReference => "undefined_reference"
  | missingFile => "missing_file"
  | portConflict => "port_conflict"
  | timeout => "timeout"

/-- Every class. -/
def all : List FatalKind :=
  [missingDependency, syntaxError, undefinedReference, missingFile, portConflict, timeout]

end FatalKind

/-- The error that made a check fail. -/
structure VerificationFailure where
  kind : FatalKind
  message : String
  deriving DecidableEq, Repr

/-- The outcome of one verification. -/
structure VerificationReport where
  status : TestStatus
  check : String
  command : Option String
  logs : String
  failure : Option VerificationFailure
  deriving DecidableEq, Repr

namespace VerificationReport

/-- The report of a check that passed. -/
def passed (check : String) (command : Option String) (logs : String) : VerificationReport :=
  ⟨.passed, check, command, logs, none⟩

/-- The report of a check that failed. -/
def failed (check : String) (command : Option String) (logs : String) (kind : FatalKind)
    (message : String) : VerificationReport :=
  ⟨.failed, check, command, logs, some ⟨kind, message⟩⟩

def isPassed (r : VerificationReport) : Bool := r.status == .passed

/-- The error as a failure of the run. -/
def asFailure? (r : VerificationReport) : Option Failure :=
  r.failure.map fun f => .verification f.kind.name f.message

end VerificationReport

/-- Every outcome of a verification. -/
def TestStatus.all : List TestStatus := [.pending, .passed, .failed]

instance : Form TestStatus where
  shape := .choice (TestStatus.all.map TestStatus.name)
  toJson s := .text s.name
  ofJson? := named? TestStatus.name TestStatus.all

instance : Form FatalKind where
  shape := .choice (FatalKind.all.map FatalKind.name)
  toJson k := .text k.name
  ofJson? := named? FatalKind.name FatalKind.all

instance : Form VerificationFailure where
  shape := .record "VerificationFailureInfo" (.ofList [
    ("kind", Form.shape FatalKind, .required),
    ("message", .text, .required)])
  toJson f := .object [("kind", toJson f.kind), ("message", toJson f.message)]
  ofJson? j := do some { kind := ← get? j "kind", message := ← get? j "message" }

instance : Form VerificationReport where
  shape := .record "VerificationReport" (.ofList [
    ("status", Form.shape TestStatus, .required),
    ("check", .text, .required),
    ("command", .optional .text, .null),
    ("logs", .text, .required),
    ("failure", .optional (Form.shape VerificationFailure), .null)])
  toJson r := .object [
    ("status", toJson r.status),
    ("check", toJson r.check),
    ("command", toJson r.command),
    ("logs", toJson r.logs),
    ("failure", toJson r.failure)]
  ofJson? j := do
    some {
      status := ← get? j "status"
      check := ← get? j "check"
      command := ← get? j "command"
      logs := ← get? j "logs"
      failure := ← get? j "failure" }

end BuildLoop
