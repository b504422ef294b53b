import BuildLoop.Json.Form
import BuildLoop.Task.Basic

/-!
# The JSON form of a task

A task is a record; its status, its dependencies, its fault and its failure may be left out, and the
last two are written only if they are set.

    ofJson? (toJson t) = some t
-/

namespace BuildLoop

open Json

/-- Every role. -/
def Role.all : List Role := [.backend, .frontend]

/-- Every status. -/
def Status.all : List Status := [.pending, .inProgress, .completed, .failed]

/-- Every fault. -/
def Fault.all : List Fault :=
  [.missingDependency, .syntaxError, .importError, .missingFile, .runtimeError,
    .configurationError]

instance : Form Role where
  shape := .choice (Role.all.map Role.name)
  toJson r := .text r.name
  ofJson? := named? Role.name Role.all

instance : Form Status where
  shape := .choice (Status.all.map Status.name)
  toJson s := .text s.name
  ofJson? := named? Status.name Status.all

instance : Form Fault where
  shape := .choice (Fault.all.map Fault.name)
  toJson f := .text f.name
  ofJson? := named? Fault.name Fault.all

instance : Form Task where
  shape := .record "Task" (.ofList [
    ("id", .text, .required),
    ("description", .text, .required),
    ("assigned_agent", Form.shape Role, .required),
    ("status", Form.shape Status, .default (toJson Status.pending)),
    ("dependencies", .list .text, .default (.list [])),
    ("error_type", .optional (Form.shape Fault), .default .null),
    ("failure", .optional .text, .default .null)])
  toJson t := .object ([
    ("id", toJson t.id),
    ("description", toJson t.description),
    ("assigned_agent", toJson t.role),
    ("status", toJson t.status),
    ("dependencies", toJson t.dependencies)]
    ++ ifSet "error_type" t.fault ++ ifSet "failure" t.failure)
  ofJson? j := do
    let optional {α : Type} [Form α] (key : String) : Option (Option α) :=
      match j.field? key with
      | none => some none
      | some v => ofJson? v
    some {
      id := ← get? j "id"
      description := ← get? j "description"
      role := ← get? j "assigned_agent"
      status := ← get? j "status"
      dependencies := ← get? j "dependencies"
      fault := ← optional "error_type"
      failure := ← optional "failure" }

end BuildLoop
