import BuildLoop.Architecture
import BuildLoop.Json.Form

/-!
# The JSON form of an architecture

An architecture is a record of records. The stack, the files and the data flow have to be there, all
else may be left out.

    ofJson? (toJson a) = some a
-/

namespace BuildLoop

open Json

instance : Form TechStack where
  shape := .record "TechStack" (.ofList [
    ("backend", .text, .required),
    ("frontend", .text, .required),
    ("database", .text, .required),
    ("additional", .list .text, .default (.list []))])
  toJson t := .object [
    ("backend", toJson t.backend),
    ("frontend", toJson t.frontend),
    ("database", toJson t.database),
    ("additional", toJson t.additional)]
  ofJson? j := do
    some {
      backend := ← get? j "backend"
      frontend := ← get? j "frontend"
      database := ← get? j "database"
      additional := ← get? j "additional" }

instance : Form FileEntry where
  shape := .record "FileEntry" (.ofList [
    ("file", .text, .required),
    ("purpose", .text, .required)])
  toJson e := .object [("file", toJson e.path), ("purpose", toJson e.purpose)]
  ofJson? j := do some { path := ← get? j "file", purpose := ← get? j "purpose" }

instance : Form FileStructure where
  shape := .record "FileStructure" (.ofList [
    ("backend", Form.shape (List FileEntry), .default (.list [])),
    ("frontend", Form.shape (List FileEntry), .default (.list [])),
    ("config", Form.shape (List FileEntry), .default (.list []))])
  toJson f := .object [
    ("backend", toJson f.backend),
    ("frontend", toJson f.frontend),
    ("config", toJson f.config)]
  ofJson? j := do
    some {
      backend := ← get? j "backend"
      frontend := ← get? j "frontend"
      config := ← get? j "config" }

instance : Form Dependencies where
  shape := .record "Dependencies" (.ofList [
    ("backend", .list .text, .default (.list [])),
    ("frontend", .list .text, .default (.list []))])
  toJson d := .object [("backend", toJson d.backend), ("frontend", toJson d.frontend)]
  ofJson? j := do some { backend := ← get? j "backend", frontend := ← get? j "frontend" }

instance : Form Endpoint where
  shape := .record "Endpoint" (.ofList [
    ("method", .text, .required),
    ("path", .text, .required),
    ("description", .text, .default (.text ""))])
  toJson e := .object [
    ("method", toJson e.method),
    ("path", toJson e.path),
    ("description", toJson e.description)]
  ofJson? j := do
    some {
      method := ← get? j "method"
      path := ← get? j "path"
      description := ← get? j "description" }

instance : Form Architecture where
  shape := .record "Architecture" (.ofList [
    ("tech_stack", Form.shape TechStack, .required),
    ("architecture_overview", .text, .default (.text "")),
    ("file_structure", Form.shape FileStructure, .required),
    ("dependencies", Form.shape Dependencies, .default (toJson (Dependencies.mk [] []))),
    ("api_endpoints", Form.shape (List Endpoint), .default (.list [])),
    ("data_flow", .text, .required),
    ("additional_instructions", .text, .default (.text ""))])
  toJson a := .object [
    ("tech_stack", toJson a.stack),
    ("architecture_overview", toJson a.overview),
    ("file_structure", toJson a.files),
    ("dependencies", toJson a.dependencies),
    ("api_endpoints", toJson a.endpoints),
    ("data_flow", toJson a.dataFlow),
    ("additional_instructions", toJson a.instructions)]
  ofJson? j := do
    some {
      stack := ← get? j "tech_stack"
      overview := ← get? j "architecture_overview"
      files := ← get? j "file_structure"
      dependencies := ← get? j "dependencies"
      endpoints := ← get? j "api_endpoints"
      dataFlow := ← get? j "data_flow"
      instructions := ← get? j "additional_instructions" }

/-- Reads an architecture from a role's answer and normalizes it. -/
def Architecture.parse (raw : String) : Except Failure Architecture :=
  match Form.parse Architecture raw with
  | .ok a => .ok a.normalized
  | .error e => .error (.answer "architect" e.text)

end BuildLoop
