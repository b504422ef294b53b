import BuildLoop.Json.Form
import BuildLoop.Run.Config
import BuildLoop.Run.Event
import BuildLoop.Service.Feed

/-!
# Messages of the service

Requests to the service and what it answers. The body of a request for a run is read by its shape, and
what follows its first value does not matter; a body that is no JSON is told from one of the wrong
shape.

    readOrder body = error r   →   r.status is 400, 413, 415 or 422
-/

namespace BuildLoop.Service

open Json

/-- A request. -/
structure Message where
  method : String
  path : String
  /-- The body, a text in JSON. -/
  body : Option String
  deriving DecidableEq, Repr

/-- What an answer carries. -/
inductive Content where
  | nothing
  | text (s : String)
  | json (j : Json)
  /-- The events of a run, as they come. -/
  | events (runId : String) (subscription : Subscription Event)

/-- An answer. -/
structure Answer where
  status : Nat
  content : Content

namespace Answer

/-- An answer in JSON. -/
def ofJson (status : Nat) (j : Json) : Answer := ⟨status, .json j⟩

/-- An answer that tells an error. -/
def ofError (status : Nat) (message : String) : Answer :=
  .ofJson status (.object [("error", .text message)])

/-- An answer without content. -/
def bare (status : Nat) : Answer := ⟨status, .nothing⟩

end Answer

/-- What is asked of a new run. -/
structure RunOrder where
  requirements : String
  /-- The name of the project's directory. -/
  project : Option String
  maxCycles : Option Nat
  deriving DecidableEq, Repr

instance : Form RunOrder where
  shape := .record "CreateRunRequest" (.ofList [
    ("requirements", .text, .required),
    ("project", .optional .text, .default .null),
    ("max_iterations", .optional RunConfig.word, .default .null)])
  toJson o := .object [
    ("requirements", .text o.requirements),
    ("project", optionalText o.project),
    ("max_iterations", optionalNat o.maxCycles)]
  ofJson? j := do
    some {
      requirements := ← get? j "requirements"
      project := ← get? j "project"
      maxCycles := ← get? j "max_iterations" }

/-- How many bytes a body may have. -/
def bodyLimit : Nat := 2097152

/-- Reads what is asked of a new run, or refuses the body. -/
def readOrder : Option String → Except Answer RunOrder
  | none => .error ⟨415, .text "Expected request with `Content-Type: application/json`"⟩
  | some body =>
    if body.utf8ByteSize > bodyLimit then
      .error ⟨413, .text "Failed to buffer the request body: length limit exceeded"⟩
    else match Form.parseFirst RunOrder body with
    | .ok order => .ok order
    | .error e =>
      if e.category = .wrongShape then
        .error ⟨422, .text ("Failed to deserialize the JSON body into the target type: " ++
          e.textWithPath)⟩
      else
        .error ⟨400, .text ("Failed to parse the request body as JSON: " ++ e.textWithPath)⟩

end BuildLoop.Service
