import BuildLoop.Failure
import BuildLoop.Json.Form
import BuildLoop.Text.Search

/-!
# Structured answers

A role answers with one JSON value, alone or inside a code fence.

    unfenced (fence ++ s ++ fence) = trim s        unless `s` starts with a language of the fence
-/

namespace BuildLoop.Json

open Text

/-- The fence around a code block. -/
def fence : List Char := ['\x60', '\x60', '\x60']

/-- What follows the opening of a code fence. -/
def afterFence? (s : List Char) : Option (List Char) :=
  (after? (fence ++ "json".toList) s).or (after? fence s)

/-- A text without the code fence around it, and trimmed. -/
def unfenced (raw : List Char) : List Char :=
  let s := trim raw
  trim (((afterFence? s).bind fun r => before? fence (trimEnd r)).getD s)

/-- Reads a role's answer as a value of a type. -/
def readAnswer (α : Type) [Form α] (role raw : String) : Except Failure α :=
  match Form.parse α (String.ofList (unfenced raw.toList)) with
  | .ok a => .ok a
  | .error e => .error (.answer role e.text)

end BuildLoop.Json
