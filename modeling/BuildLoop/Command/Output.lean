import BuildLoop.Json.Value
import BuildLoop.Text.Blank

/-!
# Output of commands

A command that has ended leaves its exit code, unless a signal ended it, and two streams of text.

    (⟨c, out, ""⟩ : CommandOutput).combined = out            unless `out` is blank
-/

namespace BuildLoop

open Text

/-- What a command leaves. -/
structure CommandOutput where
  /-- The exit code; none if a signal ended the command. -/
  exitCode : Option Int
  stdout : String
  stderr : String
  deriving DecidableEq, Repr

namespace CommandOutput

/-- Whether the command says that it succeeded. -/
def success (o : CommandOutput) : Bool := o.exitCode == some 0

/-- The output as a JSON value. -/
def json (o : CommandOutput) : Json := .object [
  ("exit_code", (o.exitCode.map fun n => .number (.whole n)).getD .null),
  ("stdout", .text o.stdout),
  ("stderr", .text o.stderr)]

/-- Both streams, as a terminal shows them. -/
def combined (o : CommandOutput) : String :=
  if isBlankText o.stdout then if isBlankText o.stderr then "" else o.stderr
  else if isBlankText o.stderr then o.stdout
  else String.ofList (trimEnd o.stdout.toList) ++ "\n" ++ o.stderr

end CommandOutput

end BuildLoop
