import BuildLoop.Command.Output
import BuildLoop.Failure
import BuildLoop.Files.Locate
import BuildLoop.Text.Utf8
import BuildLoop.Url.Address

/-!
# The world around a run

A run meets files, programs, a network and variables of its environment. The files and the record of
what was started and sent are the state of the world; how programs and servers answer is given by the
host, as functions of that record. What does not start or does not arrive is not recorded. Some
calls cannot be started whatever the host offers: their program is named by a place in the tree, where
files are not executable, or their arguments are too long.

    (start h w call).2.calls = w.calls ++ [(call, reply)]           unless the call cannot be started
    call.fault? w.files = some r   →   start h w call = (.refused r, w)
-/

namespace BuildLoop

/-- The start of a program in a directory. -/
structure Call where
  program : String
  args : List String
  directory : Path
  deriving DecidableEq, Repr

/-! ## Calls that cannot be started -/

/-- How many bytes an argument may have. -/
def argumentLimit : Nat := 131071

/-- How many bytes all arguments may have together, each with a byte at its end and eight that say
where it starts. -/
def argumentsLimit : Nat := 2097152

namespace Call

/-- The program and its arguments. -/
def strings (c : Call) : List String := c.program :: c.args

/-- The refusal of what is there but is no program. -/
def notAllowed : String := "Permission denied (os error 13)"

/-- What becomes of a program that is named by a place in the tree. -/
def placeFault (files : Files) (c : Call) : String :=
  if c.program.utf8ByteSize > Files.pathLimit then FileError.nameTooLong.text
  else
    let start := if c.program.toList.head? = some '/' then [] else c.directory
    match files.follow Files.linkLimit [] (start ++ Files.namesOf c.program) with
    | .error e => e.text
    | .ok _ => notAllowed

/-- Why a call cannot be started, whatever programs there are. -/
def fault? (files : Files) (c : Call) : Option String :=
  if c.strings.any Files.isBadName then some "nul byte found in provided data"
  else if c.program.contains '/' then some (c.placeFault files)
  else if c.program.utf8ByteSize > Files.nameLimit then some FileError.nameTooLong.text
  else if c.program = "." ∨ c.program = ".." then some notAllowed
  else none

/-- Whether the arguments are more than a program can be given. -/
def isTooLong (c : Call) : Bool :=
  c.strings.any (·.utf8ByteSize > argumentLimit) ||
    c.strings.foldl (fun n s => n + s.utf8ByteSize + 9) 0 > argumentsLimit

end Call

/-- How the start of a program ends. -/
inductive Reply where
  /-- The program ends. A signal leaves no exit code. -/
  | ends (exitCode : Option Int) (stdout stderr : ByteArray)
  /-- The program runs until it is stopped. -/
  | hangs
  /-- The program cannot be started. -/
  | refused (reason : String)
  deriving DecidableEq

/-- A message sent to a server. -/
structure Request where
  url : Url
  authorization : Option String
  body : String
  deriving DecidableEq, Repr

/-- How a server answers. -/
inductive Response where
  | unreachable (reason : String)
  | answered (status : Nat) (body : ByteArray)
  deriving DecidableEq

/-- What a run finds and changes. -/
structure World where
  files : Files
  /-- The programs that were started, with how each ended. -/
  calls : List (Call × Reply)
  requests : List Request

/-- How the surroundings behave. -/
structure Host where
  /-- How a call ends after earlier calls, and what becomes of the files. -/
  program : List (Call × Reply) → Call → Files → Reply × Files
  /-- How a request is answered after earlier requests. -/
  server : List Request → Request → Response
  /-- The value of a variable of the environment. -/
  environment : String → Option String

/-- A computation that changes a state and can fail; what it changed before it failed stays. -/
abbrev Act (σ : Type) := ExceptT Failure (StateM σ)

namespace World

/-- Starts a program. One that cannot be started leaves no trace. -/
def start (h : Host) (w : World) (call : Call) : Reply × World :=
  match call.fault? w.files, h.program w.calls call w.files with
  | some reason, _ => (.refused reason, w)
  | none, (.refused reason, _) => (.refused reason, w)
  | none, (reply, files) =>
    if call.isTooLong then (.refused "Argument list too long (os error 7)", w)
    else (reply, { w with files, calls := w.calls ++ [(call, reply)] })

/-- Sends a request. One that does not reach its server leaves no trace. -/
def send (h : Host) (w : World) (r : Request) : Response × World :=
  match h.server w.requests r with
  | .unreachable reason => (.unreachable reason, w)
  | response => (response, { w with requests := w.requests ++ [r] })

/-- Starts a program and waits at most some milliseconds for its end. -/
def runProgram (h : Host) (w : World) (argv : List String) (directory : Path)
    (milliseconds : Nat) : Except Failure CommandOutput × World :=
  match argv with
  | [] => (.error (.commandRejected "" "empty command"), w)
  | program :: args =>
    match w.start h ⟨program, args, directory⟩ with
    | (.ends code out err, w) => (.ok ⟨code, Text.decodeLossy out, Text.decodeLossy err⟩, w)
    | (.hangs, w) => (.error (.timeout (" ".intercalate argv) milliseconds), w)
    | (.refused reason, w) => (.error (.system reason), w)

end World

end BuildLoop
