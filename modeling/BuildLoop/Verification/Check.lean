import BuildLoop.Verification.Assets
import BuildLoop.Verification.Output
import BuildLoop.Verification.Shape
import BuildLoop.Workspace.Basic

/-!
# Checks

Each shape of project gets one check. A static site is read: its entry and all it links have to be
there and complete. Any other project is handed to its interpreter for at most a given time, and the
output is searched for fatal errors; an exit code alone decides nothing.

    verify starts at most one program, and none for a static site
    (verify …) fails only by a refusal of the command
-/

namespace BuildLoop.Verification

open Text

/-! ## Static sites -/

/-- The report that a file is missing. -/
def missing (check logs file : String) : VerificationReport :=
  let message := "missing file: " ++ file
  .failed check none (logs ++ message) .missingFile message

/-- The name of the check of static sites. -/
def siteCheck : String := "structural_check"

/-- The path of an asset of a page in a directory. -/
def assetPath (dir asset : String) : String :=
  if startsWith asset "/" then String.ofList (asset.toList.dropWhile (· == '/'))
  else if dir = "." then asset
  else dir ++ "/" ++ asset

/-- Checks the files of a site in order; `logs` tells of those checked before. -/
def checkFiles (w : Workspace) (fs : Files) (logs : String) : List String → VerificationReport
  | [] => .passed siteCheck none logs
  | path :: rest =>
    match w.read fs path with
    | .error _ => missing siteCheck logs path
    | .ok content =>
      match checkComplete path content with
      | .error e =>
        let message := "syntax error in " ++ e.text
        .failed siteCheck none (logs ++ message) .syntaxError message
      | .ok () => checkFiles w fs (logs ++ "ok: " ++ path ++ "\n") rest

/-- The files of a site: its entry and the assets that the entry links. -/
def siteFiles (w : Workspace) (fs : Files) (entry : String) : List String :=
  match w.read fs entry with
  | .error _ => [entry]
  | .ok html => entry :: (referencedAssets html).map (assetPath (splitDir entry).1)

/-- Checks a static site. -/
def checkSite (w : Workspace) (fs : Files) (entry : String) : VerificationReport :=
  checkFiles w fs "" (siteFiles w fs entry)

/-! ## Programs -/

/-- A text without a tail, repeated ones included; `n` bounds how often it is taken away. -/
def dropTails (tail : List Char) : Nat → List Char → List Char
  | 0, s => s
  | n + 1, s =>
    match before? tail s with
    | some r => dropTails tail n r
    | none => s

/-- The module of a Python file. -/
def moduleName (name : String) : String :=
  String.ofList (dropTails ".py".toList name.length name.toList)

/-- The command that checks a project whose entry has a name. -/
def checkCommand (shape : ProjectShape) (name : String) : String :=
  let compile := "python3 -m py_compile " ++ name
  match shape with
  | .pythonServer _ =>
    let module := moduleName name
    if module.toList.all fun c => c.isAlphanum || c == '_' then
      "python3 -c \"import " ++ module ++ "\""
    else compile
  | .pythonScript _ => compile
  | _ => "node --check " ++ name

/-- The report of a command that has ended. -/
def outputReport (check command logs : String) : VerificationReport :=
  match classifyOutput logs with
  | some (kind, message) => .failed check (some command) logs kind message
  | none => .passed check (some command) logs

/-- The report of a command that did not end or did not start, unless it was refused. -/
def failureReport? (check command : String) : Failure → Option VerificationReport
  | .timeout _ ms =>
    let message := "check timed out after " ++ toString (ms / 1000) ++ "s"
    some (.failed check (some command) message .timeout message)
  | .system reason =>
    let program := ((words command.toList).head?.map String.ofList).getD "interpreter"
    let message := program ++ " could not be started: " ++ reason
    some (.failed check (some command) message .missingDependency message)
  | _ => none

/-- Checks a project by its interpreter. -/
def checkProgram (w : Workspace) (h : Host) (shape : ProjectShape) (entry : String)
    (milliseconds : Nat) : Act World VerificationReport := do
  let check := shape.checkName
  if !w.leads (← get).files entry then return missing check "" entry
  let (dir, name) := splitDir entry
  let command := checkCommand shape name
  tryCatch
    (do
      let output ← w.running h command dir milliseconds
      return outputReport check command output.combined)
    fun e =>
      match failureReport? check command e with
      | some report => return report
      | none => throw e

/-! ## All projects -/

/-- Verifies a project. -/
def verify (w : Workspace) (h : Host) (milliseconds : Nat) (a : Architecture) :
    Act World VerificationReport := do
  let fs := (← get).files
  match detectShape a (w.tree fs) with
  | .staticSite entry => return checkSite w fs entry
  | .unknown => return missing ProjectShape.unknown.checkName "" "no entry point found in the project"
  | shape => checkProgram w h shape (shape.entry?.getD "") milliseconds

end BuildLoop.Verification
