import BuildLoop.Architecture
import BuildLoop.Task.Basic
import BuildLoop.Text.Pattern
import BuildLoop.Text.Search

/-!
# Findings

What the logs of a failed check say went wrong. Faults are looked for in a fixed order, as one hides
the next: a missing module, a program that could not be started, a syntax error, an undefined name, a
missing file, a port in use, a check that did not end; all else is an error at run time.

    pipPackage "yaml.nodes" = "pyyaml",   npmPackage "@a/b/c" = "@a/b"
    (analyze logs a).package ≠ none   ↔   the logs name a missing module that is no file of `a`
-/

namespace BuildLoop

open Text Pattern

/-- What went wrong. -/
structure Finding where
  kind : Fault
  file : Option String
  line : Option Nat
  message : String
  /-- The package to install. -/
  package : Option String
  deriving DecidableEq, Repr

namespace Diagnosis

/-! ## Packages of modules

The part of a module's name that tells its package is its root: what precedes the first dot or slash. -/

/-- Python modules whose package has another name. -/
def renamedPackages : List (String × String) :=
  [("yaml", "pyyaml"), ("dotenv", "python-dotenv"), ("jwt", "PyJWT"), ("PIL", "pillow"),
    ("sklearn", "scikit-learn"), ("cv2", "opencv-python"), ("bs4", "beautifulsoup4"),
    ("flask_cors", "flask-cors"), ("multipart", "python-multipart"),
    ("psycopg2", "psycopg2-binary"), ("dateutil", "python-dateutil"), ("jose", "python-jose")]

/-- The name of a Python module up to its first dot. -/
def moduleRoot (module : String) : String :=
  String.ofList (module.toList.takeWhile (· != '.'))

/-- The package that provides a Python module. -/
def pipPackage (module : String) : String :=
  (renamedPackages.lookup (moduleRoot module)).getD (moduleRoot module)

/-- The package that provides a Node module: the first part of its name, or the first two if the
first is a scope. -/
def npmPackage (specifier : String) : String :=
  match (splitAtEach (· == '/') specifier.toList).map String.ofList with
  | scope :: name :: _ => if startsWith scope "@" then scope ++ "/" ++ name else scope
  | [name] => name
  | [] => specifier

/-! ## Patterns -/

/-- A missing Python module. -/
def pythonModule : Pattern :=
  all [lit "No module named '",
    group 1 (atLeastOne fun c => c.isAlphanum || c == '_' || c == '.'), lit "'"]

/-- A missing Node module. -/
def nodeModule : Pattern :=
  all [lit "Cannot find module '", group 1 (atLeastOne (· != '\'')), lit "'"]

/-- A frame of a Python traceback. -/
def pythonFrame : Pattern :=
  all [lit "File \"", group 1 (atLeastOne (· != '"')), lit "\", line ",
    group 2 (atLeastOne isDecimalDigit)]

/-- A place in a script at the start of a line. -/
def scriptPlace : Pattern :=
  all [lineStart,
    group 1 (all [atLeastOne (!isBlank ·), lit ".", any [lit "js", lit "mjs", lit "cjs"]]),
    lit ":", group 2 (atLeastOne isDecimalDigit)]

/-- A file that a check found to be cut short. -/
def brokenFile : Pattern :=
  all [lit "syntax error in ", group 1 (atLeastOne fun c => !isBlank c && c != ':'),
    optional (seq (lit ":") (group 2 (atLeastOne isDecimalDigit)))]

/-- A file that a check did not find. -/
def missingFile : Pattern := seq (lit "missing file: ") (group 1 (atLeastOne (!isBlank ·)))

/-- A path that a program did not find. -/
def missingPath : Pattern :=
  all [lit "No such file or directory: '", group 1 (atLeastOne (· != '\'')), lit "'"]

/-- Words for a syntax error. -/
def syntaxWords : List String := ["SyntaxError", "IndentationError", "TabError"]

/-- Words for an undefined name. -/
def referenceWords : List String :=
  ["NameError", "ReferenceError", "AttributeError", "ImportError", "is not defined",
    "is not a function"]

/-- A port in use. -/
def portInUse : Pattern := any [word "address already in use", word "EADDRINUSE"]

/-- A line that states an error. -/
def errorLine : Pattern :=
  all [textStart, many isBlank,
    any [
      all [one (fun c => c.isAlpha || c == '_'),
        many (fun c => c.isAlphanum || c == '_' || c == '.'), any [lit "Error", lit "Exception"]],
      lit "Error"],
    wordEdge]

/-- Whether a text holds one of some words. -/
def holdsAny (ws : List String) (s : String) : Bool := ws.any (contains s)

/-- The text of a group of a match. -/
def groupText (m : Match) (n : Nat) : String := String.ofList ((m.group? n).getD [])

/-- A number of 64 bits in decimal digits. -/
def readCount? (s : List Char) : Option Nat :=
  if s.isEmpty || !s.all Char.isDigit then none
  else
    let n := s.foldl (fun n c => 10 * n + (c.toNat - 48)) 0
    if n < Nat.pow 2 64 then some n else none

/-! ## Files of the manifest -/

/-- The path of the manifest that a path in the logs means: the one it is or ends with, else one of
the same name, else its name alone. -/
def manifestPath (a : Architecture) (raw : String) : String :=
  let path := (dropHere (trim raw.toList)).map fun c => if c = '\\' then '/' else c
  let name := baseName (String.ofList path)
  match a.files.paths.find? fun p => path == p.toList || ('/' :: p.toList).isSuffixOf path with
  | some p => p
  | none => (a.files.paths.find? (baseName · == name)).getD name

/-- The file of the manifest that is checked first. -/
def entryFile? (a : Architecture) : Option String :=
  ["main.py", "app.py", "server.js", "index.html"].findSome? fun name =>
    a.files.paths.find? (baseName · == name)

/-! ## Places and messages -/

/-- The file and the line of a traceback's frame, unless it lies outside the project. -/
def frameOf? (a : Architecture) (m : Match) : Option (String × Nat) := do
  let path := groupText m 1
  let line ← readCount? ((m.group? 2).getD [])
  if startsWith path "<" || contains path "site-packages" || contains path "/lib/python" then none
  else some (manifestPath a path, line)

/-- The last frame of a traceback that lies in the project. -/
def projectFrame? (a : Architecture) (logs : String) : Option (String × Nat) :=
  ((findAll pythonFrame logs.toList).filterMap (frameOf? a)).getLast?

/-- The last line that states an error, or the last one that is not blank. -/
def dominantMessage (logs : String) : String :=
  let ls := (linesOf logs).reverse
  trimmed (((ls.find? (test errorLine ·.toList)).or (ls.find? (!isBlankText ·))).getD
    "verification failed")

/-- The first line that satisfies `p`, trimmed. -/
def lineWith (p : String → Bool) (ls : List String) (otherwise : String) : String :=
  trimmed ((ls.find? p).getD otherwise)

/-! ## Findings -/

/-- A finding at a frame, or in the file that is checked first. -/
def atFrame (a : Architecture) (kind : Fault) (frame : Option (String × Nat)) (message : String) :
    Finding :=
  match frame with
  | some (file, line) => ⟨kind, some file, some line, message, none⟩
  | none => ⟨kind, entryFile? a, none, message, none⟩

/-- A missing Python module: a file of the manifest, or a package. -/
def pythonFinding (a : Architecture) (frame : Option (String × Nat)) (module : String) : Finding :=
  let message := "No module named '" ++ module ++ "'"
  match a.files.paths.find? (baseName · == moduleRoot module ++ ".py") with
  | some path => ⟨.missingFile, some path, none, message, none⟩
  | none => ⟨.missingDependency, frame.map (·.1), none, message, some (pipPackage module)⟩

/-- A missing Node module: a file if its name starts like a path, else a package. -/
def nodeFinding (a : Architecture) (specifier : String) : Finding :=
  let message := "Cannot find module '" ++ specifier ++ "'"
  if startsWith specifier "." || startsWith specifier "/" then
    let path := String.ofList (dropHere specifier.toList)
    let path := if endsWith path ".js" || endsWith path ".json" then path else path ++ ".js"
    ⟨.missingFile, some (manifestPath a path), none, message, none⟩
  else ⟨.missingDependency, none, none, message, some (npmPackage specifier)⟩

/-- A file that a check found to be cut short. -/
def brokenFinding (a : Architecture) (logs : String) (m : Match) : Finding where
  kind := .syntaxError
  file := some (manifestPath a (groupText m 1))
  line := (m.group? 2).bind readCount?
  message := lineWith (contains · "syntax error in ") (linesOf logs) "syntax error"
  package := none

/-- A syntax error that a program reported. -/
def syntaxFinding (a : Architecture) (frame : Option (String × Nat)) (logs : String) : Finding :=
  let place := (find scriptPlace logs.toList).bind fun m =>
    (readCount? ((m.group? 2).getD [])).map fun line => (manifestPath a (groupText m 1), line)
  atFrame a .syntaxError (frame.or place)
    (lineWith (holdsAny syntaxWords) (linesOf logs) "SyntaxError")

/-- What a check says that did not end. -/
def noReturn : String := "importing the entry point did not return (server starts on import)"

/-- What the logs of a failed check say went wrong. -/
def analyze (logs : String) (a : Architecture) : Finding :=
  let text := logs.toList
  let frame := projectFrame? a logs
  if let some m := find pythonModule text then pythonFinding a frame (groupText m 1)
  else if let some m := find nodeModule text then nodeFinding a (groupText m 1)
  else if contains logs "could not be started" then
    atFrame a .configurationError none (dominantMessage logs)
  else if let some m := find brokenFile text then brokenFinding a logs m
  else if holdsAny syntaxWords logs then syntaxFinding a frame logs
  else if holdsAny referenceWords logs then
    atFrame a .importError frame
      (lineWith (holdsAny referenceWords) (linesOf logs).reverse "reference error")
  else if let some m := find missingFile text then
    let file := manifestPath a (groupText m 1)
    ⟨.missingFile, some file, none, "missing file: " ++ file, none⟩
  else if let some m := find missingPath text then
    ⟨.missingFile, some (manifestPath a (groupText m 1)), none, dominantMessage logs, none⟩
  else if test portInUse text then atFrame a .configurationError none (dominantMessage logs)
  else if contains logs "timed out after" then atFrame a .runtimeError none noReturn
  else atFrame a .runtimeError frame (dominantMessage logs)

end Diagnosis

end BuildLoop
