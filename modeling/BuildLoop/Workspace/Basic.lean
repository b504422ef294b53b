import BuildLoop.Command.Line
import BuildLoop.Command.Policy
import BuildLoop.Completeness
import BuildLoop.Files.Change
import BuildLoop.Json.Value
import BuildLoop.Text.Fresh
import BuildLoop.Text.Glob
import BuildLoop.World

/-!
# Workspaces

A workspace is the one way to the files and programs of a project. A path is resolved against the
root before anything else; one that leads out of it has no effect. A file is written whole, through a
staging file beside it, and only if its content is complete. A command runs only if it may.

    resolve w fs p = ok q                     →   q lies below the root
    (write w fs p s).1 = error e              →   the regular files stay as they were
    (run w h world line dir ms).1 = refused   →   no program was started
-/

namespace BuildLoop

open Text

/-! ## Rules

Which paths may not be written, which directories are passed over, and how large a file may be. -/

/-- The configuration of a workspace. -/
structure WorkspaceConfig where
  /-- Patterns of paths that may not be written. -/
  protectedPaths : List String
  /-- Directories that the tree passes over. -/
  ignoredDirs : List String
  /-- How many bytes a file may have. -/
  maxFileBytes : Nat
  deriving DecidableEq, Repr

namespace WorkspaceConfig

/-- Protects the version control and the settings, and passes over what tools install. -/
def standard : WorkspaceConfig where
  protectedPaths := [".git", ".git/**", ".kiln", ".kiln/**"]
  ignoredDirs := [".git", ".kiln", "node_modules", "__pycache__", ".venv", "venv"]
  maxFileBytes := 2 * 1024 * 1024

/-- Whether a path may not be written. -/
def isProtected (c : WorkspaceConfig) (path : String) : Bool :=
  c.protectedPaths.any fun pattern => Text.Glob.accepts pattern path

end WorkspaceConfig

/-! ## Workspaces -/

/-- A project's root and the rules for it. -/
structure Workspace where
  root : Path
  config : WorkspaceConfig
  deriving DecidableEq, Repr

/-- What a directory holds. -/
structure Listing where
  path : String
  files : List String
  directories : List String
  deriving DecidableEq, Repr

/-- What was written. -/
structure Receipt where
  path : String
  bytes : Nat
  deriving DecidableEq, Repr

/-- The listing as a JSON value. -/
def Listing.json (l : Listing) : Json := .object [
  ("path", .text l.path),
  ("files", .texts l.files),
  ("directories", .texts l.directories)]

/-- The receipt as a JSON value. -/
def Receipt.json (r : Receipt) : Json := .object [("path", .text r.path), ("bytes", .ofNat r.bytes)]

namespace Workspace

/-! ## Paths -/

/-- Whether a path is absolute. -/
def isAbsolute (path : String) : Bool := path.toList.head? == some '/'

/-- The names in a path, `.` left out. -/
def namesIn (path : String) : List String :=
  ((pathNames path).filter (· != "."))
where
  /-- The names between slashes. -/
  pathNames (path : String) : List String := (Files.namesOf path).filter (· != "")

/-- Goes through names from a place, up at `..`; fails above the root of the tree. -/
def climb : Path → List String → Option Path
  | dir, [] => some dir
  | dir, name :: rest =>
    if name = ".." then if dir.isEmpty then none else climb dir.dropLast rest
    else climb (dir ++ [name]) rest

/-- Where the nearest ancestor of a path that exists leads, given by names from last to first. -/
def nearest (fs : Files) : List String → Path
  | [] => []
  | name :: up =>
    match fs.locate (name :: up).reverse with
    | .ok q => q
    | .error _ => nearest fs up

/-- The place that a path means, below the root. Links may not lead out of it. -/
def resolve (w : Workspace) (fs : Files) (path : String) : Except Failure Path :=
  match climb (if isAbsolute path then [] else w.root) (namesIn path) with
  | none => .error (.path path)
  | some p =>
    if w.root.isPrefixOf p && w.root.isPrefixOf (nearest fs p.reverse) then .ok p
    else .error (.path path)

/-- The names of a path as they are shown: an absolute path starts with the name `/`, and `.` is a
name only at the start. -/
def shownNames (path : String) : List String :=
  let names := (Files.namesOf path).filter (· != "")
  if isAbsolute path then "/" :: names.filter (· != ".")
  else match names with
    | "." :: rest => "." :: rest.filter (· != ".")
    | _ => names.filter (· != ".")

/-- A path relative to the root, if it lies below it. -/
def relative (w : Workspace) (path : String) : String :=
  let names := shownNames path
  let root := "/" :: w.root
  "/".intercalate (if root.isPrefixOf names then names.drop root.length else names)

/-- A place below the root, relative to it. -/
def below (w : Workspace) (p : Path) : String := "/".intercalate (p.drop w.root.length)

/-! ## Opening -/

/-- Where a path leads that is taken from a directory. -/
def fromDirectory (directory : Path) (path : String) : Path :=
  if isAbsolute path then namesIn path else directory ++ namesIn path

/-- The workspace at a path, taken from a directory. The project's directory is made if it is not
there. -/
def establish (c : WorkspaceConfig) (fs : Files) (directory : Path) (path : String) :
    Except FileError Workspace × Files :=
  if path.isEmpty then (.error .notFound, fs)
  else
    let p := fromDirectory directory path
    match fs.makeDirectories p with
    | (fs, .error e) => (.error e, fs)
    | (fs, .ok ()) => ((fs.locate p).map fun root => ⟨root, c⟩, fs)

/-! ## Looking -/

/-- Whether a path leads somewhere inside the project. -/
def leads (w : Workspace) (fs : Files) (path : String) : Bool :=
  match w.resolve fs path with
  | .ok p => fs.leads p
  | .error _ => false

/-- Names in order. -/
def sorted (names : List String) : List String := names.mergeSort fun a b => decide (a ≤ b)

/-- What a directory holds. -/
def list (w : Workspace) (fs : Files) (path : String) : Except Failure Listing := do
  let p ← w.resolve fs path
  if fs.isDirectory p then
    let entries := match fs.locate p with
      | .ok q => fs.children q
      | .error _ => []
    let (directories, files) := entries.partition (·.2 == Node.directory)
    return ⟨w.below p, sorted (files.map (·.1)), sorted (directories.map (·.1))⟩
  else .error (.notFound (Path.text p))

/-- All files of the project, sorted. -/
def tree (w : Workspace) (fs : Files) : List String :=
  sorted ((fs.filesBelow w.root w.config.ignoredDirs).map "/".intercalate)

/-- The text of a file. -/
def read (w : Workspace) (fs : Files) (path : String) : Except Failure String := do
  let p ← w.resolve fs path
  match fs.readText p with
  | .ok s => return s
  | .error .notFound => .error (.notFound (Path.text p))
  | .error e => .error (.system e.text)

/-! ## Writing -/

/-- A number in 32 hexadecimal digits. -/
def stagingToken (n : Nat) : String :=
  let digits := Nat.toDigits 16 n
  String.ofList (List.replicate (32 - digits.length) '0' ++ digits)

/-- The name of a staging file, not taken in its directory. -/
def stagingName (fs : Files) (parent : Path) (name : String) : String :=
  let taken := match fs.locate parent with
    | .ok q => (fs.children q).map (·.1)
    | .error _ => []
  fresh (fun n => "." ++ name ++ "." ++ stagingToken n ++ ".tmp") taken 0

/-- What forbids to write a content at a place. -/
def refusal? (w : Workspace) (p : Path) (content : String) : Option Failure :=
  let path := w.below p
  if path.isEmpty || w.config.isProtected path then some (.path (Path.text p))
  else if content.utf8ByteSize > w.config.maxFileBytes then
    some (.incompleteWrite path
      (toString content.utf8ByteSize ++ " bytes exceeds the write limit"))
  else match checkComplete path content with
    | .error e => some (.incompleteWrite path e.text)
    | .ok () => none

/-- Writes a file through a staging file in its directory, which is there. -/
def stage (fs : Files) (p : Path) (content : String) : Files × Except FileError Unit :=
  let parent := p.dropLast
  let staging := parent ++ [stagingName fs parent (p.getLast?.getD "")]
  match fs.writeFile staging content.toUTF8 with
  | .error e => (fs, .error e)
  | .ok staged =>
    match staged.moveFile staging p with
    | .ok moved => (moved, .ok ())
    | .error e =>
      match staged.removeFile staging with
      | .ok removed => (removed, .error e)
      | .error _ => (staged, .error e)

/-- Writes a file. -/
def write (w : Workspace) (fs : Files) (path content : String) : Except Failure Receipt × Files :=
  match w.resolve fs path with
  | .error e => (.error e, fs)
  | .ok p =>
    match w.refusal? p content with
    | some e => (.error e, fs)
    | none =>
      match fs.makeDirectories p.dropLast with
      | (fs, .error e) => (.error (.system e.text), fs)
      | (fs, .ok ()) =>
        match stage fs p content with
        | (fs, .error e) => (.error (.system e.text), fs)
        | (fs, .ok ()) => (.ok ⟨w.below p, content.utf8ByteSize⟩, fs)

/-! ## Running -/

/-- Checks that a command may run in a directory of the project, and answers its arguments and the
directory. -/
def permitted (w : Workspace) (fs : Files) (line workdir : String) :
    Except Failure (List String × Path) := do
  let directory ← w.resolve fs workdir
  if fs.isDirectory directory then
    let argv ← Command.split line
    Command.check (argv.head?.getD "") argv.tail
    return (argv, directory)
  else .error (.notFound (Path.text directory))

/-- Runs a command in a directory of the project for at most some milliseconds. -/
def run (w : Workspace) (h : Host) (world : World) (line workdir : String) (milliseconds : Nat) :
    Except Failure CommandOutput × World :=
  match w.permitted world.files line workdir with
  | .error e => (.error e, world)
  | .ok (argv, directory) => world.runProgram h argv directory milliseconds

/-! ## Acts -/

/-- Lists a directory. -/
def listing (w : Workspace) (path : String) : Act World Listing := do
  ExceptT.mk (pure (w.list (← get).files path))

/-- Reads a file. -/
def reading (w : Workspace) (path : String) : Act World String := do
  ExceptT.mk (pure (w.read (← get).files path))

/-- Writes a file. -/
def writing (w : Workspace) (path content : String) : Act World Receipt :=
  ExceptT.mk fun world =>
    match w.write world.files path content with
    | (r, files) => (r, { world with files })

/-- Runs a command. -/
def running (w : Workspace) (h : Host) (line workdir : String) (milliseconds : Nat) :
    Act World CommandOutput :=
  ExceptT.mk fun world => w.run h world line workdir milliseconds

end Workspace

end BuildLoop
