import BuildLoop.Console.Perform
import BuildLoop.Model.Provider

/-!
# The command line

The program reads the files of its directory and of the project, works on them, and writes back what
has changed. Other programs and servers are out of its reach: a command is refused, and a model does
not answer.
-/

namespace BuildLoop.CommandLine

/-- Reads what lies in a directory, given what it lists. -/
partial def readEntries (dir : Path) (entries : Array IO.FS.DirEntry) (fs : Files) : IO Files :=
  entries.foldlM (fun fs entry => do
    let p := dir ++ [entry.fileName]
    match (← entry.path.symlinkMetadata).type with
    | .dir => readEntries p (← entry.path.readDir) (fs.put p .directory)
    | .file => return fs.put p (.file (← IO.FS.readBinFile entry.path))
    | .symlink => return fs.put p (.link (← IO.FS.realPath entry.path).toString)
    | .other => return fs) fs

/-- Reads what lies in a directory, if there is one. -/
def readDirectory (dir : Path) (fs : Files) : IO Files := do
  let place : IO.FS.DirEntry := ⟨"/", "/".intercalate dir⟩
  if ← place.path.isDir then
    readEntries dir (← place.path.readDir) (fs.makeDirectories dir).1
  else return fs

/-- Writes what differs from what was read. -/
def writeChanges (before after : Files) : IO Unit := do
  for (p, node) in after.entries do
    if before.node? p != some node then
      match node with
      | .directory => IO.FS.createDirAll (Path.text p)
      | .file content =>
        IO.FS.createDirAll (Path.text p.dropLast)
        IO.FS.writeBinFile (Path.text p) content
      | .link _ => pure ()

/-- The variables of the environment that the program looks at. -/
def watched : List String :=
  ["KILN_MAX_ITERATIONS", "KILN_PROVIDER", "KILN_MODEL", "KILN_BASE_URL"] ++
    Provider.all.filterMap Provider.keyVariable?

/-- What the program reaches: its files and the environment. -/
def host : IO Host := do
  let values ← watched.filterMapM fun name => return (← IO.getEnv name).map fun v => (name, v)
  return {
    program := fun _ _ files => (.refused "Operation not permitted (os error 1)", files)
    server := fun _ _ => .unreachable "Network is unreachable (os error 101)"
    environment := fun name => values.lookup name }

/-- A fresh id for a run. -/
def freshId : IO String := do
  let bytes ← IO.getRandomBytes 16
  let digits := bytes.toList.flatMap fun b =>
    [Nat.digitChar (b.toNat / 16), Nat.digitChar (b.toNat % 16)]
  let part (start length : Nat) : String := String.ofList ((digits.drop start).take length)
  return "-".intercalate [part 0 8, part 8 4, part 12 4, part 16 4, part 20 12]

/-- Runs the program with its arguments and answers its exit code. -/
def run (args : List String) : IO UInt32 := do
  let here := Workspace.namesIn (← IO.currentDir).toString
  let project := ((Console.Invocation.parse? args).map fun i =>
    Workspace.fromDirectory here i.directory).getD here
  let before ← readDirectory project (← readDirectory here .empty)
  let (printed, world) := Console.execute (← host) here (← freshId) args ⟨before, [], []⟩
  writeChanges before world.files
  (← IO.getStdout).putStr printed.output
  (← IO.getStderr).putStr printed.errors
  return printed.exitCode.toUInt32

end BuildLoop.CommandLine

/-- The program. -/
def main (args : List String) : IO UInt32 := BuildLoop.CommandLine.run args
