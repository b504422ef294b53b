import BuildLoop.Files.Locate

/-!
# Reading and changing files

Each change succeeds or leaves the tree as it was, except that directories made on the way to a
directory stay.

    (makeDirectories fs p).1 has the regular files of `fs`
    moveFile fs a b = ok fs'   →   `fs'` has at `b` what `fs` has at `a`, and nothing at `a`
-/

namespace BuildLoop.Files

/-- The bytes of the file that a path leads to. -/
def readBytes (fs : Files) (p : Path) : Except FileError ByteArray :=
  match fs.locate p with
  | .error e => .error e
  | .ok q =>
    match fs.node? q with
    | some (.file content) => .ok content
    | some .directory => .error .isDirectory
    | _ => .error .notFound

/-- The text of the file that a path leads to. -/
def readText (fs : Files) (p : Path) : Except FileError String :=
  match fs.readBytes p with
  | .error e => .error e
  | .ok bytes =>
    match String.fromUTF8? bytes with
    | some s => .ok s
    | none => .error .notText

/-- Makes one directory. -/
def makeDirectory (fs : Files) (p : Path) : Except FileError Files :=
  match fs.locateEntry p with
  | .error e => .error e
  | .ok q => if (fs.node? q).isSome then .error .exists else .ok (fs.put q .directory)

/-- Makes one directory, or finds it made. -/
def ensureDirectory (fs : Files) (p : Path) : Except FileError Files :=
  match fs.makeDirectory p with
  | .ok fs' => .ok fs'
  | .error e => if fs.isDirectory p then .ok fs else .error e

/-- Makes a directory and those above it, given by its names from the last to the first. -/
def makeUp (fs : Files) : List String → Files × Except FileError Unit
  | [] => (fs, .ok ())
  | name :: up =>
    let p := (name :: up).reverse
    match fs.makeDirectory p with
    | .ok fs' => (fs', .ok ())
    | .error .notFound =>
      match makeUp fs up with
      | (fs', .error e) => (fs', .error e)
      | (fs', .ok ()) =>
        match fs'.ensureDirectory p with
        | .ok fs'' => (fs'', .ok ())
        | .error e => (fs', .error e)
    | .error e => if fs.isDirectory p then (fs, .ok ()) else (fs, .error e)

/-- Makes a directory and those above it that are missing. -/
def makeDirectories (fs : Files) (p : Path) : Files × Except FileError Unit := makeUp fs p.reverse

/-- Writes the file that a path leads to, or a new one. -/
def writeFile (fs : Files) (p : Path) (content : ByteArray) : Except FileError Files :=
  match fs.locate p with
  | .ok q =>
    if fs.node? q = some .directory then .error .isDirectory else .ok (fs.put q (.file content))
  | .error .notFound =>
    match fs.locateEntry p with
    | .error e => .error e
    | .ok q => if (fs.node? q).isSome then .error .notFound else .ok (fs.put q (.file content))
  | .error e => .error e

/-- Removes a file. -/
def removeFile (fs : Files) (p : Path) : Except FileError Files :=
  match fs.locateEntry p with
  | .error e => .error e
  | .ok q =>
    match fs.node? q with
    | none => .error .notFound
    | some .directory => .error .isDirectory
    | some _ => .ok (fs.erase q)

/-- Moves a file to a path and replaces what lies there, unless that is a directory. -/
def moveFile (fs : Files) (source target : Path) : Except FileError Files := do
  let old ← fs.locateEntry source
  let new ← fs.locateEntry target
  match fs.node? old, fs.node? new with
  | none, _ => .error .notFound
  | some _, some .directory => .error .isDirectory
  | some n, _ => .ok ((fs.erase old).put new n)

/-- Makes a symbolic link. -/
def makeLink (fs : Files) (p : Path) (target : String) : Except FileError Files :=
  if isBadName target then .error .badName
  else if target.isEmpty then .error .notFound
  else if target.utf8ByteSize > pathLimit then .error .nameTooLong
  else match fs.locateEntry p with
  | .error e => .error e
  | .ok q => if (fs.node? q).isSome then .error .exists else .ok (fs.put q (.link target))

end BuildLoop.Files
