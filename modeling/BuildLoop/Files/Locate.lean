import BuildLoop.Text.Blank

/-!
# File trees and where a path leads

A file tree knows which of its paths are regular files, directories and symbolic links. A path is
the list of names from the root, which is a directory in every tree. It is followed name by name,
links included; at most forty links may be met. Names and whole paths have a greatest length.

    (fs.put p n).node? p = some n,   (fs.put p n).node? q = fs.node? q        for q ≠ p and p, q ≠ []
    locate fs p = ok q   →   q is no link, and each directory on the way to q is one in `fs`
-/

namespace BuildLoop

/-! ## Trees -/

/-- A path from the root of the tree. -/
abbrev Path := List String

/-- The text of a path. -/
def Path.text (p : Path) : String := "/" ++ "/".intercalate p

/-- Contents are compared by their bytes. -/
instance (priority := 2000) decidableEqContent : DecidableEq ByteArray := fun a b =>
  decidable_of_iff (a.data = b.data) ⟨ByteArray.ext, congrArg ByteArray.data⟩

/-- What lies at a path. -/
inductive Node where
  | file (content : ByteArray)
  | directory
  | link (target : String)
  deriving DecidableEq

/-- A tree of files, each path at most once. -/
structure Files where
  entries : List (Path × Node)

/-- Why the system refuses an operation on files. -/
inductive FileError where
  | notFound
  | exists
  | notDirectory
  | isDirectory
  | nameTooLong
  | tooManyLinks
  /-- A name holds a character that no name may hold. -/
  | badName
  /-- The content is no text. -/
  | notText
  deriving DecidableEq, Repr

/-- The refusal in words. -/
def FileError.text : FileError → String
  | notFound => "No such file or directory (os error 2)"
  | .exists => "File exists (os error 17)"
  | notDirectory => "Not a directory (os error 20)"
  | isDirectory => "Is a directory (os error 21)"
  | nameTooLong => "File name too long (os error 36)"
  | tooManyLinks => "Too many levels of symbolic links (os error 40)"
  | badName => "file name contained an unexpected NUL byte"
  | notText => "stream did not contain valid UTF-8"

namespace Files

/-- The tree with nothing below its root. -/
def empty : Files := ⟨[]⟩

/-- What lies at a path. -/
def node? (fs : Files) (p : Path) : Option Node :=
  if p = [] then some .directory else fs.entries.lookup p

/-- The tree without a path. -/
def erase (fs : Files) (p : Path) : Files := ⟨fs.entries.filter fun e => !(e.1 == p)⟩

/-- The tree with a node at a path. -/
def put (fs : Files) (p : Path) (n : Node) : Files := ⟨(fs.erase p).entries ++ [(p, n)]⟩

/-- The names in a directory, with what they are. -/
def children (fs : Files) (dir : Path) : List (String × Node) :=
  fs.entries.filterMap fun e =>
    match e.1.getLast? with
    | some name => if e.1.dropLast = dir then some (name, e.2) else none
    | none => none

/-- The paths of the regular files below a directory, relative to it, unless they go through an
ignored directory. -/
def filesBelow (fs : Files) (root : Path) (ignored : List String) : List Path :=
  fs.entries.filterMap fun e =>
    match e.2 with
    | .file _ =>
      let below := e.1.drop root.length
      if root.isPrefixOf e.1 && !below.dropLast.any ignored.contains then some below else none
    | _ => none

end Files

namespace Files

open Text

/-! ## Limits -/

/-- How many bytes a name may have. -/
def nameLimit : Nat := 255

/-- How many bytes a whole path may have. -/
def pathLimit : Nat := 4095

/-- How many links may be met on the way. -/
def linkLimit : Nat := 40

/-- Whether a name holds a character that no name may hold. -/
def isBadName (name : String) : Bool := name.toList.any fun c => c.toNat == 0

/-- What is wrong with a path, wherever it leads. -/
def pathFault? (p : Path) : Option FileError :=
  if p.any isBadName then some .badName
  else if (Path.text p).utf8ByteSize > pathLimit then some .nameTooLong
  else none

/-- The names of a text of a path, blank ones included. -/
def namesOf (text : String) : List String :=
  (splitAtEach (· == '/') text.toList).map String.ofList

/-- Follows names from a directory. -/
def follow (fs : Files) (links : Nat) (dir : Path) : List String → Except FileError Path
  | [] => .ok dir
  | name :: rest =>
    if name = "" ∨ name = "." then follow fs links dir rest
    else if name = ".." then follow fs links dir.dropLast rest
    else if name.utf8ByteSize > nameLimit then .error .nameTooLong
    else match fs.node? (dir ++ [name]) with
      | none => .error .notFound
      | some .directory => follow fs links (dir ++ [name]) rest
      | some (.file _) => if rest.isEmpty then .ok (dir ++ [name]) else .error .notDirectory
      | some (.link target) =>
        match links with
        | 0 => .error .tooManyLinks
        | links + 1 =>
          follow fs links (if target.toList.head? = some '/' then [] else dir)
            (namesOf target ++ rest)
termination_by names => (links, names.length)

/-- Where a path leads. -/
def locate (fs : Files) (p : Path) : Except FileError Path :=
  match pathFault? p with
  | some e => .error e
  | none => follow fs linkLimit [] p

/-- Whether a path leads somewhere. -/
def leads (fs : Files) (p : Path) : Bool :=
  match fs.locate p with
  | .ok _ => true
  | .error _ => false

/-- Whether a path leads to a directory. -/
def isDirectory (fs : Files) (p : Path) : Bool :=
  match fs.locate p with
  | .ok q => fs.node? q == some .directory
  | .error _ => false

/-- Where the entry of a path lies, whatever it is: the place its directory leads to, and its own
name; the name `..` is the directory above. -/
def locateEntry (fs : Files) (p : Path) : Except FileError Path :=
  match p.getLast? with
  | none => .ok []
  | some name =>
    match pathFault? p, fs.locate p.dropLast with
    | some e, _ => .error e
    | none, .error e => .error e
    | none, .ok dir =>
      if fs.node? dir != some .directory then .error .notDirectory
      else if name = ".." then .ok dir.dropLast
      else if name.utf8ByteSize > nameLimit then .error .nameTooLong
      else .ok (dir ++ [name])

end Files

end BuildLoop
