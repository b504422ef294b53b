import BuildLoop.Failure
import BuildLoop.Text.LetterCase
import BuildLoop.Text.Search

/-!
# Architectures

An architecture says which technology serves each layer of an application, which files make it up,
what it depends on and how its parts talk. A layer that is absent has the technology `none`; other
ways to say so are rewritten by `normalized`.

    a.normalized.hasBackend = a.hasBackend
    a.validate = ok   ↔   there are files, a data flow, backend files only with a backend, and every
                          path stays inside the project
-/

namespace BuildLoop

open Text

/-- The technology of an absent layer. -/
def noLayer : String := "none"

/-- Whether a technology says that the layer is absent. -/
def isNoLayer (technology : String) : Bool :=
  let v := lower (trim technology.toList)
  v.isEmpty || noLayer.toList.isPrefixOf v || v == "n/a".toList

/-- The technology of each layer. -/
structure TechStack where
  backend : String
  frontend : String
  database : String
  additional : List String
  deriving DecidableEq, Repr

namespace TechStack

/-- The technology, with an absent layer called `none`. -/
def normalLayer (technology : String) : String :=
  if isNoLayer technology then noLayer else technology

/-- The stack with every absent layer called `none`. -/
def normalized (t : TechStack) : TechStack :=
  { t with
    backend := normalLayer t.backend
    frontend := normalLayer t.frontend
    database := normalLayer t.database }

def hasBackend (t : TechStack) : Bool := !isNoLayer t.backend

def hasFrontend (t : TechStack) : Bool := !isNoLayer t.frontend

def hasDatabase (t : TechStack) : Bool := !isNoLayer t.database

/-- Whether the backend's technology names one of some words, in any letter case. -/
def backendNames (t : TechStack) (names : List String) : Bool :=
  t.hasBackend && names.any fun n => contains (lowercase t.backend) n

/-- Whether the backend is written in Python. -/
def isPython (t : TechStack) : Bool := t.backendNames ["python", "fastapi", "flask", "django"]

/-- Whether the backend runs on Node. -/
def isNode (t : TechStack) : Bool := t.backendNames ["node", "express"]

end TechStack

/-- A file of the manifest and what it is for. -/
structure FileEntry where
  path : String
  purpose : String
  deriving DecidableEq, Repr

/-- The files of an application by section. -/
structure FileStructure where
  backend : List FileEntry
  frontend : List FileEntry
  config : List FileEntry
  deriving DecidableEq, Repr

namespace FileStructure

/-- All files, those of the backend first. -/
def entries (f : FileStructure) : List FileEntry := f.backend ++ f.frontend ++ f.config

/-- All paths, in the order of the entries. -/
def paths (f : FileStructure) : List String := f.entries.map (·.path)

/-- Whether a path is listed. -/
def contains (f : FileStructure) (path : String) : Bool := f.paths.contains path

end FileStructure

/-- Packages by layer. -/
structure Dependencies where
  backend : List String
  frontend : List String
  deriving DecidableEq, Repr

/-- A request that the server answers. -/
structure Endpoint where
  method : String
  path : String
  description : String
  deriving DecidableEq, Repr

/-- The design of an application. -/
structure Architecture where
  stack : TechStack
  overview : String
  files : FileStructure
  dependencies : Dependencies
  endpoints : List Endpoint
  dataFlow : String
  instructions : String
  deriving DecidableEq, Repr

/-- The components of a path that are not empty. -/
def pathComponents (path : List Char) : List (List Char) :=
  (splitAtEach (· == '/') path).filter (!·.isEmpty)

/-- Whether a path is not blank, not absolute, and never climbs. -/
def isRelativeInside (path : String) : Bool :=
  !isBlankText path && path.toList.head? != some '/' &&
    (pathComponents path.toList).all (· != ['.', '.'])

namespace Architecture

def hasBackend (a : Architecture) : Bool := a.stack.hasBackend

/-- The architecture with every absent layer called `none`. -/
def normalized (a : Architecture) : Architecture := { a with stack := a.stack.normalized }

/-- What is wrong with the architecture, the first of: no files, no data flow, files of an absent
backend, a path that leads out of the project. -/
def validate (a : Architecture) : Except Failure Unit :=
  if a.files.entries.isEmpty then
    .error (.planning "architecture has an empty file manifest")
  else if isBlankText a.dataFlow then
    .error (.planning "architecture has no data flow narrative")
  else if !a.hasBackend && !a.files.backend.isEmpty then
    .error (.planning ("backend is '" ++ a.stack.backend ++ "' but " ++
      toString a.files.backend.length ++ " backend file(s) are listed"))
  else match a.files.paths.find? (!isRelativeInside ·) with
    | some path =>
      .error (.planning ("manifest path '" ++ path ++ "' must be relative to the project root"))
    | none => .ok ()

/-! ## Lemmas -/

theorem normalLayer_eq_of_not (s : String) (h : isNoLayer s = false) :
    TechStack.normalLayer s = s := by simp [TechStack.normalLayer, h]

end Architecture

end BuildLoop
