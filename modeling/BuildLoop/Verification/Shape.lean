import BuildLoop.Architecture
import BuildLoop.Task.Phase

/-!
# Shapes of projects

What kind of project lies in a tree, and which file is its entry point. The files that the
architecture declares come before those that are found in the tree.

    detectShape a tree is a static site or a lone script     unless `a` has a backend
-/

namespace BuildLoop

open Text

/-- The kind of a project, with its entry point. -/
inductive ProjectShape where
  | staticSite (entry : String)
  | pythonServer (entry : String)
  | pythonScript (entry : String)
  | nodeServer (entry : String)
  | nodeScript (entry : String)
  | unknown
  deriving DecidableEq, Repr

namespace ProjectShape

/-- The shape's name. -/
def name : ProjectShape → String
  | staticSite _ => "static_site"
  | pythonServer _ => "python_server"
  | pythonScript _ => "python_script"
  | nodeServer _ => "node_server"
  | nodeScript _ => "node_script"
  | unknown => "unknown"

/-- The entry point. -/
def entry? : ProjectShape → Option String
  | staticSite e | pythonServer e | pythonScript e | nodeServer e | nodeScript e => some e
  | unknown => none

/-- The name of the check that the shape gets. -/
def checkName : ProjectShape → String
  | staticSite _ => "structural_check"
  | pythonServer _ => "import_check"
  | pythonScript _ | nodeServer _ | nodeScript _ => "syntax_check"
  | unknown => "none"

end ProjectShape

namespace Verification

/-- The directory of a path, `.` for the root, and its last component. -/
def splitDir (path : String) : String × String := ((dirName? path).getD ".", baseName path)

/-- Whether a file answers requests. -/
def isServerFile (path : String) : Bool := Phase.ofFile? path == some .backendApi

/-- A script that the backend owns. -/
def isBackendScript (path : String) : Bool :=
  extension path == "js" && Role.ofPath? path == some .backend

/-- The shape of a project with a backend. -/
def backendShape (declared tree : List String) : ProjectShape :=
  let python := (declared.find? fun p => extension p == "py" && isServerFile p).or
    (["backend/main.py", "backend/app.py", "main.py", "app.py"].find? tree.contains)
  if let some e := python then .pythonServer e
  else if let some e := declared.find? fun p => isBackendScript p && isServerFile p then
    .nodeServer e
  else if let some e := tree.find? (extension · == "py") then .pythonScript e
  else if let some e := tree.find? isBackendScript then .nodeScript e
  else .unknown

/-- The shape of a project without a backend. -/
def frontendShape (declared tree : List String) : ProjectShape :=
  let pages := declared.filter fun p => extension p == "html" || extension p == "htm"
  let entry := ((pages.find? (baseName · == "index.html")).or pages.head?).or
    (["index.html", "frontend/index.html", "public/index.html"].find? tree.contains)
  if let some e := entry then .staticSite e
  else if let some e := tree.find? (extension · == "py") then .pythonScript e
  else .unknown

/-- The shape of a project. -/
def detectShape (a : Architecture) (tree : List String) : ProjectShape :=
  if a.hasBackend then backendShape a.files.paths tree else frontendShape a.files.paths tree

end Verification

end BuildLoop
