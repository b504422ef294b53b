import BuildLoop.Task.Mentions

/-!
# Roles and phases of files

The path of a file tells which role owns it and in which phase of a plan it is written. Phases are
ordered: setup, backend core, backend interface, frontend structure, style, logic, documentation.
-/

namespace BuildLoop

open Text

/-- A path in lower case with `/` between its components. -/
def normalizedPath (path : String) : List Char :=
  lower ((trim path.toList).map fun c => if c = '\\' then '/' else c)

/-- Whether a path starts with one of some directories. -/
def isUnder (dirs : List String) (path : List Char) : Bool :=
  dirs.any fun d => d.toList.isPrefixOf path

/-- The role that owns a file. Documents and the manifests in the root belong to either. -/
def Role.ofPath? (path : String) : Option Role :=
  let path := dropHere (normalizedPath path)
  let name := baseName (String.ofList path)
  let ext := extension name
  if name = "requirements.txt" ∨ startsWith name ".env" ∨ ext = "py" then some .backend
  else if ext ∈ ["md", "txt", "rst"] then none
  else if isUnder ["backend/", "server/"] path then some .backend
  else if name = "server.js" then some .backend
  else if isUnder ["frontend/", "client/", "public/", "static/"] path then some .frontend
  else if ext ∈ ["html", "htm", "css", "scss", "js", "jsx", "ts", "tsx", "vue", "svelte"] then
    some .frontend
  else none

/-- When a file is written. -/
inductive Phase where
  | setup
  | backendCore
  | backendApi
  | frontendStructure
  | frontendStyle
  | frontendLogic
  | docs
  deriving DecidableEq, Repr

namespace Phase

/-- The phase's place in the order. -/
def rank : Phase → Nat
  | setup => 0
  | backendCore => 1
  | backendApi => 2
  | frontendStructure => 3
  | frontendStyle => 4
  | frontendLogic => 5
  | docs => 6

/-- The phase's name. -/
def name : Phase → String
  | setup => "setup"
  | backendCore => "backend_core"
  | backendApi => "backend_api"
  | frontendStructure => "frontend_structure"
  | frontendStyle => "frontend_style"
  | frontendLogic => "frontend_logic"
  | docs => "docs"

/-- Names of files that set a project up. -/
def setupFiles : List String :=
  ["requirements.txt", "package.json", "pyproject.toml", "setup.cfg", ".env", ".env.example",
    "config.json"]

/-- Names, without extension, of files that serve requests. -/
def serverStems : List String :=
  ["main", "app", "server", "index", "routes", "api", "views", "endpoints", "wsgi", "asgi"]

/-- The phase of a file, if its path tells. -/
def ofFile? (path : String) : Option Phase :=
  let normalized := String.ofList (normalizedPath path)
  let name := baseName normalized
  let ext := extension name
  if name ∈ setupFiles then some setup
  else if ext = "md" then some docs
  else match Role.ofPath? path with
    | none => none
    | some .backend =>
      if contains normalized "/routes/" ∨ contains normalized "/api/" ∨ stem name ∈ serverStems then
        some backendApi
      else some backendCore
    | some .frontend =>
      if ext ∈ ["html", "htm", "vue", "svelte", "jsx", "tsx"] then some frontendStructure
      else if ext ∈ ["css", "scss"] then some frontendStyle
      else if ext ∈ ["js", "ts"] then some frontendLogic
      else none

/-- The phase of a task, from the first file it names. -/
def ofTask? (t : Task) : Option Phase := t.primaryFile?.bind ofFile?

end Phase

end BuildLoop
