import BuildLoop.Json.Value
import BuildLoop.Scaffold.NodeTemplate
import BuildLoop.Scaffold.PageTemplate
import BuildLoop.Scaffold.PythonTemplate
import BuildLoop.Scaffold.Title
import BuildLoop.Task.Phase

/-!
# Files from templates

The body of a file follows from its path, the description of its task and a glance at the project.
Files of kinds without a template, and databases other than the embedded one, are refused.

    render c = ok body   →   checkComplete c.path body = ok
-/

namespace BuildLoop.Scaffold

open Text

/-- What a template has to know. -/
structure Context where
  path : String
  description : String
  /-- The names of the files beside the file. -/
  siblings : List String
  /-- Every file of the project. -/
  tree : List String
  /-- The manifest of the backend's packages. -/
  manifest : String
  deriving DecidableEq, Repr

namespace Context

/-- Whether the description holds a text. -/
def mentions (c : Context) (text : String) : Bool := contains c.description text

/-- Whether the description or the manifest names Flask. -/
def isFlask (c : Context) : Bool :=
  contains (lowercase (c.description ++ "\n" ++ c.manifest)) "flask"

/-- Whether a script has a server to talk to. -/
def usesServer (c : Context) : Bool :=
  let description := lowercase c.description
  contains description "fetch(" || contains description "localhost:8000" ||
    c.tree.any (startsWith · "backend/")

/-- The database that has no template, if the description names one. -/
def foreignDatabase? (c : Context) : Option String :=
  ["PostgreSQL", "MongoDB", "MySQL"].find? c.mentions

/-- Whether the file is the server. -/
def isServer (c : Context) : Bool := Phase.ofFile? c.path == some .backendApi

end Context

/-! ## Manifests and documents -/

/-- The manifest of Python packages. -/
def requirements (c : Context) : String :=
  let packages := listedAfter c.description "one package per line:"
  if packages.isEmpty then "# No third-party dependencies\n" else unlines packages

/-- A title as the name of a package. -/
def slug (title : String) : String :=
  let cs := (lower title.toList).map fun c => if c.isAlphanum then c else '-'
  String.ofList (dropEndWhile (· == '-') (cs.dropWhile (· == '-')))

/-- The manifest of Node packages. -/
def packageManifest (c : Context) (title : String) : String :=
  let dependencies := (listedAfter c.description "dependencies:").foldl
    (fun ms name => Json.insert name (.text "*") ms) []
  Json.indented (.object [
    ("dependencies", .object dependencies),
    ("main", .text "server.js"),
    ("name", .text (slug title)),
    ("private", .bool true),
    ("scripts", .object [("start", .text "node server.js")]),
    ("version", .text "1.0.0")]) ++ "\n"

/-- How to run the project, by the server that its tree holds. -/
def runInstructions (tree : List String) : String :=
  let served (steps : List String) := unlines (["```sh", "cd backend"] ++ steps ++ ["```", "",
    "The API listens on http://localhost:8000. Then open `frontend/index.html` in a browser."])
  if tree.contains "backend/main.py" then
    served ["pip install -r requirements.txt", "python main.py"]
  else if tree.contains "backend/server.js" then served ["npm install", "node server.js"]
  else "No build step or server is needed: open `index.html` in a browser.\n"

/-- The manual. -/
def readme (c : Context) (title : String) : String :=
  let summary := match cutAt "documenting the application.".toList c.description.toList with
    | some (_, rest) => String.ofList (trim rest)
    | none => c.description
  let files := (if c.tree.contains c.path then c.tree else c.tree ++ [c.path]).mergeSort
    fun a b => decide (a ≤ b)
  "# " ++ title ++ "\n\n" ++ summary ++ "\n\n## Files\n\n" ++
    unlines (files.map fun f => "- `" ++ f ++ "`") ++ "\n## Running\n\n" ++ runInstructions c.tree

/-! ## Pages -/

/-- The files that a page may link, as written in it: those its description names, but the page and
what belongs to the backend, and those beside it. -/
def assets (c : Context) : List String :=
  let dir := parentDir c.path
  let named := (mentioned c.description).filter fun f =>
    f != c.path && Role.ofPath? f != some .backend
  named.map (fun f =>
    if dir.isEmpty then f
    else match after? (dir ++ "/").toList f.toList with
      | some r => String.ofList r
      | none => f) ++ c.siblings

/-- The assets with an extension in any letter case, each once. -/
def withExtension (ext : String) (names : List String) : List String :=
  (names.filter fun n => endsWith (lowercase n) ext).eraseDups

/-- A page. -/
def html (c : Context) (title : String) : String :=
  let links := (withExtension ".css" (assets c)).map fun f =>
    "    <link rel=\"stylesheet\" href=\"" ++ f ++ "\">"
  let scripts := (withExtension ".js" (assets c)).map fun f =>
    "    <script src=\"" ++ f ++ "\"></script>"
  replaced
    (replaced (replaced Template.page "__TITLE__" title) "__LINKS__" ("\n".intercalate links))
    "__SCRIPTS__" ("\n".intercalate scripts)

/-! ## Servers -/

/-- Parts that are there on a condition. -/
def parts (ps : List (Bool × String)) : String :=
  String.join ((ps.filter (·.1)).map (·.2))

/-- A Python server. -/
def pythonServer (c : Context) (title : String) : String :=
  let storage := if c.siblings.contains "database.py" then
      "from database import add_item, list_items\n"
    else Template.pythonStore
  let hasAccounts := c.mentions "/api/register"
  let hasUpload := c.mentions "/api/upload"
  if c.isFlask then
    let extra := parts [(hasAccounts, Template.flaskAccounts), (hasUpload, Template.flaskUpload)]
    replaced (replaced (replaced Template.flaskServer "__STORAGE__" storage) "__EXTRA__" extra)
      "__TITLE__" title
  else
    let models := if c.siblings.contains "models.py" then
        "from models import Credentials, ItemCreate\n"
      else Template.inlineModels
    let extra :=
      parts [(hasAccounts, Template.fastApiAccounts), (hasUpload, Template.fastApiUpload)]
    replaced
      (replaced (replaced (replaced Template.fastApiServer "__MODELS__" models) "__STORAGE__" storage)
        "__EXTRA__" extra)
      "__TITLE__" title

/-- A Python module with nothing but a main function. -/
def pythonModule (stem title : String) : String :=
  "\"\"\"" ++ title ++ " " ++ stem ++ " module.\"\"\"\n\n\ndef main():\n    print(\"" ++ title ++
    "\")\n\n\nif __name__ == \"__main__\":\n    main()\n"

/-- The refusal of a database. -/
def noStorage (c : Context) (database : String) : String :=
  "no scaffold template for " ++ database ++ " storage in " ++ c.path

/-- A Python file. -/
def python (c : Context) (stem title : String) : Except String String :=
  if stem = "database" then
    match c.foreignDatabase? with
    | some db => .error (noStorage c db)
    | none => .ok (replaced Template.pythonDatabase "__TITLE__" title)
  else if stem = "models" then
    .ok (replaced (if c.isFlask then Template.plainModels else Template.fastApiModels)
      "__TITLE__" title)
  else if c.isServer then .ok (pythonServer c title)
  else .ok (pythonModule stem title)

/-- A Node server. -/
def nodeServer (c : Context) (title : String) : String :=
  let storage := if c.siblings.contains "database.js" then
      "const \x7b listItems, addItem \x7d = require('./database');\n"
    else Template.nodeStore
  let extra := parts [(c.mentions "/api/register", Template.expressAccounts),
    (c.mentions "/api/upload", Template.expressUpload)]
  replaced (replaced (replaced Template.expressServer "__STORAGE__" storage) "__EXTRA__" extra)
    "__TITLE__" title

/-- A script of the backend. -/
def node (c : Context) (stem title : String) : Except String String :=
  if stem = "database" then
    match c.foreignDatabase? with
    | some db => .error (noStorage c db)
    | none => .ok (replaced Template.nodeDatabase "__TITLE__" title)
  else if stem = "models" then .ok (replaced Template.nodeModels "__TITLE__" title)
  else if c.isServer || stem == "server" then .ok (nodeServer c title)
  else
    .ok ("'use strict';\n\n// " ++ title ++ " " ++ stem ++
      " module.\n\nmodule.exports = \x7b\x7d;\n")

/-! ## All files -/

/-- The body of a file, or why there is none. -/
def render (c : Context) : Except String String :=
  let name := lowercase (baseName c.path)
  let ext := extension name
  let stem := stem name
  let title := appTitle c.description
  if name = "requirements.txt" then .ok (requirements c)
  else if name = "package.json" then .ok (packageManifest c title)
  else if startsWith name ".env" then .ok "PORT=8000\nDATABASE_PATH=app.db\n"
  else if ext = "md" then .ok (readme c title)
  else if ext = "html" ∨ ext = "htm" then .ok (html c title)
  else if ext = "css" ∨ ext = "scss" then .ok (replaced Template.stylesheet "__TITLE__" title)
  else if ext = "py" then python c stem title
  else if ext = "js" ∧ Role.ofPath? c.path = some .backend then node c stem title
  else if ext = "js" then
    .ok (replaced (if c.usesServer then Template.serverScript else Template.localScript)
      "__TITLE__" title)
  else .error ("no scaffold template for " ++ c.path)

end BuildLoop.Scaffold
