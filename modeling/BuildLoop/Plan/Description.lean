import BuildLoop.Plan.Schedule

/-!
# Descriptions of tasks

What a task tells its worker: the path first, then what the file has to hold. The path is the first
file the text names, so that a task can be traced back to its file.

    (fileText a f) starts with "Create " ++ f.entry.path
-/

namespace BuildLoop.Plan

open Text

/-- A path as written in a file of `dir`. -/
def relativeTo (dir path : String) : String :=
  if dir.isEmpty then path
  else match after? (dir ++ "/").toList path.toList with
    | some r => String.ofList r
    | none => path

/-- The endpoints as a list in words. -/
def endpointList (a : Architecture) : String :=
  if a.endpoints.isEmpty then "GET /api/health"
  else ", ".intercalate (a.endpoints.map fun e => e.method ++ " " ++ e.path)

/-- The files beside a page that it links: styles and scripts of the frontend. -/
def linkedFiles (a : Architecture) (path : String) : List String :=
  let dir := parentDir path
  let isLinked (p : String) : Bool :=
    p != path && parentDir p == dir &&
      (Phase.ofFile? p == some .frontendStyle || Phase.ofFile? p == some .frontendLogic)
  ((a.files.frontend.map (·.path)).filter isLinked).map (relativeTo dir)

/-- What the manual says about running the application. -/
def runAdvice (hasBackend : Bool) : String :=
  if hasBackend then
    "install the backend dependencies, start the server on port 8000, then open the frontend in " ++
      "a browser."
  else "open index.html directly in a browser; no server or packages are needed."

/-- The text for the manifest of Python packages. -/
def requirementsText (a : Architecture) (path : String) : String :=
  "Create " ++ path ++ " listing the Python dependencies for the " ++ a.stack.backend ++
    " backend, one package per line: " ++ ", ".intercalate a.dependencies.backend ++ ". The app: " ++
    firstSentence a.overview

/-- The text for the manifest of Node packages. -/
def packageText (a : Architecture) (path : String) : String :=
  "Create " ++ path ++ " for the " ++ a.stack.backend ++
    " backend with \"main\": \"server.js\", a \"start\" script running 'node server.js', and " ++
    "dependencies: " ++ ", ".intercalate a.dependencies.backend ++ ". The app: " ++
    firstSentence a.overview

/-- The text for the manual. -/
def readmeText (a : Architecture) (path : String) : String :=
  "Create " ++ path ++ " documenting the application. " ++ firstSentence a.overview ++
    " Describe the features, the tech stack (backend: " ++ a.stack.backend ++ "; frontend: " ++
    a.stack.frontend ++ "; database: " ++ a.stack.database ++ ") and how to run it: " ++
    runAdvice a.hasBackend

/-- The text for the module that holds the database connection. -/
def databaseText (a : Architecture) (e : FileEntry) : String :=
  "Create " ++ e.path ++ " using " ++ a.stack.database ++ " for the " ++ a.stack.backend ++
    " backend: open the connection (configuration from environment variables where needed), " ++
    "create an items table (id, name, created_at) if it does not exist, and expose init_db() and " ++
    "get_connection() helpers. " ++ e.purpose

/-- The text for the module that holds the data models. -/
def modelsText (a : Architecture) (e : FileEntry) : String :=
  "Create " ++ e.path ++ " defining the data models for the " ++ a.stack.backend ++
    " backend: Item (id, name, created_at) and ItemCreate (name) with input validation. " ++
    e.purpose

/-- The text for the server. -/
def serverText (a : Architecture) (e : FileEntry) : String :=
  let dir := parentDir e.path
  "Create " ++ e.path ++ ", the " ++ a.stack.backend ++
    " server entry point. Enable CORS for all origins and implement the API endpoints " ++
    endpointList a ++ " returning JSON" ++
    (if a.stack.hasDatabase then
      ", persisting through the database helpers in " ++
        (if dir.isEmpty then "the backend" else dir)
    else "") ++
    ". Listen on port 8000, and start the server only when the file is run directly, never on " ++
    "import. " ++ e.purpose

/-- The text for a page. -/
def pageText (a : Architecture) (e : FileEntry) : String :=
  let links := linkedFiles a e.path
  "Create " ++ e.path ++ " as a complete HTML5 document (doctype, head with meta viewport and " ++
    "title, body) using " ++ a.stack.frontend ++ ". " ++ firstSentence a.overview ++
    " Build every UI element the app needs with unique ids for scripting" ++
    (if links.isEmpty then "" else " and link " ++ " and ".intercalate links) ++ ". " ++ e.purpose

/-- The text for a stylesheet. -/
def styleText (a : Architecture) (e : FileEntry) : String :=
  "Create " ++ e.path ++ " with the complete stylesheet for the page in the same directory: " ++
    "centered responsive layout, readable typography, clear button and input states, and a " ++
    "mobile breakpoint. " ++ firstSentence a.overview ++ " " ++ e.purpose

/-- The text for a script of a page. -/
def scriptText (a : Architecture) (e : FileEntry) : String :=
  "Create " ++ e.path ++ " implementing the browser logic in vanilla JavaScript: " ++
    firstSentence a.overview ++
    " Bind event listeners to the elements of the HTML page in the same directory and update " ++
    "the DOM" ++
    (if a.hasBackend then
      ", calling the backend with fetch() at http://localhost:8000 (" ++ endpointList a ++
        ") and showing errors to the user"
    else "; everything runs in the browser with no network requests") ++ ". " ++ e.purpose

/-- The text for any other file. -/
def otherText (a : Architecture) (f : PlannedFile) : String :=
  "Create " ++ f.entry.path ++ " for the " ++
    (if a.hasBackend then "full-stack" else "client-side") ++ " application using " ++
    (match f.role with | .backend => a.stack.backend | .frontend => a.stack.frontend) ++ ": " ++
    f.entry.purpose ++ ". " ++ firstSentence a.overview

/-- What the task that writes a file says. -/
def fileText (a : Architecture) (f : PlannedFile) : String :=
  let name := baseName f.entry.path
  if name = "requirements.txt" then requirementsText a f.entry.path
  else if name = "package.json" then packageText a f.entry.path
  else if name = "README.md" then readmeText a f.entry.path
  else match f.phase with
    | .backendCore =>
      if startsWith name "database" then databaseText a f.entry
      else if startsWith name "models" then modelsText a f.entry
      else otherText a f
    | .backendApi => serverText a f.entry
    | .frontendStructure => pageText a f.entry
    | .frontendStyle => styleText a f.entry
    | .frontendLogic => scriptText a f.entry
    | _ => otherText a f

/-- What the task that installs the packages of a file says. -/
def installText (a : Architecture) (path command : String) : String :=
  let dir := parentDir path
  "Install the " ++ a.stack.backend ++ " dependencies declared in " ++ path ++ " by running '" ++
    command ++ "' in " ++ (if dir.isEmpty then "the project root" else dir ++ "/") ++
    ". Do not modify " ++ path ++ "."

end BuildLoop.Plan
