import BuildLoop.Architecture
import BuildLoop.Request.Profile

/-!
# Designs by rule

The architecture of a request follows from its profile: three files for the browser, or a frontend
with a server, its data modules and its endpoints.

    (design s).hasBackend = (classify s).needsBackend
    (design s).validate = ok
-/

namespace BuildLoop

open Text

namespace Design

/-- The first line of a request, at most 120 characters of it, without the marks at its end. -/
def summary (request : String) : String :=
  let line := trim ((lines request.toList).head?.getD [])
  String.ofList (dropEndWhile (fun c => c == '.' || c == ',' || c == ';') (line.take 120))

/-- The technology of every frontend. -/
def vanilla : String := "HTML/CSS/JavaScript (Vanilla)"

/-- An application that runs in the browser alone. -/
def clientOnly (request : String) : Architecture where
  stack :=
    ⟨noLayer, vanilla, noLayer, ["No build process", "No npm/pip packages"]⟩
  overview :=
    "A pure client-side application (" ++ summary request ++
      "). All logic runs in the browser; there is no server, no API and no database."
  files := {
    backend := []
    frontend := [
      ⟨"index.html", "Complete HTML structure and UI elements"⟩,
      ⟨"style.css", "All styling, responsive layout"⟩,
      ⟨"script.js", "All application logic and DOM event handlers"⟩]
    config := [⟨"README.md", "How to open and use the app"⟩] }
  dependencies := ⟨[], []⟩
  endpoints := []
  dataFlow :=
    "User interacts with the page -> JavaScript event handlers run in the browser -> DOM is " ++
      "updated. No network requests."
  instructions :=
    "Place index.html, style.css, script.js and README.md in the project root. Open index.html " ++
      "directly in a browser."

/-- The files of the server. -/
def serverFiles (f : Framework) (database : Option String) : List FileEntry :=
  let ext := if f.isPython then "py" else "js"
  (if f.isPython then [⟨"backend/requirements.txt", "Python dependencies"⟩]
    else [⟨"backend/package.json", "Node.js dependencies and scripts"⟩]) ++
  (database.toList.map fun db => ⟨"backend/database." ++ ext, db ++ " connection and table setup"⟩) ++
  [⟨"backend/models." ++ ext, "Data models and validation"⟩,
    ⟨if f.isPython then "backend/main.py" else "backend/server.js",
      "Server entry point and API routes"⟩]

/-- The packages of a framework. -/
def frameworkPackages : Framework → List String
  | .fastApi => ["fastapi", "uvicorn[standard]", "pydantic"]
  | .flask => ["flask", "flask-cors"]
  | .express => ["express", "cors"]

/-- The packages that talk to a database. -/
def databasePackages (isPython : Bool) : Option String → List String
  | some "PostgreSQL" => [if isPython then "psycopg2-binary" else "pg"]
  | some "MongoDB" => [if isPython then "pymongo" else "mongodb"]
  | some "MySQL" => [if isPython then "pymysql" else "mysql2"]
  | some _ => if isPython then [] else ["better-sqlite3"]
  | none => []

/-- The packages of the server. -/
def serverPackages (p : RequestProfile) (f : Framework) : List String :=
  frameworkPackages f ++ databasePackages f.isPython p.database ++
  (if p.auth then [if f.isPython then "passlib[bcrypt]" else "bcryptjs"] else []) ++
  (if p.hasFeature "upload" && f == .fastApi then ["python-multipart"] else [])

/-- The requests that the server answers. -/
def serverEndpoints (p : RequestProfile) : List Endpoint :=
  [⟨"GET", "/api/health", "Liveness check"⟩,
    ⟨"GET", "/api/items", "List stored items"⟩,
    ⟨"POST", "/api/items", "Create an item"⟩] ++
  (if p.auth then
    [⟨"POST", "/api/register", "Create an account"⟩,
      ⟨"POST", "/api/login", "Authenticate a user"⟩]
  else []) ++
  (if p.hasFeature "upload" then [⟨"POST", "/api/upload", "Accept a file upload"⟩] else [])

/-- A text about the database, if there is one. -/
def withDatabase (lead : String) : Option String → String
  | some db => lead ++ db
  | none => ""

/-- An application with a server. -/
def fullStack (request : String) (p : RequestProfile) (f : Framework) : Architecture where
  stack :=
    ⟨f.label, vanilla, p.database.getD noLayer, ["CORS enabled for the frontend"]⟩
  overview :=
    "A full-stack application (" ++ summary request ++ "). A " ++ f.label ++
      " backend exposes a JSON API" ++ withDatabase " backed by " p.database ++
      "; a vanilla HTML/CSS/JS frontend calls it with fetch()."
  files := {
    backend := serverFiles f p.database
    frontend := [
      ⟨"frontend/index.html", "Main page markup"⟩,
      ⟨"frontend/style.css", "Page styling"⟩,
      ⟨"frontend/app.js", "Client logic and API calls"⟩]
    config := [⟨"README.md", "Setup and run instructions"⟩] }
  dependencies := ⟨serverPackages p f, []⟩
  endpoints := serverEndpoints p
  dataFlow :=
    "User interacts with the page -> frontend/app.js sends fetch() to /api/* -> " ++ f.label ++
      " handles the request" ++ withDatabase " and reads/writes " p.database ++
      " -> JSON response -> DOM update."
  instructions :=
    "Backend code lives in backend/, browser code in frontend/. The server listens on port 8000 " ++
      "and must not start on import."

end Design

/-- The architecture of a request. -/
def design (request : String) : Architecture :=
  let profile := RequestProfile.classify request
  match profile.framework with
  | none => Design.clientOnly request
  | some f => Design.fullStack request profile f

/-- The architecture of a request that is not blank. -/
def resolveByRule (request : String) : Except Failure Architecture :=
  if isBlankText request then .error (.planning "requirements are empty")
  else .ok (design request)

end BuildLoop
