import BuildLoop.Text.Pattern
import BuildLoop.Text.LetterCase
import BuildLoop.Text.Search

/-!
# Profiles of requests

What a request in plain words asks for, as far as the stack is concerned: whether it rules a server
out, whether it needs storage, accounts or other server features, and hence which framework and
which database serve it.

    (classify s).needsBackend  ↔  nothing rules a server out and something asks for one
-/

namespace BuildLoop

open Text Pattern

/-- A server framework. -/
inductive Framework where
  | fastApi
  | flask
  | express
  deriving DecidableEq, Repr

namespace Framework

/-- The framework's identifier. -/
def name : Framework → String
  | fastApi => "fast_api"
  | flask => "flask"
  | express => "express"

/-- The framework as a technology of a stack. -/
def label : Framework → String
  | fastApi => "FastAPI (Python)"
  | flask => "Flask (Python)"
  | express => "Express (Node.js)"

def isPython : Framework → Bool
  | express => false
  | _ => true

end Framework

/-- What a request asks for. -/
structure RequestProfile where
  /-- The request rules a server out. -/
  clientOnly : Bool
  persistence : Bool
  auth : Bool
  /-- The words for server features, sorted. -/
  serverFeatures : List String
  framework : Option Framework
  database : Option String
  deriving DecidableEq, Repr

namespace RequestProfile

/-! ## Vocabulary -/

/-- A pattern between edges of words. -/
def whole (p : Pattern) : Pattern := all [wordEdge, p, wordEdge]

/-- One of several words. -/
def oneOf (ws : List String) : Pattern := any (ws.map word)

/-- A hyphen or a blank. -/
def joint : Pattern := one fun c => c == '-' || isBlank c

/-- A language of the browser. -/
def browserLanguage : Pattern := oneOf ["html", "css", "js", "javascript"]

/-- One more language in a list. -/
def nextLanguage : Pattern :=
  all [many isBlank, one (fun c => c == '/' || c == ','), many isBlank,
    optional (seq (word "and") blanks), browserLanguage]

/-- A request for no server. -/
def noServer : Pattern :=
  any ([
    all [word "no", blanks, oneOf ["backend", "server", "database"]],
    all [word "without", blanks, optional (seq (word "a") blanks), oneOf ["backend", "server"]],
    all [word "client", optional joint, word "side", blanks, word "only"],
    all [word "client", joint, word "only"],
    all [word "frontend", joint, word "only"],
    all [browserLanguage, atLeastOnce nextLanguage, blanks, word "only"],
    all [word "static", blanks, oneOf ["site", "page", "website"]],
    all [any [seq (word "run") (optional (word "s")), word "entirely"], blanks, word "in", blanks,
      word "the", blanks, word "browser"]].map whole)

/-- A verb ending. -/
def ending : Pattern := oneOf ["e", "es", "ed", "ing"]

/-- A word for storage. -/
def storage : Pattern :=
  whole (any [word "database", word "db", word "sql", word "sqlite",
    seq (word "postgres") (optional (word "ql")), word "mysql",
    seq (word "mongo") (optional (word "db")), seq (word "persist") (many isWordChar),
    seq (word "sav") ending, seq (word "stor") ending,
    seq (word "record") (optional (word "s"))])

/-- A word for accounts. -/
def accounts : Pattern :=
  whole (any [
    all [word "log", optional (one isBlank), word "in"],
    all [word "sign", optional (one isBlank), oneOf ["up", "in"]],
    seq (word "auth") (many isWordChar),
    seq (word "account") (optional (word "s")),
    seq (word "password") (optional (word "s")),
    seq (word "register") (many isWordChar)])

/-- A word for another server feature. -/
def serverFeature : Pattern :=
  whole (any [word "server", word "backend", word "api",
    seq (word "endpoint") (optional (word "s")), seq (word "upload") (many isWordChar),
    all [word "e", optional (word "-"), word "mail", optional (word "s")],
    seq (word "payment") (optional (word "s")), word "checkout",
    seq (word "webhook") (optional (word "s"))])

/-- A word for Node. -/
def nodeWord : Pattern := whole (any [seq (word "node") (optional (word ".js")), word "express"])

/-- A word for storage inside the browser. -/
def browserStorage : Pattern :=
  whole (any [
    all [word "local", optional (one isBlank), word "storage"],
    all [word "session", optional (one isBlank), word "storage"],
    word "indexeddb",
    all [word "in", blanks, word "the", blanks, word "browser"]])

/-! ## Classification -/

/-- The words for server features in a text, each once, sorted. -/
def featuresOf (text : List Char) : List String :=
  (((findAll serverFeature text).map fun m => String.ofList m.text).mergeSort
    fun a b => decide (a ≤ b)).eraseDups

/-- The framework for a text that needs a server. -/
def chooseFramework (text : List Char) : Framework :=
  if test nodeWord text then .express
  else if occurs "flask".toList text then .flask
  else .fastApi

/-- The database for a text that needs a server: the one it names, or the usual one if it asks for
storage. -/
def chooseDatabase (text : List Char) (storesData : Bool) : Option String :=
  if occurs "postgres".toList text then some "PostgreSQL"
  else if occurs "mongo".toList text then some "MongoDB"
  else if occurs "mysql".toList text then some "MySQL"
  else if storesData then some "SQLite"
  else none

/-- What a request asks for. -/
def classify (request : String) : RequestProfile :=
  let text := lower request.toList
  let clientOnly := test noServer text
  let persistence := test storage text && !test browserStorage text
  let auth := test accounts text
  let serverFeatures := featuresOf text
  let needed := !clientOnly && (persistence || auth || !serverFeatures.isEmpty)
  { clientOnly, persistence, auth, serverFeatures
    framework := if needed then some (chooseFramework text) else none
    database := if needed then chooseDatabase text (persistence || auth) else none }

/-- Whether the request needs a server. -/
def needsBackend (p : RequestProfile) : Bool := p.framework.isSome

/-- Whether a server feature starts with a word. -/
def hasFeature (p : RequestProfile) (w : String) : Bool := p.serverFeatures.any (startsWith · w)

end RequestProfile

end BuildLoop
