import BuildLoop.Text.Search
import BuildLoop.Url.Address

/-!
# Reading addresses

Blanks and controls around an address do not count, nor do tabs and line ends in it. On the web and for
files a backslash is a slash, and a port that goes without saying is left out. The names `.` and `..`
of a path are followed at once.

    read? s = ok u   →   u has a scheme; on the web it has a host and a path
-/

namespace BuildLoop.Url

open Text

/-! ## Schemes -/

/-- How the rest of an address is read. -/
inductive Kind where
  /-- A host and a path, with this port if none is given. -/
  | web (port : Nat)
  | file
  | other
  deriving DecidableEq, Repr

/-- The kind of a scheme. -/
def Kind.ofScheme : String → Kind
  | "http" | "ws" => .web 80
  | "https" | "wss" => .web 443
  | "ftp" => .web 21
  | "file" => .file
  | _ => .other

/-- Whether a backslash is a slash. -/
def Kind.isSpecial : Kind → Bool
  | .other => false
  | _ => true

/-- The scheme before the first colon, in small letters, and what follows. -/
def readScheme? (cs : List Char) : Option (String × List Char) :=
  let name := cs.takeWhile fun c => c.isAlphanum || c == '+' || c == '-' || c == '.'
  match cs.drop name.length with
  | ':' :: r =>
    if name.head?.any Char.isAlpha then some (String.ofList (name.map Char.toLower), r) else none
  | _ => none

/-! ## Paths -/

/-- Whether a character parts the names of a path. -/
def Kind.isSlash (k : Kind) (c : Char) : Bool := c == '/' || (k.isSpecial && c == '\\')

/-- Whether a name stays where it is. -/
def isHere (name : String) : Bool := name = "." || name = "%2e" || name = "%2E"

/-- Whether a name goes up. -/
def isUp (name : String) : Bool :=
  [".", "%2e", "%2E"].any fun a => [".", "%2e", "%2E"].any fun b => name == a ++ b

/-- Whether a name is a drive: a letter with a colon or a bar. -/
def isDrive : List Char → Bool
  | [a, b] => a.isAlpha && (b == ':' || b == '|')
  | _ => false

/-- The names without the last; a drive stays. -/
def goUp (ns : List String) : List String :=
  if ns.getLast?.any (isDrive ·.toList) then ns else ns.dropLast

/-- Adds a name; a drive at the front of the path of a file gets its colon. -/
def addName (k : Kind) (ns : List String) (name : String) : List String :=
  if k = .file && ns.isEmpty && isDrive name.toList then
    [String.ofList (name.toList.take 1 ++ [':'])]
  else ns ++ [name]

/-- Follows the names of a path. -/
def followNames (k : Kind) (ns : List String) : List String → List String
  | [] => ns
  | name :: r =>
    if isUp name then
      let up := goUp ns
      followNames k (if r.isEmpty then up ++ [""] else up) r
    else if isHere name then followNames k (if r.isEmpty then ns ++ [""] else ns) r
    else followNames k (addName k ns name) r

/-- The names of a path after its first slash. -/
def readNames (k : Kind) (path : List Char) : List String :=
  let names := (splitAtEach k.isSlash path).map (escape inPath)
  followNames k [] names

/-- The path of an address with a host. -/
def readRoute (k : Kind) (path : List Char) : List String :=
  match path with
  | [] => if k.isSpecial then [""] else []
  | c :: r => readNames k (if k.isSlash c then r else path)

/-- The path of a file with these names. Empty names at the front do not count. -/
def fileRoute (names : List String) : Route :=
  .names (match names.dropWhile (·.isEmpty) with
    | [] => [""]
    | ns => ns)

/-! ## Hosts -/

/-- The host before a port, and the port. A colon in brackets belongs to the host. -/
def cutPort (inBrackets : Bool) : List Char → List Char × Option (List Char)
  | [] => ([], none)
  | c :: r =>
    if c = ':' && !inBrackets then ([], some r)
    else
      let (host, port) := cutPort (c = '[' || (inBrackets && c != ']')) r
      (c :: host, port)

/-- A port, left out if it goes without saying. -/
def readPort (k : Kind) (cs : List Char) : Except Fault (Option Nat) :=
  match cs.isEmpty, digitsValue? 10 cs with
  | true, _ => .ok none
  | false, none => .error .badPort
  | false, some n =>
    if n > 65535 then .error .badPort
    else .ok (if k = .web n then none else some n)

/-- The name and the password of a user. -/
def readUser (cs : List Char) : String × Option String :=
  let user := cs.takeWhile (· != ':')
  let password := (cs.drop user.length).drop 1
  (escape inUser user, if password.isEmpty then none else some (escape inUser password))

/-- Reads an authority, which ends at the path; `isLast` says that no path follows. -/
def readAuthority (k : Kind) (cs : List Char) (isLast : Bool) : Except Fault Authority := do
  let (user, place) := (cutAtLast '@' cs).getD ([], cs)
  if place.isEmpty && !isLast && cs.length == 1 then throw .emptyHost
  let (hostText, portText) := cutPort false place
  if k.isSpecial && hostText.isEmpty then throw .emptyHost
  let host ← if k.isSpecial then readWebHost hostText else readPlainHost hostText
  if host = .empty && portText.isSome then throw .emptyHost
  let port ← readPort k (portText.getD [])
  let (user, password) := readUser user
  if host = .empty && !(user.isEmpty && password.isNone) then throw .emptyHost
  return ⟨user, password, host, port⟩

/-- The host of a file, none if it is this machine. -/
def readFileHost (cs : List Char) : Except Fault Host := do
  if cs.isEmpty then return .empty
  let host ← readWebHost cs
  return if host = .domain "localhost" then .empty else host

/-! ## Addresses -/

/-- An address cut where its query and its fragment start. -/
structure Pieces where
  front : List Char
  query : Option (List Char)
  fragment : Option (List Char)

/-- Cuts an address at its query and its fragment. -/
def cutPieces (cs : List Char) : Pieces :=
  let (rest, fragment) := match cutAt ['#'] cs with
    | some (a, b) => (a, some b)
    | none => (cs, none)
  match cutAt ['?'] rest with
  | some (front, query) => ⟨front, some query, fragment⟩
  | none => ⟨rest, none, fragment⟩

/-- Reads the authority and the path of an address with a host. -/
def readHosted (k : Kind) (cs : List Char) (isLast : Bool) : Except Fault (Authority × Route) := do
  let authority := cs.takeWhile fun c => !k.isSlash c
  let path := cs.drop authority.length
  let a ← readAuthority k authority (isLast && path.isEmpty)
  return (a, .names (readRoute k path))

/-- Reads the host and the path of a file. A path that starts with a drive is on this machine. -/
def readFile (cs : List Char) : Except Fault (Authority × Route) := do
  let nobody (h : Host) : Authority := ⟨"", none, h, none⟩
  let isSlash := Kind.file.isSlash
  match cs with
  | a :: b :: r =>
    if isSlash a && isSlash b then
      let host := r.takeWhile fun c => !isSlash c
      let path := r.drop host.length
      if isDrive host then return (nobody .empty, fileRoute (readNames .file r))
      let h ← readFileHost host
      if h = .empty then return (nobody .empty, fileRoute (readNames .file path))
      let names := readNames .file (path.drop 1)
      let onDrive := names.head?.any (isDrive ·.toList)
      return (nobody (if onDrive then .empty else h), fileRoute names)
    else return (nobody .empty, fileRoute (readNames .file (if isSlash a then b :: r else cs)))
  | [a] => return (nobody .empty, fileRoute (readNames .file (if isSlash a then [] else [a])))
  | [] => return (nobody .empty, fileRoute [])

/-- Reads what follows the scheme of an address, up to the query. -/
def readFront (k : Kind) (cs : List Char) (isLast : Bool) :
    Except Fault (Option Authority × Route) := do
  match k with
  | .file => (readFile cs).map fun p => (some p.1, p.2)
  | .web _ => (readHosted k (cs.dropWhile k.isSlash) isLast).map fun p => (some p.1, p.2)
  | .other =>
    match cs with
    | '/' :: '/' :: r => (readHosted k r isLast).map fun p => (some p.1, p.2)
    | '/' :: r => return (none, .names (readNames k r))
    | _ => return (none, .opaqueText (escape isControl cs))

/-- The text without what does not count in an address. -/
def essential (s : String) : List Char :=
  let isOuter (c : Char) : Bool := c.toNat ≤ 32
  (dropEndWhile isOuter (s.toList.dropWhile isOuter)).filter fun c =>
    c != '\t' && c != '\n' && c != '\r'

/-- Reads an address. -/
def read? (s : String) : Except Fault Url :=
  match readScheme? (essential s) with
  | none => .error .noScheme
  | some (scheme, cs) => do
    let k := Kind.ofScheme scheme
    let p := cutPieces cs
    let (authority, route) ← readFront k p.front (p.query.isNone && p.fragment.isNone)
    return {
      scheme, authority, route
      query := p.query.map (escape (inQuery k.isSpecial))
      fragment := p.fragment.map (escape inFragment) }

end BuildLoop.Url
