import BuildLoop.Url.Host

/-!
# Addresses

An address has a scheme, mostly a host, a path, and it may have a query and a fragment. Its parts hold
their escapes. What a server is asked for is the path and the query alone.

    (u.withoutUser).text        does not show who asks
-/

namespace BuildLoop

namespace Url

/-- Who is asked and as whom. -/
structure Authority where
  user : String
  password : Option String
  host : Host
  port : Option Nat
  deriving DecidableEq, Repr

/-- A path. -/
inductive Route where
  /-- Names, each after a slash. -/
  | names (ns : List String)
  /-- A text of the scheme's own. -/
  | opaqueText (s : String)
  deriving DecidableEq, Repr

end Url

/-- An address. -/
structure Url where
  scheme : String
  authority : Option Url.Authority
  route : Url.Route
  query : Option String
  fragment : Option String
  deriving DecidableEq, Repr

namespace Url

/-! ## Text -/

/-- The user as an address shows it. -/
def Authority.userText (a : Authority) : String :=
  if a.user.isEmpty && a.password.isNone then ""
  else a.user ++ (a.password.map (":" ++ ·)).getD "" ++ "@"

/-- The authority in text. -/
def Authority.text (a : Authority) : String :=
  a.userText ++ a.host.text ++ (a.port.map fun n => ":" ++ toString n).getD ""

/-- The path in text. -/
def Route.text : Route → String
  | .names ns => String.join (ns.map ("/" ++ ·))
  | .opaqueText s => s

/-- What a server is asked for. -/
def target (u : Url) : String := u.route.text ++ (u.query.map ("?" ++ ·)).getD ""

/-- What stands between the scheme and the path. A path that starts with two slashes is kept from
looking like a host. -/
def lead (u : Url) : String :=
  match u.authority, u.route with
  | some a, _ => "//" ++ a.text
  | none, .names ("" :: _ :: _) => "/."
  | none, _ => ""

/-- The address in text. -/
def text (u : Url) : String :=
  u.scheme ++ ":" ++ u.lead ++ u.target ++ (u.fragment.map ("#" ++ ·)).getD ""

/-! ## Parts -/

/-- The host, if there is one. -/
def host? (u : Url) : Option Host :=
  (u.authority.map (·.host)).bind fun h => if h = .empty then none else some h

/-- Whether the address is on the web. -/
def isWeb (u : Url) : Bool := u.scheme == "http" || u.scheme == "https"

/-- The address without the user, if the user's name is a text. -/
def withoutUser (u : Url) : Url :=
  match u.authority with
  | none => u
  | some a =>
    let password := a.password.bind fun p => unescaped? p.toList
    match unescaped? a.user.toList with
    | none => u
    | some user =>
      if user.isEmpty && password.isNone then u
      else { u with authority := some { a with user := "", password := none } }

/-- How many characters an address may have for a request. -/
def lengthLimit : Nat := 65534

/-- Whether a character may stand in the authority of a request. -/
def isRequestChar (c : Char) : Bool := c.isAlphanum || "!$%&'()*+,-./:;=@[]_~".toList.contains c

/-- Whether a request can be made of an address. -/
def canBeAsked (u : Url) : Bool :=
  (u.authority.map (·.text.toList.all isRequestChar)).getD false && u.text.length ≤ lengthLimit

end Url

end BuildLoop
