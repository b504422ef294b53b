import BuildLoop.Text.LetterCase
import BuildLoop.Text.Pattern
import BuildLoop.Text.Search

/-!
# Assets of a page

The stylesheets and scripts that an HTML document takes from its own site, each once.

    (referencedAssets s).Nodup
-/

namespace BuildLoop.Verification

open Text Pattern

/-- Either quote. -/
def isQuote (c : Char) : Bool := c == '"' || c == '\''

/-- A link or a script with its target. -/
def assetPattern : Pattern :=
  all [lit "<",
    any [
      all [word "link", few (· != '>'), one isBlank, word "href"],
      all [word "script", few (· != '>'), one isBlank, word "src"]],
    many isBlank, lit "=", many isBlank, one isQuote, group 1 (atLeastOne (!isQuote ·)),
    one isQuote]

/-- Whether a target in lower case lies elsewhere. -/
def isRemote (target : String) : Bool :=
  ["http://", "https://", "//", "data:", "#", "mailto:"].any (startsWith target)

/-- A target without its query and its fragment. -/
def withoutQuery (target : List Char) : List Char :=
  target.takeWhile fun c => c != '?' && c != '#'

/-- The path of a target, if it is a stylesheet or a script of the site. -/
def localAsset? (target : List Char) : Option String :=
  let low := lower target
  let path := String.ofList (withoutQuery low)
  if isRemote (String.ofList low) || !(endsWith path ".css" || endsWith path ".js") then none
  else some (String.ofList (dropHere (withoutQuery target)))

/-- The local stylesheets and scripts of a document, in order of appearance. -/
def referencedAssets (html : String) : List String :=
  ((findAll assetPattern html.toList).filterMap fun m =>
    localAsset? (trim ((m.group? 1).getD []))).foldl
      (fun found asset => if found.contains asset then found else found ++ [asset]) []

end BuildLoop.Verification
