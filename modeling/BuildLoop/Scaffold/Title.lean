import BuildLoop.Text.LetterCase
import BuildLoop.Text.Pattern
import BuildLoop.Text.Search

/-!
# What a description tells a template

The title of the application, in brackets after the word `application`, and the lists that follow a
marker.

    ∀ x ∈ listedAfter s m, x has no blank and is not empty
-/

namespace BuildLoop.Scaffold

open Text Pattern

/-- The application's summary in brackets. -/
def titlePattern : Pattern :=
  all [lit "application (", group 1 (atLeastOne (· != ')')), lit ")"]

/-- Whether a title may hold a character. -/
def isTitleChar (c : Char) : Bool := isLetterOrNumber c || c == ' ' || c == '-' || c == '_'

/-- The title in a description: the summary up to its first comma, with plain characters only, at
most sixty of them, the first in upper case. -/
def appTitle (description : String) : String :=
  let summary := ((find titlePattern description.toList).bind (·.group? 1)).getD []
  let raw := trim (summary.takeWhile (· != ','))
  match trim ((raw.filter isTitleChar).take 60) with
  | c :: r => String.ofList (upperChar c ++ r)
  | [] => "App"

/-- The items of the list that follows a marker, up to the end of the sentence. -/
def listedAfter (description marker : String) : List String :=
  match cutAt marker.toList description.toList with
  | none => []
  | some (_, rest) =>
    let sentence := match cutAt ". ".toList rest with
      | some (s, _) => s
      | none => rest
    ((splitAtEach (· == ',') (dropEndWhile (· == '.') (trim sentence))).map trim).filterMap fun s =>
      if s.isEmpty || s.contains ' ' then none else some (String.ofList s)

end BuildLoop.Scaffold
