import BuildLoop.Text.Pattern
import BuildLoop.Text.Search

/-!
# Command directives

A description may tell its worker to run a command in a directory: `run 'command' in directory/`.

    directive? s = some (c, d)   →   c holds no single quote, and d is not empty
-/

namespace BuildLoop.Worker

open Text Pattern

/-- A character of a directory. The directive is read in any letter case, in which the long s and the
Kelvin sign stand for letters of the alphabet. -/
def isPathChar (c : Char) : Bool :=
  c.isAlphanum || sameFolded 's' c || sameFolded 'k' c || c == '_' || c == '.' || c == '/' ||
    c == '-'

/-- A command in single quotes and its directory. -/
def directivePattern : Pattern :=
  all [wordEdge, word "run", optional (word "ning"), blanks, lit "'",
    group 1 (atLeastOne (· != '\'')), lit "'", blanks, word "in", blanks,
    group 2 (any [word "the project root", atLeastOne isPathChar])]

/-- The directory that a directive means. -/
def directiveDir (dir : List Char) : String :=
  if dir.map Char.toLower = "the project root".toList then "."
  else
    let d := dropEndWhile (· == '/') (dropEndWhile (· == '.') dir)
    if d.isEmpty then "." else String.ofList d

/-- The command and the directory that a description tells. -/
def directive? (description : String) : Option (String × String) :=
  (find directivePattern description.toList).map fun m =>
    (String.ofList (trim ((m.group? 1).getD [])), directiveDir ((m.group? 2).getD []))

end BuildLoop.Worker
