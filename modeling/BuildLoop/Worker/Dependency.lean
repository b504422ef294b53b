import BuildLoop.Json.Source
import BuildLoop.Text.LetterCase
import BuildLoop.Text.Search

/-!
# Recording a package

After a missing package is installed, it is recorded in the manifest, unless it is there.

    recordedLine text package = none   →   a line of the text has the package's base name
-/

namespace BuildLoop.Worker

open Text

/-- The package that an install command names: its last argument that is no option, unless the
command installs from a file. -/
def installedPackage? (command : String) : Option String :=
  let argv := (words command.toList).map String.ofList
  if argv[1]? = some "install" ∧ !argv.contains "-r" then
    (argv.drop 2).reverse.find? fun a => !startsWith a "-"
  else none

/-- Whether a character ends the name in a line of the manifest. -/
def endsName (c : Char) : Bool :=
  c == '=' || c == '<' || c == '>' || c == '[' || c == '~' || c == '!'

/-- The name of a package in a line of the manifest, in lower case. -/
def lineName (line : String) : List Char :=
  lower (trim (line.toList.takeWhile fun c => !endsName c))

/-- The manifest of Python packages with one more line, unless a line has its name. -/
def recordedLine (current package : String) : Option String :=
  if (linesOf current).any fun l => lineName l == lineName package then none
  else
    let kept := String.ofList (trimEnd current.toList)
    some ((if kept.isEmpty then "" else kept ++ "\n") ++ package ++ "\n")

/-- The object with one more member, unless it has it. -/
def addMember (package : String) (members : List (String × Json)) : Option (List (String × Json)) :=
  if (Json.lookup package members).isSome then none
  else some (Json.insert package (.text "*") members)

/-- The manifest of Node packages with one more dependency, unless it has it or is no manifest. -/
def recordedMember (manifest : Json) (package : String) : Option String :=
  match manifest with
  | .object members =>
    match (Json.lookup "dependencies" members).getD (.object []) with
    | .object dependencies => (addMember package dependencies).map fun ds =>
        Json.indented (.object (Json.insert "dependencies" (.object ds) members)) ++ "\n"
    | _ => none
  | _ => none

end BuildLoop.Worker
