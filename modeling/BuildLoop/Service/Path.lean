import BuildLoop.Text.Blank
import BuildLoop.Url.Percent

/-!
# Paths of requests

A request goes to all runs, to one run, or to the events of one run. Its target is a path or a whole
address. Escapes in the name of a run stand for bytes; a query or a fragment does not matter.

    route? "/" = some runs,   route? "/x" = some (run "x"),   route? "/x/events" = some (events "x")
-/

namespace BuildLoop.Service

open Text

/-- What a request is about. -/
inductive Route where
  | runs
  | run (name : String)
  | events (name : String)
  deriving DecidableEq, Repr

/-- The name that a part of a path stands for, if it is a text. -/
def partName? (part : String) : Option String := Url.unescaped? part.toList

/-- What follows the host of a target that starts with a scheme. -/
def afterHost? (target : List Char) : Option (List Char) := do
  let rest ← after? [':', '/', '/'] (target.dropWhile (· != ':'))
  some (rest.dropWhile fun c => !(c == '/' || c == '?' || c == '#'))

/-- The path of a target, without its query. A target that is only a host has none. -/
def pathOf (target : String) : List Char :=
  let cs := target.toList
  let path (s : List Char) : List Char := s.takeWhile fun c => !(c == '?' || c == '#')
  if cs.head? == some '/' || cs == ['*'] then path cs
  else match afterHost? cs with
    | none => []
    | some rest => if (path rest).isEmpty then ['/'] else path rest

/-- What a target is about; the name of a run is not yet decoded. -/
def route? (target : String) : Option Route :=
  match (splitAtEach (· == '/') (pathOf target)).map String.ofList with
  | ["", ""] => some .runs
  | ["", name] => if name.isEmpty then none else some (.run name)
  | ["", name, "events"] => if name.isEmpty then none else some (.events name)
  | _ => none

end BuildLoop.Service
