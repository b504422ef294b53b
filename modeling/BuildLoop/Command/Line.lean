import BuildLoop.Failure
import BuildLoop.Text.Blank

/-!
# Command lines

A command line is cut into arguments at blanks. Either quote keeps blanks and the other quote, and
may start, end or join pieces of an argument; nothing is escaped.

    split line = refused   ↔   a quote is left open, or there is no argument
-/

namespace BuildLoop.Command

open Text

/-- Cuts what follows a place: the quote that is open there, the argument under way (last character
first) and the arguments before it (last first). Answers nothing if a quote is left open. -/
def splitFrom (quote : Option Char) (argument : Option (List Char)) (before : List String) :
    List Char → Option (List String)
  | [] =>
    if quote.isSome then none
    else match argument with
      | some cs => some (String.ofList cs.reverse :: before).reverse
      | none => some before.reverse
  | c :: r =>
    match quote with
    | some q =>
      if c = q then splitFrom none argument before r
      else splitFrom quote (some (c :: argument.getD [])) before r
    | none =>
      if c = '\'' ∨ c = '"' then splitFrom (some c) (some (argument.getD [])) before r
      else if isBlank c then
        match argument with
        | some cs => splitFrom none none (String.ofList cs.reverse :: before) r
        | none => splitFrom none none before r
      else splitFrom none (some (c :: argument.getD [])) before r

/-- The arguments of a command line, at least one. -/
def split (line : String) : Except Failure (List String) :=
  match splitFrom none none [] line.toList with
  | none => .error (.commandRejected line "unterminated quote")
  | some [] => .error (.commandRejected line "empty command")
  | some args => .ok args

end BuildLoop.Command
