import BuildLoop.Settings.Layer

/-!
# Arguments of the program

The program is given options of its own, a command, and then the command's options and the request in
any order. An option is written `--name value` or `--name=value`; after `--` nothing is an option. Of
an option that is given twice the last one counts.

    parse? (args ++ ["--", request]) reads `request` as it is
-/

namespace BuildLoop.Console

open Text

/-- What is done with a request. -/
inductive Purpose where
  /-- The project is built; the report may be printed as JSON. -/
  | build (json : Bool)
  /-- What would be built is printed. -/
  | preview
  deriving DecidableEq, Repr

/-- What the program is asked to do. -/
structure Invocation where
  purpose : Purpose
  request : String
  /-- The directory of the project. -/
  directory : String
  /-- The file of settings. -/
  settings : String
  /-- The settings that the options make. -/
  layer : SettingsLayer
  deriving DecidableEq, Repr

/-! ## Options -/

/-- Options by name, with whether each takes a value. -/
abbrev OptionTable := List (String × Bool)

/-- The options that may stand anywhere. -/
def generalOptions : OptionTable := [("verbose", false), ("config", true)]

/-- The options of every command. -/
def roleOptions : OptionTable :=
  [("project-root", true), ("llm", false), ("provider", true), ("model", true), ("base-url", true)]

/-- The options of a build. -/
def buildOptions : OptionTable :=
  [("max-iterations", true), ("concurrency", true), ("json", false)]

/-- The options that may stand after a command, or before there is one. -/
def optionsAfter : Option String → OptionTable
  | none => generalOptions
  | some "run" => generalOptions ++ roleOptions ++ buildOptions
  | some _ => generalOptions ++ roleOptions

/-! ## Reading -/

/-- What the arguments up to a place say. -/
structure ArgumentReading where
  /-- The option that waits for its value. -/
  waiting : Option String
  /-- Whether nothing is an option any more. -/
  closed : Bool
  options : List (String × String)
  words : List String

namespace ArgumentReading

/-- Nothing is read yet. -/
def start : ArgumentReading := ⟨none, false, [], []⟩

/-- Reads an option, given what stands after its name. -/
def option? (s : ArgumentReading) (name : String) (value : Option String) :
    Option ArgumentReading :=
  match (optionsAfter s.words.head?).lookup name, value with
  | some true, some value => some { s with options := s.options ++ [(name, value)] }
  | some true, none => some { s with waiting := some name }
  | some false, none => some { s with options := s.options ++ [(name, "")] }
  | _, _ => none

/-- Reads one more argument. -/
def next? (s : ArgumentReading) (arg : String) : Option ArgumentReading :=
  if s.closed then some { s with words := s.words ++ [arg] }
  else match s.waiting with
    | some name =>
      if startsWith arg "-" && arg != "-" then none
      else some { s with waiting := none, options := s.options ++ [(name, arg)] }
    | none =>
      match arg.toList with
      | ['-', '-'] => if s.words.isEmpty then none else some { s with closed := true }
      | '-' :: '-' :: r =>
        match cutAt ['='] r with
        | some (name, value) => s.option? (String.ofList name) (some (String.ofList value))
        | none => s.option? (String.ofList r) none
      | ['-', 'v'] => s.option? "verbose" none
      | ['-'] => some { s with words := s.words ++ [arg] }
      | '-' :: _ => none
      | _ => some { s with words := s.words ++ [arg] }

/-- The value of an option. -/
def value? (s : ArgumentReading) (name : String) : Option String :=
  s.options.reverse.lookup name

/-- The number of some bits that an option has for a value; refused if the value is none. -/
def number? (s : ArgumentReading) (name : String) (bits : Nat) : Option (Option Nat) :=
  match s.value? name with
  | none => some none
  | some text => (SettingsLayer.readNumber? bits text.toList).map some

/-- The settings that the options make. -/
def layer? (s : ArgumentReading) : Option SettingsLayer := do
  let maxCycles ← s.number? "max-iterations" 32
  let maxConcurrentTasks ← s.number? "concurrency" 64
  some { SettingsLayer.empty with
    maxCycles
    maxConcurrentTasks
    service := (s.value? "llm").map fun _ => .models
    provider := s.value? "provider"
    model := s.value? "model"
    baseUrl := s.value? "base-url" }

/-- The purpose of a command. -/
def purpose? (s : ArgumentReading) : String → Option Purpose
  | "run" => some (.build (s.value? "json").isSome)
  | "plan" => some .preview
  | _ => none

end ArgumentReading

/-- The file of settings that is read unless another is named. -/
def standardSettings : String := ".kiln/config.json"

/-- What arguments ask for, if they are understood. -/
def Invocation.parse? (args : List String) : Option Invocation := do
  let s ← args.foldlM ArgumentReading.next? .start
  match s.waiting, s.words with
  | none, [command, request] =>
    let directory := (s.value? "project-root").getD "."
    let settings := (s.value? "config").getD standardSettings
    if directory.isEmpty || settings.isEmpty then none
    else some ⟨← s.purpose? command, request, directory, settings, ← s.layer?⟩
  | _, _ => none

end BuildLoop.Console
