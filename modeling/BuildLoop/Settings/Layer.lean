import BuildLoop.Run.Config
import BuildLoop.Text.Search

/-!
# Layers of settings

Settings come in layers: a file, the environment, the command line. A layer sets some fields and
leaves the others to the layers below it.

    (a.above b).field = a.field if `a` sets it, else b.field
    (a.above b).above c = a.above (b.above c)
-/

namespace BuildLoop

open Text Json

/-- One layer of settings. -/
structure SettingsLayer where
  maxCycles : Option Nat
  maxConcurrentTasks : Option Nat
  taskSeconds : Option Nat
  commandSeconds : Option Nat
  checkSeconds : Option Nat
  service : Option RoleService
  provider : Option String
  model : Option String
  baseUrl : Option String
  /-- The names of models by role, of whichever provider is chosen. -/
  roleModels : List (String × String)
  deriving DecidableEq, Repr

/-- Puts the values of one table into another, in place of those with the same keys. -/
def putKeys {α : Type} (new old : List (String × α)) : List (String × α) :=
  new.foldl (fun t p => putKey p.1 p.2 t) old

namespace SettingsLayer

/-- The layer that sets nothing. -/
def empty : SettingsLayer := ⟨none, none, none, none, none, none, none, none, none, []⟩

/-- A layer on top of another. -/
def above (top under : SettingsLayer) : SettingsLayer where
  maxCycles := top.maxCycles.or under.maxCycles
  maxConcurrentTasks := top.maxConcurrentTasks.or under.maxConcurrentTasks
  taskSeconds := top.taskSeconds.or under.taskSeconds
  commandSeconds := top.commandSeconds.or under.commandSeconds
  checkSeconds := top.checkSeconds.or under.checkSeconds
  service := top.service.or under.service
  provider := top.provider.or under.provider
  model := top.model.or under.model
  baseUrl := top.baseUrl.or under.baseUrl
  roleModels := putKeys top.roleModels under.roleModels

/-- Layers on top of each other, the last one on top. -/
def stack (layers : List SettingsLayer) : SettingsLayer :=
  layers.foldl (fun under top => top.above under) empty

end SettingsLayer

open RunConfig in
instance : Form SettingsLayer where
  shape := .record "PersistedConfig" (.ofList [
    ("max_iterations", .optional word, .null),
    ("max_concurrent_tasks", .optional countShape, .null),
    ("task_timeout_secs", .optional longWord, .null),
    ("command_timeout_secs", .optional longWord, .null),
    ("verify_timeout_secs", .optional longWord, .null),
    ("role_backend", .optional (Form.shape RoleService), .null),
    ("provider", .optional .text, .null),
    ("model", .optional .text, .null),
    ("base_url", .optional .text, .null),
    ("per_role_models", .table .text, .default (.object []))])
  toJson l := .object (
    ifSet "max_iterations" l.maxCycles ++
    ifSet "max_concurrent_tasks" l.maxConcurrentTasks ++
    ifSet "task_timeout_secs" l.taskSeconds ++
    ifSet "command_timeout_secs" l.commandSeconds ++
    ifSet "verify_timeout_secs" l.checkSeconds ++
    ifSet "role_backend" l.service ++
    ifSet "provider" l.provider ++
    ifSet "model" l.model ++
    ifSet "base_url" l.baseUrl ++
    if l.roleModels.isEmpty then [] else [("per_role_models", toJson l.roleModels)])
  ofJson? j := do
    some {
      maxCycles := ← get? j "max_iterations"
      maxConcurrentTasks := ← get? j "max_concurrent_tasks"
      taskSeconds := ← get? j "task_timeout_secs"
      commandSeconds := ← get? j "command_timeout_secs"
      checkSeconds := ← get? j "verify_timeout_secs"
      service := ← get? j "role_backend"
      provider := ← get? j "provider"
      model := ← get? j "model"
      baseUrl := ← get? j "base_url"
      roleModels := ← get? j "per_role_models" }

namespace SettingsLayer

/-- The layer of a settings file. A file that is missing or malformed sets nothing. -/
def ofFile (content : Option ByteArray) : SettingsLayer :=
  ((content.bind String.fromUTF8?).bind fun s => (Form.parse SettingsLayer s).toOption).getD empty

/-- A number of some bits in decimal digits, a plus sign in front allowed. -/
def readNumber? (bits : Nat) (s : List Char) : Option Nat :=
  let digits := match s with
    | '+' :: r => r
    | r => r
  if digits.isEmpty || !digits.all Char.isDigit then none
  else
    let n := digits.foldl (fun n c => 10 * n + (c.toNat - 48)) 0
    if n < Nat.pow 2 bits then some n else none

/-- The layer of the environment. A number that cannot be read sets nothing. -/
def ofEnvironment (value? : String → Option String) : SettingsLayer :=
  { empty with
    maxCycles := (value? "KILN_MAX_ITERATIONS").bind fun s => readNumber? 32 (trim s.toList)
    provider := value? "KILN_PROVIDER"
    model := value? "KILN_MODEL"
    baseUrl := value? "KILN_BASE_URL" }

end SettingsLayer

end BuildLoop
