import BuildLoop.Model.Provider
import BuildLoop.Plan.Verdict

/-!
# Configuration of runs

How many corrective cycles a run may enter, how much it does at once, how long things may take, and
what serves its roles.

    modelFor c role = the model of the role, or that of all roles
-/

namespace BuildLoop

open Json

/-- What serves the roles of a run. -/
inductive RoleService where
  /-- Fixed rules and templates. -/
  | rules
  /-- Language models. -/
  | models
  deriving DecidableEq, Repr

namespace RoleService

/-- The service's name. -/
def name : RoleService → String
  | rules => "rules"
  | models => "llm"

/-- Every service. -/
def all : List RoleService := [rules, models]

end RoleService

instance : Form RoleService where
  shape := .choice (RoleService.all.map RoleService.name)
  toJson s := .text s.name
  ofJson? := named? RoleService.name RoleService.all

/-- A table of values by key, sorted by key. -/
instance {α : Type} [Form α] : Form (List (String × α)) where
  shape := .table (Form.shape α)
  toJson t := .object (t.map fun p => (p.1, toJson p.2))
  ofJson? j := match j with
    | .object ms => ms.mapM fun m => (ofJson? m.2).map fun a => (m.1, a)
    | _ => none

/-- The configuration of a run. -/
structure RunConfig where
  /-- How many corrective cycles may be entered. -/
  maxCycles : Nat
  /-- How many tasks of a wave may be under way at once. -/
  maxConcurrentTasks : Nat
  /-- How many seconds the work on a task may take. -/
  taskSeconds : Nat
  /-- How many seconds a command of a worker may take. -/
  commandSeconds : Nat
  /-- How many seconds a check may take. -/
  checkSeconds : Nat
  service : RoleService
  /-- The model of every role that has none of its own. -/
  model : ModelConfig
  roleModels : List (String × ModelConfig)
  deriving DecidableEq, Repr

namespace RunConfig

/-- The configuration of a run for which nothing is set. -/
def standard : RunConfig where
  maxCycles := 5
  maxConcurrentTasks := 3
  taskSeconds := 120
  commandSeconds := 60
  checkSeconds := 20
  service := .rules
  model := .standard
  roleModels := []

/-- The model of a role. -/
def modelFor (c : RunConfig) (role : String) : ModelConfig :=
  (c.roleModels.lookup role).getD c.model

/-- A number of 32 bits. -/
def word : Shape := naturalShape "u32" 32

/-- A number of 64 bits. -/
def longWord : Shape := naturalShape "u64" 64

end RunConfig

open RunConfig in
instance : Form RunConfig where
  shape := .record "CoordinatorConfig" (.ofList [
    ("max_iterations", word, .default (.ofNat standard.maxCycles)),
    ("max_concurrent_tasks", countShape, .default (.ofNat standard.maxConcurrentTasks)),
    ("task_timeout_secs", longWord, .default (.ofNat standard.taskSeconds)),
    ("command_timeout_secs", longWord, .default (.ofNat standard.commandSeconds)),
    ("verify_timeout_secs", longWord, .default (.ofNat standard.checkSeconds)),
    ("role_backend", Form.shape RoleService, .default (toJson standard.service)),
    ("model", Form.shape ModelConfig, .default (toJson standard.model)),
    ("per_role_models", .table (Form.shape ModelConfig), .default (toJson standard.roleModels))])
  toJson c := .object [
    ("max_iterations", .ofNat c.maxCycles),
    ("max_concurrent_tasks", .ofNat c.maxConcurrentTasks),
    ("task_timeout_secs", .ofNat c.taskSeconds),
    ("command_timeout_secs", .ofNat c.commandSeconds),
    ("verify_timeout_secs", .ofNat c.checkSeconds),
    ("role_backend", toJson c.service),
    ("model", toJson c.model),
    ("per_role_models", toJson c.roleModels)]
  ofJson? j := do
    some {
      maxCycles := ← get? j "max_iterations"
      maxConcurrentTasks := ← get? j "max_concurrent_tasks"
      taskSeconds := ← get? j "task_timeout_secs"
      commandSeconds := ← get? j "command_timeout_secs"
      checkSeconds := ← get? j "verify_timeout_secs"
      service := ← get? j "role_backend"
      model := ← get? j "model"
      roleModels := ← get? j "per_role_models" }

end BuildLoop
