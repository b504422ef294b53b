import BuildLoop.Settings.Layer

/-!
# Resolving settings

The layers of settings make the configuration of a run. What no layer sets has its standard value; the
provider is looked up only after all layers are laid on top of each other.

    resolve layers = error e   ↔   the last provider that is set is unknown
-/

namespace BuildLoop.SettingsLayer

/-- What is said of a provider that does not exist. -/
def unknownProvider (name : String) : String :=
  "unknown provider '" ++ name ++ "' (expected one of: " ++
    ", ".intercalate (Provider.all.map Provider.displayName) ++ ")"

/-- The model of every role, at the provider's own address: that of a provider, with the provider's
standard model if none is set. -/
def chooseModel (l : SettingsLayer) (m : ModelConfig) : Except String ModelConfig :=
  match l.provider with
  | none => .ok (match l.model with
    | some name => { m with model := name }
    | none => m)
  | some name =>
    match Provider.parse? name with
    | none => .error (unknownProvider name)
    | some p => .ok (.ofProvider p (l.model.getD p.defaultModel))

/-- The model of every role. -/
def applyModel (l : SettingsLayer) (m : ModelConfig) : Except String ModelConfig :=
  (l.chooseModel m).map fun m =>
    match l.baseUrl with
    | some url => m.withBaseUrl url
    | none => m

/-- A configuration with what a layer sets. -/
def apply (l : SettingsLayer) (c : RunConfig) : Except String RunConfig :=
  (l.applyModel c.model).map fun model => {
    maxCycles := l.maxCycles.getD c.maxCycles
    maxConcurrentTasks := (l.maxConcurrentTasks.map (max 1)).getD c.maxConcurrentTasks
    taskSeconds := l.taskSeconds.getD c.taskSeconds
    commandSeconds := l.commandSeconds.getD c.commandSeconds
    checkSeconds := l.checkSeconds.getD c.checkSeconds
    service := l.service.getD c.service
    model
    roleModels :=
      putKeys (l.roleModels.map fun p => (p.1, { model with model := p.2 })) c.roleModels }

/-- The configuration of a run whose settings come in layers, the last one on top. -/
def resolve (layers : List SettingsLayer) : Except String RunConfig := (stack layers).apply .standard

end BuildLoop.SettingsLayer
