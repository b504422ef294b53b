import Mathlib.Data.List.Induction
import BuildLoop.Console.Invocation
import BuildLoop.Proofs.Json.Shape
import BuildLoop.Proofs.Table
import BuildLoop.Settings.Resolve

/-!
# The last layer wins

What is looked up in layers on top of each other is what the last layer says that says anything, field
by field and role by role. So a layer may be put on the one below it before or after all others are, and
the configuration that layers resolve to can be told from the layers themselves:

    (stack layers).field = lastSet field layers                                     (stack_eq_lastSet)
    top.above (mid.above under) = (top.above mid).above under                            (above_above)
    resolve layers = ok c   →   Settled layers c                                 (settled_of_resolve)
    resolve layers = error e   ↔   the last provider that is set is unknown     (resolve_eq_error)

All of this is of layers whose models by role are a table, as they are in every layer that is read from a file,
from the environment or from arguments        (isTable_ofFile, isTable_ofEnvironment, isTable_of_layer?).
-/

namespace BuildLoop

open Json

/-! ## Tables put into each other -/

section
variable {α β : Type} {t new old : List (String × α)} {k : String}

theorem IsTable.putKeys (h : IsTable old) (new : List (String × α)) : IsTable (putKeys new old) := by
  induction new generalizing old with
  | nil => exact h
  | cons p new ih => exact ih h.putKey

/-- What is put in hides what was there. -/
theorem lookup_putKeys (h : IsTable new) : (putKeys new old).lookup k = (new.lookup k).or (old.lookup k) := by
  induction new generalizing old with
  | nil => rfl
  | cons p new ih =>
    obtain ⟨hfirst, hrest⟩ := List.pairwise_cons.1 h
    have hstep : putKeys (p :: new) old = putKeys new (putKey p.1 p.2 old) := rfl
    rw [hstep, ih hrest, lookup_putKey, lookup_entry]
    by_cases hk : k = p.1
    · rw [if_pos hk, if_pos hk, hk, lookup_eq_none_of_lt hfirst]
      rfl
    · rw [if_neg hk, if_neg hk]

/-- What is put into the empty table is found there. -/
theorem lookup_putKeys_map (h : IsTable t) (f : α → β) (k : String) :
    (putKeys (t.map fun p => (p.1, f p.2)) []).lookup k = (t.lookup k).map f := by
  have htable : IsTable (t.map fun p => (p.1, f p.2)) := List.pairwise_map.2 h
  rw [lookup_putKeys htable, lookup_map, List.lookup_nil, Option.or_none]

end

theorem isTable_of_ofJson? {α : Type} [Form α] {ms : List (String × Json)} {t : List (String × α)} (hms : Sorted ms)
    (h : ofJson? (Json.object ms) = some t) : IsTable t := by
  have hkeys : t.map Prod.fst = ms.map Prod.fst := by
    change (ms.mapM fun m => (ofJson? m.2).map fun a => (m.1, a)) = some t at h
    induction ms generalizing t with
    | nil =>
      cases h
      rfl
    | cons m ms ih =>
      rw [List.mapM_cons] at h
      obtain ⟨p, hp, h⟩ := Option.bind_eq_some_iff.1 h
      obtain ⟨a, -, rfl⟩ := Option.map_eq_some_iff.1 hp
      obtain ⟨t, ht, h⟩ := Option.bind_eq_some_iff.1 h
      cases h
      rw [List.map_cons, List.map_cons, ih (List.pairwise_cons.1 hms).2 ht]
  rw [IsTable, ← List.pairwise_map (R := (· < ·)), hkeys]
  exact List.pairwise_map.2 hms

namespace SettingsLayer

/-! ## Layers on top of each other -/

/-- What the last layer says that says anything. -/
def lastSet {α : Type} (field : SettingsLayer → Option α) (layers : List SettingsLayer) : Option α :=
  layers.reverse.findSome? field

section
variable {α : Type} {layers : List SettingsLayer}

theorem lastSet_concat (field : SettingsLayer → Option α) (layers : List SettingsLayer) (top : SettingsLayer) :
    lastSet field (layers ++ [top]) = (field top).or (lastSet field layers) := by
  rw [lastSet, List.reverse_append, List.reverse_singleton, List.singleton_append, List.findSome?_cons]
  cases field top <;> rfl

theorem stack_concat (layers : List SettingsLayer) (top : SettingsLayer) :
    stack (layers ++ [top]) = top.above (stack layers) := by
  rw [stack, List.foldl_append]
  rfl

/-- A field that each layer passes on if it does not set it is what the last layer says that sets it. -/
theorem stack_eq_lastSet (field : SettingsLayer → Option α) (hempty : field empty = none)
    (habove : ∀ top ∈ layers, ∀ under, field (top.above under) = (field top).or (field under)) :
    field (stack layers) = lastSet field layers := by
  induction layers using List.reverseRecOn with
  | nil => exact hempty
  | append_singleton layers top ih =>
    rw [stack_concat, lastSet_concat, habove top (by simp), ih fun l hl => habove l (by simp [hl])]

end

section
variable {top mid under : SettingsLayer} {before after layers : List SettingsLayer}

theorem isTable_above (h : IsTable under.roleModels) : IsTable (top.above under).roleModels := h.putKeys _

theorem isTable_foldl (h : IsTable under.roleModels) (layers : List SettingsLayer) :
    IsTable (layers.foldl (fun under top => top.above under) under).roleModels := by
  induction layers generalizing under with
  | nil => exact h
  | cons top layers ih => exact ih (isTable_above h)

theorem isTable_empty : IsTable empty.roleModels := List.Pairwise.nil

theorem isTable_stack (layers : List SettingsLayer) : IsTable (stack layers).roleModels :=
  isTable_foldl isTable_empty layers

/-- Three layers may be put together in either order. -/
theorem above_above (htop : IsTable top.roleModels) (hmid : IsTable mid.roleModels)
    (hunder : IsTable under.roleModels) : top.above (mid.above under) = (top.above mid).above under := by
  have hroles : putKeys top.roleModels (putKeys mid.roleModels under.roleModels) =
      putKeys (putKeys top.roleModels mid.roleModels) under.roleModels := by
    refine ((hunder.putKeys _).putKeys _).ext (hunder.putKeys _) fun k => ?_
    rw [lookup_putKeys htop, lookup_putKeys hmid, lookup_putKeys (hmid.putKeys _), lookup_putKeys htop, Option.or_assoc]
  simp only [above, hroles, Option.or_assoc]

/-- Two layers next to each other may be put together first. -/
theorem stack_merged (hunder : IsTable mid.roleModels) (htop : IsTable top.roleModels) :
    stack (before ++ top.above mid :: after) = stack (before ++ mid :: top :: after) := by
  have hbefore : IsTable (stack before).roleModels := isTable_stack before
  simp only [stack, List.foldl_append, List.foldl_cons] at hbefore ⊢
  rw [above_above htop hunder hbefore]

end

/-! ## Layers that are read -/

theorem isTable_ofFile (content : Option ByteArray) : IsTable (ofFile content).roleModels := by
  unfold ofFile
  cases hparse : (content.bind String.fromUTF8?).bind fun s => (Form.parse SettingsLayer s).toOption with
  | none => exact isTable_empty
  | some l =>
    obtain ⟨s, -, hs⟩ := Option.bind_eq_some_iff.1 hparse
    obtain ⟨v, _, _, hread, hl⟩ := Json.exists_of_parse (of_toOption hs)
    obtain ⟨ms, rfl, hfields⟩ := exists_of_readRecord hread
    delta instFormSettingsLayer at hl
    simp only [Option.bind_eq_bind, Option.bind_eq_some_iff] at hl
    obtain ⟨_, -, _, -, _, -, _, -, _, -, _, -, _, -, _, -, _, -, roles, hroles, hl⟩ := hl
    cases hl
    obtain ⟨t, ht, hroles⟩ := Option.bind_eq_some_iff.1 hroles
    obtain ⟨f, hf, hname, hvalue⟩ := hfields _ (Json.mem_of_lookup ht)
    have hfind := find?_name (by decide) f hf
    rw [hname] at hfind
    obtain rfl := Option.some.inj (hfind.symm.trans rfl)
    rcases hvalue with hvalue | ⟨_, _, _, hvalue⟩
    · obtain rfl : Json.object [] = t := Option.some.inj hvalue
      exact isTable_of_ofJson? .nil hroles
    · obtain ⟨ms, rfl, hsorted⟩ := exists_of_readTable hvalue
      exact isTable_of_ofJson? hsorted hroles

theorem isTable_ofEnvironment (value? : String → Option String) : IsTable (ofEnvironment value?).roleModels :=
  isTable_empty

theorem isTable_of_layer? {s : Console.ArgumentReading} {l : SettingsLayer} (h : s.layer? = some l) :
    IsTable l.roleModels := by
  unfold Console.ArgumentReading.layer? at h
  obtain ⟨_, -, h⟩ := Option.bind_eq_some_iff.1 h
  obtain ⟨_, -, h⟩ := Option.bind_eq_some_iff.1 h
  cases h
  exact isTable_empty

/-! ## Resolving -/

/-- What a configuration is that layers resolve to: each field is what the last layer says that sets it,
and each role's own model is served where the model of all roles is. -/
structure Settled (layers : List SettingsLayer) (c : RunConfig) : Prop where
  maxCycles : c.maxCycles = (lastSet (·.maxCycles) layers).getD RunConfig.standard.maxCycles
  /-- A limit of no task at once is raised to one. -/
  maxConcurrentTasks : c.maxConcurrentTasks =
    ((lastSet (·.maxConcurrentTasks) layers).map (max 1)).getD RunConfig.standard.maxConcurrentTasks
  taskSeconds : c.taskSeconds = (lastSet (·.taskSeconds) layers).getD RunConfig.standard.taskSeconds
  commandSeconds : c.commandSeconds = (lastSet (·.commandSeconds) layers).getD RunConfig.standard.commandSeconds
  checkSeconds : c.checkSeconds = (lastSet (·.checkSeconds) layers).getD RunConfig.standard.checkSeconds
  service : c.service = (lastSet (·.service) layers).getD RunConfig.standard.service
  provider : c.model.provider =
    ((lastSet (·.provider) layers).bind Provider.parse?).getD RunConfig.standard.model.provider
  /-- The model of all roles is the provider's standard one if no layer names one. -/
  model : c.model.model = (lastSet (·.model) layers).getD c.model.provider.defaultModel
  baseUrl : c.model.baseUrl = lastSet (·.baseUrl) layers
  temperature : c.model.temperature = RunConfig.standard.model.temperature
  roleModels : ∀ role, c.roleModels.lookup role =
    (lastSet (·.roleModels.lookup role) layers).map fun name => { c.model with model := name }

section
variable {layers : List SettingsLayer} {c : RunConfig} {e : String}

theorem chooseModel_eq_error {l : SettingsLayer} {m : ModelConfig} : l.chooseModel m = .error e ↔
    ∃ name, l.provider = some name ∧ Provider.parse? name = none ∧ e = unknownProvider name := by
  unfold chooseModel
  cases l.provider with
  | none => simp
  | some name =>
    cases hparse : Provider.parse? name with
    | none => simp [hparse, eq_comm]
    | some p => simp [hparse]

theorem stack_provider (layers : List SettingsLayer) : (stack layers).provider = lastSet (·.provider) layers :=
  stack_eq_lastSet (·.provider) rfl fun _ _ _ => rfl

theorem resolve_eq_error : resolve layers = .error e ↔
    ∃ name, lastSet (·.provider) layers = some name ∧ Provider.parse? name = none ∧ e = unknownProvider name := by
  rw [← stack_provider, ← chooseModel_eq_error (m := RunConfig.standard.model)]
  unfold resolve apply applyModel
  cases (stack layers).chooseModel RunConfig.standard.model with
  | error e' => simp [Except.map]
  | ok m => simp [Except.map]

/-- The model of all roles, where no layer below says anything of it. -/
theorem of_chooseModel {l : SettingsLayer} {m : ModelConfig} (h : l.chooseModel RunConfig.standard.model = .ok m) :
    m.provider = (l.provider.bind Provider.parse?).getD RunConfig.standard.model.provider ∧
      m.model = l.model.getD m.provider.defaultModel ∧ m.baseUrl = none ∧
      m.temperature = RunConfig.standard.model.temperature := by
  unfold chooseModel at h
  cases hprovider : l.provider with
  | none =>
    rw [hprovider] at h
    cases h
    cases l.model <;> exact ⟨rfl, rfl, rfl, rfl⟩
  | some name =>
    rw [hprovider] at h
    cases hparse : Provider.parse? name with
    | none =>
      simp only [hparse] at h
      cases h
    | some p =>
      simp only [hparse] at h
      cases h
      exact ⟨by rw [Option.bind_some, hparse]; rfl, rfl, rfl, rfl⟩

theorem of_applyModel {l : SettingsLayer} {m : ModelConfig} (h : l.applyModel RunConfig.standard.model = .ok m) :
    m.provider = (l.provider.bind Provider.parse?).getD RunConfig.standard.model.provider ∧
      m.model = l.model.getD m.provider.defaultModel ∧ m.baseUrl = l.baseUrl ∧
      m.temperature = RunConfig.standard.model.temperature := by
  obtain ⟨m', hchoose, rfl⟩ := exists_of_map h
  obtain ⟨hprovider, hmodel, hurl, htemperature⟩ := of_chooseModel hchoose
  cases l.baseUrl with
  | none => exact ⟨hprovider, hmodel, hurl, htemperature⟩
  | some url => exact ⟨hprovider, hmodel, rfl, htemperature⟩

theorem settled_of_resolve (hlayers : ∀ l ∈ layers, IsTable l.roleModels) (h : resolve layers = .ok c) :
    Settled layers c := by
  have hstack : ∀ {α : Type} (field : SettingsLayer → Option α), field empty = none →
      (∀ top under, field (top.above under) = (field top).or (field under)) →
        field (stack layers) = lastSet field layers :=
    fun field hempty habove => stack_eq_lastSet field hempty fun top _ => habove top
  have hroles : ∀ role, (stack layers).roleModels.lookup role = lastSet (·.roleModels.lookup role) layers :=
    fun role => stack_eq_lastSet (·.roleModels.lookup role) rfl fun top htop _ =>
      lookup_putKeys (hlayers top htop)
  obtain ⟨m, happly, rfl⟩ := exists_of_map h
  obtain ⟨hprovider, hmodel, hurl, htemperature⟩ := of_applyModel happly
  have hown := fun role => lookup_putKeys_map (isTable_stack layers) (fun name => { m with model := name }) role
  exact {
    maxCycles := by rw [← hstack (·.maxCycles) rfl fun _ _ => rfl]
    maxConcurrentTasks := by rw [← hstack (·.maxConcurrentTasks) rfl fun _ _ => rfl]
    taskSeconds := by rw [← hstack (·.taskSeconds) rfl fun _ _ => rfl]
    commandSeconds := by rw [← hstack (·.commandSeconds) rfl fun _ _ => rfl]
    checkSeconds := by rw [← hstack (·.checkSeconds) rfl fun _ _ => rfl]
    service := by rw [← hstack (·.service) rfl fun _ _ => rfl]
    provider := by rw [← stack_provider, ← hprovider]
    model := by rw [← hstack (·.model) rfl fun _ _ => rfl, ← hmodel]
    baseUrl := by rw [← hstack (·.baseUrl) rfl fun _ _ => rfl, ← hurl]
    temperature := htemperature
    roleModels := fun role => (hown role).trans (by rw [hroles]) }

end

/-- Layers resolve to what the last of them say, however neighbours are put together, and fail to only
if the last provider that is set is unknown. -/
theorem resolve_settles (layers : List SettingsLayer) (hlayers : ∀ l ∈ layers, IsTable l.roleModels) :
    (∀ e, resolve layers = .error e ↔ ∃ name, lastSet (·.provider) layers = some name ∧
      Provider.parse? name = none ∧ e = unknownProvider name) ∧
    (∀ c, resolve layers = .ok c → Settled layers c) ∧
    ∀ before under top after, layers = before ++ under :: top :: after →
      resolve (before ++ top.above under :: after) = resolve layers := by
  refine ⟨fun e => resolve_eq_error, fun c => settled_of_resolve hlayers, ?_⟩
  rintro before under top after rfl
  have hunder : IsTable under.roleModels := hlayers under (by simp)
  have htop : IsTable top.roleModels := hlayers top (by simp)
  rw [resolve, resolve, stack_merged hunder htop]

/-- What a settings file may say. -/
def fileLayer : SettingsLayer :=
  { empty with
    maxCycles := some 8
    maxConcurrentTasks := some 0
    model := some "llama3.1:70b"
    roleModels := [("debugger", "llama3.1:8b"), ("planner", "mistral")] }

/-- What a command line may say. -/
def commandLayer : SettingsLayer :=
  { empty with
    maxCycles := some 3
    provider := some " DeepSeek "
    roleModels := [("debugger", "deepseek-reasoner")] }

theorem resolve_settles_fileLayer : (∀ l ∈ [fileLayer, commandLayer], IsTable l.roleModels) ∧
    ∃ c, resolve [fileLayer, commandLayer] = .ok c ∧ Settled [fileLayer, commandLayer] c ∧
      c.maxCycles = 3 ∧ c.maxConcurrentTasks = 1 ∧ c.model.provider = .deepSeek ∧ c.model.model = "llama3.1:70b" ∧
      c.roleModels.lookup "debugger" = some { c.model with model := "deepseek-reasoner" } ∧
      c.roleModels.lookup "planner" = some { c.model with model := "mistral" } ∧
      resolve [commandLayer.above fileLayer] = .ok c := by
  have htables : ∀ l ∈ [fileLayer, commandLayer], IsTable l.roleModels := by decide
  have hprovider : Provider.parse? " DeepSeek " = some .deepSeek := by decide +kernel
  obtain ⟨hfails, hsettled, hmerged⟩ := resolve_settles [fileLayer, commandLayer] htables
  cases hc : resolve [fileLayer, commandLayer] with
  | error e =>
    obtain ⟨name, hname, hunknown, -⟩ := (hfails e).1 hc
    cases hname
    rw [hprovider] at hunknown
    cases hunknown
  | ok c =>
    have h := hsettled c hc
    refine ⟨htables, c, rfl, h, h.maxCycles, h.maxConcurrentTasks, ?_, h.model, h.roleModels _, h.roleModels _, ?_⟩
    · rw [h.provider]
      exact congrArg (Option.getD · _) hprovider
    · exact (hmerged [] fileLayer commandLayer [] rfl).trans hc

end SettingsLayer

end BuildLoop
