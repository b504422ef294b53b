import BuildLoop.Json.Form
import BuildLoop.Text.LetterCase
import BuildLoop.Text.Search

/-!
# Providers and models

A provider serves language models. Only the local one needs no key; the providers that can be hosted
by oneself honour a base address, all others have one address.

    parse? p.displayName = some p
    (endpoint m) does not end in a slash
-/

namespace BuildLoop

open Text Json

/-- Who serves a model. -/
inductive Provider where
  | ollama
  | openAI
  | openRouter
  | deepSeek
  | grok
  deriving DecidableEq, Repr

namespace Provider

/-- Every provider. -/
def all : List Provider := [ollama, openAI, openRouter, deepSeek, grok]

/-- The provider's identifier. -/
def name : Provider → String
  | ollama => "ollama"
  | openAI => "openai"
  | openRouter => "openrouter"
  | deepSeek => "deepseek"
  | grok => "grok"

/-- The provider's name as it is shown. -/
def displayName : Provider → String
  | ollama => "Ollama"
  | openAI => "OpenAI"
  | openRouter => "OpenRouter"
  | deepSeek => "DeepSeek"
  | grok => "Grok"

/-- Names that a provider has beside its identifier. -/
def aliases : List (String × Provider) := [("xai", grok)]

/-- The provider of a name in any letter case, blanks around it apart. -/
def parse? (s : String) : Option Provider :=
  let s := String.ofList (lower (trim s.toList))
  (all.find? (·.name == s)).or (aliases.lookup s)

/-- Whether the provider honours a base address. -/
def supportsBaseUrl : Provider → Bool
  | ollama | openAI => true
  | _ => false

/-- The provider's own address. -/
def defaultBaseUrl : Provider → String
  | ollama => "http://localhost:11434"
  | openAI => "https://api.openai.com/v1"
  | openRouter => "https://openrouter.ai/api/v1"
  | deepSeek => "https://api.deepseek.com/v1"
  | grok => "https://api.x.ai/v1"

/-- The model that is asked if none is chosen. -/
def defaultModel : Provider → String
  | ollama => "llama3.1:8b"
  | openAI => "gpt-4o"
  | openRouter => "meta-llama/llama-3.1-70b-instruct"
  | deepSeek => "deepseek-chat"
  | grok => "grok-2"

/-- The variable of the environment that holds the key. -/
def keyVariable? : Provider → Option String
  | ollama => none
  | openAI => some "OPENAI_API_KEY"
  | openRouter => some "OPENROUTER_API_KEY"
  | deepSeek => some "DEEPSEEK_API_KEY"
  | grok => some "XAI_API_KEY"

end Provider

instance : Form Provider where
  shape := .choice (Provider.all.map Provider.name)
  toJson p := .text p.name
  ofJson? := named? Provider.name Provider.all

/-- The model of a role. -/
structure ModelConfig where
  provider : Provider
  model : String
  baseUrl : Option String
  /-- The temperature of sampling, unless it is beyond every number. -/
  temperature : Option Number.Binary
  deriving DecidableEq, Repr

namespace ModelConfig

/-- A model of a provider. -/
def ofProvider (provider : Provider) (model : String) : ModelConfig :=
  ⟨provider, model, none, some .zero⟩

/-- A model of the local provider. -/
def new (model : String) : ModelConfig := ofProvider .ollama model

/-- The model of the local provider that is asked if none is chosen. -/
def standard : ModelConfig := new Provider.ollama.defaultModel

/-- The model at another address. -/
def withBaseUrl (m : ModelConfig) (url : String) : ModelConfig := { m with baseUrl := some url }

/-- The address that requests go to. -/
def endpoint (m : ModelConfig) : String :=
  let base :=
    if m.provider.supportsBaseUrl then m.baseUrl.getD m.provider.defaultBaseUrl
    else m.provider.defaultBaseUrl
  String.ofList (dropEndWhile (· == '/') base.toList)

/-- The temperature as a JSON value. -/
def temperatureJson (m : ModelConfig) : Json :=
  (m.temperature.map fun b => .number (.real b)).getD .null

end ModelConfig

instance : Form ModelConfig where
  shape := .record "ModelConfig" (.ofList [
    ("provider", Form.shape Provider, .default (toJson Provider.ollama)),
    ("model", .text, .required),
    ("base_url", .optional .text, .default .null),
    ("temperature", .real, .default (.number (.real .zero)))])
  toJson m := .object [
    ("provider", toJson m.provider),
    ("model", toJson m.model),
    ("base_url", toJson m.baseUrl),
    ("temperature", m.temperatureJson)]
  ofJson? j := do
    some {
      provider := ← get? j "provider"
      model := ← get? j "model"
      baseUrl := ← get? j "base_url"
      temperature := match ← j.field? "temperature" with
        | .number (.real b) => some b
        | _ => none }

end BuildLoop
