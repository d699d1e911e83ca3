import AdkGateway.CategoryConfig.Codec
import AdkGateway.Foundation.KeyedMap
import AdkGateway.Foundation.Text

namespace AdkGateway

open Foundation

/-- The variables of a process. `std::env::var` finds none under the empty name. -/
structure Environment where
  entries : KeyedMap String String

namespace Environment

def var (env : Environment) (name : String) : Option String :=
  if name = "" then none else env.entries.lookup name

end Environment

namespace ModelFactory

structure Client where
  constructor : String
  apiKey : Option String
  modelName : String
  providerName : Option String
  baseUrl : Option String
  deriving DecidableEq

variable (env : Environment)

def requireKey (envVar provider : String) : Except String String :=
  match env.var envVar with
  | some key => .ok key
  | none => .error (provider ++ " requires " ++ envVar ++ " env var")

def createGemini (modelName : String) : Except String Client :=
  match (env.var "GOOGLE_API_KEY").or (env.var "GEMINI_API_KEY") with
  | some key => .ok ⟨"GeminiModel", some key, modelName, none, none⟩
  | none => .error "gemini requires GOOGLE_API_KEY or GEMINI_API_KEY env var"

/-- `create_openai` and its kind. -/
def createKeyed (constructor envVar provider modelName : String) : Except String Client :=
  (requireKey env envVar provider).map fun key ↦ ⟨constructor, some key, modelName, none, none⟩

def createOllama (modelName : String) : Except String Client :=
  .ok ⟨"OllamaModel", none, modelName, none, none⟩

def createOpenaiCompatible (providerName modelName envVar baseUrl : String) :
    Except String Client :=
  (requireKey env envVar providerName).map fun key ↦
    ⟨"OpenAICompatible", some key, modelName, some providerName, some baseUrl⟩

inductive Arm
  | gemini
  | keyed (constructor envVar provider : String)
  | ollama
  | openaiCompatible (providerName envVar baseUrl : String)
  | custom

def arm (provider : String) : Option Arm :=
  match provider with
  | "gemini" => some .gemini
  | "google" => some .gemini
  | "openai" => some (.keyed "OpenAIClient" "OPENAI_API_KEY" "openai")
  | "anthropic" => some (.keyed "AnthropicClient" "ANTHROPIC_API_KEY" "anthropic")
  | "ollama" => some .ollama
  | "deepseek" => some (.keyed "DeepSeekClient" "DEEPSEEK_API_KEY" "deepseek")
  | "groq" => some (.keyed "GroqClient" "GROQ_API_KEY" "groq")
  | "openrouter" => some (.keyed "OpenRouterClient" "OPENROUTER_API_KEY" "openrouter")
  | "fireworks" =>
    some (.openaiCompatible "fireworks" "FIREWORKS_API_KEY" "https://api.fireworks.ai/inference/v1")
  | "together" =>
    some (.openaiCompatible "together" "TOGETHER_API_KEY" "https://api.together.xyz/v1")
  | "mistral" => some (.openaiCompatible "mistral" "MISTRAL_API_KEY" "https://api.mistral.ai/v1")
  | "perplexity" =>
    some (.openaiCompatible "perplexity" "PERPLEXITY_API_KEY" "https://api.perplexity.ai")
  | "cerebras" =>
    some (.openaiCompatible "cerebras" "CEREBRAS_API_KEY" "https://api.cerebras.ai/v1")
  | "sambanova" =>
    some (.openaiCompatible "sambanova" "SAMBANOVA_API_KEY" "https://api.sambanova.ai/v1")
  | "xai" => some (.openaiCompatible "xai" "XAI_API_KEY" "https://api.x.ai/v1")
  | "elevenlabs" =>
    some (.openaiCompatible "elevenlabs" "ELEVENLABS_API_KEY" "https://api.elevenlabs.io/v1")
  | "replicate" =>
    some (.openaiCompatible "replicate" "REPLICATE_API_TOKEN" "https://api.replicate.com/v1")
  | "assemblyai" =>
    some (.openaiCompatible "assemblyai" "ASSEMBLYAI_API_KEY" "https://api.assemblyai.com/v2")
  | "deepgram" =>
    some (.openaiCompatible "deepgram" "DEEPGRAM_API_KEY" "https://api.deepgram.com/v1")
  | "openai-compatible" => some .custom
  | _ => none

def Arm.create (modelName : String) : Arm → Except String Client
  | .gemini => createGemini env modelName
  | .keyed constructor envVar provider => createKeyed env constructor envVar provider modelName
  | .ollama => createOllama modelName
  | .openaiCompatible providerName envVar baseUrl =>
    createOpenaiCompatible env providerName modelName envVar baseUrl
  | .custom =>
    createOpenaiCompatible env "custom" modelName "OPENAI_COMPATIBLE_API_KEY"
      ((env.var "OPENAI_COMPATIBLE_BASE_URL").getD "http://localhost:8080/v1")

def parseModelId (modelId : String) : String × String :=
  (Text.splitOnce "/" modelId).getD ("gemini", modelId)

/-- A provider that is not known is taken for a part of a name for Gemini. -/
def createModel (modelId : String) : Except String Client :=
  let parsed := parseModelId modelId
  match arm parsed.1 with
  | some known => known.create env parsed.2
  | none => createGemini env modelId

/-- `PROVIDERS`: the identifier, the name that is shown, and the variable of the key. -/
def providers : List (String × String × String) :=
  [("anthropic", "Anthropic", "ANTHROPIC_API_KEY"),
    ("openai", "OpenAI", "OPENAI_API_KEY"),
    ("gemini", "Google Gemini", "GOOGLE_API_KEY"),
    ("openrouter", "OpenRouter", "OPENROUTER_API_KEY"),
    ("deepseek", "DeepSeek", "DEEPSEEK_API_KEY"),
    ("groq", "Groq", "GROQ_API_KEY"),
    ("ollama", "Ollama (local)", ""),
    ("fireworks", "Fireworks AI", "FIREWORKS_API_KEY"),
    ("together", "Together AI", "TOGETHER_API_KEY"),
    ("mistral", "Mistral AI", "MISTRAL_API_KEY"),
    ("perplexity", "Perplexity", "PERPLEXITY_API_KEY"),
    ("cerebras", "Cerebras", "CEREBRAS_API_KEY"),
    ("sambanova", "SambaNova", "SAMBANOVA_API_KEY"),
    ("xai", "xAI (Grok)", "XAI_API_KEY"),
    ("elevenlabs", "ElevenLabs", "ELEVENLABS_API_KEY"),
    ("replicate", "Replicate", "REPLICATE_API_TOKEN"),
    ("assemblyai", "AssemblyAI", "ASSEMBLYAI_API_KEY"),
    ("deepgram", "Deepgram", "DEEPGRAM_API_KEY"),
    ("openai-compatible", "OpenAI-Compatible (custom)", "OPENAI_COMPATIBLE_API_KEY")]

def resolveApiKeyEnv (modelId : String) : String :=
  ((providers.find? (·.1 = (parseModelId modelId).1)).map (·.2.2)).getD ""

def Arm.keyVariables : Arm → List String
  | .gemini => ["GOOGLE_API_KEY", "GEMINI_API_KEY"]
  | .keyed _ envVar _ => [envVar]
  | .ollama => []
  | .openaiCompatible _ envVar _ => [envVar]
  | .custom => ["OPENAI_COMPATIBLE_API_KEY"]

def keyVariables (modelId : String) : List String :=
  ((arm (parseModelId modelId).1).getD .gemini).keyVariables

def keyVariable (modelId : String) : Option String :=
  (keyVariables modelId).find? fun name ↦ (env.var name).isSome

theorem requireKey_eq_ok {envVar provider key : String}
    (h : requireKey env envVar provider = .ok key) : env.var envVar = some key := by
  rw [requireKey] at h
  cases hvar : env.var envVar with
  | none =>
    rw [hvar] at h
    cases h
  | some found =>
    rw [hvar] at h
    cases h
    rfl

theorem apiKey_create {a : Arm} {modelName : String} {client : Client}
    (h : a.create env modelName = .ok client) :
    client.apiKey = (a.keyVariables.find? fun name ↦ (env.var name).isSome).bind env.var := by
  have hkeyed {envVar provider : String} {f : String → Client} (hf : ∀ k, (f k).apiKey = some k)
      (h : (requireKey env envVar provider).map f = .ok client) :
      client.apiKey = (List.find? (fun name ↦ (env.var name).isSome) [envVar]).bind env.var := by
    cases hrequire : requireKey env envVar provider with
    | error e =>
      rw [hrequire] at h
      cases h
    | ok key =>
      rw [hrequire] at h
      cases h
      simp [requireKey_eq_ok env hrequire, hf]
  cases a with
  | gemini =>
    rw [Arm.create, createGemini] at h
    cases hgoogle : env.var "GOOGLE_API_KEY" with
    | some key =>
      rw [hgoogle] at h
      cases h
      simp [Arm.keyVariables, hgoogle]
    | none =>
      cases hgemini : env.var "GEMINI_API_KEY" with
      | some key =>
        rw [hgoogle, hgemini] at h
        cases h
        simp [Arm.keyVariables, hgoogle, hgemini]
      | none =>
        rw [hgoogle, hgemini] at h
        cases h
  | keyed constructor envVar provider => exact hkeyed (fun _ ↦ rfl) h
  | ollama =>
    cases h
    rfl
  | openaiCompatible providerName envVar baseUrl => exact hkeyed (fun _ ↦ rfl) h
  | custom => exact hkeyed (fun _ ↦ rfl) h

theorem apiKey_createModel {modelId : String} {client : Client}
    (h : createModel env modelId = .ok client) :
    client.apiKey = (keyVariable env modelId).bind env.var := by
  simp only [createModel] at h
  rw [keyVariable, keyVariables]
  cases harm : arm (parseModelId modelId).1 with
  | none =>
    rw [harm] at h
    exact apiKey_create env (a := .gemini) h
  | some a =>
    rw [harm] at h
    exact apiKey_create env h

def IsKeyVariable (name : String) : Prop := ∃ provider a, arm provider = some a ∧ name ∈ a.keyVariables

end ModelFactory

namespace AgentTools

open ModelFactory

inductive AgentModelOverride
  | part (config : CategoryConfig)
  | full (config : CategoryConfig)

structure SpawnConfig where
  id : String
  model : String
  apiKeyEnv : String
  modelOverride : Option AgentModelOverride

namespace SpawnConfig

def resolveModel (config : SpawnConfig) (category : String) (globalConfig : CategoryConfig) :
    Option String :=
  match config.modelOverride with
  | none => globalConfig.resolve category
  | some (.part overrides) => (overrides.resolve category).or (globalConfig.resolve category)
  | some (.full config) => config.resolve category

def keyedModel (config : SpawnConfig) : String :=
  match config.modelOverride with
  | some (.part c) => c.primary.primary
  | some (.full c) => c.primary.primary
  | none => config.model

def resolveApiKeyEnv (config : SpawnConfig) : String :=
  if config.apiKeyEnv ≠ "" then config.apiKeyEnv
  else ModelFactory.resolveApiKeyEnv config.keyedModel

end SpawnConfig

inductive SpawnPath
  | agentStart
  | agentConfigure
  | autoStart

section Paths

variable (env : Environment) (globalConfig : CategoryConfig) (dataDir : String)

def toolEnvironment (config : SpawnConfig) : KeyedMap String String :=
  let effectiveModel := (config.resolveModel "primary" globalConfig).getD config.model
  let apiKeyEnv := config.resolveApiKeyEnv
  let passed := ((∅ : KeyedMap String String).insert "AGENT_ID" config.id).insert
    "AGENT_MODEL" effectiveModel
  let passed := match env.var apiKeyEnv with
    | some key => passed.insert apiKeyEnv key
    | none => passed
  passed.insert "AGENT_DATA_DIR" dataDir

def autoStartEnvironment (config : SpawnConfig) : KeyedMap String String :=
  match env.var config.apiKeyEnv with
  | some key => (∅ : KeyedMap String String).insert config.apiKeyEnv key
  | none => ∅

def SpawnPath.environment (config : SpawnConfig) : SpawnPath → KeyedMap String String
  | agentStart => toolEnvironment env globalConfig dataDir config
  | agentConfigure => toolEnvironment env globalConfig dataDir config
  | autoStart => autoStartEnvironment env config

def effectiveModel (config : SpawnConfig) : String :=
  (config.resolveModel "primary" globalConfig).getD config.model

/-- The child is told its model and given the key of that model, where there is one, and no key of
another provider. -/
structure GetsOwnModel (config : SpawnConfig) (path : SpawnPath) : Prop where
  model : (path.environment env globalConfig dataDir config).lookup "AGENT_MODEL" =
    config.resolveModel "primary" globalConfig
  key : ∀ name, keyVariable env (effectiveModel globalConfig config) = some name →
    (path.environment env globalConfig dataDir config).lookup name = env.var name
  noOther : ∀ name, IsKeyVariable name →
    name ∈ path.environment env globalConfig dataDir config →
      name ∈ keyVariables (effectiveModel globalConfig config)

/-- Not at the start of the gateway; and the variable of the provider table, for the override or
else for the old `model` field, is the one that the effective model needs, as far as the gateway
has either. -/
structure KeyFits (config : SpawnConfig) (path : SpawnPath) : Prop where
  path : path ≠ .autoStart
  needed : ∀ name, keyVariable env (effectiveModel globalConfig config) = some name →
    ModelFactory.resolveApiKeyEnv config.keyedModel = name
  own : (env.var (ModelFactory.resolveApiKeyEnv config.keyedModel)).isSome →
    ModelFactory.resolveApiKeyEnv config.keyedModel ∈
      keyVariables (effectiveModel globalConfig config)

end Paths

def reserved : List String := ["AGENT_ID", "AGENT_MODEL", "AGENT_DATA_DIR", ""]

theorem notMem_reserved {name : String} (h : IsKeyVariable name) : name ∉ reserved := by
  obtain ⟨provider, a, harm, hname⟩ := h
  unfold arm at harm
  split at harm
  all_goals cases harm
  all_goals
    revert name
    decide

theorem isKeyVariable_of_mem_providers {entry : String × String × String} (h : entry ∈ providers) :
    entry.2.2 = "" ∨ IsKeyVariable entry.2.2 := by
  have hall : ∀ entry ∈ providers,
      entry.2.2 = "" ∨ ∃ a ∈ arm entry.1, entry.2.2 ∈ a.keyVariables := by
    decide
  exact (hall entry h).imp id fun ⟨a, harm, hname⟩ ↦ ⟨entry.1, a, harm, hname⟩

theorem resolveApiKeyEnv_cases (modelId : String) :
    ModelFactory.resolveApiKeyEnv modelId = "" ∨
      IsKeyVariable (ModelFactory.resolveApiKeyEnv modelId) := by
  rw [ModelFactory.resolveApiKeyEnv]
  cases hfind : providers.find? (·.1 = (parseModelId modelId).1) with
  | none => exact .inl rfl
  | some entry => exact isKeyVariable_of_mem_providers (List.mem_of_find?_eq_some hfind)

section Proof

variable {env : Environment} {globalConfig : CategoryConfig} {dataDir : String} {config : SpawnConfig}

theorem var_resolveApiKeyEnv {name : String}
    (h : env.var (ModelFactory.resolveApiKeyEnv config.keyedModel) = some name) :
    IsKeyVariable (ModelFactory.resolveApiKeyEnv config.keyedModel) := by
  rcases resolveApiKeyEnv_cases config.keyedModel with hempty | hkey
  · rw [hempty, Environment.var, if_pos rfl] at h
    cases h
  · exact hkey

theorem isKeyVariable_of_keyVariable {modelId name : String}
    (h : keyVariable env modelId = some name) : IsKeyVariable name := by
  have hmem := List.mem_of_find?_eq_some h
  rw [keyVariables] at hmem
  cases harm : arm (parseModelId modelId).1 with
  | none =>
    rw [harm] at hmem
    exact ⟨"gemini", .gemini, rfl, hmem⟩
  | some a =>
    rw [harm] at hmem
    exact ⟨_, a, harm, hmem⟩

theorem resolveModel_primary :
    config.resolveModel "primary" globalConfig = some (effectiveModel globalConfig config) := by
  rw [effectiveModel, SpawnConfig.resolveModel]
  cases config.modelOverride with
  | none => rfl
  | some o => cases o <;> rfl

theorem lookup_toolEnvironment (hauto : config.apiKeyEnv = "") {name : String}
    (hname : name ∉ reserved) :
    (toolEnvironment env globalConfig dataDir config).lookup name =
      if name = ModelFactory.resolveApiKeyEnv config.keyedModel then env.var name else none := by
  have hresolve : config.resolveApiKeyEnv = ModelFactory.resolveApiKeyEnv config.keyedModel := by
    rw [SpawnConfig.resolveApiKeyEnv, if_neg (not_not.mpr hauto)]
  simp only [reserved, List.mem_cons, not_or] at hname
  obtain ⟨hid, hmodel, hdir, -⟩ := hname
  rw [toolEnvironment, hresolve]
  cases hvar : env.var (ModelFactory.resolveApiKeyEnv config.keyedModel) with
  | none =>
    simp only [KeyedMap.lookup_insert_if, if_neg hid, if_neg hmodel, if_neg hdir]
    split
    case isTrue heq => rw [heq, hvar]; rfl
    case isFalse => rfl
  | some key =>
    simp only [KeyedMap.lookup_insert_if, if_neg hid, if_neg hmodel, if_neg hdir]
    split
    case isTrue heq => rw [heq, hvar]
    case isFalse => rfl

theorem lookup_toolEnvironment_model (hauto : config.apiKeyEnv = "") :
    (toolEnvironment env globalConfig dataDir config).lookup "AGENT_MODEL" =
      some (effectiveModel globalConfig config) := by
  have hresolve : config.resolveApiKeyEnv = ModelFactory.resolveApiKeyEnv config.keyedModel := by
    rw [SpawnConfig.resolveApiKeyEnv, if_neg (not_not.mpr hauto)]
  rw [toolEnvironment, hresolve]
  cases hvar : env.var (ModelFactory.resolveApiKeyEnv config.keyedModel) with
  | none => simp [effectiveModel]
  | some key =>
    have hne : "AGENT_MODEL" ≠ ModelFactory.resolveApiKeyEnv config.keyedModel := by
      intro heq
      exact notMem_reserved (var_resolveApiKeyEnv hvar) (heq ▸ by decide)
    simp [hne, effectiveModel]

theorem autoStartEnvironment_eq (hauto : config.apiKeyEnv = "") :
    autoStartEnvironment env config = ∅ := by
  rw [autoStartEnvironment, hauto, Environment.var, if_pos rfl]

variable {path : SpawnPath}

theorem environment_of_ne (h : path ≠ .autoStart) :
    path.environment env globalConfig dataDir config =
      toolEnvironment env globalConfig dataDir config := by
  cases path with
  | agentStart => rfl
  | agentConfigure => rfl
  | autoStart => exact absurd rfl h

theorem getsOwnModel_of_keyFits (hauto : config.apiKeyEnv = "")
    (h : KeyFits env globalConfig config path) :
    GetsOwnModel env globalConfig dataDir config path where
  model := by
    rw [environment_of_ne h.path, lookup_toolEnvironment_model hauto, resolveModel_primary]
  key name hname := by
    rw [environment_of_ne h.path,
      lookup_toolEnvironment hauto (notMem_reserved (isKeyVariable_of_keyVariable hname)),
      if_pos (h.needed name hname).symm]
  noOther name hkey hmem := by
    rw [environment_of_ne h.path, ← AList.lookup_isSome,
      lookup_toolEnvironment hauto (notMem_reserved hkey)] at hmem
    split at hmem
    case isTrue heq =>
      subst heq
      exact h.own hmem
    case isFalse => cases hmem

theorem keyFits_of_getsOwnModel (hauto : config.apiKeyEnv = "")
    (h : GetsOwnModel env globalConfig dataDir config path) :
    KeyFits env globalConfig config path := by
  have hpath : path ≠ .autoStart := by
    rintro rfl
    have hmodel := h.model
    rw [SpawnPath.environment, autoStartEnvironment_eq hauto, resolveModel_primary] at hmodel
    cases hmodel
  refine ⟨hpath, fun name hname ↦ ?_, fun hsome ↦ ?_⟩
  · have hlookup := h.key name hname
    rw [environment_of_ne hpath,
      lookup_toolEnvironment hauto (notMem_reserved (isKeyVariable_of_keyVariable hname))] at hlookup
    have hthere : (env.var name).isSome := List.find?_some (p := fun name ↦ (env.var name).isSome) hname
    by_contra hne
    rw [if_neg (Ne.symm hne)] at hlookup
    rw [← hlookup] at hthere
    cases hthere
  · obtain ⟨key, hvar⟩ := Option.isSome_iff_exists.mp hsome
    have hkey := var_resolveApiKeyEnv hvar
    refine h.noOther _ hkey ?_
    rw [environment_of_ne hpath, ← AList.lookup_isSome,
      lookup_toolEnvironment hauto (notMem_reserved hkey), if_pos rfl]
    exact hsome

/-- A child without a variable of its own gets its model and the key of it just if it is started by
a tool and the provider table names the variable of its effective model. -/
theorem getsOwnModel_iff (hauto : config.apiKeyEnv = "") :
    GetsOwnModel env globalConfig dataDir config path ↔ KeyFits env globalConfig config path :=
  ⟨keyFits_of_getsOwnModel hauto, getsOwnModel_of_keyFits hauto⟩

end Proof

section Example

def onlyPrimary (model : String) : CategoryConfig :=
  ⟨.simple model, none, none, none, none, none, none, none, none, none⟩

def twoKeys : Environment :=
  ⟨(∅ : KeyedMap String String).insert "ANTHROPIC_API_KEY" "sk-ant" |>.insert "OPENAI_API_KEY" "sk"⟩

def inheriting : SpawnConfig := ⟨"helper", "openai/gpt-4o", "", none⟩

theorem getsOwnModel_iff_of_override :
    GetsOwnModel twoKeys (onlyPrimary "openai/gpt-4o") "/data"
        ⟨"helper", "", "", some (.full (onlyPrimary "anthropic/claude"))⟩ .agentStart ↔
      KeyFits twoKeys (onlyPrimary "openai/gpt-4o")
        ⟨"helper", "", "", some (.full (onlyPrimary "anthropic/claude"))⟩ .agentStart :=
  getsOwnModel_iff rfl

/-- The agent runs the model of the gateway, and gets the key for the model of its old field. -/
theorem not_getsOwnModel_of_inheriting :
    ¬ GetsOwnModel twoKeys (onlyPrimary "anthropic/claude") "/data" inheriting .agentStart := by
  intro h
  have hkey := h.key "ANTHROPIC_API_KEY" (by decide)
  revert hkey
  decide

end Example

end AgentTools

end AdkGateway
