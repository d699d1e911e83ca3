import AdkGateway.CategoryConfig.Codec
import AdkGateway.ControlPanel.ConfigPage
import AdkGateway.Foundation.JsonEdit

namespace AdkGateway.ControlPanel

open Foundation Json Startup

section Channels

structure TelegramPayload where
  enabled : Bool
  botToken : Option String
  dmPolicy : Option String
  streamMode : Option String

structure SlackPayload where
  enabled : Bool
  botToken : Option String
  appToken : Option String
  dmPolicy : Option String

structure WhatsAppPayload where
  enabled : Bool
  phoneNumberId : Option String
  accessToken : Option String
  verifyToken : Option String
  webhookPath : Option String

structure DiscordPayload where
  enabled : Bool
  botToken : Option String
  applicationId : Option String
  guildIds : Option (List String)

structure MatrixPayload where
  enabled : Bool
  homeserverUrl : Option String
  accessToken : Option String
  userId : Option String
  roomIds : Option (List String)

structure ChannelsPayload where
  telegram : Option TelegramPayload
  slack : Option SlackPayload
  whatsapp : Option WhatsAppPayload
  discord : Option DiscordPayload
  matrix : Option MatrixPayload

def tokenOr (given existing : Option String) : String :=
  match given.filter fun token ↦ !token.isEmpty with
  | some token => token
  | none => existing.getD ""

def otherToken (config : GatewayConfig) (channel field : String) : Option String :=
  ((config.channels.others.get channel).bind (get field)).bind asStr

variable (config : GatewayConfig)

def telegramSection (tg : TelegramPayload) : Except String (Option Json) :=
  if tg.enabled then
    let token := tokenOr tg.botToken (config.channels.telegram.map fun existing ↦ existing.botToken)
    let dmPolicy := tg.dmPolicy.getD "open"
    if token.isEmpty then .error "Telegram bot token is required when enabled"
    else if ["open", "allowlist", "pairing", "disabled"].contains dmPolicy then
      .ok <| some <| .object [("enabled", .bool true), ("botToken", .string token),
        ("dmPolicy", .string dmPolicy), ("streamMode", .string (tg.streamMode.getD "partial")),
        ("allowFrom", texts ["*"])]
    else .error ("Invalid DM policy: " ++ dmPolicy)
  else .ok none

def slackSection (sl : SlackPayload) : Except String (Option Json) :=
  if sl.enabled then
    let botToken := tokenOr sl.botToken (config.channels.slack.map fun existing ↦ existing.botToken)
    let appToken := tokenOr sl.appToken (config.channels.slack.map fun existing ↦ existing.appToken)
    if botToken.isEmpty || appToken.isEmpty then
      .error "Slack bot token and app token are both required when enabled"
    else
      .ok <| some <| .object [("enabled", .bool true), ("botToken", .string botToken),
        ("appToken", .string appToken), ("dmPolicy", .string (sl.dmPolicy.getD "open")),
        ("allowFrom", texts ["*"])]
  else .ok none

def whatsappSection (wa : WhatsAppPayload) : Except String (Option Json) :=
  if wa.enabled then
    let phoneNumberId := wa.phoneNumberId.getD ""
    let accessToken := tokenOr wa.accessToken (otherToken config "whatsapp" "accessToken")
    if phoneNumberId.isEmpty || accessToken.isEmpty then
      .error "WhatsApp phone number ID and access token are required when enabled"
    else
      .ok <| some <| .object [("enabled", .bool true), ("phoneNumberId", .string phoneNumberId),
        ("accessToken", .string accessToken), ("verifyToken", .string (wa.verifyToken.getD "")),
        ("webhookPath", .string (wa.webhookPath.getD "/webhook/whatsapp"))]
  else .ok none

def discordSection (dc : DiscordPayload) : Except String (Option Json) :=
  if dc.enabled then
    let botToken := tokenOr dc.botToken (otherToken config "discord" "botToken")
    if botToken.isEmpty then .error "Discord bot token is required when enabled"
    else
      .ok <| some <| .object [("enabled", .bool true), ("botToken", .string botToken),
        ("applicationId", .string (dc.applicationId.getD "")),
        ("guildIds", texts (dc.guildIds.getD []))]
  else .ok none

def matrixSection (mx : MatrixPayload) : Except String (Option Json) :=
  if mx.enabled then
    let homeserverUrl := mx.homeserverUrl.getD ""
    let accessToken := tokenOr mx.accessToken (otherToken config "matrix" "accessToken")
    if homeserverUrl.isEmpty || accessToken.isEmpty then
      .error "Matrix homeserver URL and access token are required when enabled"
    else
      .ok <| some <| .object [("enabled", .bool true), ("homeserverUrl", .string homeserverUrl),
        ("accessToken", .string accessToken), ("userId", .string (mx.userId.getD "")),
        ("roomIds", texts (mx.roomIds.getD []))]
  else .ok none

def channelSections (payload : ChannelsPayload) : List (String × Except String (Option Json)) :=
  (payload.telegram.toList.map fun tg ↦ ("telegram", telegramSection config tg)) ++
    (payload.slack.toList.map fun sl ↦ ("slack", slackSection config sl)) ++
    (payload.whatsapp.toList.map fun wa ↦ ("whatsapp", whatsappSection config wa)) ++
    (payload.discord.toList.map fun dc ↦ ("discord", discordSection config dc)) ++
    (payload.matrix.toList.map fun mx ↦ ("matrix", matrixSection config mx))

def channelEdit (channel : String) : Option Json → Edit
  | some value => .put ["channels", channel] value
  | none => .remove ["channels"] channel

def channelEdits (payload : ChannelsPayload) : List (Except String Edit) :=
  (channelSections config payload).map fun (channel, answer) ↦ answer.map (channelEdit channel)

end Channels

section Settings

structure SettingsPayload where
  memoryEnabled : Bool
  memoryBackend : Option String
  memoryEmbeddingProvider : Option String
  memoryEmbeddingModel : Option String
  ragEnabled : Bool
  ragVectorStore : Option String
  ragEmbeddingProvider : Option String
  ragEmbeddingModel : Option String
  ragChunkSize : Option ℕ

def validProviders : List String := ["gemini", "openai"]

def checkProvider (use : String) (provider : Option String) : Except String Unit :=
  match provider.filter fun provider ↦ !validProviders.contains provider with
  | some provider =>
    .error ("Invalid " ++ use ++ " embedding provider: " ++ provider ++ ". Must be one of: " ++
      ", ".intercalate validProviders)
  | none => .ok ()

def checkChunkSize (chunkSize : Option ℕ) : Except String Unit :=
  if chunkSize.any fun n ↦ n == 0 || n > 8192 then
    .error "RAG chunk size must be between 1 and 8192"
  else .ok ()

def checkSettings (payload : SettingsPayload) : Except String Unit := do
  if payload.memoryEnabled then checkProvider "memory" payload.memoryEmbeddingProvider
  if payload.ragEnabled then
    checkProvider "RAG" payload.ragEmbeddingProvider
    checkChunkSize payload.ragChunkSize

def embeddingSection (provider model : Option String) : Json :=
  .object [("provider", .string (provider.getD "openai")), ("model", optional .string model)]

def memorySection (payload : SettingsPayload) : Json :=
  if payload.memoryEnabled then
    .object [("backend", .string (payload.memoryBackend.getD "inmemory")),
      ("embedding",
        embeddingSection payload.memoryEmbeddingProvider payload.memoryEmbeddingModel)]
  else .null

def ragSection (payload : SettingsPayload) : Json :=
  if payload.ragEnabled then
    .object [("vectorStore", .string (payload.ragVectorStore.getD "inmemory")),
      ("embedding", embeddingSection payload.ragEmbeddingProvider payload.ragEmbeddingModel),
      ("chunkSize", number (payload.ragChunkSize.getD 512))]
  else .null

def settingsEdits (payload : SettingsPayload) : List Edit :=
  [.put ["memory"] (memorySection payload), .put ["rag"] (ragSection payload)]

end Settings

section Agent

structure AgentPayload where
  provider : Option String
  modelName : Option String
  baseUrl : Option String
  apiKeys : KeyedMap String String
  primary : Option Json
  vision : Option Json
  omni : Option Json
  imageGeneration : Option Json
  tts : Option Json
  stt : Option Json
  code : Option Json
  embedding : Option Json
  search : Option Json
  music : Option Json
  cloudProvider : Option Json

namespace AgentPayload

def field (payload : AgentPayload) : ModelCategory → Option Json
  | .vision => payload.vision
  | .omni => payload.omni
  | .imageGeneration => payload.imageGeneration
  | .tts => payload.tts
  | .stt => payload.stt
  | .code => payload.code
  | .embedding => payload.embedding
  | .search => payload.search
  | .music => payload.music

end AgentPayload

def toModelArray : Json → Option (List Json)
  | .string s => if s.isEmpty then none else some [.string s]
  | .array items =>
    let filtered := items.filterMap fun item ↦
      (item.asStr.filter fun s ↦ !s.isEmpty).map Json.string
    if filtered.isEmpty then none else some filtered
  | _ => none

def givenPrimary (isCloudProvider : Bool) : Json → Except String String
  | .string s =>
    if (Text.trim s).isEmpty && !isCloudProvider then .error "Primary model is required"
    else .ok (Text.trim s)
  | .array items =>
    let first := Text.trim ((items.head?.bind asStr).getD "")
    if first.isEmpty && !isCloudProvider then .error "Primary model is required" else .ok first
  | _ => if isCloudProvider then .ok "" else .error "Primary model must be a string or array"

def primaryId (payload : AgentPayload) : Except String String :=
  match payload.primary, payload.modelName with
  | some primary, _ => givenPrimary payload.cloudProvider.isSome primary
  | none, some modelName =>
    if (Text.trim modelName).isEmpty then .error "Model name is required"
    -- the two branches of the source, for a name with a slash and without, write the same text
    else .ok (payload.provider.getD "gemini" ++ "/" ++ Text.trim modelName)
  | none, none =>
    if payload.cloudProvider.isSome then .ok "" else .error "Primary model is required"

def primaryModel (payload : AgentPayload) (primaryId : String) : Json :=
  match payload.primary.bind toModelArray with
  | some [model] => model
  | some models => .array models
  | none => .string primaryId

def modelObject (payload : AgentPayload) (primaryId : String) : Json :=
  .object <| ("primary", primaryModel payload primaryId) ::
    ModelCategory.all.filterMap fun category ↦
      ((payload.field category).bind toModelArray).map fun models ↦ (category.key, .array models)

def agentEdits (payload : AgentPayload) (primaryId : String) : List Edit :=
  .put ["agent", "model"] (modelObject payload primaryId) ::
    payload.cloudProvider.toList.map fun value ↦ .put ["agent", "cloud_provider"] value

def providers : List (String × String) :=
  [("anthropic", "ANTHROPIC_API_KEY"), ("openai", "OPENAI_API_KEY"), ("gemini", "GOOGLE_API_KEY"),
    ("openrouter", "OPENROUTER_API_KEY"), ("deepseek", "DEEPSEEK_API_KEY"),
    ("groq", "GROQ_API_KEY"), ("ollama", ""), ("fireworks", "FIREWORKS_API_KEY"),
    ("together", "TOGETHER_API_KEY"), ("mistral", "MISTRAL_API_KEY"),
    ("perplexity", "PERPLEXITY_API_KEY"), ("cerebras", "CEREBRAS_API_KEY"),
    ("sambanova", "SAMBANOVA_API_KEY"), ("xai", "XAI_API_KEY"),
    ("elevenlabs", "ELEVENLABS_API_KEY"), ("replicate", "REPLICATE_API_TOKEN"),
    ("assemblyai", "ASSEMBLYAI_API_KEY"), ("deepgram", "DEEPGRAM_API_KEY"),
    ("openai-compatible", "OPENAI_COMPATIBLE_API_KEY")]

end Agent

inductive Failure
  | refused (message : String)
  | panicked
  deriving DecidableEq

section Environment

/-- Of the general category `Cc`. -/
def isControl (c : Char) : Bool := c.toNat < 0x20 || (0x7F ≤ c.toNat && c.toNat < 0xA0)

def keyVars (providerId envVar : String) : List String :=
  if providerId = "gemini" then [envVar, "GEMINI_API_KEY"] else [envVar]

def setKeys (apiKeys : KeyedMap String String) :
    List (String × String) → List (String × String) × Except Failure Unit
  | [] => ([], .ok ())
  | (providerId, envVar) :: rest =>
    match (apiKeys.lookup providerId).filter fun key ↦ !envVar.isEmpty && !key.isEmpty with
    | none => setKeys apiKeys rest
    | some key =>
      if key.toList.any isControl then
        ([], .error (.refused ("API key for " ++ providerId ++ " contains invalid characters")))
      else
        ((keyVars providerId envVar).map (·, key) ++ (setKeys apiKeys rest).1,
          (setKeys apiKeys rest).2)

def setBaseUrl (baseUrl : Option String) : List (String × String) × Except Failure Unit :=
  match baseUrl.filter fun url ↦ !url.isEmpty with
  | none => ([], .ok ())
  | some url =>
    if !"http://".toList.isPrefixOf url.toList && !"https://".toList.isPrefixOf url.toList then
      ([], .error (.refused "Base URL must start with http:// or https://"))
    else if url.toList.contains '\x00' then ([], .error .panicked)
    else ([("OPENAI_COMPATIBLE_BASE_URL", url)], .ok ())

def setVariables (payload : AgentPayload) : List (String × String) × Except Failure Unit :=
  match setKeys payload.apiKeys providers with
  | (assigned, .error failure) => (assigned, .error failure)
  | (assigned, .ok ()) => (assigned ++ (setBaseUrl payload.baseUrl).1, (setBaseUrl payload.baseUrl).2)

end Environment

section Handlers

structure Readers extends Serde where
  readValue : String → Except String Json

structure FileAccess where
  read : Except String Unit
  write : Except String Unit

structure Process where
  panel : ControlPanelState
  var : String → Option String

namespace Process

def setVars (assigned : List (String × String)) (s : Process) : Process :=
  { s with var := assigned.foldl (fun var x ↦ Function.update var x.1 (some x.2)) s.var }

end Process

variable (serde : Readers) (files : FileAccess)

def parseDocument (raw : String) : Except String Json :=
  match serde.fromStr raw with
  | .ok document => .ok document
  | .error _ => serde.readValue raw

/-- The sections are written one by one; what cannot be indexed panics. -/
def applyEdits : List (Except String Edit) → Json → Except Failure Json
  | [], document => .ok document
  | .error message :: _, _ => .error (.refused message)
  | .ok edit :: edits, document =>
    match edit.apply document with
    | none => .error .panicked
    | some document => applyEdits edits document

def ensureChannels (document : Json) : Except Failure Json :=
  if (document.get "channels").isNone then
    applyEdits [.ok (.put ["channels"] (.object []))] document
  else .ok document

def Failure.answer : Failure → Option SaveResponse
  | .refused message => some ⟨false, message⟩
  | .panicked => none

def writeDocument (done : String) (document : Json) (s : Process) :
    Option SaveResponse × Process :=
  match files.write with
  | .error e => (some ⟨false, "Failed to write config: " ++ e⟩, s)
  | .ok () =>
    let output := serde.toStringPretty document
    let config := match (serde.fromStr output).bind serde.fromValue with
      | .ok config => config
      | .error _ => s.panel.config
    (some ⟨true, done⟩, { s with panel := { s.panel with config, file := output } })

/-- The frame that the three handlers share. There is no answer if it panics. -/
def saveSections (edits : Except String (List (Except String Edit)))
    (prepare : Json → Except Failure Json)
    (assign : List (String × String) × Except Failure Unit) (done : String) (s : Process) :
    Option SaveResponse × Process :=
  match s.panel.configPath with
  | none => (some ⟨false, "Config file path not configured"⟩, s)
  | some _ =>
    match edits with
    | .error message => (some ⟨false, message⟩, s)
    | .ok edits =>
      match files.read with
      | .error e => (some ⟨false, "Failed to read config: " ++ e⟩, s)
      | .ok () =>
        match parseDocument serde s.panel.file with
        | .error e => (some ⟨false, "Failed to parse config: " ++ e⟩, s)
        | .ok document =>
          match (prepare document).bind (applyEdits edits) with
          | .error failure => (failure.answer, s)
          | .ok document =>
            match assign.2 with
            | .error failure => (failure.answer, s.setVars assign.1)
            | .ok () => writeDocument serde files done document (s.setVars assign.1)

def channelsSave (payload : ChannelsPayload) (s : Process) : Option SaveResponse × Process :=
  saveSections serde files (.ok (channelEdits s.panel.config payload)) ensureChannels ([], .ok ())
    "Channels saved and applied." s

def settingsSave (payload : SettingsPayload) (s : Process) : Option SaveResponse × Process :=
  saveSections serde files
    ((checkSettings payload).map fun _ ↦ (settingsEdits payload).map .ok) .ok ([], .ok ())
    "Settings saved and applied." s

def agentSave (payload : AgentPayload) (s : Process) : Option SaveResponse × Process :=
  saveSections serde files
    ((primaryId payload).map fun primaryId ↦ (agentEdits payload primaryId).map .ok) .ok
    (setVariables payload) "Agent config saved and applied." s

end Handlers

end AdkGateway.ControlPanel
