import AdkGateway.Foundation.Json
import AdkGateway.Foundation.KeyedMap

namespace AdkGateway

open Foundation

inductive DmPolicy
  | pairing
  | allowlist
  | «open»
  | disabled
  deriving DecidableEq

structure RoleConfig where
  name : String
  permissions : List String
  scopes : List String
  deriving DecidableEq

structure UserRoleMapping where
  userId : String
  role : String
  deriving DecidableEq

structure ChannelAuthOverride where
  dmPolicy : Option DmPolicy
  roles : List RoleConfig
  deriving DecidableEq

/-- Here and in the other sections `others` is what else the section says. -/
structure AuthConfig where
  roles : List RoleConfig
  userMappings : List UserRoleMapping
  channelOverrides : KeyedMap String ChannelAuthOverride
  others : Json

structure TelegramConfig where
  botToken : String
  dmPolicy : DmPolicy
  allowFrom : List String
  others : Json
  deriving DecidableEq

structure SlackConfig where
  botToken : String
  appToken : String
  dmPolicy : DmPolicy
  allowFrom : List String
  others : Json
  deriving DecidableEq

structure ChannelsConfig where
  telegram : Option TelegramConfig
  slack : Option SlackConfig
  others : Json
  deriving DecidableEq

structure ServerSettings where
  port : UInt16
  drainTimeoutSecs : UInt64
  others : Json
  deriving DecidableEq

structure AgentEntry where
  id : String
  others : Json
  deriving DecidableEq

structure AgentsConfig where
  list : List AgentEntry
  others : Json
  deriving DecidableEq

structure RoutingBinding where
  agentId : String
  others : Json
  deriving DecidableEq

structure RoutingConfig where
  bindings : List RoutingBinding
  deriving DecidableEq

structure SessionResetConfig where
  mode : String
  atHour : Option UInt8
  idleMinutes : Option UInt64
  deriving DecidableEq

structure SessionConfig where
  dmScope : String
  reset : SessionResetConfig
  others : Json
  deriving DecidableEq

structure CronJob where
  id : String
  schedule : String
  others : Json
  deriving DecidableEq

structure CronConfig where
  jobs : List CronJob
  deriving DecidableEq

structure EmbeddingConfig where
  provider : String
  model : Option String
  deriving DecidableEq

structure MemoryConfig where
  embedding : EmbeddingConfig
  others : Json
  deriving DecidableEq

structure RagConfig where
  embedding : EmbeddingConfig
  others : Json
  deriving DecidableEq

structure GatewayRunnerConfig where
  maxIterations : UInt32
  deriving DecidableEq

structure GatewayConfig where
  agent : Json
  agents : AgentsConfig
  gateway : ServerSettings
  channels : ChannelsConfig
  routing : RoutingConfig
  session : SessionConfig
  hooks : Json
  cron : CronConfig
  memory : Option MemoryConfig
  rag : Option RagConfig
  auth : Option AuthConfig
  plugins : List Json
  conventions : Json
  telemetry : Json
  graphWorkflow : Json
  mcpServers : List Json
  awp : Json
  runner : GatewayRunnerConfig
  rateLimiter : Json
  toolApproval : Json
  staleContext : Json
  heartbeatV2 : Json
  multiUser : Json
  healthMonitor : Json
  codingAgents : Json

/-- What a section leaves to its defaults is not said. -/
def GatewayConfig.default : GatewayConfig where
  agent := .object []
  agents := ⟨[], .object []⟩
  gateway := ⟨18789, 30, .object []⟩
  channels := ⟨none, none, .object []⟩
  routing := ⟨[]⟩
  session := ⟨"per-channel-peer", ⟨"daily", some 4, some 120⟩, .object []⟩
  hooks := .object []
  cron := ⟨[]⟩
  memory := none
  rag := none
  auth := none
  plugins := []
  conventions := .object []
  telemetry := .object []
  graphWorkflow := .null
  mcpServers := []
  awp := .object []
  runner := ⟨100⟩
  rateLimiter := .object []
  toolApproval := .object []
  staleContext := .object []
  heartbeatV2 := .object []
  multiUser := .object []
  healthMonitor := .object []
  codingAgents := .object []

end AdkGateway
