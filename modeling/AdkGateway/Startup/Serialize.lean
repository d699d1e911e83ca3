import AdkGateway.Config
import AdkGateway.Foundation.Replace

namespace AdkGateway

open Foundation

def withOthers (known : List (String × Json)) : Json → Json
  | .object fields => .object (known ++ fields)
  | _ => .object known

def optional {α : Type} (toValue : α → Json) : Option α → Json
  | none => .null
  | some a => toValue a

def number (n : ℕ) : Json := .number (toString n)

def texts (items : List String) : Json := .array (items.map .string)

namespace DmPolicy

def toValue : DmPolicy → Json
  | .pairing => .string "pairing"
  | .allowlist => .string "allowlist"
  | .open => .string "open"
  | .disabled => .string "disabled"

end DmPolicy

namespace RoleConfig

def toValue (role : RoleConfig) : Json :=
  .object [("name", .string role.name), ("permissions", texts role.permissions),
    ("scopes", texts role.scopes)]

end RoleConfig

namespace AuthConfig

def toValue (auth : AuthConfig) : Json :=
  withOthers
    [("roles", .array (auth.roles.map RoleConfig.toValue)),
      ("userMappings", .array (auth.userMappings.map fun mapping ↦
        .object [("userId", .string mapping.userId), ("role", .string mapping.role)])),
      ("channelOverrides", .object (auth.channelOverrides.entries.map fun entry ↦
        (entry.1, .object [("dmPolicy", optional DmPolicy.toValue entry.2.dmPolicy),
          ("roles", .array (entry.2.roles.map RoleConfig.toValue))])))]
    auth.others

end AuthConfig

namespace ChannelsConfig

def toValue (channels : ChannelsConfig) : Json :=
  withOthers
    [("telegram", channels.telegram |> optional fun tg ↦
        withOthers [("botToken", .string tg.botToken), ("dmPolicy", tg.dmPolicy.toValue),
          ("allowFrom", texts tg.allowFrom)] tg.others),
      ("slack", channels.slack |> optional fun sl ↦
        withOthers [("botToken", .string sl.botToken), ("appToken", .string sl.appToken),
          ("dmPolicy", sl.dmPolicy.toValue), ("allowFrom", texts sl.allowFrom)] sl.others)]
    channels.others

end ChannelsConfig

namespace ServerSettings

def toValue (settings : ServerSettings) : Json :=
  withOthers [("port", number settings.port.toNat),
    ("drainTimeoutSecs", number settings.drainTimeoutSecs.toNat)] settings.others

end ServerSettings

namespace SessionConfig

def toValue (session : SessionConfig) : Json :=
  withOthers
    [("dmScope", .string session.dmScope),
      ("reset", .object [("mode", .string session.reset.mode),
        ("atHour", session.reset.atHour |> optional fun h ↦ number h.toNat),
        ("idleMinutes", session.reset.idleMinutes |> optional fun m ↦ number m.toNat)])]
    session.others

end SessionConfig

namespace EmbeddingConfig

def toValue (embedding : EmbeddingConfig) : Json :=
  .object [("provider", .string embedding.provider), ("model", optional .string embedding.model)]

end EmbeddingConfig

namespace CronConfig

def toValue (cron : CronConfig) : Json :=
  .object [("jobs", .array (cron.jobs.map fun job ↦
    withOthers [("id", .string job.id), ("schedule", .string job.schedule)] job.others))]

end CronConfig

namespace GatewayConfig

/-- What `serde_json` makes of a config. The order of the entries plays no part. -/
def toValue (config : GatewayConfig) : Json :=
  .object
    [("agent", config.agent),
      ("agents", withOthers [("list", .array (config.agents.list.map fun entry ↦
        withOthers [("id", .string entry.id)] entry.others))] config.agents.others),
      ("gateway", config.gateway.toValue),
      ("channels", config.channels.toValue),
      ("routing", .object [("bindings", .array (config.routing.bindings.map fun binding ↦
        withOthers [("agentId", .string binding.agentId)] binding.others))]),
      ("session", config.session.toValue),
      ("hooks", config.hooks),
      ("cron", config.cron.toValue),
      ("memory", config.memory |> optional fun memory ↦
        withOthers [("embedding", memory.embedding.toValue)] memory.others),
      ("rag", config.rag |> optional fun rag ↦
        withOthers [("embedding", rag.embedding.toValue)] rag.others),
      ("auth", optional AuthConfig.toValue config.auth),
      ("plugins", .array config.plugins),
      ("conventions", config.conventions),
      ("telemetry", config.telemetry),
      ("graphWorkflow", config.graphWorkflow),
      ("mcpServers", .array config.mcpServers),
      ("awp", config.awp),
      ("runner", .object [("maxIterations", number config.runner.maxIterations.toNat)]),
      ("rateLimiter", config.rateLimiter),
      ("toolApproval", config.toolApproval),
      ("staleContext", config.staleContext),
      ("heartbeatV2", config.heartbeatV2),
      ("multiUser", config.multiUser),
      ("healthMonitor", config.healthMonitor),
      ("codingAgents", config.codingAgents)]

/-- `gateway.encryption.keyFile` -/
def keyFile (config : GatewayConfig) : Option String := do
  let encryption ← config.gateway.others.get "encryption"
  let path ← encryption.get "keyFile"
  path.asStr

end GatewayConfig

section Pretty

open Replace

def newline (depth : ℕ) : List Char := '\n' :: List.replicate (2 * depth) ' '

mutual

/-- What `serde_json` writes of a document, each entry and item on a line of its own. -/
def prettyPieces (depth : ℕ) : Json → List (Piece Char String)
  | .null => [.plain "null".toList]
  | .bool b => [.plain (toString b).toList]
  | .number literal => [.plain literal.toList]
  | .string s => [.quoted s]
  | .array [] => [.plain ['[', ']']]
  | .array (item :: items) =>
    .plain ('[' :: newline (depth + 1)) ::
      (prettyPieces (depth + 1) item ++ prettyItems (depth + 1) items ++
        [.plain (newline depth ++ [']'])])
  | .object [] => [.plain ['\x7b', '\x7d']]
  | .object ((key, value) :: fields) =>
    .plain ('\x7b' :: newline (depth + 1)) :: .quoted key :: .plain [':', ' '] ::
      (prettyPieces (depth + 1) value ++ prettyFields (depth + 1) fields ++
        [.plain (newline depth ++ ['\x7d'])])

def prettyItems (depth : ℕ) : List Json → List (Piece Char String)
  | [] => []
  | item :: items =>
    .plain (',' :: newline depth) :: (prettyPieces depth item ++ prettyItems depth items)

def prettyFields (depth : ℕ) : List (String × Json) → List (Piece Char String)
  | [] => []
  | (key, value) :: fields =>
    .plain (',' :: newline depth) :: .quoted key :: .plain [':', ' '] ::
      (prettyPieces depth value ++ prettyFields depth fields)

end

end Pretty

end AdkGateway
