import AdkGateway.Config
import AdkGateway.Pairing.Service

namespace AdkGateway.CodingAgent

open Foundation Pairing

structure HitlPermissionManager where
  botToken : String
  chatId : String
  deriving DecidableEq

structure AcpSessionPool where
  permissionManager : Option HitlPermissionManager
  deriving DecidableEq

inductive PermissionPolicy
  | autoApprove
  | custom (manager : HitlPermissionManager)
  deriving DecidableEq

namespace AcpSessionPool

def new : AcpSessionPool := ⟨none⟩

def withHitl (manager : HitlPermissionManager) : AcpSessionPool := ⟨some manager⟩

def policy (pool : AcpSessionPool) : PermissionPolicy :=
  match pool.permissionManager with
  | some manager => .custom manager
  | none => .autoApprove

def chatId (file : Option Json) : String :=
  (do
    let users ← file.bind Json.asArray
    let user ← users.head?
    (user.get "chat_id").bind Json.asStr).getD ""

def atStartup (config : GatewayConfig) (file : Option Json) : Option AcpSessionPool :=
  if config.codingAgents.get "enabled" = some (.bool true) then
    match config.channels.telegram with
    | some tg =>
      if (chatId file).isEmpty then some new else some (withHitl ⟨tg.botToken, chatId file⟩)
    | none => some new
  else none

def Asks (pool : AcpSessionPool) (users : List PairedUser) : Prop :=
  ∃ manager, pool.policy = .custom manager ∧ ∃ user ∈ users, manager.chatId = user.userId

variable {format : TimeFormat}

theorem get_chatId_toJson (user : PairedUser) : (user.toJson format).get "chat_id" = none := by
  have hnone : [("user_id", Json.string user.userId),
      ("paired_at", .string (format.write user.pairedAt)),
      ("channel_type", .string user.channelType)].lookup "chat_id" = none := rfl
  rw [PairedUser.toJson, Json.get, hnone]

theorem chatId_persist (service : DmPairingService) :
    chatId (some (service.persist format)) = "" := by
  rw [DmPairingService.persist]
  cases KeyedMap.values service.pairedUsers with
  | nil => rfl
  | cons user users =>
    have hchat : chatId (some (.array ((user :: users).map (PairedUser.toJson format)))) =
        (((user.toJson format).get "chat_id").bind Json.asStr).getD "" := rfl
    rw [hchat, get_chatId_toJson, Option.bind_none, Option.getD_none]

/-- Whoever is paired when the file is written, the pool built from it approves
every request. -/
theorem atStartup_persist_autoApproves (format : TimeFormat) (service : DmPairingService)
    (config : GatewayConfig) (tg : TelegramConfig)
    (htelegram : config.channels.telegram = some tg)
    (henabled : config.codingAgents.get "enabled" = some (.bool true)) :
    ∃ pool, atStartup config (some (service.persist format)) = some pool ∧
      pool.policy = .autoApprove ∧ ¬ pool.Asks (KeyedMap.values service.pairedUsers) := by
  have hpool : atStartup config (some (service.persist format)) = some new := by
    rw [atStartup, if_pos henabled, htelegram, chatId_persist]
    rfl
  refine ⟨new, hpool, rfl, ?_⟩
  intro hasks
  obtain ⟨manager, hpolicy, -⟩ := hasks
  cases hpolicy

def botConfig : GatewayConfig :=
  { GatewayConfig.default with
    channels := ⟨some ⟨"bot", .pairing, [], .object []⟩, none, .object []⟩
    codingAgents := .object [("enabled", .bool true)] }

def onePaired : DmPairingService := DmPairingService.new.pair "42" "telegram" 0

def epochFormat : TimeFormat := ⟨fun _ ↦ "1970-01-01T00:00:00Z", fun _ ↦ some 0⟩

theorem atStartup_persist_autoApproves_one :
    ∃ pool, atStartup botConfig (some (onePaired.persist epochFormat)) = some pool ∧
      pool.policy = .autoApprove ∧ ¬ pool.Asks (KeyedMap.values onePaired.pairedUsers) :=
  atStartup_persist_autoApproves epochFormat onePaired botConfig _ rfl rfl

theorem atStartup_persist_asks_nobody :
    KeyedMap.values onePaired.pairedUsers = [⟨"42", 0, "telegram"⟩] ∧
      atStartup botConfig (some (onePaired.persist epochFormat)) = some new ∧
      new.policy = .autoApprove := ⟨rfl, rfl, rfl⟩

end AcpSessionPool

end AdkGateway.CodingAgent
