import AdkGateway.Delivery.Lossless
import AdkGateway.Gateway.PairingStep
import AdkGateway.HotReload.Channels

namespace AdkGateway

open AccessControl Delivery Foundation Gateway Pairing

structure CronDelivery where
  channel : String
  target : String

namespace CronJob

variable (job : CronJob)

def message : String := ((job.others.get "message").bind Json.asStr).getD ""

def deliverTo : Option CronDelivery := do
  let d ← job.others.get "deliverTo"
  return ⟨← (← d.get "channel").asStr, ← (← d.get "target").asStr⟩

def suppressKeyword : Option String := (job.others.get "suppressKeyword").bind Json.asStr

def codingAgent : Option String := do
  let target ← job.others.get "target"
  if (target.get "type").bind Json.asStr = some "codingAgent" then
    (target.get "agent_id").bind Json.asStr
  else none

end CronJob

namespace Cron

inductive CronMessageKind
  | agentPrompt (prompt : String)
  | directMessage (msg : String)

def parseMessage (message : String) : CronMessageKind :=
  if "ask:".toList.isPrefixOf message.toList then
    .agentPrompt (Text.trim (String.ofList (message.toList.drop 4)))
  else .directMessage message

structure CronMessage where
  incoming : Incoming
  metadata : List (String × Json)

def targetChannel (channel : String) : ChannelType :=
  if channel = "telegram" then .telegram
  else if channel = "slack" then .slack
  else if channel = "discord" then .discord
  else .webhook

def senderId (job : CronJob) : String := "cron:" ++ job.id

def buildInboundMessage (job : CronJob) : CronMessage :=
  let channelType := targetChannel ((job.deliverTo.map CronDelivery.channel).getD "webhook")
  let target := (job.deliverTo.map CronDelivery.target).getD ""
  let (text, kindLabel) :=
    match parseMessage job.message with
    | .agentPrompt prompt => (prompt, "agent_prompt")
    | .directMessage msg => (msg, "direct_message")
  { incoming := ⟨⟨channelType, "default", senderId job⟩, text, .cron job.id⟩
    metadata := (if target = "" then [] else [("cron_target", Json.string target)]) ++
      (job.deliverTo.map fun d ↦ ("cron_channel", Json.string d.channel)).toList ++
      [("cron_message_kind", .string kindLabel)] }

structure Sent where
  channelType : ChannelType
  accountId : String
  recipientId : String
  text : String
  deriving DecidableEq

structure Answer where
  partialTexts : List String
  response : String
  images : List String

/-- What a run meets with: whether the coding agent takes the task; the replies that plugins,
remote agents, workflows and errors make to the sender; and the answer, if it comes to one. -/
structure CronRun where
  delegated : Bool
  replies : List String
  answer : Option Answer

structure Surroundings where
  toLowercase : String → String
  channels : List ChannelKey
  jobs : List CronJob

namespace Surroundings

variable (w : Surroundings)

def send (channelType : ChannelType) (recipientId : String) (texts : List String) : List Sent :=
  if ⟨channelType, "default"⟩ ∈ w.channels then texts.map (⟨channelType, "default", recipientId, ·⟩)
  else []

def suppressKeyword (jobId : String) : Option String :=
  ((w.jobs.find? fun j ↦ j.id = jobId).bind CronJob.suppressKeyword) <|>
    if jobId = "heartbeat" then some "HEARTBEAT_OK" else none

def isSuppressed (keyword response : String) : Bool :=
  let trimmed := Text.trim response
  let keywordLower := (w.toLowercase keyword).toList
  let trimmedLower := (w.toLowercase trimmed).toList
  trimmedLower == keywordLower || keywordLower.isPrefixOf trimmedLower ||
    keywordLower.isSuffixOf trimmedLower || trimmedLower.isPrefixOf keywordLower ||
    (Text.byteLength trimmed.toList ≤ 5 && !trimmed.isEmpty)

def handedOver (jobId : String) (channelType : ChannelType) (answer : Answer) : List String :=
  answer.partialTexts ++
    if (w.suppressKeyword jobId).any (w.isSuppressed · answer.response) then []
    else (splitMessage answer.response channelType.maxMessageLength).getD [] ++ answer.images

end Surroundings

/-- The users paired on a channel, in the order in which the map yields them. -/
def pairedOn (s : GatewayState) (channelType : ChannelType) : List PairedUser :=
  (KeyedMap.values s.pairingService.pairedUsers).filter fun user ↦
    user.channelType = channelType.toString

def cronAccess (s : GatewayState) (msg : InboundMessage) : Bool :=
  match pairedOn s msg.channelType with
  | [] => false
  | user :: _ => s.accessControl.checkMessageAccess { msg with senderId := user.userId } = .allowed

def resolveRecipient (s : GatewayState) (msg : InboundMessage) : String :=
  if msg.senderId.toList.all Char.isDigit then msg.senderId
  else
    match (KeyedMap.values s.pairingService.pairedUsers).find? fun user ↦
        user.channelType = msg.channelType.toString with
    | some user => user.userId
    | none => msg.senderId

def deliver (w : Surroundings) (r : CronRun) (jobId : String) (channelType : ChannelType)
    (recipientId : String) : List Sent :=
  match r.answer with
  | none => []
  | some answer => w.send channelType recipientId (w.handedOver jobId channelType answer)

/-- `process_message` of what a trigger sends; there is no answer where the job is skipped. -/
def processMessage (w : Surroundings) (r : CronRun) (s : GatewayState) (jobId : String)
    (incoming : Incoming) : Option (List Sent) :=
  let msg := incoming.message
  let replies := w.send msg.channelType msg.senderId r.replies
  if isStop incoming.text then some replies
  else if cronAccess s msg then
    some (replies ++ deliver w r jobId msg.channelType (resolveRecipient s msg))
  else none

/-- `msg_ref_from_request` for the target that the job replies to. -/
def replyChannel (w : Surroundings) (channel : String) : ChannelType :=
  let channel := w.toLowercase channel
  if channel = "telegram" then .telegram
  else if channel = "slack" then .slack
  else if channel = "discord" then .discord
  else if channel = "whatsapp" then .whatsapp
  else if channel = "matrix" then .matrix
  else .telegram

def fireCodingAgentTarget (w : Surroundings) (r : CronRun) (job : CronJob) : Option (List Sent) :=
  let delivery := job.deliverTo.getD ⟨"webhook", ""⟩
  if r.delegated then
    some (match r.answer with
      | none => []
      | some answer =>
        w.send (replyChannel w delivery.channel) delivery.target
          (answer.partialTexts ++ [answer.response]))
  else none

def fire (w : Surroundings) (r : CronRun) (s : GatewayState) (job : CronJob) : Option (List Sent) :=
  match job.codingAgent with
  | some _ => fireCodingAgentTarget w r job
  | none => processMessage w r s job.id (buildInboundMessage job).incoming

end Cron

end AdkGateway
