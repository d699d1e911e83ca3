import AdkGateway.AgentRegistry.Registry
import AdkGateway.Channel
import AdkGateway.Foundation.Json

namespace AdkGateway.Router

open Foundation

structure InboundMessage extends AdkGateway.InboundMessage where
  senderName : Option String
  groupId : Option String

structure RoutingMatch where
  channel : Option String
  accountId : Option String
  peer : Option Json

structure RoutingBinding where
  agentId : String
  matchRule : RoutingMatch

structure AgentBinding where
  channelType : String
  accountId : Option String
  peerFilter : Option String
  agentId : String

structure MessageRouter where
  bindings : List RoutingBinding
  agentBindings : List AgentBinding
  defaultAgentId : String

/-- `trim_start_matches('@')` -/
def trimAt (id : String) : String := String.ofList (id.toList.dropWhile (· == '@'))

def accountMatches : Option String → Option String → Bool
  | some bindAcct, some msgAcct => bindAcct == msgAcct
  | some _, none => false
  | none, _ => false

def peerMatches (msg : InboundMessage) (peer : Json) : Bool :=
  match (peer.get "kind").bind Json.asStr with
  | none => true
  | some kind =>
    match (peer.get "id").bind Json.asStr with
    | none => true
    | some id =>
      match kind with
      | "user" => trimAt id == msg.senderId || msg.senderName == some (trimAt id)
      | "group" => msg.groupId == some id
      | _ => false

namespace MessageRouter

def new (bindings : List RoutingBinding) (defaultAgent : String) : MessageRouter :=
  ⟨bindings, [], defaultAgent⟩

def addAgentBindings (router : MessageRouter) (agentId : String)
    (channelBindings : List ChannelBinding) : MessageRouter :=
  { router with
    agentBindings := router.agentBindings ++ channelBindings.map fun cb ↦
      ⟨cb.channelType, cb.accountId, cb.peerFilter, agentId⟩ }

def removeAgentBindings (router : MessageRouter) (agentId : String) : MessageRouter :=
  { router with agentBindings := router.agentBindings.filter fun b ↦ b.agentId != agentId }

def updateAgentBindings (router : MessageRouter) (agentId : String)
    (channelBindings : List ChannelBinding) : MessageRouter :=
  (router.removeAgentBindings agentId).addAgentBindings agentId channelBindings

section Phases

variable (channelName : String) (msgAccount : Option String) (msg : InboundMessage)

def exactMatch (ab : AgentBinding) : Bool :=
  ab.channelType == channelName && accountMatches ab.accountId msgAccount &&
    match ab.peerFilter with
    | some peer => peer == msg.senderId
    | none => false

def accountMatch (ab : AgentBinding) : Bool :=
  ab.channelType == channelName && !ab.peerFilter.isSome && accountMatches ab.accountId msgAccount

def channelMatch (ab : AgentBinding) : Bool :=
  ab.channelType == channelName && !(ab.accountId.isSome || ab.peerFilter.isSome)

def legacyMatch (binding : RoutingBinding) : Bool :=
  ((binding.matchRule.channel.map (· == channelName)).getD true) &&
    binding.matchRule.accountId.all (fun bindAccount ↦ msgAccount == some bindAccount) &&
    binding.matchRule.peer.all (peerMatches msg)

end Phases

def resolveAgent (router : MessageRouter) (msg : InboundMessage) : String :=
  let channelName := msg.channelType.toString
  let msgAccount := if msg.accountId.isEmpty then none else some msg.accountId
  match router.agentBindings.find? (exactMatch channelName msgAccount msg) with
  | some ab => ab.agentId
  | none =>
  match router.agentBindings.find? (accountMatch channelName msgAccount) with
  | some ab => ab.agentId
  | none =>
  match router.agentBindings.find? (channelMatch channelName) with
  | some ab => ab.agentId
  | none =>
  match router.bindings.find? (legacyMatch channelName msgAccount msg) with
  | some binding => binding.agentId
  | none => router.defaultAgentId

end MessageRouter

end AdkGateway.Router
