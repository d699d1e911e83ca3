import AdkGateway.AgentRegistry.Registry
import AdkGateway.Foundation.Machine
import AdkGateway.Gateway.PairingStep
import AdkGateway.ProcessMessage.Tools

namespace AdkGateway.ProcessMessage

open AccessControl AgentRegistry Foundation Pairing
open Gateway (Incoming isStop pairingCode?)

section Requests

/-- The tokens by which requests are cancelled, and the tasks that show that the bot is typing.
`activeRequests` is keyed by the sender. -/
structure Requests where
  next : ℕ
  activeRequests : KeyedMap String ℕ
  cancelled : List ℕ
  typing : List ℕ

def Requests.idle : Requests := ⟨0, ∅, [], []⟩

inductive Op
  | stop (senderId : String)
  | readAccess
  | sendReply (text : String)
  | sendTyping
  | spawnTyping
  | openSession
  | post
  | register (senderId : String)
  | run (tools : List String) (token : Option ℕ)
  | stopTyping (task : ℕ)
  | removeRequest (senderId : String)
  | audit
  | deliver (text : String)
  | timer
  deriving DecidableEq

@[reducible] def Op.Answer : Op → Type
  | .stop _ => Bool
  | .spawnTyping => ℕ
  | .register _ => ℕ
  | .timer => Bool
  | _ => Unit

def Op.awaits : Op → Bool
  | .readAccess | .sendReply _ | .sendTyping | .openSession | .post | .run _ _ | .audit
  | .deliver _ => true
  | _ => false

/-- `timeUp` is what a timer says. -/
def exec (o : Op) (timeUp : Bool) (s : Requests) : Requests × o.Answer :=
  match o with
  | .stop senderId =>
    -- the token is cancelled right after the removal, without an await
    match s.activeRequests.lookup senderId with
    | some token =>
      ({ s with
        activeRequests := s.activeRequests.erase senderId, cancelled := token :: s.cancelled }, true)
    | none => (s, false)
  | .spawnTyping => ({ s with next := s.next + 1, typing := s.next :: s.typing }, s.next)
  | .register senderId =>
    ({ s with
      next := s.next + 1, activeRequests := s.activeRequests.insert senderId s.next }, s.next)
  | .stopTyping task => ({ s with typing := s.typing.erase task }, ())
  | .removeRequest senderId => ({ s with activeRequests := s.activeRequests.erase senderId }, ())
  | .timer => (s, timeUp)
  | .readAccess | .sendReply _ | .sendTyping | .openSession | .post | .run _ _ | .audit
  | .deliver _ => (s, ())

abbrev Code := Script Op Op.Answer

def call (o : Op) : Code o.Answer := .perform o

end Requests

section Reads

inductive PluginHook
  | onUserMessage
  | beforeRun
  | beforeAgent
  | beforeModel
  deriving DecidableEq

inductive ProxyAnswer
  | success (body : String) (document : Option Json)
  | status (status : String)
  | unreachable

/-- All that the processing of a message reads from the rest of the gateway and from outside, each
once: for a hook the answer by which it ends the processing, for an agent the names of its tools. -/
structure Reads where
  access : AuthDecision
  pairing : PairingResult
  pairedOnChannel : List String
  pairedAccess : String → AuthDecision
  hook : PluginHook → Option String
  welcome : Option String
  hasChannel : Bool
  toolRegistry : ToolRegistry
  accessControl : AccessControlBridge
  resolveScopes : String → List String
  skills : List SkillDocument
  agentId : String
  agentState : Option LifecycleState
  isSystem : Bool
  messageReceive : Except String Unit
  proxy : Option ProxyAnswer
  workflow : Option (Except String String)
  agents : KeyedMap String (List String)
  runnerBuilt : Except String Unit
  userId : Except String Unit
  sessionId : Except String Unit
  hasFallbacks : Bool
  run : Except String Unit
  fallbackRun : Bool
  response : String
  suppressed : Bool
  deliverable : Bool
  delivery : Except String Unit

inductive Exit
  | silent
  | replied (text : String)
  | posted (reply : String)
  | failed (error : String)

variable (r : Reads) (inbound : Incoming)

def pairingReply : PairingResult → String
  | .success => "✅ Paired! You can now use the bot."
  | .locked _ => "🔒 Too many failed attempts. Try again later."
  | _ => "❌ Invalid code. Try again."

def cronExit : Option Exit :=
  match r.pairedOnChannel with
  | [] => some .silent
  | userId :: _ =>
    match r.pairedAccess userId with
    | .allowed => none
    | _ => some .silent

def accessExit : Option Exit :=
  if inbound.source.isCron then cronExit r
  else
    match r.access with
    | .allowed => none
    | .denied reason => some (.replied ("⛔ Access denied: " ++ reason))
    | .requiresPairing =>
      match pairingCode? inbound.text with
      | some _ => some (.replied (pairingReply r.pairing))
      | none => some (.replied "🔑 Send your 6-digit pairing code to get started.")

def hookExit (hook : PluginHook) : Option Exit := (r.hook hook).map .replied

def beforeTyping : Option Exit := (accessExit r inbound).or (hookExit r .onUserMessage)

section Tools

def resolvedTools : List ToolEntry := r.toolRegistry.resolveAll

def canonicalId : String :=
  inbound.message.channelType.toString ++ ":" ++ inbound.message.senderId

def toolDecision (tool : ToolEntry) : ToolAccessDecision :=
  wrapToolCheck r.accessControl (canonicalId inbound) tool.name none [] r.resolveScopes

def grantedTools : List ToolEntry :=
  (resolvedTools r).filter fun tool ↦ toolDecision r inbound tool = .allowed

def deniedReasons : List String :=
  (resolvedTools r).filterMap fun tool ↦
    match toolDecision r inbound tool with
    | .allowed => none
    | .denied reason => some reason

variable (toLowercase : String → String)

def selectedSkill : Option SkillDocument := selectSkill toLowercase inbound.text r.skills

def allowedTools : List ToolEntry :=
  match (selectedSkill r inbound toLowercase).map (filterTools (resolvedTools r)) with
  | none => grantedTools r inbound
  | some [] => grantedTools r inbound
  | some skillTools =>
    (grantedTools r inbound).filter fun tool ↦
      (skillTools.map fun tool ↦ tool.name).contains tool.name

end Tools

def toolsExit : Option Exit :=
  if deniedReasons r inbound ≠ [] ∧ grantedTools r inbound = [] ∧ resolvedTools r ≠ [] then
    some (.replied ("⛔ Tool access denied: " ++ "; ".intercalate (deniedReasons r inbound)))
  else none

def rbacExit : Option Exit :=
  if r.agentState.isSome ∧ r.agentId ∉ r.agents then
    match r.messageReceive with
    | .ok () => none
    | .error _ =>
      some (.replied ("⛔ Agent '" ++ r.agentId ++ "' is not permitted to receive messages."))
  else none

def proxyReply (agentId : String) : ProxyAnswer → String
  | .success body document =>
    ((document.bind fun document ↦ document.get "text").bind Json.asStr).getD body
  | .status status => "⚠️ Agent '" ++ agentId ++ "' returned an error (HTTP " ++ status ++ ")."
  | .unreachable => "⚠️ Agent '" ++ agentId ++ "' is unreachable. Please try again later."

def stateDesc : LifecycleState → String
  | .created => "created but not started"
  | .starting => "still starting up"
  | .stopping => "shutting down"
  | .stopped => "stopped"
  | .error _ => "in error state"
  | .running => "running but not in proxy pool"

def routingExit : Option Exit :=
  if r.isSystem then none
  else
    match r.proxy, r.agentState with
    | some answer, _ => some (.posted (proxyReply r.agentId answer))
    | none, some state =>
      some (.replied ("⚠️ Agent '" ++ r.agentId ++ "' is unavailable (" ++ stateDesc state ++
        "). Please try again later."))
    | none, none => none

def workflowExit : Option Exit :=
  if r.agentId ∈ r.agents then none
  else r.workflow.map fun result ↦
    match result with
    | .ok text => .replied text
    | .error _ => .replied "⚠️ Workflow execution failed. Please try again later."

def agentTools? : Option (List String) := (r.agents.lookup r.agentId).or (r.agents.lookup "assistant")

def agentExit : Option Exit :=
  match agentTools? r with
  | some _ => none
  | none => some (.failed ("no agent: " ++ r.agentId))

def beforeRun : Option Exit :=
  (toolsExit r inbound).or <| (hookExit r .beforeRun).or <| (rbacExit r).or <| (routingExit r).or <|
    (workflowExit r).or <| (agentExit r).or <| (hookExit r .beforeAgent).or (hookExit r .beforeModel)

def errorExit (result : Except String Unit) : Option Exit :=
  match result with
  | .ok () => none
  | .error e => some (.failed e)

def preparation : Option Exit :=
  (errorExit r.runnerBuilt).or <| (errorExit r.userId).or (errorExit r.sessionId)

def runExit : Option Exit :=
  if r.hasFallbacks then
    if r.fallbackRun then none
    else some (.replied
      "⚠️ All configured models are currently unavailable. Please try again later.")
  else
    match r.run with
    | .ok () => none
    | .error e => some (.failed ("agent run failed: " ++ e))

end Reads

section Code

variable (r : Reads) (inbound : Incoming)

def stopRequest : Code (Except String Unit) := do
  if ← call (.stop inbound.message.senderId) then
    call (.sendReply "⏹ Stopped. Your previous request has been cancelled.")
  else call (.sendReply "Nothing running to stop.")
  return .ok ()

def leave : Exit → Code (Except String Unit)
  | .silent => pure (.ok ())
  | .replied text => do
    call (.sendReply text)
    return .ok ()
  | .posted reply => do
    call .post
    call (.sendReply reply)
    return .ok ()
  | .failed e => pure (.error e)

def startTyping : Code (Option ℕ) := do
  if r.hasChannel then
    call .sendTyping
    return some (← call .spawnTyping)
  else return none

def stopTyping : Option ℕ → Code Unit
  | some task => call (.stopTyping task)
  | none => pure ()

def runAgent (token : ℕ) : Code Unit :=
  if r.hasFallbacks then call (.run [] none)
  else call (.run ((agentTools? r).getD []) (some token))

def deliver : Code (Except String Unit) := do
  call .audit
  if r.suppressed || !r.deliverable then return .ok ()
  else
    call (.deliver r.response)
    return r.delivery

def request (typing : Option ℕ) : Code (Except String Unit) := do
  let token ← call (.register inbound.message.senderId)
  match preparation r with
  | some exit => leave exit
  | none =>
    runAgent r token
    match runExit r with
    | some exit => leave exit
    | none =>
      stopTyping typing
      call (.removeRequest inbound.message.senderId)
      deliver r

def welcomeBack : Code Unit :=
  match r.welcome with
  | some text => call (.sendReply text)
  | none => pure ()

def processMessage : Code (Except String Unit) :=
  if isStop inbound.text then stopRequest inbound
  else do
    call .readAccess
    match beforeTyping r inbound with
    | some exit => leave exit
    | none =>
      welcomeBack r
      let typing ← startTyping r
      call .openSession
      call .readAccess
      match beforeRun r inbound with
      | some exit => leave exit
      | none => request r inbound typing

def timed {α : Type} : Code α → Code (Option α)
  | .ret x => .ret (some x)
  | .op o next =>
    if o.awaits then
      .op .timer fun timeUp ↦
        if timeUp then .ret none else .op o fun answer ↦ timed (next answer)
    else .op o fun answer ↦ timed (next answer)

structure Message where
  inbound : Incoming
  reads : Reads

def Message.code (message : Message) : Code (Option (Except String Unit)) :=
  timed (processMessage message.reads message.inbound)

abbrev MessageThread := Thread Requests Message Op Op.Answer (Option (Except String Unit))

abbrev MessageConfig :=
  Config Requests MessageThread (Occurrence Requests Message Op Op.Answer)

abbrev messages : Program Requests Message MessageThread (Option (Except String Unit)) Bool
    (Occurrence Requests Message Op Op.Answer) := Threads.program exec Message.code

end Code

end AdkGateway.ProcessMessage
