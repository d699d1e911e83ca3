import AdkGateway.AgentRegistry.Operations
import AdkGateway.Foundation.Script
import AdkGateway.Rbac.Bridge
import AdkGateway.Router.Resolver

namespace AdkGateway.AgentTools

open Foundation Rbac Router AgentRegistry

structure AgentProcess where
  port : UInt16
  live : Bool

structure Stores where
  registry : AgentRegistry
  rbac : RbacBridge
  processes : KeyedMap String AgentProcess
  proxyPool : KeyedMap String UInt16
  router : MessageRouter

inductive Op
  | get (id : String)
  | agentsToStart
  | createAgent (config : AgentConfig)
  | transition (id : String) (newState : LifecycleState)
  | updateConfig (id : String) (config : AgentConfig)
  | deleteCheck (id : String)
  | deleteRemove (id : String)
  | build (config : AgentConfig)
  | spawn (id : String)
  | waitReady (id : String)
  | stopProcess (id : String) (drainSeconds : ℕ)
  | registerProxy (id : String) (port : UInt16)
  | removeProxy (id : String)
  | registerAgent (id : String) (role : AgentRoleConfig)
  | removeAgent (id : String)
  | loadRouter
  | storeRouter (router : MessageRouter)

@[reducible] def Op.Answer : Op → Type
  | .get _ => Option AgentRecord
  | .agentsToStart => List String
  | .createAgent _ => Except RegistryError Unit
  | .transition _ _ => Except RegistryError Unit
  | .updateConfig _ _ => Except RegistryError Unit
  | .deleteCheck _ => Except RegistryError Unit
  | .deleteRemove _ => Except RegistryError AgentRecord
  | .build _ => Except String String
  | .spawn _ => Except String UInt16
  | .waitReady _ => Except String Unit
  | .stopProcess _ _ => Except String Unit
  | .registerProxy _ _ => Unit
  | .removeProxy _ => Unit
  | .registerAgent _ _ => List String
  | .removeAgent _ => Unit
  | .loadRouter => MessageRouter
  | .storeRouter _ => Unit

/-- The clock, and what comes of a write to the disk, a build, a start of a process and its
readiness check. -/
structure Input where
  now : DateTime
  persist : Except String Unit
  build : Except String String
  spawn : Except String UInt16
  ready : Except String Unit

def notManaged (id : String) : String := "agent '" ++ id ++ "' not found in process manager"

def agentsToStart (registry : AgentRegistry) : List String :=
  (registry.list.filter fun entry ↦
    entry.2.config.autoStart && !registry.isSystemAgent entry.1 &&
      match entry.2.state with
      | .stopped => true
      | .created => true
      | _ => false).map Prod.fst

def exec (o : Op) (i : Input) (s : Stores) : Stores × o.Answer :=
  match o with
  | .get id => (s, s.registry.agents.lookup id)
  | .agentsToStart => (s, agentsToStart s.registry)
  | .createAgent config =>
    -- the id that is answered is that of the definition
    let called := s.registry.createAgent config i.now i.persist
    ({ s with registry := called.registry }, called.result.map fun _ ↦ ())
  | .transition id newState =>
    let called := s.registry.transition id newState i.now i.persist
    ({ s with registry := called.registry }, called.result)
  | .updateConfig id config =>
    let called := s.registry.updateConfig id config i.now i.persist
    ({ s with registry := called.registry }, called.result)
  | .deleteCheck id => (s, s.registry.deleteCheck id)
  | .deleteRemove id =>
    let (result, registry) := s.registry.deleteRemove id
    ({ s with registry := registry }, result)
  | .build _ => (s, i.build)
  | .spawn id =>
    -- a process that has died is still in the table
    if (s.processes.lookup id).isSome then
      (s, .error ("agent '" ++ id ++ "' is already running"))
    else
      match i.spawn with
      | .error e => (s, .error e)
      | .ok port => ({ s with processes := s.processes.insert id ⟨port, true⟩ }, .ok port)
  | .waitReady id =>
    match s.processes.lookup id with
    | none => (s, .error (notManaged id))
    | some _ => (s, i.ready)
  | .stopProcess id _ =>
    match s.processes.lookup id with
    | none => (s, .error (notManaged id))
    | some _ => ({ s with processes := s.processes.erase id }, .ok ())
  | .registerProxy id port => ({ s with proxyPool := s.proxyPool.insert id port }, ())
  | .removeProxy id => ({ s with proxyPool := s.proxyPool.erase id }, ())
  | .registerAgent id role =>
    let (rbac, stripped) := s.rbac.registerAgent id role
    ({ s with rbac := rbac }, stripped)
  | .removeAgent id => ({ s with rbac := s.rbac.removeAgent id }, ())
  | .loadRouter => (s, s.router)
  | .storeRouter router => ({ s with router := router }, ())

abbrev Code := Script Op Op.Answer

def call (o : Op) : Code o.Answer := .perform o

def delete (id : String) : Code (Except RegistryError AgentRecord) := do
  match ← call (.deleteCheck id) with
  | .error e => pure (.error e)
  | .ok () => call (.deleteRemove id)

def changeRouter (change : MessageRouter → MessageRouter) : Code Unit := do
  let current ← call .loadRouter
  call (.storeRouter (change current))

/-- What the tools use of the language's library and of the reader of definitions. -/
structure Formats where
  debugStr : String → String
  toLowercase : String → String
  isAlphanumeric : Char → Bool
  fromValue : Json → Except String AgentConfig

abbrev Tool := Code (Except String Json)

section Arguments

variable (F : Formats)

def idOfName (name : String) : String :=
  String.ofList ((F.toLowercase name).toList.map fun c ↦
    if F.isAlphanumeric c || c == '-' then c else '-')

def strArg (args : Json) (key default : String) : String :=
  ((args.get key).bind Json.asStr).getD default

def toolsArg (args : Json) : List String :=
  match (args.get "tools").bind Json.asArray with
  | some items => items.filterMap Json.asStr
  | none => []

def autoStartArg (args : Json) : Bool :=
  match args.get "auto_start" with
  | some (.bool b) => b
  | _ => false

def createdConfig (args : Json) (name : String) : AgentConfig where
  id := idOfName F name
  name := name
  description := strArg args "description" ""
  model := strArg args "model" "anthropic/claude-sonnet-4"
  instruction := strArg args "instruction" "You are a helpful specialist agent."
  tools := toolsArg args
  role := ⟨toolsArg args, []⟩
  channelBindings := []
  autoStart := autoStartArg args
  other := .object [("agent_type", .string "Llm"), ("api_key_env", .string ""),
    ("action_nodes", .array []), ("workflow_edges", .array []), ("sub_agents", .array []),
    ("temperature", .null), ("max_output_tokens", .null)]

def withAgentId (args : Json) (tool : String → Tool) : Tool :=
  match (args.get "agent_id").bind Json.asStr with
  | none => pure (.error "'agent_id' is required")
  | some agentId => tool agentId

def notInRegistry (agentId : String) : String := "agent '" ++ agentId ++ "' not found in registry"

def failedToTransition (agentId state message : String) : String :=
  "failed to transition '" ++ agentId ++ "' to " ++ state ++ ": " ++ message

end Arguments

section Parts

variable (F : Formats)

/-- What `agent_stop` and `agent_configure` do to a running agent. -/
def halt (agentId : String) : Code (Except String Unit) := do
  match ← call (.transition agentId .stopping) with
  | .error e => return .error (failedToTransition agentId "Stopping" (e.message F.debugStr))
  | .ok () =>
    let _ ← call (.stopProcess agentId 10)
    call (.removeProxy agentId)
    changeRouter fun router ↦ router.removeAgentBindings agentId
    let _ ← call (.transition agentId .stopped)
    return .ok ()

inductive Failure
  | build (message : String)
  | spawn (message : String)
  | ready (message : String)

/-- What `agent_start` and `agent_configure` do from the build to the proxy; `during` ends the
names of the failures in the state. -/
def launch (agentId : String) (config : AgentConfig) (during : String) :
    Code (Except Failure UInt16) := do
  match ← call (.build config) with
  | .error e =>
    let _ ← call (.transition agentId (.error ("build failed" ++ during ++ ": " ++ e)))
    return .error (.build e)
  | .ok _ =>
    match ← call (.spawn agentId) with
    | .error e =>
      let _ ← call (.transition agentId (.error ("spawn failed" ++ during ++ ": " ++ e)))
      return .error (.spawn e)
    | .ok port =>
      match ← call (.waitReady agentId) with
      | .error e =>
        let _ ← call (.stopProcess agentId 5)
        call (.removeProxy agentId)
        let _ ← call (.transition agentId
          (.error ("readiness check failed" ++ during ++ ": " ++ e)))
        return .error (.ready e)
      | .ok () =>
        call (.registerProxy agentId port)
        return .ok port

def startFailed (agentId : String) : Failure → String
  | .build e => "build failed: " ++ e
  | .spawn e => "spawn failed: " ++ e
  | .ready e => "agent '" ++ agentId ++ "' failed readiness check: " ++ e

def restartFailed : Failure → String
  | .build e => "config updated but restart failed: build error: " ++ e
  | .spawn e => "config updated but restart failed: spawn error: " ++ e
  | .ready e => "config updated but restart failed: readiness timeout: " ++ e

end Parts

section Tools

variable (F : Formats)

def createFrom (config : AgentConfig) : Tool := do
  match ← call (.createAgent config) with
  | .error e =>
    return .ok (.object [("created", .bool false), ("error", .string (e.message F.debugStr))])
  | .ok () =>
    let agentId := config.id
    let _ ← call (.registerAgent agentId config.role)
    return .ok (.object [("created", .bool true), ("agent_id", .string agentId),
      ("message", .string ("Agent '" ++ agentId ++ "' created successfully."))])

def agentCreate (args : Json) : Tool :=
  match (args.get "name").bind Json.asStr with
  | none => pure (.error "'name' is required")
  | some name => createFrom F (createdConfig F args name)

def stopAgent (agentId : String) : Tool := do
  match ← call (.get agentId) with
  | none => return .error (notInRegistry agentId)
  | some _ =>
    match ← halt F agentId with
    | .error e => return .error e
    | .ok () =>
      return .ok (.object [("stopped", .bool true), ("agent_id", .string agentId),
        ("state", .string "Stopped")])

def agentStop (args : Json) : Tool := withAgentId args (stopAgent F)

def startAgent (agentId : String) : Tool := do
  match ← call (.get agentId) with
  | none => return .error (notInRegistry agentId)
  | some entry =>
    let config := entry.config
    match ← call (.transition agentId .starting) with
    | .error e => return .error (failedToTransition agentId "Starting" (e.message F.debugStr))
    | .ok () =>
      match ← launch agentId config "" with
      | .error failure =>
        return .ok (.object [("started", .bool false), ("agent_id", .string agentId),
          ("error", .string (startFailed agentId failure))])
      | .ok port =>
        let _ ← call (.registerAgent agentId config.role)
        if config.channelBindings ≠ [] then
          changeRouter fun router ↦ router.addAgentBindings agentId config.channelBindings
        let _ ← call (.transition agentId .running)
        return .ok (.object [("started", .bool true), ("agent_id", .string agentId),
          ("port", .number (toString port)), ("state", .string "Running")])

def agentStart (args : Json) : Tool := withAgentId args (startAgent F)

def deleteAgent (agentId : String) : Tool := do
  match ← delete agentId with
  | .error e =>
    return .error ("cannot delete agent '" ++ agentId ++ "': " ++ e.message F.debugStr)
  | .ok _ =>
    call (.removeAgent agentId)
    changeRouter fun router ↦ router.removeAgentBindings agentId
    return .ok (.object [("deleted", .bool true), ("agent_id", .string agentId),
      ("state", .string "Deleted")])

def agentDelete (args : Json) : Tool := withAgentId args (deleteAgent F)

def restart (agentId : String) (config : AgentConfig) : Tool := do
  match ← call (.transition agentId .starting) with
  | .error e => return .error (failedToTransition agentId "Starting" (e.message F.debugStr))
  | .ok () =>
    match ← launch agentId config " during configure" with
    | .error failure =>
      return .ok (.object [("configured", .bool true), ("restarted", .bool false),
        ("agent_id", .string agentId), ("error", .string (restartFailed failure))])
    | .ok port =>
      if config.channelBindings ≠ [] then
        changeRouter fun router ↦ router.updateAgentBindings agentId config.channelBindings
      let _ ← call (.transition agentId .running)
      return .ok (.object [("configured", .bool true), ("restarted", .bool true),
        ("agent_id", .string agentId), ("port", .number (toString port)),
        ("state", .string "Running")])

/-- From the update of the definition on; `wasRunning` and the old bindings were read before. -/
def reconfigure (agentId : String) (config : AgentConfig) (wasRunning : Bool)
    (oldBindings : List ChannelBinding) : Tool := do
  match ← call (.updateConfig agentId config) with
  | .error e =>
    return .error ("failed to update config for '" ++ agentId ++ "': " ++ e.message F.debugStr)
  | .ok () =>
    let _ ← call (.registerAgent agentId config.role)
    if config.channelBindings ≠ oldBindings then
      changeRouter fun router ↦ router.updateAgentBindings agentId config.channelBindings
    if wasRunning then restart F agentId config
    else
      return .ok (.object [("configured", .bool true), ("restarted", .bool false),
        ("agent_id", .string agentId), ("state", .string "Configured")])

def configureAgent (agentId : String) (config : AgentConfig) : Tool := do
  match ← call (.get agentId) with
  | none => return .error (notInRegistry agentId)
  | some entry =>
    let oldBindings := entry.config.channelBindings
    if entry.state = .running then
      match ← halt F agentId with
      | .error e => return .error e
      | .ok () => reconfigure F agentId config true oldBindings
    else reconfigure F agentId config false oldBindings

def configureFrom (args : Json) (agentId : String) : Tool :=
  match args.get "config" with
  | none => pure (.error "'config' is required")
  | some value =>
    match F.fromValue value with
    | .error e => pure (.error ("invalid config: " ++ e))
    | .ok config =>
      if config.id = agentId then configureAgent F agentId config
      else pure (.error ("config id '" ++ config.id ++ "' does not match agent_id '" ++ agentId ++
        "'"))

def agentConfigure (args : Json) : Tool := withAgentId args (configureFrom F args)

end Tools

section AutoStart

def autoStartAgent (agentId : String) : Code Unit := do
  match ← call (.transition agentId .starting) with
  | .error _ => return
  | .ok () =>
    match ← call (.get agentId) with
    | none => return
    | some entry =>
      match ← call (.build entry.config) with
      | .error e =>
        let _ ← call (.transition agentId (.error ("auto-start build failed: " ++ e)))
      | .ok _ =>
        match ← call (.spawn agentId) with
        | .error e =>
          let _ ← call (.transition agentId (.error ("auto-start spawn failed: " ++ e)))
        | .ok port =>
          call (.registerProxy agentId port)
          let _ ← call (.transition agentId .running)

def autoStartAll : List String → Code Unit
  | [] => pure ()
  | agentId :: agentIds => do
    autoStartAgent agentId
    autoStartAll agentIds

def autoStart : Code Unit := do
  let agentIds ← call .agentsToStart
  autoStartAll agentIds

end AutoStart

end AdkGateway.AgentTools
