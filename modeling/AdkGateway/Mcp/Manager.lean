import AdkGateway.Foundation.KeyedMap
import AdkGateway.Foundation.Machine
import Mathlib.Data.Finmap

namespace AdkGateway.Mcp

open Foundation

inductive McpTransport
  | stdio (command : String) (args : List String) (env : Finmap fun _ : String ↦ String)
  | sse (url : String)
  deriving DecidableEq

inductive McpAuth
  | token (token : String)
  | oauth (clientId clientSecret tokenUrl : String)
  deriving DecidableEq

structure McpServerConfig where
  serverId : String
  transport : McpTransport
  auth : Option McpAuth
  enabled : Bool
  deriving DecidableEq

inductive ConnectionStatus
  | connected
  | reconnecting
  | failed
  | disconnected
  deriving DecidableEq

structure McpConnection where
  serverId : String
  config : McpServerConfig
  status : ConnectionStatus
  discoveredTools : List String
  reconnectAttempts : UInt32

def McpConnection.new (config : McpServerConfig) : McpConnection :=
  ⟨config.serverId, config, .disconnected, [], 0⟩

def backoffDuration (attempt : ℕ) : ℕ := min (2 ^ min attempt 63) 60

structure McpServerManager where
  name : String
  command : String
  args : List String
  env : Finmap fun _ : String ↦ String

structure McpConnectionManager where
  connections : KeyedMap String McpConnection
  managers : KeyedMap String McpServerManager

inductive Op
  | connecting (config : McpServerConfig)
  | startServer (config : McpServerConfig)
  | serverStatus (id : String)
  | tools (id : String)
  | insertManager (id : String) (manager : McpServerManager)
  | insertConnection (conn : McpConnection)
  | removeManager (id : String)
  | removeConnection (id : String)
  | markReconnecting (id : String)
  | attempts (id : String)
  | sleep (seconds : ℕ)
  | serverIds
  | containsKey (id : String)
  | getConfig (id : String)

@[reducible] def Op.Answer : Op → Type
  | .connecting _ => Unit
  | .startServer _ => Except String Unit
  | .serverStatus _ => Bool
  | .tools _ => Except String (List String)
  | .insertManager _ _ => Unit
  | .insertConnection _ => Unit
  | .removeManager _ => Unit
  | .removeConnection _ => Option McpConnection
  | .markReconnecting _ => Option McpServerConfig
  | .attempts _ => Option UInt32
  | .sleep _ => Unit
  | .serverIds => List String
  | .containsKey _ => Bool
  | .getConfig _ => Option McpServerConfig

/-- What comes of a start of a server process: whether it starts, whether it runs then, and the tools
that it tells of; and the order in which the keys of a map come. -/
structure Input where
  start : Except String Unit
  running : Bool
  tools : Except String (List String)
  order : List String → List String
  order_perm : ∀ ids, (order ids).Perm ids

def exec (o : Op) (i : Input) (s : McpConnectionManager) : McpConnectionManager × o.Answer :=
  match o with
  | .connecting _ => (s, ())
  | .startServer _ => (s, i.start)
  | .serverStatus _ => (s, i.running)
  | .tools _ => (s, i.tools)
  | .insertManager id manager => ({ s with managers := s.managers.insert id manager }, ())
  | .insertConnection conn =>
    ({ s with connections := s.connections.insert conn.config.serverId conn }, ())
  | .removeManager id => ({ s with managers := s.managers.erase id }, ())
  | .removeConnection id =>
    ({ s with connections := s.connections.erase id }, s.connections.lookup id)
  | .markReconnecting id =>
    match s.connections.lookup id with
    | none => (s, none)
    | some entry =>
      let entry := { entry with
        status := .reconnecting, reconnectAttempts := entry.reconnectAttempts + 1 }
      ({ s with connections := s.connections.insert id entry }, some entry.config)
  | .attempts id => (s, (s.connections.lookup id).map (·.reconnectAttempts))
  | .sleep _ => (s, ())
  | .serverIds => (s, i.order s.connections.keys)
  | .containsKey id => (s, (s.connections.lookup id).isSome)
  | .getConfig id => (s, (s.connections.lookup id).map (·.config))

abbrev Code := Script Op Op.Answer

def call (o : Op) : Code o.Answer := .perform o

def startStdio (config : McpServerConfig) (command : String) (args : List String)
    (env : Finmap fun _ : String ↦ String) : Code McpConnection := do
  let conn := McpConnection.new config
  match ← call (.startServer config) with
  | .ok () =>
    if ← call (.serverStatus config.serverId) then
      let tools ← call (.tools config.serverId)
      let discovered := match tools with
        | .ok tools => tools
        | .error _ => []
      call (.insertManager config.serverId
        ⟨"gateway-mcp-" ++ config.serverId, command, args, env⟩)
      return { conn with
        status := .connected, reconnectAttempts := 0, discoveredTools := discovered }
    else return { conn with status := .failed }
  | .error _ => return { conn with status := .failed }

def connect (config : McpServerConfig) : Code Unit :=
  if config.enabled then do
    call (.connecting config)
    let conn ← match config.transport with
      | .stdio command args env => startStdio config command args env
      | .sse _ =>
        pure { McpConnection.new config with status := .connected, reconnectAttempts := 0 }
    call (.insertConnection conn)
  else pure ()

def disconnect (id : String) : Code Unit := do
  call (.removeManager id)
  let _ ← call (.removeConnection id)

def reconnect (id : String) : Code (Except String Unit) := do
  match ← call (.markReconnecting id) with
  | none => return .error ("unknown MCP server: " ++ id)
  | some config =>
    let attempt := (← call (.attempts id)).getD 1
    call (.sleep (backoffDuration (attempt.toNat - 1)))
    let _ ← call (.removeConnection id)
    connect config
    return .ok ()

def disconnectRemoved (newIds : List String) : List String → Code Unit
  | [] => pure ()
  | id :: ids => do
    if newIds.contains id then disconnectRemoved newIds ids
    else
      disconnect id
      disconnectRemoved newIds ids

def reconcileOne (config : McpServerConfig) : Code Unit := do
  if config.enabled then
    let existing ← call (.getConfig config.serverId)
    if existing ≠ some config then
      if ← call (.containsKey config.serverId) then disconnect config.serverId
      connect config
  else
    if ← call (.containsKey config.serverId) then disconnect config.serverId

def connectNew : List McpServerConfig → Code Unit
  | [] => pure ()
  | config :: configs => do
    reconcileOne config
    connectNew configs

def reconcile (newConfigs : List McpServerConfig) : Code Unit := do
  let currentIds ← call .serverIds
  disconnectRemoved (newConfigs.map (·.serverId)) currentIds
  connectNew newConfigs

inductive Call
  | connect (config : McpServerConfig)
  | disconnect (id : String)
  | reconnect (id : String)
  | reconcile (newConfigs : List McpServerConfig)

def Call.isReconnect : Call → Bool
  | .reconnect _ => true
  | _ => false

def Call.code : Call → Code (Except String Unit)
  | .connect config => do
    Mcp.connect config
    return .ok ()
  | .disconnect id => do
    Mcp.disconnect id
    return .ok ()
  | .reconnect id => Mcp.reconnect id
  | .reconcile newConfigs => do
    Mcp.reconcile newConfigs
    return .ok ()

abbrev program : Program McpConnectionManager Call
    (Thread McpConnectionManager Call Op Op.Answer (Except String Unit)) (Except String Unit) Input
    (Occurrence McpConnectionManager Call Op Op.Answer) := Threads.program exec Call.code

end AdkGateway.Mcp
