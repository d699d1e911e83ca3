import AdkGateway.Cron.Tasks
import AdkGateway.HotReload.Dispatch
import AdkGateway.Startup.Load

namespace AdkGateway

open Foundation

namespace GatewayConfig

def withJobs (config : GatewayConfig) (jobs : List CronJob) : GatewayConfig :=
  { config with cron := ⟨jobs⟩ }

def withServers (config : GatewayConfig) (servers : List Json) : GatewayConfig :=
  { config with mcpServers := servers }

end GatewayConfig

namespace McpServer

def stdio (command : String) (args : List String) (env : List (String × String)) : Json :=
  .object ([("type", .string "stdio"), ("command", .string command), ("args", texts args)] ++
    if env = [] then [] else [("env", .object (env.map fun entry ↦ (entry.1, .string entry.2)))])

def sse (url : String) : Json := .object [("type", .string "sse"), ("url", .string url)]

def new (serverId : String) (transport : Json) (enabled : Bool) : Json :=
  .object [("server_id", .string serverId), ("transport", transport), ("auth", .null),
    ("enabled", .bool enabled)]

def flipped : Json → Json
  | .bool b => .bool !b
  | value => value

def toggled : Json → Json
  | .object fields => .object (fields.map fun field ↦
      (field.1, if field.1 = "enabled" then flipped field.2 else field.2))
  | server => server

end McpServer

namespace ConfigEdits

open ConfigWatcher Cron Startup

def addServer (servers : List Json) (server : String × Json) : List Json :=
  (servers.filter fun s ↦ McpServer.serverId s ≠ server.1) ++ [server.2]

def retainServers (servers : List Json) (serverId : String) : Option (List Json) :=
  let kept := servers.filter fun s ↦ McpServer.serverId s ≠ serverId
  if kept.length = servers.length then none else some kept

def toggleServer (serverId : String) : List Json → Option (List Json)
  | [] => none
  | server :: servers =>
    if McpServer.serverId server = serverId then some (McpServer.toggled server :: servers)
    else (toggleServer serverId servers).map (server :: ·)

inductive Change
  | addJob (job : CronJob)
  | removeJob (id : String)
  | replace (config : GatewayConfig)
  | addServers (servers : List (String × Json))
  | removeServer (serverId : String)
  | toggleServer (serverId : String)

def Change.onto (loaded : GatewayConfig) : Change → Option GatewayConfig
  | .addJob job => (pushJob loaded.cron.jobs job).map loaded.withJobs
  | .removeJob id => (retainJobs loaded.cron.jobs id).map loaded.withJobs
  | .replace config =>
    match validateConfig config with
    | .error _ => none
    | .ok () => some config
  | .addServers servers => some (loaded.withServers (servers.foldl addServer loaded.mcpServers))
  | .removeServer serverId => (retainServers loaded.mcpServers serverId).map loaded.withServers
  | .toggleServer serverId =>
    (ConfigEdits.toggleServer serverId loaded.mcpServers).map loaded.withServers

structure AddMcpServerPayload where
  serverId : String
  transport : String
  command : Option String
  args : List String
  env : List (String × String)
  url : Option String
  disabled : Bool

def AddMcpServerPayload.newServer (payload : AddMcpServerPayload) : Option (String × Json) := do
  let transport ←
    if payload.transport = "stdio" then
      payload.command.map fun command ↦ McpServer.stdio command payload.args payload.env
    else if payload.transport = "http" ∨ payload.transport = "sse" then
      payload.url.map McpServer.sse
    else none
  some (payload.serverId, McpServer.new payload.serverId transport !payload.disabled)

def fieldsOf : Json → List (String × Json)
  | .object fields => fields
  | _ => []

def serverOf (server : String × Json) : Option (String × Json) := do
  let .object _ := server.2 | none
  let transport ←
    match server.2.get "command" with
    | some command =>
      command.asStr.map fun command ↦ McpServer.stdio command
        ((((server.2.get "args").bind Json.asArray).getD []).filterMap Json.asStr)
        ((((server.2.get "env").map fieldsOf).getD []).filterMap fun entry ↦
          entry.2.asStr.map (entry.1, ·))
    | none => (← server.2.get "url").asStr.map McpServer.sse
  let isDisabled := decide (server.2.get "disabled" = some (.bool true))
  some (server.1, McpServer.new server.1 transport !isDisabled)

/-- The `mcp add` command takes JSON, or else the flags of one server. -/
inductive McpAdd
  | json (parsed : Json)
  | flags (name : String) (command : Option String) (args : List String)
      (env : List (String × String)) (url : Option String) (disabled : Bool)

def McpAdd.servers : McpAdd → Option (List (String × Json))
  | .json (.object servers) => servers.mapM serverOf
  | .json _ => none
  | .flags name command args env url disabled => do
    let transport ← (command.map fun command ↦ McpServer.stdio command args env) <|>
      url.map McpServer.sse
    some [(name, McpServer.new name transport !disabled)]

inductive Writer
  | tools
  | panel
  | command
  deriving DecidableEq

inductive Request
  | taskCreate (args : Json)
  | taskDelete (args : Json)
  | configSave (content : Except String GatewayConfig)
  | scheduledTaskCreate (payload : Json) (isActive : Bool)
  | scheduledTaskDelete (taskId : String) (wasInScheduler : Bool)
  | mcpAdd (payload : AddMcpServerPayload)
  | mcpRemove (serverId : String)
  | mcpToggle (serverId : String)
  | mcpAddCommand (args : McpAdd)
  | mcpRemoveCommand (name : String)

namespace Request

def writer : Request → Writer
  | .taskCreate _ | .taskDelete _ => .tools
  | .mcpAddCommand _ | .mcpRemoveCommand _ => .command
  | _ => .panel

def change : Request → Option Change
  | .taskCreate args => (newJob args).map .addJob
  | .taskDelete args =>
    let id := argument args "id"
    if id = "" then none else some (.removeJob id)
  | .configSave content => content.toOption.map .replace
  | .scheduledTaskCreate payload isActive =>
    if isActive then none else (newJob payload).map .addJob
  | .scheduledTaskDelete taskId _ => some (.removeJob taskId)
  | .mcpAdd payload => payload.newServer.map fun server ↦ .addServers [server]
  | .mcpRemove serverId => some (.removeServer serverId)
  | .mcpToggle serverId => some (.toggleServer serverId)
  | .mcpAddCommand args => args.servers.map .addServers
  | .mcpRemoveCommand name => some (.removeServer name)

def doneAnyway : Request → Bool
  | .scheduledTaskDelete _ wasInScheduler => wasInScheduler
  | _ => false

/-- It goes on where the file fails to be written. -/
def goesOn : Request → Bool
  | .scheduledTaskDelete _ _ => true
  | _ => false

end Request

structure Call where
  request : Request
  change : Change
  loaded : GatewayConfig
  newConfig : GatewayConfig
  succeeded : Bool

/-- The file, the configs of the two writers in the gateway, and the changes that have succeeded, in
this order. -/
structure Editing where
  file : String
  tools : GatewayConfig
  panel : GatewayConfig
  calls : KeyedMap ℕ Call
  succeeded : List Change

/-- The calls have numbers. By hand the file is edited without any of the configs in memory. -/
inductive Event
  | load (n : ℕ) (request : Request)
  | write (n : ℕ) (written : Bool)
  | store (n : ℕ)
  | byHand (raw : String) (config : GatewayConfig)

namespace Editing

variable (serde : Serde) (host : Host) (defaultText : String)

def start (raw : String) (config : GatewayConfig) : Editing := ⟨raw, config, config, ∅, []⟩

def loadFor (s : Editing) : Writer → Option GatewayConfig
  | .tools => some s.tools
  | .panel => some s.panel
  | .command => ((configFormat serde host defaultText).load s.file).toOption

def load (s : Editing) (n : ℕ) (request : Request) : Editing :=
  match s.calls.lookup n, request.change, s.loadFor serde host defaultText request.writer with
  | none, some change, some loaded =>
    match change.onto loaded with
    | some newConfig =>
      { s with calls := s.calls.insert n ⟨request, change, loaded, newConfig, false⟩ }
    | none => if request.doneAnyway then { s with succeeded := s.succeeded ++ [change] } else s
  | _, _, _ => s

def succeed (s : Editing) (n : ℕ) (call : Call) : Editing :=
  { s with
    calls := s.calls.insert n { call with succeeded := true }
    succeeded := s.succeeded ++ [call.change] }

def write (s : Editing) (n : ℕ) (written : Bool) : Editing :=
  match s.calls.lookup n with
  | none => s
  | some call =>
    if call.succeeded then s
    else if written then
      { s.succeed n call with file := serde.toStringPretty call.newConfig.toValue }
    else if call.request.goesOn then s.succeed n call
    else { s with calls := s.calls.erase n }

def store (s : Editing) (n : ℕ) : Editing :=
  match s.calls.lookup n with
  | none => s
  | some call =>
    if call.succeeded then
      let s := { s with calls := s.calls.erase n }
      match call.request.writer with
      | .tools => { s with tools := call.newConfig }
      | .panel => { s with panel := call.newConfig }
      | .command => s
    else s

def apply (s : Editing) : Event → Editing
  | .load n request => s.load serde host defaultText n request
  | .write n written => s.write serde n written
  | .store n => s.store n
  | .byHand raw config => { s with file := raw, succeeded := s.succeeded ++ [.replace config] }

/-- A step answers with the state it leads to. -/
def step (s : Editing) (event : Event) : Editing × Editing :=
  (s.apply serde host defaultText event, s.apply serde host defaultText event)

def Pending (s : Editing) (n : ℕ) (call : Call) : Prop :=
  s.calls.lookup n = some call ∧ call.succeeded = false

def AnsweredAsDone (s : Editing) (n : ℕ) (request : Request) (change : Change) : Prop :=
  s.calls.lookup n = none ∧ request.change = some change ∧ request.doneAnyway = true ∧
    ∃ loaded, s.loadFor serde host defaultText request.writer = some loaded ∧
      change.onto loaded = none

end Editing

section Steps

variable (serde : Serde) (host : Host) (defaultText : String) (s : Editing) (n : ℕ)

open Editing

theorem load_cases (request : Request) :
    (∃ change, s.AnsweredAsDone serde host defaultText n request change ∧
      s.load serde host defaultText n request =
        { s with succeeded := s.succeeded ++ [change] }) ∨
    (∃ change loaded newConfig, s.loadFor serde host defaultText request.writer = some loaded ∧
      change.onto loaded = some newConfig ∧ request.change = some change ∧
      s.load serde host defaultText n request =
        { s with calls := s.calls.insert n ⟨request, change, loaded, newConfig, false⟩ } ∧
      ∀ change', ¬ s.AnsweredAsDone serde host defaultText n request change') ∨
    (s.load serde host defaultText n request = s ∧
      ∀ change, ¬ s.AnsweredAsDone serde host defaultText n request change) := by
  rw [load]
  cases hcall : s.calls.lookup n with
  | some call => exact .inr (.inr ⟨rfl, fun _ h ↦ absurd (hcall.symm.trans h.1) (by simp)⟩)
  | none =>
    cases hchange : request.change with
    | none => exact .inr (.inr ⟨rfl, fun _ h ↦ absurd (hchange.symm.trans h.2.1) (by simp)⟩)
    | some change =>
      cases hload : s.loadFor serde host defaultText request.writer with
      | none =>
        refine .inr (.inr ⟨rfl, ?_⟩)
        rintro _ ⟨-, -, -, loaded, h, -⟩
        exact absurd (hload.symm.trans h) (by simp)
      | some loaded =>
        simp only
        cases honto : change.onto loaded with
        | some newConfig =>
          refine .inr (.inl ⟨change, loaded, newConfig, rfl, honto, rfl, rfl, ?_⟩)
          rintro change' ⟨-, hchange', -, loaded', hload', honto'⟩
          obtain rfl := Option.some_inj.mp (hchange.symm.trans hchange')
          obtain rfl := Option.some_inj.mp (hload.symm.trans hload')
          exact absurd (honto.symm.trans honto') (by simp)
        | none =>
          cases hdone : request.doneAnyway with
          | true => exact .inl ⟨change, ⟨hcall, hchange, hdone, loaded, hload, honto⟩, rfl⟩
          | false =>
            exact .inr (.inr ⟨rfl, fun _ h ↦ Bool.false_ne_true (hdone.symm.trans h.2.2.1)⟩)

theorem write_cases (written : Bool) :
    (∃ call, s.Pending n call ∧
      ((written = true ∧ s.write serde n written =
          { s.succeed n call with file := serde.toStringPretty call.newConfig.toValue }) ∨
        (written = false ∧ call.request.goesOn = true ∧
          s.write serde n written = s.succeed n call) ∨
        (written = false ∧ call.request.goesOn = false ∧
          s.write serde n written = { s with calls := s.calls.erase n }))) ∨
    (s.write serde n written = s ∧ ∀ call, ¬ s.Pending n call) := by
  rw [write]
  cases hcall : s.calls.lookup n with
  | none => exact .inr ⟨rfl, fun _ h ↦ absurd (hcall.symm.trans h.1) (by simp)⟩
  | some call =>
    simp only
    cases hsucceeded : call.succeeded with
    | true =>
      refine .inr ⟨rfl, ?_⟩
      rintro call' ⟨hcall', hsucceeded'⟩
      obtain rfl := Option.some_inj.mp (hcall.symm.trans hcall')
      exact absurd (hsucceeded.symm.trans hsucceeded') (by decide)
    | false =>
      refine .inl ⟨call, ⟨hcall, hsucceeded⟩, ?_⟩
      cases written with
      | true => exact .inl ⟨rfl, rfl⟩
      | false =>
        cases hgoes : call.request.goesOn with
        | true => exact .inr (.inl ⟨rfl, rfl, rfl⟩)
        | false => exact .inr (.inr ⟨rfl, rfl, rfl⟩)

theorem store_cases :
    (∃ call, s.calls.lookup n = some call ∧ s.store n =
      { s with
        calls := s.calls.erase n
        tools := if call.request.writer = .tools then call.newConfig else s.tools
        panel := if call.request.writer = .panel then call.newConfig else s.panel }) ∨
    s.store n = s := by
  rw [store]
  cases hcall : s.calls.lookup n with
  | none => exact .inr rfl
  | some call =>
    simp only
    cases call.succeeded with
    | false => exact .inr rfl
    | true =>
      refine .inl ⟨call, rfl, ?_⟩
      cases call.request.writer <;> rfl

end Steps

end ConfigEdits

end AdkGateway
