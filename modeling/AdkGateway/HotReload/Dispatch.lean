import AdkGateway.AccessControl.Decisions
import AdkGateway.ConfigWatcher.LastEdit
import AdkGateway.HotReload.Channels

namespace AdkGateway

open AccessControl ConfigWatcher Foundation

namespace McpServer

def serverId (server : Json) : String := HotReload.text server "server_id" ""

def enabled (server : Json) : Bool := HotReload.flag server "enabled" true

end McpServer

structure McpConnectionManager where
  connections : KeyedMap String Json
  given : List Json

namespace McpConnectionManager

/-- A server is known also if it fails to start. -/
def connect (manager : McpConnectionManager) (server : Json) : McpConnectionManager :=
  if McpServer.enabled server then
    { manager with connections := manager.connections.insert (McpServer.serverId server) server }
  else manager

def disconnect (manager : McpConnectionManager) (serverId : String) : McpConnectionManager :=
  { manager with connections := manager.connections.erase serverId }

def reconcileServer (manager : McpConnectionManager) (server : Json) : McpConnectionManager :=
  let id := McpServer.serverId server
  if McpServer.enabled server then
    if manager.connections.lookup id = some server then manager
    else (manager.disconnect id).connect server
  else manager.disconnect id

def reconcile (manager : McpConnectionManager) (servers : List Json) : McpConnectionManager :=
  let removed := manager.connections.keys.filter fun id ↦
    !(servers.map McpServer.serverId).contains id
  let manager := removed.foldl disconnect manager
  { servers.foldl reconcileServer manager with given := servers }

def start (servers : List Json) : McpConnectionManager :=
  { servers.foldl connect ⟨∅, servers⟩ with given := servers }

end McpConnectionManager

namespace HotReload

/-- What the dispatch task keeps, and what it changes: the lists of jobs it sends go to the cron
scheduler, and the router is made of the routing section and the default agent. -/
structure Live where
  oldConfig : GatewayConfig
  accessControl : AccessControlBridge
  cronUpdates : List (List CronJob)
  router : RoutingConfig × String
  channels : Channels
  mcpManager : McpConnectionManager
  hooks : Json
  codingAgents : Option Json

def defaultAgent (config : GatewayConfig) : String :=
  ((config.agents.list.find? fun a ↦ flag a.others "default" false).map AgentEntry.id).getD "main"

namespace Live

def start (config : GatewayConfig) (codingAgents : Option Json) : Live where
  oldConfig := config
  accessControl := .new config
  cronUpdates := []
  router := (config.routing, defaultAgent config)
  channels := ⟨∅, (enabledKeys config.channels).length, [], []⟩
  mcpManager := .start config.mcpServers
  hooks := config.hooks
  codingAgents := codingAgents

def dispatch (s : Live) (newConfig : GatewayConfig) : Live :=
  let diff := ConfigDiff.compute s.oldConfig newConfig
  if diff.hasChanges then
    { oldConfig := newConfig
      accessControl :=
        if diff.authChanged then s.accessControl.rebuild newConfig else s.accessControl
      cronUpdates :=
        if diff.cronChanged then s.cronUpdates ++ [newConfig.cron.jobs] else s.cronUpdates
      router := if diff.routingChanged then (newConfig.routing, defaultAgent newConfig) else s.router
      channels :=
        if diff.channelsChanged then s.channels.rebuild newConfig.channels else s.channels
      mcpManager :=
        if diff.pluginsChanged || decide (newConfig.mcpServers ≠ s.oldConfig.mcpServers) then
          s.mcpManager.reconcile newConfig.mcpServers
        else s.mcpManager
      hooks := if diff.hooksChanged then newConfig.hooks else s.hooks
      codingAgents :=
        if diff.codingAgentsChanged then s.codingAgents.map fun _ ↦ newConfig.codingAgents
        else s.codingAgents }
  else s

end Live

section Sections

variable {a b c : GatewayConfig}

structure SameSections (a b : GatewayConfig) : Prop where
  channels : a.channels = b.channels
  routing : a.routing = b.routing
  session : a.session = b.session
  cron : a.cron = b.cron
  plugins : a.plugins = b.plugins
  auth : authEq? a.auth b.auth = true
  rag : a.rag = b.rag
  memory : a.memory = b.memory
  telemetry : a.telemetry = b.telemetry
  conventions : a.conventions = b.conventions
  hooks : a.hooks = b.hooks
  codingAgents : a.codingAgents = b.codingAgents

theorem hasChanges_eq_false_iff :
    (ConfigDiff.compute a b).hasChanges = false ↔ SameSections a b := by
  simp only [ConfigDiff.hasChanges, ConfigDiff.compute, Bool.or_eq_false_iff, ne_eq,
    decide_eq_false_iff_not, not_not, Bool.not_eq_false']
  constructor
  · rintro ⟨⟨⟨⟨⟨⟨⟨⟨⟨⟨⟨h₁, h₂⟩, h₃⟩, h₄⟩, h₅⟩, h₆⟩, h₇⟩, h₈⟩, h₉⟩, h₁₀⟩, h₁₁⟩, h₁₂⟩
    exact ⟨h₁, h₂, h₃, h₄, h₅, h₆, h₇, h₈, h₉, h₁₀, h₁₁, h₁₂⟩
  · intro h
    exact ⟨⟨⟨⟨⟨⟨⟨⟨⟨⟨⟨h.channels, h.routing⟩, h.session⟩, h.cron⟩, h.plugins⟩, h.auth⟩, h.rag⟩,
      h.memory⟩, h.telemetry⟩, h.conventions⟩, h.hooks⟩, h.codingAgents⟩

theorem authEq_iff {a b : AuthConfig} : authEq a b = true ↔
    a.roles = b.roles ∧ a.userMappings = b.userMappings ∧
      a.channelOverrides.entries.Perm b.channelOverrides.entries ∧ a.others = b.others := by
  simp only [authEq, Bool.and_eq_true, decide_eq_true_eq, and_assoc]

theorem authEq?_symm {a b : Option AuthConfig} (h : authEq? a b = true) : authEq? b a = true := by
  cases a <;> cases b <;> simp only [authEq?, Bool.false_eq_true] at h ⊢
  obtain ⟨hroles, hmappings, hoverrides, hothers⟩ := authEq_iff.mp h
  exact authEq_iff.mpr ⟨hroles.symm, hmappings.symm, hoverrides.symm, hothers.symm⟩

theorem authEq?_trans {a b c : Option AuthConfig} (h : authEq? a b = true)
    (h' : authEq? b c = true) : authEq? a c = true := by
  cases a <;> cases b <;> cases c <;> simp only [authEq?, Bool.false_eq_true] at h h' ⊢
  obtain ⟨hroles, hmappings, hoverrides, hothers⟩ := authEq_iff.mp h
  obtain ⟨hroles', hmappings', hoverrides', hothers'⟩ := authEq_iff.mp h'
  exact authEq_iff.mpr ⟨hroles.trans hroles', hmappings.trans hmappings',
    hoverrides.trans hoverrides', hothers.trans hothers'⟩

theorem authEq?_congr {a b : Option AuthConfig} (h : authEq? a b = true) (c : Option AuthConfig) :
    authEq? a c = authEq? b c :=
  Bool.eq_iff_iff.mpr ⟨authEq?_trans (authEq?_symm h), authEq?_trans h⟩

theorem SameSections.refl (a : GatewayConfig) : SameSections a a :=
  hasChanges_eq_false_iff.mp (hasChanges_self a)

theorem SameSections.compute_eq (h : SameSections a b) (c : GatewayConfig) :
    ConfigDiff.compute a c = ConfigDiff.compute b c := by
  simp only [ConfigDiff.compute, h.channels, h.routing, h.session, h.cron, h.plugins, h.rag,
    h.memory, h.telemetry, h.conventions, h.hooks, h.codingAgents, authEq?_congr h.auth]

end Sections

section Dispatch

variable {s : Live} {newConfig : GatewayConfig}

theorem dispatch_of_same (h : SameSections s.oldConfig newConfig) : s.dispatch newConfig = s := by
  have hno : (ConfigDiff.compute s.oldConfig newConfig).hasChanges = false :=
    hasChanges_eq_false_iff.mpr h
  rw [Live.dispatch, if_neg (by rw [hno]; exact Bool.false_ne_true)]

theorem same_oldConfig_dispatch (s : Live) (newConfig : GatewayConfig) :
    SameSections (s.dispatch newConfig).oldConfig newConfig := by
  unfold Live.dispatch
  simp only
  split
  · exact .refl newConfig
  · next h => exact hasChanges_eq_false_iff.mp (Bool.eq_false_iff.mpr h)

theorem accessControl_dispatch (s : Live) (newConfig : GatewayConfig) :
    (s.dispatch newConfig).accessControl =
      if authEq? s.oldConfig.auth newConfig.auth then s.accessControl
      else s.accessControl.rebuild newConfig := by
  by_cases h : (ConfigDiff.compute s.oldConfig newConfig).hasChanges = true
  · have hchanged : (ConfigDiff.compute s.oldConfig newConfig).authChanged =
        !authEq? s.oldConfig.auth newConfig.auth := rfl
    simp only [Live.dispatch, if_pos h, hchanged]
    cases authEq? s.oldConfig.auth newConfig.auth <;> rfl
  · have hsame := hasChanges_eq_false_iff.mp (Bool.eq_false_iff.mpr h)
    rw [dispatch_of_same hsame, if_pos hsame.auth]

theorem channels_dispatch (s : Live) (newConfig : GatewayConfig) :
    (s.dispatch newConfig).channels =
      if s.oldConfig.channels = newConfig.channels then s.channels
      else s.channels.rebuild newConfig.channels := by
  by_cases h : (ConfigDiff.compute s.oldConfig newConfig).hasChanges = true
  · have hchanged : (ConfigDiff.compute s.oldConfig newConfig).channelsChanged =
        decide (s.oldConfig.channels ≠ newConfig.channels) := rfl
    simp only [Live.dispatch, if_pos h, hchanged]
    by_cases hchannels : s.oldConfig.channels = newConfig.channels <;> simp [hchannels]
  · have hsame := hasChanges_eq_false_iff.mp (Bool.eq_false_iff.mpr h)
    rw [dispatch_of_same hsame, if_pos hsame.channels]

theorem given_dispatch (h : (ConfigDiff.compute s.oldConfig newConfig).hasChanges = true)
    (hgiven : s.mcpManager.given = s.oldConfig.mcpServers) :
    (s.dispatch newConfig).oldConfig = newConfig ∧
      (s.dispatch newConfig).mcpManager.given = newConfig.mcpServers := by
  simp only [Live.dispatch, if_pos h, true_and]
  split
  · rfl
  · next hno =>
    simp only [ne_eq, Bool.or_eq_true, decide_eq_true_eq, not_or, not_not] at hno
    rw [hgiven, hno.2]

end Dispatch

end HotReload

end AdkGateway
