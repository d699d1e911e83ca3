import AdkGateway.Foundation.KeyedMap
import AdkGateway.Foundation.Machine
import AdkGateway.Foundation.Text
import AdkGateway.Foundation.Time

namespace AdkGateway.CodingAgent.StatusEvents

open Foundation Machine

inductive AgentConnectionStatus
  | connected
  | disconnected (since : DateTime)
  | error (message : String) (since : DateTime)
  | unknown
  deriving DecidableEq

structure AgentStatusEvent where
  agentId : String
  previousStatus : AgentConnectionStatus
  newStatus : AgentConnectionStatus
  timestamp : DateTime
  deriving DecidableEq

structure CodingAgentInstanceConfig where
  id : String
  backendType : String
  endpoint : String
  deriving DecidableEq

structure BackendDefinition where
  agentType : String
  cliCommand : String
  installCheckCommand : String
  deriving DecidableEq

structure CodingAgentsConfig where
  agents : List CodingAgentInstanceConfig
  backends : List BackendDefinition

structure RegisteredAgent where
  id : String
  backendType : String
  config : CodingAgentInstanceConfig
  status : AgentConnectionStatus
  lastHealthCheck : Option DateTime
  lastSuccessfulTask : Option DateTime
  endpoint : String
  deriving DecidableEq

inductive CodingAgentError
  | configValidation (message : String)
  | agentNotFound (agentId : String)
  deriving DecidableEq

def validateBackendDefinition (definition : BackendDefinition) : List String :=
  (if Text.trim definition.agentType = "" then ["agent_type"] else []) ++
    (if Text.trim definition.cliCommand = "" then ["cli_command"] else []) ++
    (if Text.trim definition.installCheckCommand = "" then ["install_check_command"] else [])

/-- What an operation sends to the subscribers is among its results. -/
structure CodingAgentRegistry where
  agents : KeyedMap String RegisteredAgent
  backends : KeyedMap String BackendDefinition

namespace CodingAgentRegistry

def new : CodingAgentRegistry := ⟨∅, ∅⟩

def registerAgent (registry : CodingAgentRegistry) (config : CodingAgentInstanceConfig) :
    Except CodingAgentError CodingAgentRegistry :=
  if config.id ∈ registry.agents then
    .error (.configValidation ("Agent with id '" ++ config.id ++ "' is already registered"))
  else
    .ok { registry with
      agents := registry.agents.insert config.id
        ⟨config.id, config.backendType, config, .unknown, none, none, config.endpoint⟩ }

def unregisterAgent (registry : CodingAgentRegistry) (agentId : String) :
    Except CodingAgentError (RegisteredAgent × CodingAgentRegistry) :=
  match registry.agents.lookup agentId with
  | some agent => .ok (agent, { registry with agents := registry.agents.erase agentId })
  | none => .error (.agentNotFound agentId)

def loadBackendsFromConfig (registry : CodingAgentRegistry) (backends : List BackendDefinition) :
    CodingAgentRegistry :=
  { registry with
    backends := backends.foldl (fun loaded backend ↦
      if validateBackendDefinition backend = [] then loaded.insert backend.agentType backend
      else loaded) ∅ }

/-- The guard of the entry is held to the end: the event is sent under it. -/
def updateStatus (registry : CodingAgentRegistry) (agentId : String)
    (newStatus : AgentConnectionStatus) (now : DateTime) :
    Except CodingAgentError (List AgentStatusEvent × CodingAgentRegistry) :=
  match registry.agents.lookup agentId with
  | none => .error (.agentNotFound agentId)
  | some agent =>
    if agent.status ≠ newStatus then
      .ok ([⟨agentId, agent.status, newStatus, now⟩],
        { registry with agents := registry.agents.insert agentId { agent with status := newStatus } })
    else .ok ([], registry)

def recordSuccessfulTask (registry : CodingAgentRegistry) (agentId : String) (now : DateTime) :
    CodingAgentRegistry :=
  { registry with
    agents := KeyedMap.modify agentId ({ · with lastSuccessfulTask := some now }) registry.agents }

def recordHealthCheck (registry : CodingAgentRegistry) (agentId : String) (now : DateTime) :
    CodingAgentRegistry :=
  { registry with
    agents := KeyedMap.modify agentId ({ · with lastHealthCheck := some now }) registry.agents }

/-- One round of the loop of `reload_from_config`; a failure is only logged. -/
def registerMissing (registry : CodingAgentRegistry) (config : CodingAgentInstanceConfig) :
    CodingAgentRegistry :=
  if config.id ∈ registry.agents then registry
  else
    match registry.registerAgent config with
    | .ok registry' => registry'
    | .error _ => registry

def reloadFromConfig (registry : CodingAgentRegistry) (config : CodingAgentsConfig) :
    CodingAgentRegistry :=
  config.agents.foldl registerMissing (registry.loadBackendsFromConfig config.backends)

def fromConfig (config : CodingAgentsConfig) : CodingAgentRegistry :=
  config.agents.foldl (fun registry agentConfig ↦
    match registry.registerAgent agentConfig with
    | .ok registry' => registry'
    | .error _ => registry) (new.loadBackendsFromConfig config.backends)

end CodingAgentRegistry

inductive Call
  | registerAgent (config : CodingAgentInstanceConfig)
  | unregisterAgent (agentId : String)
  | updateStatus (agentId : String) (newStatus : AgentConnectionStatus) (now : DateTime)
  | recordSuccessfulTask (agentId : String) (now : DateTime)
  | recordHealthCheck (agentId : String) (now : DateTime)
  | reloadFromConfig (config : CodingAgentsConfig)

/-- What a call sends, and what it leaves. A call that fails changes nothing. -/
def step (registry : CodingAgentRegistry) : Call → List AgentStatusEvent × CodingAgentRegistry
  | .registerAgent config => ([], (registry.registerAgent config).toOption.getD registry)
  | .unregisterAgent agentId =>
    ([], ((registry.unregisterAgent agentId).toOption.map (·.2)).getD registry)
  | .updateStatus agentId newStatus now =>
    (registry.updateStatus agentId newStatus now).toOption.getD ([], registry)
  | .recordSuccessfulTask agentId now => ([], registry.recordSuccessfulTask agentId now)
  | .recordHealthCheck agentId now => ([], registry.recordHealthCheck agentId now)
  | .reloadFromConfig config => ([], registry.reloadFromConfig config)

namespace CodingAgentRegistry

def status (registry : CodingAgentRegistry) (agentId : String) : Option AgentConnectionStatus :=
  (registry.agents.lookup agentId).map (·.status)

theorem mem_iff_status {registry : CodingAgentRegistry} {agentId : String} :
    agentId ∈ registry.agents ↔ ∃ s, registry.status agentId = some s := by
  rw [← AList.lookup_isSome, status, Option.isSome_iff_exists]
  simp

@[simp] theorem status_loadBackendsFromConfig (registry : CodingAgentRegistry)
    (backends : List BackendDefinition) (agentId : String) :
    (registry.loadBackendsFromConfig backends).status agentId = registry.status agentId := rfl

theorem status_modify (registry : CodingAgentRegistry) (agentId agentId' : String)
    (f : RegisteredAgent → RegisteredAgent) (hf : ∀ agent, (f agent).status = agent.status) :
    status { registry with agents := KeyedMap.modify agentId f registry.agents } agentId' =
      registry.status agentId' := by
  rw [status, status, KeyedMap.lookup_modify_if]
  split
  case isTrue h =>
    rw [h, Option.map_map]
    exact congrArg (fun g ↦ Option.map g _) (funext hf)
  case isFalse => rfl

theorem status_insert (registry : CodingAgentRegistry) (agentId agentId' : String)
    (agent : RegisteredAgent) :
    status { registry with agents := registry.agents.insert agentId agent } agentId' =
      if agentId' = agentId then some agent.status else registry.status agentId' := by
  rw [status, KeyedMap.lookup_insert_if]
  split <;> rfl

theorem status_erase (registry : CodingAgentRegistry) (agentId agentId' : String) :
    status { registry with agents := registry.agents.erase agentId } agentId' =
      if agentId' = agentId then none else registry.status agentId' := by
  rw [status, KeyedMap.lookup_erase_if]
  split <;> rfl

theorem status_registerAgent {registry : CodingAgentRegistry} (config : CodingAgentInstanceConfig)
    (agentId : String) :
    ((registry.registerAgent config).toOption.getD registry).status agentId =
      if agentId = config.id then some ((registry.status agentId).getD .unknown)
      else registry.status agentId := by
  by_cases hmem : config.id ∈ registry.agents
  · obtain ⟨s, hs⟩ := mem_iff_status.mp hmem
    rw [registerAgent, if_pos hmem]
    split
    case isTrue h => simp [h, hs, Except.toOption]
    case isFalse => rfl
  · have hnone : registry.status config.id = none := by
      rw [status, AList.lookup_eq_none.mpr hmem]
      rfl
    rw [registerAgent, if_neg hmem, Except.toOption, Option.getD_some, status_insert]
    split
    case isTrue h => simp [h, hnone]
    case isFalse => rfl

theorem registerMissing_eq (registry : CodingAgentRegistry) (config : CodingAgentInstanceConfig) :
    registry.registerMissing config = (registry.registerAgent config).toOption.getD registry := by
  rw [registerMissing, registerAgent]
  split <;> rfl

theorem status_foldl_registerMissing (configs : List CodingAgentInstanceConfig)
    (registry : CodingAgentRegistry) (agentId : String) :
    (configs.foldl registerMissing registry).status agentId =
      if agentId ∈ configs.map (·.id) then some ((registry.status agentId).getD .unknown)
      else registry.status agentId := by
  induction configs generalizing registry with
  | nil => rfl
  | cons config configs ih =>
    rw [List.foldl_cons, ih, registerMissing_eq, status_registerAgent]
    by_cases h : agentId = config.id <;> simp [h]

end CodingAgentRegistry

def Linked : AgentConnectionStatus → List AgentStatusEvent → AgentConnectionStatus → Prop
  | s, [], t => t = s
  | s, e :: es, t => e.previousStatus = s ∧ e.newStatus ≠ s ∧ Linked e.newStatus es t

theorem Linked.append {s t u : AgentConnectionStatus} {es fs : List AgentStatusEvent}
    (h : Linked s es t) (h' : Linked t fs u) : Linked s (es ++ fs) u := by
  induction es generalizing s with
  | nil =>
    cases h
    exact h'
  | cons e es ih => exact ⟨h.1, h.2.1, ih h.2.2⟩

theorem Linked.getLast {s t : AgentConnectionStatus} {es : List AgentStatusEvent}
    (h : Linked s es t) : t = (es.getLast?.map (·.newStatus)).getD s := by
  induction es generalizing s with
  | nil => exact h
  | cons e es ih =>
    rw [ih h.2.2]
    cases es with
    | nil => rfl
    | cons f es => simp [List.getLast?_cons]

theorem Linked.isChain {s t : AgentConnectionStatus} {es : List AgentStatusEvent}
    (h : Linked s es t) : es.IsChain fun e f ↦ f.previousStatus = e.newStatus := by
  induction es generalizing s with
  | nil => exact .nil
  | cons e es ih =>
    cases es with
    | nil => exact .singleton e
    | cons f es => exact .cons_cons h.2.2.1 (ih h.2.2)

theorem Linked.moves {s t : AgentConnectionStatus} {es : List AgentStatusEvent}
    (h : Linked s es t) : ∀ e ∈ es, e.newStatus ≠ e.previousStatus := by
  induction es generalizing s with
  | nil => simp
  | cons e es ih =>
    intro f hf
    rcases List.mem_cons.mp hf with rfl | hf
    · rw [h.1]
      exact h.2.1
    · exact ih h.2.2 f hf

def about (agentId : String) (events : List AgentStatusEvent) : List AgentStatusEvent :=
  events.filter (·.agentId = agentId)

/-- An update sends nothing and changes nothing, or it sends the one change that it makes. -/
theorem step_updateStatus_of_ne {registry : CodingAgentRegistry} {target : String}
    {newStatus : AgentConnectionStatus} {old : RegisteredAgent}
    (hlookup : registry.agents.lookup target = some old) (hmoves : old.status ≠ newStatus)
    (now : DateTime) : step registry (.updateStatus target newStatus now) =
      ([⟨target, old.status, newStatus, now⟩],
        { registry with
          agents := registry.agents.insert target { old with status := newStatus } }) := by
  simp only [step, CodingAgentRegistry.updateStatus, hlookup, if_pos hmoves, Except.toOption,
    Option.getD_some]

theorem step_updateStatus (registry : CodingAgentRegistry) (target : String)
    (newStatus : AgentConnectionStatus) (now : DateTime) :
    step registry (.updateStatus target newStatus now) = ([], registry) ∨
      ∃ old, registry.agents.lookup target = some old ∧ old.status ≠ newStatus ∧
        step registry (.updateStatus target newStatus now) =
          ([⟨target, old.status, newStatus, now⟩],
            { registry with
              agents := registry.agents.insert target { old with status := newStatus } }) := by
  cases hlookup : registry.agents.lookup target with
  | none => exact .inl (by simp [step, CodingAgentRegistry.updateStatus, hlookup, Except.toOption])
  | some old =>
    by_cases hmoves : old.status ≠ newStatus
    · exact .inr ⟨old, rfl, hmoves, step_updateStatus_of_ne hlookup hmoves now⟩
    · refine .inl ?_
      simp only [step, CodingAgentRegistry.updateStatus, hlookup, if_neg hmoves, Except.toOption,
        Option.getD_some]

theorem linked_updateStatus {registry : CodingAgentRegistry} {agentId : String}
    {s t : AgentConnectionStatus} (target : String) (newStatus : AgentConnectionStatus)
    (now : DateTime) (hs : registry.status agentId = some s)
    (ht : (step registry (.updateStatus target newStatus now)).2.status agentId = some t) :
    Linked s (about agentId (step registry (.updateStatus target newStatus now)).1) t := by
  obtain hstep | ⟨old, hlookup, hmoves, hstep⟩ := step_updateStatus registry target newStatus now
  · rw [hstep] at ht ⊢
    exact Option.some.inj (ht.symm.trans hs)
  · rw [hstep] at ht ⊢
    rw [CodingAgentRegistry.status_insert] at ht
    by_cases htarget : agentId = target
    · subst htarget
      rw [if_pos rfl] at ht
      rw [CodingAgentRegistry.status, hlookup] at hs
      cases ht
      cases hs
      simpa [about, Linked] using fun h ↦ hmoves h.symm
    · rw [if_neg htarget] at ht
      have hsame : t = s := Option.some.inj (ht.symm.trans hs)
      simpa [about, Ne.symm htarget, Linked] using hsame

/-- Whatever the call, an agent that stays registered moves as the events about it say. -/
theorem linked_step {registry : CodingAgentRegistry} {agentId : String}
    {s t : AgentConnectionStatus} (call : Call) (hs : registry.status agentId = some s)
    (ht : (step registry call).2.status agentId = some t) :
    Linked s (about agentId (step registry call).1) t := by
  cases call with
  | registerAgent config =>
    rw [step, CodingAgentRegistry.status_registerAgent, hs] at ht
    split at ht <;> exact (Option.some.inj ht).symm
  | unregisterAgent target =>
    rw [step, CodingAgentRegistry.unregisterAgent] at ht
    cases hlookup : registry.agents.lookup target with
    | none =>
      rw [hlookup] at ht
      exact Option.some.inj (ht.symm.trans hs)
    | some agent =>
      simp only [hlookup, Except.toOption, Option.map_some, Option.getD_some] at ht
      rw [CodingAgentRegistry.status_erase] at ht
      split at ht
      · cases ht
      · exact Option.some.inj (ht.symm.trans hs)
  | updateStatus target newStatus now => exact linked_updateStatus target newStatus now hs ht
  | recordSuccessfulTask target now =>
    have hkeep := registry.status_modify target agentId
      ({ · with lastSuccessfulTask := some now }) fun _ ↦ rfl
    exact Option.some.inj (ht.symm.trans (hkeep.trans hs))
  | recordHealthCheck target now =>
    have hkeep := registry.status_modify target agentId
      ({ · with lastHealthCheck := some now }) fun _ ↦ rfl
    exact Option.some.inj (ht.symm.trans (hkeep.trans hs))
  | reloadFromConfig config =>
    rw [step, CodingAgentRegistry.reloadFromConfig,
      CodingAgentRegistry.status_foldl_registerMissing,
      CodingAgentRegistry.status_loadBackendsFromConfig, hs] at ht
    split at ht <;> exact (Option.some.inj ht).symm

/-- A registration puts an agent in with no status known, and sends nothing. -/
theorem status_of_registered {registry : CodingAgentRegistry} {agentId : String} {call : Call}
    (hout : registry.status agentId = none) {s : AgentConnectionStatus}
    (hin : (step registry call).2.status agentId = some s) :
    s = .unknown ∧ (step registry call).1 = [] := by
  cases call with
  | registerAgent config =>
    rw [step, CodingAgentRegistry.status_registerAgent, hout] at hin
    split at hin
    · exact ⟨(Option.some.inj hin).symm, rfl⟩
    · cases hin
  | unregisterAgent target =>
    rw [step, CodingAgentRegistry.unregisterAgent] at hin
    cases hlookup : registry.agents.lookup target with
    | none =>
      rw [hlookup] at hin
      exact nomatch hin.symm.trans hout
    | some agent =>
      simp only [hlookup, Except.toOption, Option.map_some, Option.getD_some] at hin
      rw [CodingAgentRegistry.status_erase, hout, ite_self] at hin
      cases hin
  | updateStatus target newStatus now =>
    obtain hstep | ⟨old, hlookup, -, hstep⟩ := step_updateStatus registry target newStatus now
    · rw [hstep] at hin
      exact nomatch hin.symm.trans hout
    · have htarget : agentId ≠ target := by
        intro h
        subst h
        simp [CodingAgentRegistry.status, hlookup] at hout
      rw [hstep, CodingAgentRegistry.status_insert, if_neg htarget] at hin
      exact nomatch hin.symm.trans hout
  | recordSuccessfulTask target now =>
    have hkeep := registry.status_modify target agentId
      ({ · with lastSuccessfulTask := some now }) fun _ ↦ rfl
    exact nomatch hin.symm.trans (hkeep.trans hout)
  | recordHealthCheck target now =>
    have hkeep := registry.status_modify target agentId
      ({ · with lastHealthCheck := some now }) fun _ ↦ rfl
    exact nomatch hin.symm.trans (hkeep.trans hout)
  | reloadFromConfig config =>
    rw [step, CodingAgentRegistry.reloadFromConfig,
      CodingAgentRegistry.status_foldl_registerMissing,
      CodingAgentRegistry.status_loadBackendsFromConfig, hout] at hin
    split at hin
    · exact ⟨(Option.some.inj hin).symm, rfl⟩
    · cases hin

theorem about_append (agentId : String) (es fs : List AgentStatusEvent) :
    about agentId (es ++ fs) = about agentId es ++ about agentId fs := List.filter_append ..

theorem linked_run {agentId : String} (calls : List Call) {registry : CodingAgentRegistry}
    {s : AgentConnectionStatus} (hs : registry.status agentId = some s)
    (hon : Along step (fun registry call ↦ agentId ∈ (step registry call).2.agents) registry calls) :
    ∃ t, (run step registry calls).status agentId = some t ∧
      Linked s (about agentId (outputs step registry calls).flatten) t := by
  induction calls generalizing registry s with
  | nil => exact ⟨s, hs, rfl⟩
  | cons call calls ih =>
    obtain ⟨t, ht⟩ := CodingAgentRegistry.mem_iff_status.mp hon.1
    obtain ⟨u, hu, hlinked⟩ := ih ht hon.2
    refine ⟨u, hu, ?_⟩
    rw [outputs, List.flatten_cons, about_append]
    exact (linked_step call hs ht).append hlinked

/-- An update that changes the status stores the new one and sends just its event. -/
theorem updateStatus_of_ne {registry : CodingAgentRegistry} {agentId : String}
    {s newStatus : AgentConnectionStatus} (hs : registry.status agentId = some s)
    (hne : s ≠ newStatus) (now : DateTime) :
    (step registry (.updateStatus agentId newStatus now)).1 = [⟨agentId, s, newStatus, now⟩] ∧
      (step registry (.updateStatus agentId newStatus now)).2.status agentId = some newStatus := by
  obtain ⟨agent, hlookup, rfl⟩ := Option.map_eq_some_iff.mp hs
  rw [step_updateStatus_of_ne hlookup hne, CodingAgentRegistry.status_insert, if_pos rfl]
  exact ⟨rfl, rfl⟩

/-- From the call that registers an agent on, as long as it stays registered: the events about it
lead from one to the next, first from an unknown status and last to the one that is stored, and
an update that changes the status stores it and sends just its event. -/
theorem status_events_form_chain {registry : CodingAgentRegistry} {agentId : String}
    (hout : agentId ∉ registry.agents) (call : Call) (calls : List Call)
    (hon : Along step (fun registry call ↦ agentId ∈ (step registry call).2.agents) registry
      (call :: calls)) :
    let events := about agentId (outputs step registry (call :: calls)).flatten
    (events.head?.map (·.previousStatus)).getD .unknown = .unknown ∧
      (events.IsChain fun e f ↦ f.previousStatus = e.newStatus) ∧
      (∀ e ∈ events, e.newStatus ≠ e.previousStatus) ∧
      (run step registry (call :: calls)).status agentId =
        some ((events.getLast?.map (·.newStatus)).getD .unknown) ∧
      ∀ before s newStatus now, before <+: call :: calls →
        (run step registry before).status agentId = some s → s ≠ newStatus →
          let moved := step (run step registry before) (.updateStatus agentId newStatus now)
          moved.1 = [⟨agentId, s, newStatus, now⟩] ∧ moved.2.status agentId = some newStatus := by
  have hnone : registry.status agentId = none := by
    rw [CodingAgentRegistry.status, AList.lookup_eq_none.mpr hout]
    rfl
  obtain ⟨s, hs⟩ := CodingAgentRegistry.mem_iff_status.mp hon.1
  obtain ⟨rfl, hsilent⟩ := status_of_registered hnone hs
  obtain ⟨t, ht, hlinked⟩ := linked_run calls hs hon.2
  intro events
  have hevents : events = about agentId (outputs step (step registry call).2 calls).flatten := by
    simp only [events, outputs, List.flatten_cons, hsilent, List.nil_append]
  rw [← hevents] at hlinked
  refine ⟨?_, hlinked.isChain, hlinked.moves, ?_,
    fun before s newStatus now _ hs hne ↦ updateStatus_of_ne hs hne now⟩
  · cases hfirst : events with
    | nil => rfl
    | cons e es => exact (hfirst ▸ hlinked).1
  · rw [← hlinked.getLast]
    exact ht

/-- An agent is registered, fails, comes back and is checked in between. -/
theorem status_events_form_chain_of_recovery :
    let calls : List Call := [.updateStatus "cc" (.error "timeout" 1) 1, .recordHealthCheck "cc" 2,
      .updateStatus "cc" (.error "timeout" 1) 2, .updateStatus "cc" .connected 3]
    let events := about "cc"
      (outputs step .new (.registerAgent ⟨"cc", "claude-code", "http"⟩ :: calls)).flatten
    (events.head?.map (·.previousStatus)).getD .unknown = .unknown ∧
      (events.IsChain fun e f ↦ f.previousStatus = e.newStatus) ∧
      (∀ e ∈ events, e.newStatus ≠ e.previousStatus) ∧
      (run step .new (.registerAgent ⟨"cc", "claude-code", "http"⟩ :: calls)).status "cc" =
        some ((events.getLast?.map (·.newStatus)).getD .unknown) ∧
      ∀ before s newStatus now,
        before <+: .registerAgent ⟨"cc", "claude-code", "http"⟩ :: calls →
        (run step .new before).status "cc" = some s → s ≠ newStatus →
          let moved := step (run step .new before) (.updateStatus "cc" newStatus now)
          moved.1 = [⟨"cc", s, newStatus, now⟩] ∧ moved.2.status "cc" = some newStatus :=
  status_events_form_chain (by decide) _ _
    ⟨by decide, by decide, by decide, by decide, by decide, trivial⟩

theorem CodingAgentRegistry.fromConfig_eq_step (config : CodingAgentsConfig) :
    fromConfig config = (step new (.reloadFromConfig config)).2 := by
  have hround : registerMissing = fun registry agentConfig ↦
      match registry.registerAgent agentConfig with
      | .ok registry' => registry'
      | .error _ => registry := by
    funext registry agentConfig
    rw [registerMissing_eq]
    cases registry.registerAgent agentConfig <;> rfl
  rw [step, reloadFromConfig, hround]
  rfl

end AdkGateway.CodingAgent.StatusEvents
