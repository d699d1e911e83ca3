import AdkGateway.AgentRegistry.Registry

namespace AdkGateway

open Foundation

def isValidTransition : LifecycleState → LifecycleState → Bool
  | .created, .starting => true
  | .starting, .running => true
  | .starting, .error _ => true
  | .running, .stopping => true
  | .running, .error _ => true
  | .stopping, .stopped => true
  | .stopped, .starting => true
  | .error _, .starting => true
  | _, _ => false

namespace LifecycleState

def debug (debugStr : String → String) : LifecycleState → String
  | .created => "Created"
  | .starting => "Starting"
  | .running => "Running"
  | .stopping => "Stopping"
  | .stopped => "Stopped"
  | .error message => "Error \x7b message: " ++ debugStr message ++ " \x7d"

def deletable : LifecycleState → Bool
  | .stopped => true
  | .error _ => true
  | _ => false

end LifecycleState

namespace AgentRegistry

inductive RegistryError
  | alreadyExists (id : String)
  | systemAgentExists
  | notFound (id : String)
  | invalidTransition (id : String) (old new : LifecycleState)
  | idMismatch (configId id : String)
  | notDeletable (id : String) (state : LifecycleState)
  | disappeared (id : String)
  | persistence (reason : String)
  deriving DecidableEq

def RegistryError.message (debugStr : String → String) : RegistryError → String
  | .alreadyExists id => "agent with id '" ++ id ++ "' already exists"
  | .systemAgentExists => "a system agent already exists"
  | .notFound id => "agent '" ++ id ++ "' not found"
  | .invalidTransition id old new =>
    "invalid state transition for '" ++ id ++ "': " ++ old.debug debugStr ++ " → " ++
      new.debug debugStr
  | .idMismatch configId id =>
    "config id '" ++ configId ++ "' does not match agent id '" ++ id ++ "'"
  | .notDeletable id state =>
    "cannot delete agent '" ++ id ++ "' in state " ++ state.debug debugStr ++
      " — must be Stopped or Error"
  | .disappeared id => "agent '" ++ id ++ "' disappeared during delete"
  | .persistence reason => reason

structure Called (α : Type) where
  result : Except RegistryError α
  registry : AgentRegistry
  persisted : Option AgentRecord

def new : AgentRegistry := ⟨∅, none⟩

/-- What `persist` answers, as the answer of the call. -/
def answer {α : Type} (persist : Except String Unit) (value : α) : Except RegistryError α :=
  match persist with
  | .ok () => .ok value
  | .error reason => .error (.persistence reason)

def newRecord (config : AgentConfig) (now : DateTime) : AgentRecord :=
  ⟨config, .created, none, none, now, now⟩

def createAgent (registry : AgentRegistry) (config : AgentConfig) (now : DateTime)
    (persist : Except String Unit) : Called String :=
  match registry.agents.lookup config.id with
  | some _ => ⟨.error (.alreadyExists config.id), registry, none⟩
  | none =>
    let record := newRecord config now
    match persist with
    | .error reason => ⟨.error (.persistence reason), registry, some record⟩
    | .ok () =>
      ⟨.ok config.id, { registry with agents := registry.agents.insert config.id record },
        some record⟩

def registerSystemAgent (registry : AgentRegistry) (config : AgentConfig) (now : DateTime)
    (persist : Except String Unit) : Called Unit :=
  match registry.systemAgentId with
  | some _ => ⟨.error .systemAgentExists, registry, none⟩
  | none =>
    let record := newRecord { config with role := ⟨["*"], []⟩ } now
    match persist with
    | .error reason => ⟨.error (.persistence reason), registry, some record⟩
    | .ok () => ⟨.ok (), ⟨registry.agents.insert config.id record, some config.id⟩, some record⟩

def setEntry (registry : AgentRegistry) (id : String) (entry : AgentRecord)
    (persist : Except String Unit) : Called Unit :=
  ⟨answer persist (), { registry with agents := registry.agents.insert id entry }, some entry⟩

def transition (registry : AgentRegistry) (id : String) (newState : LifecycleState) (now : DateTime)
    (persist : Except String Unit) : Called Unit :=
  match registry.agents.lookup id with
  | none => ⟨.error (.notFound id), registry, none⟩
  | some entry =>
    if isValidTransition entry.state newState then
      registry.setEntry id { entry with state := newState, updatedAt := now } persist
    else ⟨.error (.invalidTransition id entry.state newState), registry, none⟩

def forceState (registry : AgentRegistry) (id : String) (newState : LifecycleState) (now : DateTime)
    (persist : Except String Unit) : Called Unit :=
  match registry.agents.lookup id with
  | none => ⟨.error (.notFound id), registry, none⟩
  | some entry => registry.setEntry id { entry with state := newState, updatedAt := now } persist

def updateConfig (registry : AgentRegistry) (id : String) (config : AgentConfig) (now : DateTime)
    (persist : Except String Unit) : Called Unit :=
  match registry.agents.lookup id with
  | none => ⟨.error (.notFound id), registry, none⟩
  | some entry =>
    if config.id = id then
      registry.setEntry id { entry with config := config, updatedAt := now } persist
    else ⟨.error (.idMismatch config.id id), registry, none⟩

/-- The first of the two accesses of `delete`. -/
def deleteCheck (registry : AgentRegistry) (id : String) : Except RegistryError Unit :=
  match registry.agents.lookup id with
  | none => .error (.notFound id)
  | some entry => if entry.state.deletable then .ok () else .error (.notDeletable id entry.state)

/-- The second: the record goes, whatever its state is by then. -/
def deleteRemove (registry : AgentRegistry) (id : String) :
    Except RegistryError AgentRecord × AgentRegistry :=
  match registry.agents.lookup id with
  | none => (.error (.disappeared id), registry)
  | some record => (.ok record, { registry with agents := registry.agents.erase id })

def delete (registry : AgentRegistry) (id : String) :
    Except RegistryError AgentRecord × AgentRegistry :=
  match registry.deleteCheck id with
  | .error e => (.error e, registry)
  | .ok () => registry.deleteRemove id

section Effects

variable {registry : AgentRegistry} {persist : Except String Unit} {id : String}
  {config : AgentConfig} {newState : LifecycleState} {now : DateTime}

/-- A call of `create_agent` files a new record, or leaves the registry as it is. -/
theorem createAgent_cases (registry : AgentRegistry) (config : AgentConfig) (now : DateTime)
    (persist : Except String Unit) :
    (registry.agents.lookup config.id = none ∧ persist = .ok () ∧
      registry.createAgent config now persist = ⟨.ok config.id,
        { registry with agents := registry.agents.insert config.id (newRecord config now) },
        some (newRecord config now)⟩) ∨
    ((registry.createAgent config now persist).registry = registry ∧
      (∃ e, (registry.createAgent config now persist).result = .error e) ∧
      ∀ record, (registry.createAgent config now persist).persisted = some record →
        registry.agents.lookup config.id = none ∧ record = newRecord config now ∧
        persist ≠ .ok ()) := by
  rw [createAgent]
  cases hlookup : registry.agents.lookup config.id with
  | some record => exact .inr ⟨rfl, ⟨_, rfl⟩, nofun⟩
  | none =>
    cases persist with
    | ok => exact .inl ⟨rfl, rfl, rfl⟩
    | error reason =>
      refine .inr ⟨rfl, ⟨_, rfl⟩, fun record h ↦ ⟨rfl, ?_, nofun⟩⟩
      exact (Option.some_inj.mp h).symm

/-- A call of `register_system_agent` files a new record, whatever is there under its id, or leaves
the registry as it is. -/
theorem registerSystemAgent_cases (registry : AgentRegistry) (config : AgentConfig) (now : DateTime)
    (persist : Except String Unit) :
    (registry.systemAgentId = none ∧ persist = .ok () ∧
      (registry.registerSystemAgent config now persist).registry =
        ⟨registry.agents.insert config.id (newRecord { config with role := ⟨["*"], []⟩ } now),
          some config.id⟩ ∧
      (registry.registerSystemAgent config now persist).result = .ok ()) ∨
    ((registry.registerSystemAgent config now persist).registry = registry ∧
      (∃ e, (registry.registerSystemAgent config now persist).result = .error e) ∧
      (registry.systemAgentId ≠ none ∨ persist ≠ .ok ())) := by
  rw [registerSystemAgent]
  cases registry.systemAgentId with
  | some id => exact .inr ⟨rfl, ⟨_, rfl⟩, .inl nofun⟩
  | none =>
    cases persist with
    | ok => exact .inl ⟨rfl, rfl, rfl, rfl⟩
    | error reason => exact .inr ⟨rfl, ⟨_, rfl⟩, .inr nofun⟩

/-- A call of `transition` sets the state as the life cycle allows, or leaves all as it is. -/
theorem transition_cases (registry : AgentRegistry) (id : String) (newState : LifecycleState)
    (now : DateTime) (persist : Except String Unit) :
    (∃ entry, registry.agents.lookup id = some entry ∧
      isValidTransition entry.state newState = true ∧
      registry.transition id newState now persist =
        registry.setEntry id { entry with state := newState, updatedAt := now } persist) ∨
    ((registry.transition id newState now persist).registry = registry ∧
      (registry.transition id newState now persist).persisted = none ∧
      (∃ e, (registry.transition id newState now persist).result = .error e) ∧
      ∀ entry, registry.agents.lookup id = some entry →
        isValidTransition entry.state newState = false) := by
  rw [transition]
  cases hlookup : registry.agents.lookup id with
  | none => exact .inr ⟨rfl, rfl, ⟨_, rfl⟩, nofun⟩
  | some entry =>
    cases hvalid : isValidTransition entry.state newState with
    | true => exact .inl ⟨entry, rfl, hvalid, by simp [hvalid]⟩
    | false =>
      simp only [hvalid]
      refine .inr ⟨rfl, rfl, ⟨_, rfl⟩, fun entry' h ↦ ?_⟩
      rw [← Option.some_inj.mp h]
      exact hvalid

theorem forceState_cases (registry : AgentRegistry) (id : String) (newState : LifecycleState)
    (now : DateTime) (persist : Except String Unit) :
    (∃ entry, registry.agents.lookup id = some entry ∧
      registry.forceState id newState now persist =
        registry.setEntry id { entry with state := newState, updatedAt := now } persist) ∨
    ((registry.forceState id newState now persist).registry = registry ∧
      (registry.forceState id newState now persist).persisted = none ∧
      (∃ e, (registry.forceState id newState now persist).result = .error e) ∧
      registry.agents.lookup id = none) := by
  rw [forceState]
  cases registry.agents.lookup id with
  | none => exact .inr ⟨rfl, rfl, ⟨_, rfl⟩, rfl⟩
  | some entry => exact .inl ⟨entry, rfl, rfl⟩

/-- A call of `update_config` sets the definition of the agent that it names, or leaves all as it
is. -/
theorem updateConfig_cases (registry : AgentRegistry) (id : String) (config : AgentConfig)
    (now : DateTime) (persist : Except String Unit) :
    (∃ entry, registry.agents.lookup id = some entry ∧ config.id = id ∧
      registry.updateConfig id config now persist =
        registry.setEntry id { entry with config := config, updatedAt := now } persist) ∨
    ((registry.updateConfig id config now persist).registry = registry ∧
      (registry.updateConfig id config now persist).persisted = none ∧
      (∃ e, (registry.updateConfig id config now persist).result = .error e) ∧
      ∀ entry, registry.agents.lookup id = some entry → config.id ≠ id) := by
  rw [updateConfig]
  cases registry.agents.lookup id with
  | none => exact .inr ⟨rfl, rfl, ⟨_, rfl⟩, nofun⟩
  | some entry =>
    by_cases hid : config.id = id
    · exact .inl ⟨entry, rfl, hid, by simp [hid]⟩
    · refine .inr ?_
      simp only [if_neg hid]
      exact ⟨trivial, trivial, ⟨_, rfl⟩, fun _ _ ↦ hid⟩

theorem deleteCheck_eq_ok_iff : registry.deleteCheck id = .ok () ↔
    ∃ entry, registry.agents.lookup id = some entry ∧ entry.state.deletable = true := by
  rw [deleteCheck]
  cases registry.agents.lookup id with
  | none => simp
  | some entry => cases hstate : entry.state.deletable <;> simp [hstate]

/-- A call of `delete` removes a record in one of the two states, or leaves all as it is. -/
theorem delete_cases (registry : AgentRegistry) (id : String) :
    (∃ record, registry.agents.lookup id = some record ∧ record.state.deletable = true ∧
      registry.delete id = (.ok record, { registry with agents := registry.agents.erase id })) ∨
    ((∃ e, registry.delete id = (.error e, registry)) ∧
      ∀ record, registry.agents.lookup id = some record → record.state.deletable = false) := by
  rw [delete, deleteCheck, deleteRemove]
  cases registry.agents.lookup id with
  | none => exact .inr ⟨⟨_, rfl⟩, nofun⟩
  | some record =>
    cases hstate : record.state.deletable with
    | true => exact .inl ⟨record, rfl, hstate, by simp [hstate]⟩
    | false =>
      simp only [hstate]
      refine .inr ⟨⟨_, rfl⟩, fun record' h ↦ ?_⟩
      rw [← Option.some_inj.mp h]
      exact hstate

end Effects

end AgentRegistry

end AdkGateway
