import AdkGateway.AgentTools.Tools
import AdkGateway.Rbac.Bridge

namespace AdkGateway.AgentTools

open Foundation Rbac Router AgentRegistry

structure View where
  record : Option AgentRecord
  process : Option AgentProcess
  proxy : Option UInt16
  role : Option Role
  router : MessageRouter

def Stores.view (s : Stores) (id : String) : View :=
  ⟨s.registry.agents.lookup id, s.processes.lookup id, s.proxyPool.lookup id,
    s.rbac.accessControl.roles.lookup id, s.router⟩

namespace View

def setEntry (v : View) (entry : AgentRecord) (persist : Except String Unit) :
    View × Except RegistryError Unit :=
  ({ v with record := some entry }, answer persist ())

def exec (o : Op) (i : Input) (v : View) : View × o.Answer :=
  match o with
  | .get _ => (v, v.record)
  | .agentsToStart => (v, [])
  | .createAgent config =>
    match v.record, i.persist with
    | some _, _ => (v, .error (.alreadyExists config.id))
    | none, .error reason => (v, .error (.persistence reason))
    | none, .ok () => ({ v with record := some (newRecord config i.now) }, .ok ())
  | .transition id newState =>
    match v.record with
    | none => (v, .error (.notFound id))
    | some entry =>
      if isValidTransition entry.state newState then
        v.setEntry { entry with state := newState, updatedAt := i.now } i.persist
      else (v, .error (.invalidTransition id entry.state newState))
  | .updateConfig id config =>
    match v.record with
    | none => (v, .error (.notFound id))
    | some entry =>
      if config.id = id then v.setEntry { entry with config := config, updatedAt := i.now } i.persist
      else (v, .error (.idMismatch config.id id))
  | .deleteCheck id =>
    match v.record with
    | none => (v, .error (.notFound id))
    | some entry => (v, if entry.state.deletable then .ok () else .error (.notDeletable id entry.state))
  | .deleteRemove id =>
    match v.record with
    | none => (v, .error (.disappeared id))
    | some record => ({ v with record := none }, .ok record)
  | .build _ => (v, i.build)
  | .spawn id =>
    match v.process, i.spawn with
    | some _, _ => (v, .error ("agent '" ++ id ++ "' is already running"))
    | none, .error e => (v, .error e)
    | none, .ok port => ({ v with process := some ⟨port, true⟩ }, .ok port)
  | .waitReady id =>
    match v.process with
    | none => (v, .error (notManaged id))
    | some _ => (v, i.ready)
  | .stopProcess id _ =>
    match v.process with
    | none => (v, .error (notManaged id))
    | some _ => ({ v with process := none }, .ok ())
  | .registerProxy _ port => ({ v with proxy := some port }, ())
  | .removeProxy _ => ({ v with proxy := none }, ())
  | .registerAgent id role =>
    ({ v with role := some (Rbac.role id (.userAgent role)) },
      role.allow.filter systemTools.contains)
  | .removeAgent _ => ({ v with role := none }, ())
  | .loadRouter => (v, v.router)
  | .storeRouter router => ({ v with router := router }, ())

end View

def Op.target : Op → Option String
  | .get id => some id
  | .agentsToStart => none
  | .createAgent config => some config.id
  | .transition id _ => some id
  | .updateConfig id _ => some id
  | .deleteCheck id => some id
  | .deleteRemove id => some id
  | .build _ => none
  | .spawn id => some id
  | .waitReady id => some id
  | .stopProcess id _ => some id
  | .registerProxy id _ => some id
  | .removeProxy id => some id
  | .registerAgent id _ => some id
  | .removeAgent id => some id
  | .loadRouter => none
  | .storeRouter _ => none

/-- Operations whose effect and answer show in what the stores hold of one agent. -/
def Op.About (id : String) (o : Op) : Prop :=
  match o with
  | .agentsToStart => False
  | o => o.target = none ∨ o.target = some id

section Views

variable {id : String} {o : Op}

theorem Op.About.eq_of_target {id' : String} (h : o.About id) (ho : o.target = some id') :
    id' = id := by
  have hid : o.target = none ∨ o.target = some id := by
    cases o with
    | agentsToStart => cases h
    | _ => exact h
  rw [ho] at hid
  exact Option.some_inj.mp (hid.resolve_left nofun)

theorem exec_view (o : Op) (i : Input) (s : Stores) (h : o.About id) :
    View.exec o i (s.view id) = ((exec o i s).1.view id, (exec o i s).2) := by
  cases o with
  | agentsToStart => cases h
  | build config => rfl
  | loadRouter => rfl
  | storeRouter router => rfl
  | get id' =>
    obtain rfl := h.eq_of_target rfl
    rfl
  | createAgent config =>
    obtain rfl := h.eq_of_target rfl
    cases hlookup : s.registry.agents.lookup config.id with
    | some record =>
      simp [View.exec, Stores.view, exec, AgentRegistry.createAgent, hlookup, Except.map]
    | none =>
      cases hpersist : i.persist <;>
        simp [View.exec, Stores.view, exec, AgentRegistry.createAgent, hlookup, hpersist, Except.map]
  | transition id' newState =>
    obtain rfl := h.eq_of_target rfl
    cases hlookup : s.registry.agents.lookup id' with
    | none => simp [View.exec, Stores.view, exec, AgentRegistry.transition, hlookup]
    | some entry =>
      cases hvalid : isValidTransition entry.state newState <;>
        simp [View.exec, View.setEntry, Stores.view, exec, AgentRegistry.transition, setEntry,
          hlookup, hvalid]
  | updateConfig id' config =>
    obtain rfl := h.eq_of_target rfl
    cases hlookup : s.registry.agents.lookup id' with
    | none => simp [View.exec, Stores.view, exec, AgentRegistry.updateConfig, hlookup]
    | some entry =>
      by_cases hid : config.id = id' <;>
        simp [View.exec, View.setEntry, Stores.view, exec, AgentRegistry.updateConfig, setEntry,
          hlookup, hid]
  | deleteCheck id' =>
    obtain rfl := h.eq_of_target rfl
    cases hlookup : s.registry.agents.lookup id' <;>
      simp [View.exec, Stores.view, exec, AgentRegistry.deleteCheck, hlookup]
  | deleteRemove id' =>
    obtain rfl := h.eq_of_target rfl
    cases hlookup : s.registry.agents.lookup id' <;>
      simp [View.exec, Stores.view, exec, AgentRegistry.deleteRemove, hlookup]
  | spawn id' =>
    obtain rfl := h.eq_of_target rfl
    cases hlookup : s.processes.lookup id' with
    | some process => simp [View.exec, Stores.view, exec, hlookup]
    | none =>
      cases hspawn : i.spawn <;> simp [View.exec, Stores.view, exec, hlookup, hspawn]
  | waitReady id' =>
    obtain rfl := h.eq_of_target rfl
    cases hlookup : s.processes.lookup id' <;> simp [View.exec, Stores.view, exec, hlookup]
  | stopProcess id' n =>
    obtain rfl := h.eq_of_target rfl
    cases hlookup : s.processes.lookup id' <;> simp [View.exec, Stores.view, exec, hlookup]
  | registerProxy id' port =>
    obtain rfl := h.eq_of_target rfl
    simp [View.exec, Stores.view, exec]
  | removeProxy id' =>
    obtain rfl := h.eq_of_target rfl
    simp [View.exec, Stores.view, exec]
  | registerAgent id' role =>
    obtain rfl := h.eq_of_target rfl
    simp [View.exec, Stores.view, exec, RbacBridge.registerAgent_eq, AccessControl.addRole]
  | removeAgent id' =>
    obtain rfl := h.eq_of_target rfl
    simp [View.exec, Stores.view, exec, RbacBridge.removeAgent, AccessControl.removeRole]

structure SameAt (id : String) (s s' : Stores) : Prop where
  record : s'.registry.agents.lookup id = s.registry.agents.lookup id
  process : s'.processes.lookup id = s.processes.lookup id
  proxy : s'.proxyPool.lookup id = s.proxyPool.lookup id
  role : s'.rbac.accessControl.roles.lookup id = s.rbac.accessControl.roles.lookup id

theorem SameAt.refl (id : String) (s : Stores) : SameAt id s s := ⟨rfl, rfl, rfl, rfl⟩

theorem SameAt.trans {s s' s'' : Stores} (h : SameAt id s s') (h' : SameAt id s' s'') :
    SameAt id s s'' :=
  ⟨h'.record.trans h.record, h'.process.trans h.process, h'.proxy.trans h.proxy,
    h'.role.trans h.role⟩

theorem sameAt_setEntry {s : Stores} {id' : String} {entry : AgentRecord} (h : id ≠ id')
    (persist : Except String Unit) :
    SameAt id s { s with registry := (s.registry.setEntry id' entry persist).registry } :=
  ⟨AList.lookup_insert_ne h, rfl, rfl, rfl⟩

theorem exec_sameAt (o : Op) (i : Input) (s : Stores) (h : o.target ≠ some id) :
    SameAt id s (exec o i s).1 := by
  cases o with
  | agentsToStart => exact .refl id s
  | build config => exact .refl id s
  | loadRouter => exact .refl id s
  | storeRouter router => exact ⟨rfl, rfl, rfl, rfl⟩
  | get id' => exact .refl id s
  | deleteCheck id' => exact .refl id s
  | createAgent config =>
    have hne : id ≠ config.id := fun heq ↦ h (congrArg some heq.symm)
    obtain ⟨-, -, heq⟩ | ⟨heq, -⟩ := createAgent_cases s.registry config i.now i.persist
    · rw [exec, heq]
      exact ⟨AList.lookup_insert_ne hne, rfl, rfl, rfl⟩
    · simp only [exec, heq]
      exact .refl id s
  | transition id' newState =>
    have hne : id ≠ id' := fun heq ↦ h (congrArg some heq.symm)
    obtain ⟨entry, -, -, heq⟩ | ⟨heq, -⟩ := transition_cases s.registry id' newState i.now i.persist
    · rw [exec, heq]
      exact sameAt_setEntry hne i.persist
    · simp only [exec, heq]
      exact .refl id s
  | updateConfig id' config =>
    have hne : id ≠ id' := fun heq ↦ h (congrArg some heq.symm)
    obtain ⟨entry, -, -, heq⟩ | ⟨heq, -⟩ := updateConfig_cases s.registry id' config i.now i.persist
    · rw [exec, heq]
      exact sameAt_setEntry hne i.persist
    · simp only [exec, heq]
      exact .refl id s
  | deleteRemove id' =>
    have hne : id ≠ id' := fun heq ↦ h (congrArg some heq.symm)
    simp only [exec, AgentRegistry.deleteRemove]
    cases s.registry.agents.lookup id' with
    | none => exact .refl id s
    | some record => exact ⟨AList.lookup_erase_ne hne, rfl, rfl, rfl⟩
  | spawn id' =>
    have hne : id ≠ id' := fun heq ↦ h (congrArg some heq.symm)
    simp only [exec]
    split
    · exact .refl id s
    · cases i.spawn with
      | error e => exact .refl id s
      | ok port => exact ⟨rfl, AList.lookup_insert_ne hne, rfl, rfl⟩
  | waitReady id' =>
    simp only [exec]
    cases s.processes.lookup id' <;> exact .refl id s
  | stopProcess id' n =>
    have hne : id ≠ id' := fun heq ↦ h (congrArg some heq.symm)
    simp only [exec]
    cases s.processes.lookup id' with
    | none => exact .refl id s
    | some process => exact ⟨rfl, AList.lookup_erase_ne hne, rfl, rfl⟩
  | registerProxy id' port =>
    exact ⟨rfl, rfl, AList.lookup_insert_ne fun heq ↦ h (congrArg some heq.symm), rfl⟩
  | removeProxy id' =>
    exact ⟨rfl, rfl, AList.lookup_erase_ne fun heq ↦ h (congrArg some heq.symm), rfl⟩
  | registerAgent id' role =>
    exact ⟨rfl, rfl, rfl, AList.lookup_insert_ne fun heq ↦ h (congrArg some heq.symm)⟩
  | removeAgent id' =>
    exact ⟨rfl, rfl, rfl, AList.lookup_erase_ne fun heq ↦ h (congrArg some heq.symm)⟩

theorem exec_systemAgentId (o : Op) (i : Input) (s : Stores) :
    (exec o i s).1.registry.systemAgentId = s.registry.systemAgentId := by
  cases o with
  | createAgent config =>
    obtain ⟨-, -, heq⟩ | ⟨heq, -⟩ := createAgent_cases s.registry config i.now i.persist <;>
      simp only [exec, heq]
  | transition id' newState =>
    obtain ⟨entry, -, -, heq⟩ | ⟨heq, -⟩ := transition_cases s.registry id' newState i.now i.persist <;>
      simp only [exec, heq, setEntry]
  | updateConfig id' config =>
    obtain ⟨entry, -, -, heq⟩ | ⟨heq, -⟩ := updateConfig_cases s.registry id' config i.now i.persist <;>
      simp only [exec, heq, setEntry]
  | deleteRemove id' =>
    simp only [exec, AgentRegistry.deleteRemove]
    cases s.registry.agents.lookup id' <;> rfl
  | spawn id' =>
    simp only [exec]
    split
    · rfl
    · cases i.spawn <;> rfl
  | waitReady id' =>
    simp only [exec]
    cases s.processes.lookup id' <;> rfl
  | stopProcess id' n =>
    simp only [exec]
    cases s.processes.lookup id' <;> rfl
  | _ => rfl

end Views

section Codes

variable {α : Type} {id : String} {m : Code α} (env : Op → Input) (s : Stores)

/-- Code about one agent does to it what it does to what the stores hold of it. -/
theorem run_view (h : m.Only (Op.About id)) :
    m.run View.exec env (s.view id) = ((m.run exec env s).1.view id, (m.run exec env s).2) :=
  Script.run_map exec env exec_view h s

theorem run_sameAt {id' : String} (h : m.Only (Op.About id)) (hne : id' ≠ id) :
    SameAt id' s (m.run exec env s).1 := by
  refine Script.run_keeps exec env (p := Op.About id) (fun o i s' ho hs' ↦ hs'.trans ?_) h
    (.refl id' s)
  refine exec_sameAt o i s' fun htarget ↦ hne ?_
  exact ho.eq_of_target htarget

theorem run_systemAgentId {p : Op → Prop} (h : m.Only p) :
    (m.run exec env s).1.registry.systemAgentId = s.registry.systemAgentId :=
  Script.run_keeps exec env (I := fun s' ↦ s'.registry.systemAgentId = s.registry.systemAgentId)
    (fun o i s' _ hs' ↦ (exec_systemAgentId o i s').trans hs') h rfl

end Codes

section Tools

variable {F : Formats} {id : String} {config : AgentConfig}

theorem only_call {p : Op → Prop} {o : Op} {α : Type} {f : o.Answer → Code α} (h : p o)
    (hf : ∀ a, (f a).Only p) : (call o >>= f).Only p :=
  Script.only_bind (Script.only_perform h) hf

theorem about_changeRouter (change : MessageRouter → MessageRouter) :
    (changeRouter change).Only (Op.About id) :=
  only_call (.inl rfl) fun _ ↦ Script.only_perform (.inl rfl)

theorem about_delete : (delete id).Only (Op.About id) := by
  refine only_call (.inr rfl) fun checked ↦ ?_
  cases checked with
  | error e => trivial
  | ok => exact Script.only_perform (.inr rfl)

theorem about_halt : (halt F id).Only (Op.About id) := by
  refine only_call (.inr rfl) fun stopping ↦ ?_
  cases stopping with
  | error e => trivial
  | ok =>
    refine only_call (.inr rfl) fun _ ↦ only_call (.inr rfl) fun _ ↦ ?_
    refine Script.only_bind (about_changeRouter _) fun _ ↦ ?_
    exact only_call (.inr rfl) fun _ ↦ trivial

theorem about_launch (during : String) : (launch id config during).Only (Op.About id) := by
  refine only_call (.inl rfl) fun built ↦ ?_
  cases built with
  | error e => exact only_call (.inr rfl) fun _ ↦ trivial
  | ok path =>
    refine only_call (.inr rfl) fun spawned ↦ ?_
    cases spawned with
    | error e => exact only_call (.inr rfl) fun _ ↦ trivial
    | ok port =>
      refine only_call (.inr rfl) fun ready ↦ ?_
      cases ready with
      | error e =>
        exact only_call (.inr rfl) fun _ ↦ only_call (.inr rfl) fun _ ↦
          only_call (.inr rfl) fun _ ↦ trivial
      | ok => exact only_call (.inr rfl) fun _ ↦ trivial

theorem about_stopAgent : (stopAgent F id).Only (Op.About id) := by
  refine only_call (.inr rfl) fun entry ↦ ?_
  cases entry with
  | none => trivial
  | some entry =>
    refine Script.only_bind about_halt fun halted ↦ ?_
    cases halted <;> trivial

theorem about_startAgent : (startAgent F id).Only (Op.About id) := by
  refine only_call (.inr rfl) fun entry ↦ ?_
  cases entry with
  | none => trivial
  | some entry =>
    refine only_call (.inr rfl) fun starting ↦ ?_
    cases starting with
    | error e => trivial
    | ok =>
      refine Script.only_bind (about_launch _) fun launched ↦ ?_
      cases launched with
      | error failure => trivial
      | ok port =>
        refine only_call (.inr rfl) fun _ ↦ ?_
        dsimp only
        split
        · exact Script.only_bind (about_changeRouter _) fun _ ↦ only_call (.inr rfl) fun _ ↦ trivial
        · exact only_call (.inr rfl) fun _ ↦ trivial

theorem about_deleteAgent : (deleteAgent F id).Only (Op.About id) := by
  refine Script.only_bind about_delete fun deleted ↦ ?_
  cases deleted with
  | error e => trivial
  | ok record =>
    refine only_call (.inr rfl) fun _ ↦ ?_
    exact Script.only_bind (about_changeRouter _) fun _ ↦ trivial

theorem about_restart : (restart F id config).Only (Op.About id) := by
  refine only_call (.inr rfl) fun starting ↦ ?_
  cases starting with
  | error e => trivial
  | ok =>
    refine Script.only_bind (about_launch _) fun launched ↦ ?_
    cases launched with
    | error failure => trivial
    | ok port =>
      dsimp only
      split
      · exact Script.only_bind (about_changeRouter _) fun _ ↦ only_call (.inr rfl) fun _ ↦ trivial
      · exact only_call (.inr rfl) fun _ ↦ trivial

theorem about_reconfigure (wasRunning : Bool) (oldBindings : List ChannelBinding) :
    (reconfigure F id config wasRunning oldBindings).Only (Op.About id) := by
  have hrest : (if wasRunning then restart F id config
      else pure (.ok (.object [("configured", .bool true), ("restarted", .bool false),
        ("agent_id", .string id), ("state", .string "Configured")])) : Tool).Only
          (Op.About id) := by
    cases wasRunning with
    | true => exact about_restart
    | false => trivial
  refine only_call (.inr rfl) fun updated ↦ ?_
  cases updated with
  | error e => trivial
  | ok =>
    refine only_call (.inr rfl) fun _ ↦ ?_
    dsimp only
    split
    · exact Script.only_bind (about_changeRouter _) fun _ ↦ hrest
    · exact hrest

theorem about_configureAgent : (configureAgent F id config).Only (Op.About id) := by
  refine only_call (.inr rfl) fun entry ↦ ?_
  cases entry with
  | none => trivial
  | some entry =>
    dsimp only
    split
    · refine Script.only_bind about_halt fun halted ↦ ?_
      cases halted with
      | error e => trivial
      | ok => exact about_reconfigure true _
    · exact about_reconfigure false _

theorem about_autoStartAgent : (autoStartAgent id).Only (Op.About id) := by
  refine only_call (.inr rfl) fun starting ↦ ?_
  cases starting with
  | error e => trivial
  | ok =>
    refine only_call (.inr rfl) fun entry ↦ ?_
    cases entry with
    | none => trivial
    | some entry =>
      refine only_call (.inl rfl) fun built ↦ ?_
      cases built with
      | error e => exact only_call (.inr rfl) fun _ ↦ trivial
      | ok path =>
        refine only_call (.inr rfl) fun spawned ↦ ?_
        cases spawned with
        | error e => exact only_call (.inr rfl) fun _ ↦ trivial
        | ok port => exact only_call (.inr rfl) fun _ ↦ only_call (.inr rfl) fun _ ↦ trivial

end Tools

end AdkGateway.AgentTools
