import AdkGateway.AgentTools.Sequence
import AdkGateway.Foundation.Machine

namespace AdkGateway.AgentTools

open Foundation Interleaving Router AgentRegistry

inductive RouterCall
  | agentStart (args : Json)
  | agentStop (args : Json)
  | agentConfigure (args : Json)
  | agentDelete (args : Json)
  | autoStart
  | reloadRouting (bindings : List Router.RoutingBinding) (defaultAgent : String)

def reloadRouting (bindings : List Router.RoutingBinding) (defaultAgent : String) : Code Unit :=
  call (.storeRouter (MessageRouter.new bindings defaultAgent))

def RouterCall.code (F : Formats) : RouterCall → Code Unit
  | .agentStart args => discard (AgentTools.agentStart F args)
  | .agentStop args => discard (AgentTools.agentStop F args)
  | .agentConfigure args => discard (AgentTools.agentConfigure F args)
  | .agentDelete args => discard (AgentTools.agentDelete F args)
  | .autoStart => AgentTools.autoStart
  | .reloadRouting bindings defaultAgent => AgentTools.reloadRouting bindings defaultAgent

def RouterCall.isAutoStart : RouterCall → Bool
  | .autoStart => true
  | _ => false

abbrev AgentThread := Thread Stores RouterCall Op Op.Answer Unit

abbrev AgentConfigs := Config Stores AgentThread (Occurrence Stores RouterCall Op Op.Answer)

abbrev concurrent (F : Formats) : Program Stores RouterCall AgentThread Unit Input
    (Occurrence Stores RouterCall Op Op.Answer) := Threads.program exec (RouterCall.code F)

section Bindings

def bindingsOf (router : MessageRouter) (id : String) : List AgentBinding :=
  router.agentBindings.filter fun b ↦ b.agentId == id

def toAgent (id : String) (channelBindings : List ChannelBinding) : List AgentBinding :=
  channelBindings.map fun cb ↦ ⟨cb.channelType, cb.accountId, cb.peerFilter, id⟩

def expected (id : String) : Option AgentRecord → List AgentBinding
  | some record => if record.state = .running then toAgent id record.config.channelBindings else []
  | none => []

def Bound (s : Stores) (id : String) : Prop :=
  bindingsOf s.router id = expected id (s.registry.agents.lookup id)

def BindingsFollow (s : Stores) : Prop := ∀ id, Bound s id

variable {id : String} {router : MessageRouter} {channelBindings : List ChannelBinding}

@[simp] theorem bindingsOf_new (bindings : List Router.RoutingBinding) (defaultAgent : String) :
    bindingsOf (MessageRouter.new bindings defaultAgent) id = [] := rfl

theorem bindingsOf_add : bindingsOf (router.addAgentBindings id channelBindings) id =
    bindingsOf router id ++ toAgent id channelBindings := by
  have hall : (toAgent id channelBindings).filter (fun b ↦ b.agentId == id) =
      toAgent id channelBindings := by
    rw [List.filter_eq_self]
    intro b hb
    obtain ⟨cb, -, rfl⟩ := List.mem_map.mp hb
    exact beq_self_eq_true id
  rw [bindingsOf, MessageRouter.addAgentBindings, List.filter_append, ← hall]
  rfl

theorem bindingsOf_add_ne {id' : String} (h : id' ≠ id) :
    bindingsOf (router.addAgentBindings id' channelBindings) id = bindingsOf router id := by
  have hnone : (toAgent id' channelBindings).filter (fun b ↦ b.agentId == id) = [] := by
    rw [List.filter_eq_nil_iff]
    intro b hb
    obtain ⟨cb, -, rfl⟩ := List.mem_map.mp hb
    simpa using h
  rw [bindingsOf, MessageRouter.addAgentBindings, List.filter_append]
  exact (congrArg _ hnone).trans (List.append_nil _)

theorem bindingsOf_remove : bindingsOf (router.removeAgentBindings id) id = [] := by
  rw [bindingsOf, MessageRouter.removeAgentBindings, List.filter_filter, List.filter_eq_nil_iff]
  intro b _
  simp

theorem bindingsOf_update : bindingsOf (router.updateAgentBindings id channelBindings) id =
    toAgent id channelBindings := by
  rw [MessageRouter.updateAgentBindings, bindingsOf_add, bindingsOf_remove, List.nil_append]

end Bindings

section Work

def Op.takesOver (s : Stores) : Op → Option String
  | .transition id newState =>
    match s.registry.agents.lookup id with
    | none => none
    | some record =>
      if (newState = .starting ∨ newState = .stopping) ∧ isValidTransition record.state newState then
        some id
      else none
  | .updateConfig id config =>
    if s.registry.agents.lookup id ≠ none ∧ config.id = id then some id else none
  | .deleteRemove id => if s.registry.agents.lookup id ≠ none then some id else none
  | _ => none

def atWork (past : List (Done Stores Op Op.Answer)) : Option String :=
  past.foldl (fun work done ↦ (done.op.takesOver done.state).or work) none

def workOf (p : AgentThread) : Option String :=
  match p.code with
  | .ret _ => none
  | .op _ _ => atWork p.past

def noteSeen (seen : String → Option AgentRecord) : (o : Op) → o.Answer → String → Option AgentRecord
  | .get id, record => Function.update seen id record
  | _, _ => seen

def seenOf (past : List (Done Stores Op Op.Answer)) : String → Option AgentRecord :=
  past.foldl (fun seen done ↦ noteSeen seen done.op done.answer) fun _ ↦ none

end Work

section Conditions

/-- The definition that a call has read of the agent has the bindings that it has now. -/
def UpToDate (p : AgentThread) (id : String) (record : AgentRecord) : Prop :=
  ∀ seen, seenOf p.past id = some seen →
    record.config.channelBindings = seen.config.channelBindings

def Alone (c : AgentConfigs) (p : AgentThread) (o : Op) : Prop :=
  ∀ id, o.takesOver c.shared = some id → atWork p.past ≠ some id →
    ∀ q, Beside c.inFlight p q → workOf q ≠ some id

/-- A change of state that is not written or is to an error leaves no bindings behind; a start uses
the definition as it is; and an agent that is started with the gateway has no bindings. -/
def SoundTransition (c : AgentConfigs) (p : AgentThread) (i : Input) (id : String)
    (record : AgentRecord) : LifecycleState → Prop
  | .starting => (i.persist ≠ .ok () → bindingsOf c.shared.router id = []) ∧
    (atWork p.past ≠ some id → UpToDate p id record)
  | .stopping => i.persist ≠ .ok () → bindingsOf c.shared.router id = []
  | .error _ => bindingsOf c.shared.router id = []
  | .running => p.call.isAutoStart = true → record.config.channelBindings = []
  | _ => True

/-- An agent that was not running when it was to be configured still is not, and gets the bindings
that it has or none; and a router that is stored has the bindings of all other agents as they are. -/
def Sound (c : AgentConfigs) (p : AgentThread) (i : Input) : Op → Prop
  | .transition id newState => ∀ record, c.shared.registry.agents.lookup id = some record →
    isValidTransition record.state newState = true → SoundTransition c p i id record newState
  | .updateConfig id config => atWork p.past ≠ some id →
    ∀ record, c.shared.registry.agents.lookup id = some record → config.id = id →
      record.state ≠ .running ∧ UpToDate p id record ∧
        (config.channelBindings = record.config.channelBindings ∨ config.channelBindings = [])
  | .storeRouter router => ∀ id, atWork p.past ≠ some id →
    bindingsOf router id = bindingsOf c.shared.router id
  | _ => True

def Undisturbed (c : AgentConfigs) : Label RouterCall AgentThread Input → Prop
  | .call _ => True
  | .act p i =>
    match p.code with
    | .ret _ => True
    | .op o _ => Alone c p o ∧ Sound c p i o

end Conditions

section Frames

variable {s : Stores} {o : Op} {i : Input} {id : String}

def Op.rewrites (s : Stores) : Op → Option String
  | .createAgent config => some config.id
  | .transition id newState =>
    match s.registry.agents.lookup id with
    | none => none
    | some record => if isValidTransition record.state newState then some id else none
  | .updateConfig id config =>
    if s.registry.agents.lookup id ≠ none ∧ config.id = id then some id else none
  | .deleteRemove id => if s.registry.agents.lookup id ≠ none then some id else none
  | _ => none

theorem exec_record (h : o.rewrites s ≠ some id) :
    (exec o i s).1.registry.agents.lookup id = s.registry.agents.lookup id := by
  by_cases htarget : o.target = some id
  · cases o with
    | createAgent config => exact absurd htarget h
    | transition id' newState =>
      obtain rfl := Option.some_inj.mp htarget
      obtain ⟨entry, hentry, hvalid, -⟩ | ⟨heq, -⟩ :=
        transition_cases s.registry id' newState i.now i.persist
      · simp [Op.rewrites, hentry, hvalid] at h
      · simp only [exec, heq]
    | updateConfig id' config =>
      obtain rfl := Option.some_inj.mp htarget
      obtain ⟨entry, hentry, hid, -⟩ | ⟨heq, -⟩ :=
        updateConfig_cases s.registry id' config i.now i.persist
      · simp [Op.rewrites, hentry, hid] at h
      · simp only [exec, heq]
    | deleteRemove id' =>
      obtain rfl := Option.some_inj.mp htarget
      cases hrecord : s.registry.agents.lookup id' with
      | none => simp only [exec, AgentRegistry.deleteRemove, hrecord]
      | some record => simp [Op.rewrites, hrecord] at h
    | spawn id' =>
      simp only [exec]
      split
      · rfl
      · cases i.spawn <;> rfl
    | waitReady id' =>
      simp only [exec]
      cases s.processes.lookup id' <;> rfl
    | stopProcess id' drainSeconds =>
      simp only [exec]
      cases s.processes.lookup id' <;> rfl
    | _ => rfl
  · exact (exec_sameAt o i s htarget).record

theorem exec_router (h : ∀ router, o ≠ .storeRouter router) : (exec o i s).1.router = s.router := by
  cases o with
  | storeRouter router => exact absurd rfl (h router)
  | spawn id' =>
    simp only [exec]
    split
    · rfl
    · cases i.spawn <;> rfl
  | waitReady id' =>
    simp only [exec]
    cases s.processes.lookup id' <;> rfl
  | stopProcess id' drainSeconds =>
    simp only [exec]
    cases s.processes.lookup id' <;> rfl
  | _ => rfl

theorem atWork_perform (past : List (Done Stores Op Op.Answer)) (a : o.Answer) :
    atWork (past ++ [⟨s, o, a⟩]) = (o.takesOver s).or (atWork past) := by
  simp [atWork]

theorem seenOf_perform (past : List (Done Stores Op Op.Answer)) (a : o.Answer) :
    seenOf (past ++ [⟨s, o, a⟩]) = noteSeen (seenOf past) o a := by
  simp [seenOf]

end Frames

end AdkGateway.AgentTools
