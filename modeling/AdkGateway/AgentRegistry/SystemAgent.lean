import AdkGateway.AgentRegistry.Operations
import AdkGateway.Foundation.Machine

namespace AdkGateway.AgentRegistry

open Foundation Machine

inductive Inserter
  | registerSystemAgent
  | createAgent
  deriving DecidableEq

structure Traced where
  registry : AgentRegistry
  inserters : KeyedMap String Inserter

inductive Operation
  | registerSystemAgent (config : AgentConfig)
  | createAgent (config : AgentConfig)
  | updateConfig (id : String) (config : AgentConfig)
  | transition (id : String) (newState : LifecycleState)
  | delete (id : String)

/-- An operation at a time, and what `persist` answers if it is called. -/
structure Request where
  operation : Operation
  now : DateTime
  persist : Except String Unit

namespace Traced

def new : Traced := ⟨AgentRegistry.new, ∅⟩

def apply (s : Traced) (request : Request) : Traced :=
  match request.operation with
  | .registerSystemAgent config =>
    let called := s.registry.registerSystemAgent config request.now request.persist
    match called.result with
    | .ok () => ⟨called.registry, s.inserters.insert config.id .registerSystemAgent⟩
    | .error _ => ⟨called.registry, s.inserters⟩
  | .createAgent config =>
    let called := s.registry.createAgent config request.now request.persist
    match called.result with
    | .ok id => ⟨called.registry, s.inserters.insert id .createAgent⟩
    | .error _ => ⟨called.registry, s.inserters⟩
  | .updateConfig id config =>
    ⟨(s.registry.updateConfig id config request.now request.persist).registry, s.inserters⟩
  | .transition id newState =>
    ⟨(s.registry.transition id newState request.now request.persist).registry, s.inserters⟩
  | .delete id =>
    match s.registry.delete id with
    | (.ok _, registry) => ⟨registry, s.inserters.erase id⟩
    | (.error _, registry) => ⟨registry, s.inserters⟩

/-- Each step tells the state before it, the request and the state after it. -/
def step (s : Traced) (request : Request) : (Traced × Request × Traced) × Traced :=
  ((s, request, s.apply request), s.apply request)

end Traced

def Unrestricted (role : AgentRoleConfig) : Prop := "*" ∈ role.allow ∧ role.deny = []

structure Intact (s : Traced) : Prop where
  unique : ∀ id id', s.registry.isSystemAgent id = true → s.registry.isSystemAgent id' = true →
    id = id'
  present : ∀ id, s.registry.isSystemAgent id = true → ∃ record,
    s.registry.agents.lookup id = some record ∧
      s.inserters.lookup id = some .registerSystemAgent ∧ Unrestricted record.config.role
  notCreated : ∀ id, s.inserters.lookup id = some .createAgent →
    s.registry.isSystemAgent id = false

/-- The state after a step is intact, and no agent has been replaced by the system agent. -/
def Preserved : Traced × Request × Traced → Prop
  | (before, request, after) => Intact after ∧ ∀ config,
      request.operation = .registerSystemAgent config →
      before.registry.agents.lookup config.id ≠ none → after.registry = before.registry

/-- The system agent is registered under an id of its own, keeps its role and is not deleted. -/
def Harmless (s : Traced) (request : Request) : Prop :=
  match request.operation with
  | .registerSystemAgent config => s.registry.systemAgentId = none → request.persist = .ok () →
      s.registry.agents.lookup config.id = none
  | .updateConfig id config => s.registry.isSystemAgent id = true → config.id = id →
      Unrestricted config.role
  | .delete id => s.registry.isSystemAgent id = true →
      ∀ record, s.registry.agents.lookup id = some record → record.state.deletable = false
  | _ => True

section Steps

variable {s : Traced} {id : String} {now : DateTime} {persist : Except String Unit}

theorem isSystemAgent_iff {registry : AgentRegistry} :
    registry.isSystemAgent id = true ↔ registry.systemAgentId = some id := by
  rw [isSystemAgent]
  cases registry.systemAgentId with
  | none => exact iff_of_false Bool.false_ne_true nofun
  | some id' => simp

theorem unique_systemAgent (registry : AgentRegistry) (id id' : String)
    (h : registry.isSystemAgent id = true) (h' : registry.isSystemAgent id' = true) : id = id' :=
  Option.some_inj.mp ((isSystemAgent_iff.mp h).symm.trans (isSystemAgent_iff.mp h'))

theorem intact_new : Intact Traced.new := by
  refine ⟨unique_systemAgent _, fun id h ↦ ?_, fun id h ↦ ?_⟩
  · cases isSystemAgent_iff.mp h
  · cases (AList.lookup_empty id).symm.trans h

/-- Two parts of the invariant follow from the third. -/
theorem intact_of_present (h : ∀ id, s.registry.isSystemAgent id = true → ∃ record,
    s.registry.agents.lookup id = some record ∧
      s.inserters.lookup id = some .registerSystemAgent ∧ Unrestricted record.config.role) :
    Intact s := by
  refine ⟨unique_systemAgent _, h, fun id hcreated ↦ ?_⟩
  by_contra hsystem
  obtain ⟨record, -, hinserter, -⟩ := h id (eq_true_of_ne_false hsystem)
  cases hcreated.symm.trans hinserter

theorem intact_setEntry_iff {entry : AgentRecord} (h : Intact s) :
    Intact ⟨(s.registry.setEntry id entry persist).registry, s.inserters⟩ ↔
      (s.registry.isSystemAgent id = true → Unrestricted entry.config.role) := by
  constructor
  · intro h' hsystem
    obtain ⟨record, hlookup, -, hrole⟩ := h'.present id hsystem
    have hentry : (s.registry.setEntry id entry persist).registry.agents.lookup id = some entry :=
      AList.lookup_insert _
    rwa [Option.some_inj.mp (hlookup.symm.trans hentry)] at hrole
  · refine fun hrole ↦ intact_of_present fun id' hsystem ↦ ?_
    obtain ⟨record, hlookup, hinserter, hunrestricted⟩ := h.present id' hsystem
    by_cases hid : id' = id
    · subst hid
      exact ⟨entry, AList.lookup_insert _, hinserter, hrole hsystem⟩
    · refine ⟨record, ?_, hinserter, hunrestricted⟩
      exact (AList.lookup_insert_ne hid).trans hlookup

theorem preserved_registerSystemAgent_iff (h : Intact s) (config : AgentConfig) :
    Preserved (s, ⟨.registerSystemAgent config, now, persist⟩,
      s.apply ⟨.registerSystemAgent config, now, persist⟩) ↔
        Harmless s ⟨.registerSystemAgent config, now, persist⟩ := by
  simp only [Preserved, Harmless, Traced.apply]
  obtain ⟨hnone, hpersist, hregistry, hresult⟩ | ⟨hregistry, ⟨e, hresult⟩, hrefused⟩ :=
    registerSystemAgent_cases s.registry config now persist
  · rw [hresult, hregistry]
    constructor
    · rintro ⟨-, hreplaced⟩ - -
      by_contra hthere
      have hsame := congrArg systemAgentId (hreplaced config rfl hthere)
      cases hsame.trans hnone
    · intro hfree
      refine ⟨intact_of_present fun id hsystem ↦ ?_, fun config' hconfig hthere ↦ ?_⟩
      · obtain rfl := Option.some_inj.mp (isSystemAgent_iff.mp hsystem)
        exact ⟨_, AList.lookup_insert _, AList.lookup_insert _, List.mem_singleton_self _, rfl⟩
      · cases hconfig
        exact absurd (hfree hnone hpersist) hthere
  · rw [hresult, hregistry]
    refine iff_of_true ⟨h, fun _ _ _ ↦ rfl⟩ fun hnone hpersist ↦ ?_
    obtain hthere | hfailed := hrefused
    · exact absurd hnone hthere
    · exact absurd hpersist hfailed

theorem intact_createAgent (h : Intact s) (config : AgentConfig) :
    Intact (s.apply ⟨.createAgent config, now, persist⟩) := by
  simp only [Traced.apply]
  obtain ⟨hnone, -, heq⟩ | ⟨hregistry, ⟨e, hresult⟩, -⟩ :=
    createAgent_cases s.registry config now persist
  · rw [heq]
    refine intact_of_present fun id hsystem ↦ ?_
    obtain ⟨record, hlookup, hinserter, hrole⟩ := h.present id hsystem
    have hid : id ≠ config.id := by
      rintro rfl
      cases hlookup.symm.trans hnone
    refine ⟨record, ?_, ?_, hrole⟩
    · exact (AList.lookup_insert_ne hid).trans hlookup
    · exact (AList.lookup_insert_ne hid).trans hinserter
  · rw [hresult, hregistry]
    exact h

theorem intact_updateConfig_iff (h : Intact s) (config : AgentConfig) :
    Intact (s.apply ⟨.updateConfig id config, now, persist⟩) ↔
      Harmless s ⟨.updateConfig id config, now, persist⟩ := by
  simp only [Traced.apply, Harmless]
  obtain ⟨entry, -, hid, heq⟩ | ⟨hregistry, -, -, hother⟩ :=
    updateConfig_cases s.registry id config now persist
  · rw [heq, intact_setEntry_iff h]
    exact ⟨fun hrole hsystem _ ↦ hrole hsystem, fun hrole hsystem ↦ hrole hsystem hid⟩
  · rw [hregistry]
    refine iff_of_true h fun hsystem hid ↦ ?_
    obtain ⟨record, hlookup, -⟩ := h.present id hsystem
    exact absurd hid (hother record hlookup)

theorem intact_transition (h : Intact s) (newState : LifecycleState) :
    Intact (s.apply ⟨.transition id newState, now, persist⟩) := by
  simp only [Traced.apply]
  obtain ⟨entry, hentry, -, heq⟩ | ⟨hregistry, -⟩ :=
    transition_cases s.registry id newState now persist
  · rw [heq, intact_setEntry_iff h]
    intro hsystem
    obtain ⟨record, hlookup, -, hrole⟩ := h.present id hsystem
    rwa [Option.some_inj.mp (hlookup.symm.trans hentry)] at hrole
  · rw [hregistry]
    exact h

theorem intact_delete_iff (h : Intact s) :
    Intact (s.apply ⟨.delete id, now, persist⟩) ↔ Harmless s ⟨.delete id, now, persist⟩ := by
  simp only [Traced.apply, Harmless]
  obtain ⟨record, hlookup, hdeletable, heq⟩ | ⟨⟨e, heq⟩, hnot⟩ := delete_cases s.registry id
  · rw [heq]
    constructor
    · intro h' hsystem
      obtain ⟨record', hthere, -⟩ := h'.present id hsystem
      cases (AList.lookup_erase _ _).symm.trans hthere
    · intro hkept
      have hother : s.registry.isSystemAgent id ≠ true := by
        intro hsystem
        exact Bool.false_ne_true ((hkept hsystem record hlookup).symm.trans hdeletable)
      refine intact_of_present fun id' hsystem ↦ ?_
      obtain ⟨record', hthere, hinserter, hrole⟩ := h.present id' hsystem
      have hid : id' ≠ id := by
        rintro rfl
        exact hother hsystem
      refine ⟨record', ?_, ?_, hrole⟩
      · exact (AList.lookup_erase_ne hid).trans hthere
      · exact (AList.lookup_erase_ne hid).trans hinserter
  · rw [heq]
    exact iff_of_true h fun _ ↦ hnot

theorem preserved_iff_intact {request : Request} {after : Traced}
    (hop : ∀ config, request.operation ≠ .registerSystemAgent config) :
    Preserved (s, request, after) ↔ Intact after :=
  and_iff_left fun config hconfig ↦ absurd hconfig (hop config)

theorem preserved_iff (h : Intact s) (request : Request) :
    Preserved (s, request, s.apply request) ↔ Harmless s request := by
  obtain ⟨operation, now, persist⟩ := request
  cases operation with
  | registerSystemAgent config => exact preserved_registerSystemAgent_iff h config
  | createAgent config =>
    rw [preserved_iff_intact fun _ hop ↦ by cases hop]
    exact iff_of_true (intact_createAgent h config) trivial
  | updateConfig id config =>
    rw [preserved_iff_intact fun _ hop ↦ by cases hop]
    exact intact_updateConfig_iff h config
  | transition id newState =>
    rw [preserved_iff_intact fun _ hop ↦ by cases hop]
    exact iff_of_true (intact_transition h newState) trivial
  | delete id =>
    rw [preserved_iff_intact fun _ hop ↦ by cases hop]
    exact intact_delete_iff h

end Steps

/-- In every state of a run the system agent is intact, and none has been replaced by it, just if
all requests are harmless. -/
theorem preserved_run_iff (requests : List Request) :
    (∀ told ∈ outputs Traced.step Traced.new requests, Preserved told) ↔
      Along Traced.step Harmless Traced.new requests := by
  refine forall_outputs_iff Traced.step (fun s request hintact ↦ ?_) intact_new requests
  have hiff := preserved_iff hintact request
  exact ⟨hiff, fun hharmless ↦ (hiff.mpr hharmless).1⟩

section Vectors

def request (operation : Operation) : Request := ⟨operation, 0, .ok ()⟩

/-- The system agent fails to start and is deleted, and an agent of its id is created. -/
def impostor : List Request :=
  [request (.registerSystemAgent (makeConfig "system")), request (.transition "system" .starting),
    request (.transition "system" (.error "no model")), request (.delete "system"),
    request (.createAgent (makeConfig "system"))]

theorem not_preserved_run :
    ¬ ∀ (requests : List Request), ∀ told ∈ outputs Traced.step Traced.new requests,
      Preserved told := by
  intro h
  have hdelete := (preserved_run_iff impostor).mp (h impostor)
  obtain ⟨-, -, -, hharmless, -⟩ := hdelete
  exact Bool.false_ne_true (hharmless rfl _ rfl).symm

end Vectors

end AdkGateway.AgentRegistry
