import AdkGateway.AgentRegistry.Persistence
import AdkGateway.AgentTools.Effects
import AdkGateway.AgentTools.View
import AdkGateway.ControlPanel.Delegation

namespace AdkGateway.AgentTools

open Foundation Rbac Router AgentRegistry ControlPanel

def systemConfig (model : String) : AgentConfig where
  id := "system"
  name := "System Agent"
  description := "Gateway system agent with admin privileges"
  model := model
  instruction := "System agent"
  tools := ["agent_create", "agent_start", "agent_stop", "agent_delete", "agent_list",
    "agent_configure", "task_list", "task_create", "task_cancel", "task_delete", "fs_list",
    "fs_read", "fs_search", "fs_pwd", "fs_tree", "send_photo"]
  role := ⟨["*"], []⟩
  channelBindings := []
  autoStart := false
  other := .object [("agent_type", .string "Llm"), ("api_key_env", .string ""),
    ("action_nodes", .array []), ("workflow_edges", .array []), ("sub_agents", .array []),
    ("temperature", .null), ("max_output_tokens", .null)]

/-- What a start of the gateway finds: its configuration, the files of the registry, and how its
writes to the disk end. -/
structure Boot where
  model : String
  bindings : List Router.RoutingBinding
  defaultAgent : String
  files : FileTree
  now : DateTime
  persistSystem : Except String Unit
  persistRepaired : Except String Unit

def repairedState (id : String) (record : AgentRecord) : Option LifecycleState :=
  if id = "system" ∧ record.state ≠ .running then some .running
  else match record.state with
    | .starting => some .stopped
    | .stopping => some .stopped
    | _ => none

def repair (now : DateTime) (persist : Except String Unit) (registry : AgentRegistry)
    (entry : String × AgentRecord) : AgentRegistry :=
  match repairedState entry.1 entry.2 with
  | some state => (registry.forceState entry.1 state now persist).registry
  | none => registry

def repaired (now : DateTime) (id : String) (record : AgentRecord) : AgentRecord :=
  match repairedState id record with
  | some state => { record with state := state, updatedAt := now }
  | none => record

section Repair

variable {now : DateTime} {persist : Except String Unit} {registry : AgentRegistry}

theorem repair_eq (now : DateTime) (persist : Except String Unit) {entry : String × AgentRecord}
    (h : registry.agents.lookup entry.1 = some entry.2) :
    (repair now persist registry entry).systemAgentId = registry.systemAgentId ∧
    ∀ id, (repair now persist registry entry).agents.lookup id =
      if id = entry.1 then some (repaired now entry.1 entry.2) else registry.agents.lookup id := by
  rw [repair, repaired]
  cases repairedState entry.1 entry.2 with
  | none =>
    refine ⟨rfl, fun id ↦ ?_⟩
    by_cases hid : id = entry.1
    · rw [if_pos hid, hid]
      exact h
    · rw [if_neg hid]
  | some state =>
    simp only [AgentRegistry.forceState, h, setEntry]
    exact ⟨trivial, fun id ↦ KeyedMap.lookup_insert_if _ _ _ _⟩

theorem repair_entries (now : DateTime) (persist : Except String Unit)
    (entries : List (String × AgentRecord)) (hnodup : (entries.map Prod.fst).Nodup)
    (h : ∀ entry ∈ entries, registry.agents.lookup entry.1 = some entry.2) :
    (entries.foldl (repair now persist) registry).systemAgentId = registry.systemAgentId ∧
    ∀ id, (entries.foldl (repair now persist) registry).agents.lookup id =
      (registry.agents.lookup id).map fun record ↦
        if id ∈ entries.map Prod.fst then repaired now id record else record := by
  induction entries generalizing registry with
  | nil => exact ⟨rfl, fun id ↦ by simp⟩
  | cons entry entries ih =>
    obtain ⟨hnew, hrest⟩ := List.nodup_cons.mp hnodup
    obtain ⟨hentry, hentries⟩ := List.forall_mem_cons.mp h
    obtain ⟨hsystem, hlookup⟩ := repair_eq now persist hentry
    have hkept (other : String × AgentRecord) (hother : other ∈ entries) :
        (repair now persist registry entry).agents.lookup other.1 = some other.2 := by
      have hne : other.1 ≠ entry.1 := fun heq ↦ hnew (heq ▸ List.mem_map_of_mem hother)
      rw [hlookup, if_neg hne]
      exact hentries other hother
    obtain ⟨hsystem', hlookup'⟩ := ih hrest hkept
    refine ⟨hsystem'.trans hsystem, fun id ↦ ?_⟩
    rw [List.foldl_cons, hlookup', hlookup]
    by_cases hid : id = entry.1
    · subst hid
      rw [if_pos rfl, hentry, Option.map_some, Option.map_some, if_neg hnew,
        if_pos (List.mem_map_of_mem List.mem_cons_self)]
    · rw [if_neg hid]
      simp only [List.map_cons, List.mem_cons, hid, false_or]

theorem repair_list (now : DateTime) (persist : Except String Unit) (registry : AgentRegistry) :
    (registry.list.foldl (repair now persist) registry).systemAgentId = registry.systemAgentId ∧
    ∀ id, (registry.list.foldl (repair now persist) registry).agents.lookup id =
      (registry.agents.lookup id).map (repaired now id) := by
  obtain ⟨hsystem, hlookup⟩ := repair_entries now persist registry.list
    registry.nodup_ids fun entry hentry ↦ mem_list.mp hentry
  refine ⟨hsystem, fun id ↦ (hlookup id).trans ?_⟩
  cases hrecord : registry.agents.lookup id with
  | none => rfl
  | some record =>
    have hmem : id ∈ registry.list.map Prod.fst :=
      List.mem_map.mpr ⟨(id, record), mem_list.mpr hrecord, rfl⟩
    rw [Option.map_some, Option.map_some, if_pos hmem]

end Repair

section Boot

variable (codec : Codec) (persistDir : Path)

def loadRegistry (b : Boot) : Except String ℕ × AgentRegistry :=
  loadFromDisk codec persistDir b.files
    (new.registerSystemAgent (systemConfig b.model) b.now b.persistSystem).registry

def loadRbac (b : Boot) : RbacBridge :=
  let rbac := RbacBridge.new.registerSystemAgent "system"
  match loadRegistry codec persistDir b with
  | (.ok count, registry) => if count > 0 then rbac.rebuildFromRegistry registry else rbac
  | (.error _, _) => rbac

/-- The stores before any agent is started: no process is left of the last run. -/
def assemble (b : Boot) : Stores :=
  let registry := (loadRegistry codec persistDir b).2
  ⟨registry.list.foldl (repair b.now b.persistRepaired) registry, loadRbac codec persistDir b, ∅, ∅,
    MessageRouter.new b.bindings b.defaultAgent⟩

end Boot

inductive Request
  | boot (b : Boot)
  | agentCreate (args : Json)
  | agentStop (args : Json)
  | agentStart (args : Json)
  | agentDelete (args : Json)
  | agentConfigure (args : Json)
  | apiAgentsCreate (payload : CreateAgentPayload)
  | apiAgentsStart (id : String)
  | apiAgentsStop (id : String)
  | apiAgentsDelete (id : String)
  | apiAgentsConfigure (id : String) (payload : ConfigureAgentPayload)
  | healthFails (id : String) (live : Bool) (reason : String)

def onFailure (agentId reason : String) : Code Unit := do
  call (.removeProxy agentId)
  let _ ← call (.transition agentId (.error reason))

def discard {α : Type} (m : Code α) : Code Unit := do
  let _ ← m

def Request.code (F : Formats) : Request → Code Unit
  | .boot _ => autoStart
  | .agentCreate args => discard (AgentTools.agentCreate F args)
  | .agentStop args => discard (AgentTools.agentStop F args)
  | .agentStart args => discard (AgentTools.agentStart F args)
  | .agentDelete args => discard (AgentTools.agentDelete F args)
  | .agentConfigure args => discard (AgentTools.agentConfigure F args)
  | .apiAgentsCreate payload => discard (ControlPanel.apiAgentsCreate F payload)
  | .apiAgentsStart id => discard (ControlPanel.apiAgentsStart F id)
  | .apiAgentsStop id => discard (ControlPanel.apiAgentsStop F id)
  | .apiAgentsDelete id => discard (ControlPanel.apiAgentsDelete F id)
  | .apiAgentsConfigure id payload => discard (ControlPanel.apiAgentsConfigure F id payload)
  | .healthFails id _ reason => onFailure id reason

structure Event where
  request : Request
  env : Op → Input

section Machine

variable (F : Formats) (codec : Codec) (persistDir : Path)

/-- One request at a time. A process that fails its health checks may still live. -/
def apply (s : Stores) (event : Event) : Stores :=
  match event.request with
  | .boot b => ((Request.boot b).code F |>.run exec event.env (assemble codec persistDir b)).1
  | .healthFails id live reason =>
    match s.processes.lookup id with
    | none => s
    | some process =>
      ((Request.healthFails id live reason).code F |>.run exec event.env
        { s with processes := s.processes.insert id { process with live := live } }).1
  | request => (request.code F |>.run exec event.env s).1

def step (s : Stores) (event : Event) : Stores × Stores :=
  (apply F codec persistDir s event, apply F codec persistDir s event)

def off : Stores := ⟨new, RbacBridge.new, ∅, ∅, MessageRouter.new [] "main"⟩

end Machine

section Vectors

def plainFormats : Formats := ⟨id, id, fun _ ↦ true, fun _ ↦ .error "missing field id"⟩

def noFiles : Codec := ⟨fun _ ↦ "", fun _ ↦ .error "EOF while parsing a value"⟩

def allGoesWell : Op → Input := fun _ ↦ ⟨0, .ok (), .ok "target/agent", .ok 8101, .ok ()⟩

def firstBoot : Boot := ⟨"anthropic/claude-sonnet-4", [], "main", ∅, 0, .ok (), .ok ()⟩

end Vectors

def Everywhere (P : Bool → View → Prop) (s : Stores) : Prop :=
  ∀ id, P (s.registry.isSystemAgent id) (s.view id)

def IgnoresRouter (P : Bool → View → Prop) : Prop :=
  ∀ sys v router, P sys { v with router := router } ↔ P sys v

section Everywhere

variable {P : Bool → View → Prop} {F : Formats} {env : Op → Input} {s s' : Stores} {id : String}
  {α : Type} {m : Code α}

theorem run_discard (m : Code α) (s : Stores) :
    ((discard m).run exec env s).1 = (m.run exec env s).1 := by
  rw [discard, Script.run_bind, Script.run_pure]

theorem isSystemAgent_congr {registry registry' : AgentRegistry}
    (h : registry'.systemAgentId = registry.systemAgentId) (id : String) :
    registry'.isSystemAgent id = registry.isSystemAgent id := by
  rw [isSystemAgent, isSystemAgent, h]

theorem SameAt.iff (hP : IgnoresRouter P) (h : SameAt id s s')
    (hsystem : s'.registry.systemAgentId = s.registry.systemAgentId) :
    P (s'.registry.isSystemAgent id) (s'.view id) ↔ P (s.registry.isSystemAgent id) (s.view id) := by
  have hview : s'.view id = { s.view id with router := s'.router } := by
    rw [Stores.view, h.record, h.process, h.proxy, h.role]
    rfl
  rw [isSystemAgent_congr hsystem, hview, hP]

/-- Code about one agent keeps a property just if it does for that agent. -/
theorem everywhere_run_iff (hP : IgnoresRouter P) (hm : m.Only (Op.About id)) (s : Stores) :
    Everywhere P (m.run exec env s).1 ↔
      (∀ id', id' ≠ id → P (s.registry.isSystemAgent id') (s.view id')) ∧
        P (s.registry.isSystemAgent id) (m.run View.exec env (s.view id)).1 := by
  have hsystem := run_systemAgentId env s hm
  have hothers (id' : String) (hne : id' ≠ id) :=
    (run_sameAt env s hm hne).iff hP hsystem
  have hself : (m.run exec env s).1.view id = (m.run View.exec env (s.view id)).1 := by
    rw [run_view env s hm]
  constructor
  · intro h
    refine ⟨fun id' hne ↦ (hothers id' hne).mp (h id'), ?_⟩
    rw [← hself, ← isSystemAgent_congr hsystem]
    exact h id
  · rintro ⟨hrest, hid⟩ id'
    by_cases hne : id' = id
    · subst hne
      rw [hself, isSystemAgent_congr hsystem]
      exact hid
    · exact (hothers id' hne).mpr (hrest id' hne)

theorem Everywhere.run_iff (hP : IgnoresRouter P) (h : Everywhere P s)
    (hm : m.Only (Op.About id)) : Everywhere P (m.run exec env s).1 ↔
      P (s.registry.isSystemAgent id) (m.run View.exec env (s.view id)).1 := by
  rw [everywhere_run_iff hP hm]
  exact and_iff_right fun id' _ ↦ h id'

/-- Code that keeps a property of an agent both ways keeps it of all both ways. -/
theorem everywhere_run_congr (hP : IgnoresRouter P) (hm : m.Only (Op.About id))
    (h : ∀ sys v, P sys (m.run View.exec env v).1 ↔ P sys v) :
    Everywhere P (m.run exec env s).1 ↔ Everywhere P s := by
  rw [everywhere_run_iff hP hm, h]
  constructor
  · rintro ⟨hrest, hid⟩ id'
    by_cases hne : id' = id
    · rwa [hne]
    · exact hrest id' hne
  · exact fun h ↦ ⟨fun id' _ ↦ h id', h id⟩

theorem everywhere_autoStart (hP : IgnoresRouter P)
    (h : ∀ id sys v, P sys ((autoStartAgent id).run View.exec env v).1 ↔ P sys v) :
    Everywhere P (autoStart.run exec env s).1 ↔ Everywhere P s := by
  have hall (ids : List String) (s : Stores) :
      Everywhere P ((autoStartAll ids).run exec env s).1 ↔ Everywhere P s := by
    induction ids generalizing s with
    | nil => rfl
    | cons id ids ih =>
      rw [autoStartAll, Script.run_bind, ih]
      exact everywhere_run_congr hP about_autoStartAgent (h id)
  rw [autoStart, Script.run_bind]
  exact hall _ s

theorem Everywhere.withAgentId_iff (hP : IgnoresRouter P) (h : Everywhere P s) {args : Json}
    {tool : String → Tool} (htool : ∀ id, (tool id).Only (Op.About id)) {ok : String → Prop}
    (hok : ∀ id, P (s.registry.isSystemAgent id) (s.view id) →
      (P (s.registry.isSystemAgent id) ((tool id).run View.exec env (s.view id)).1 ↔ ok id)) :
    Everywhere P ((discard (withAgentId args tool)).run exec env s).1 ↔
      ∀ id, (args.get "agent_id").bind Json.asStr = some id → ok id := by
  rw [run_discard, withAgentId]
  cases (args.get "agent_id").bind Json.asStr with
  | none => exact iff_of_true h nofun
  | some id =>
    rw [h.run_iff hP (htool id), hok id (h id)]
    exact ⟨fun hid id' hid' ↦ Option.some_inj.mp hid' ▸ hid, fun hall ↦ hall id rfl⟩

theorem Everywhere.withAgentId (hP : IgnoresRouter P) (h : Everywhere P s) {args : Json}
    {tool : String → Tool} (htool : ∀ id, (tool id).Only (Op.About id))
    (hkeep : ∀ id, P (s.registry.isSystemAgent id) (s.view id) →
      P (s.registry.isSystemAgent id) ((tool id).run View.exec env (s.view id)).1) :
    Everywhere P ((discard (AgentTools.withAgentId args tool)).run exec env s).1 :=
  (h.withAgentId_iff hP htool fun id hid ↦ iff_true_intro (hkeep id hid)).mpr fun _ _ ↦ trivial

theorem Everywhere.of_sameAt (hP : IgnoresRouter P) (h : Everywhere P s) {id' : String}
    (hsame : SameAt id' s s') (hsystem : s'.registry.systemAgentId = s.registry.systemAgentId) :
    P (s'.registry.isSystemAgent id') (s'.view id') := (hsame.iff hP hsystem).mpr (h id')

end Everywhere

section Requests

variable {F : Formats} {id : String}

theorem about_createAs {config : AgentConfig} : (createAs F config).Only (Op.About config.id) := by
  refine only_call (.inr rfl) fun created ↦ ?_
  cases created <;> trivial

theorem about_apiAgentsStart : (apiAgentsStart F id).Only (Op.About id) := by
  refine only_call (.inr rfl) fun starting ↦ ?_
  cases starting with
  | error e => trivial
  | ok => exact only_call (.inr rfl) fun _ ↦ trivial

theorem about_apiAgentsStop : (apiAgentsStop F id).Only (Op.About id) := by
  refine only_call (.inr rfl) fun stopping ↦ ?_
  cases stopping with
  | error e => trivial
  | ok => exact only_call (.inr rfl) fun _ ↦ trivial

theorem about_apiAgentsDelete : (apiAgentsDelete F id).Only (Op.About id) := by
  refine Script.only_bind about_delete fun deleted ↦ ?_
  cases deleted <;> trivial

theorem about_apiAgentsConfigure (payload : ConfigureAgentPayload) :
    (apiAgentsConfigure F id payload).Only (Op.About id) := by
  refine only_call (.inr rfl) fun record ↦ ?_
  cases record with
  | none => trivial
  | some record =>
    dsimp only
    split
    · trivial
    · refine only_call (.inr rfl) fun updated ↦ ?_
      cases updated <;> trivial

theorem about_onFailure (reason : String) : (onFailure id reason).Only (Op.About id) :=
  only_call (.inr rfl) fun _ ↦ only_call (.inr rfl) fun _ ↦ trivial

theorem about_createFrom {config : AgentConfig} : (createFrom F config).Only (Op.About config.id) := by
  refine only_call (.inr rfl) fun created ↦ ?_
  cases created with
  | error e => trivial
  | ok => exact only_call (.inr rfl) fun _ ↦ trivial

/-- What holds of a refusal holds of the tool just if it does of a configuration that is asked for. -/
theorem configureFrom_iff {R : Tool → Prop} (hrefused : ∀ e, R (pure (.error e))) (args : Json) :
    R (configureFrom F args id) ↔ ∀ value config, args.get "config" = some value →
      F.fromValue value = .ok config → config.id = id → R (configureAgent F id config) := by
  rw [configureFrom]
  cases args.get "config" with
  | none => exact iff_of_true (hrefused _) fun _ _ h ↦ by cases h
  | some value =>
    dsimp only
    cases hconfig : F.fromValue value with
    | error e =>
      refine iff_of_true (hrefused _) fun value' config hvalue hread ↦ ?_
      cases hvalue
      cases hconfig.symm.trans hread
    | ok config =>
      dsimp only
      by_cases hmatch : config.id = id
      · rw [if_pos hmatch]
        refine ⟨fun h value' config' hvalue hread _ ↦ ?_, fun h ↦ h value config rfl hconfig hmatch⟩
        cases hvalue
        cases hconfig.symm.trans hread
        exact h
      · rw [if_neg hmatch]
        refine iff_of_true (hrefused _) fun value' config' hvalue hread hmatch' ↦ ?_
        cases hvalue
        cases hconfig.symm.trans hread
        exact absurd hmatch' hmatch

theorem about_configureFrom (args : Json) : (configureFrom F args id).Only (Op.About id) :=
  (configureFrom_iff (fun _ ↦ trivial) args).mpr fun _ _ _ _ _ ↦ about_configureAgent

/-- A failed health check keeps a property if its handling does, of the agent whose process it is. -/
theorem Everywhere.healthFails {P : Bool → View → Prop} {env : Op → Input} {s : Stores}
    (hP : IgnoresRouter P) (h : Everywhere P s) (codec : Codec) (persistDir : Path) (live : Bool)
    (reason : String) (hkeep : ∀ process, P (s.registry.isSystemAgent id)
      ((onFailure id reason).run View.exec env
        (Stores.view { s with processes := s.processes.insert id process } id)).1) :
    Everywhere P (apply F codec persistDir s ⟨.healthFails id live reason, env⟩) := by
  simp only [apply]
  cases hprocess : s.processes.lookup id with
  | none => exact h
  | some process =>
    refine (everywhere_run_iff hP (about_onFailure reason) _).mpr
      ⟨fun id' hne ↦ h.of_sameAt hP ⟨rfl, ?_, rfl, rfl⟩ rfl, hkeep _⟩
    exact AList.lookup_insert_ne hne

end Requests

end AdkGateway.AgentTools
