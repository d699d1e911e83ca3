import AdkGateway.AgentRegistry.Registry
import Mathlib.Data.List.Induction

namespace AdkGateway.Rbac

open Foundation

inductive Permission
  | tool (name : String)
  | agent (id : String)
  | allTools
  | allAgents
  deriving DecidableEq

def Permission.debug (debugStr : String → String) : Permission → String
  | .tool name => "Tool(" ++ debugStr name ++ ")"
  | .agent id => "Agent(" ++ debugStr id ++ ")"
  | .allTools => "AllTools"
  | .allAgents => "AllAgents"

structure Role where
  name : String
  allow : List Permission
  deny : List Permission

structure AccessDenied where
  agentId : String
  permission : String
  reason : String
  deriving DecidableEq

def collect (permissions : List Permission) : List Permission :=
  permissions.foldl (fun set permission ↦ set.insert permission) []

structure AccessControl where
  roles : KeyedMap String Role

namespace AccessControl

def new : AccessControl := ⟨∅⟩

def addRole (ac : AccessControl) (agentId : String) (role : Role) : AccessControl :=
  ⟨ac.roles.insert agentId role⟩

def removeRole (ac : AccessControl) (agentId : String) : AccessControl := ⟨ac.roles.erase agentId⟩

def check (debugStr : String → String) (ac : AccessControl) (agentId : String)
    (permission : Permission) : Except AccessDenied Unit :=
  match ac.roles.lookup agentId with
  | none => .error ⟨agentId, permission.debug debugStr, "no role registered"⟩
  | some role =>
    if role.deny.contains permission then
      .error ⟨agentId, permission.debug debugStr, "explicitly denied"⟩
    else if role.allow.contains permission then .ok ()
    else
      let wildcard := match permission with
        | .tool _ => role.allow.contains .allTools
        | .agent _ => role.allow.contains .allAgents
        | _ => false
      if wildcard then .ok ()
      else .error ⟨agentId, permission.debug debugStr, "not in allow list"⟩

end AccessControl

def systemTools : List String :=
  ["agent_create", "agent_start", "agent_stop", "agent_delete", "agent_list", "agent_configure",
    "task_list", "task_create", "task_cancel", "task_delete",
    "fs_list", "fs_read", "fs_search", "fs_pwd", "fs_tree", "send_photo"]

structure RbacBridge where
  accessControl : AccessControl

namespace RbacBridge

def new : RbacBridge := ⟨AccessControl.new⟩

def registerSystemAgent (bridge : RbacBridge) (agentId : String) : RbacBridge :=
  let role : Role := ⟨agentId ++ "-admin", collect [.allTools, .allAgents], []⟩
  ⟨bridge.accessControl.addRole agentId role⟩

def registerAgent (bridge : RbacBridge) (agentId : String) (roleConfig : AgentRoleConfig) :
    RbacBridge × List String :=
  let acc := roleConfig.allow.foldl (fun acc entry ↦
    if systemTools.contains entry then (acc.1 ++ [entry], acc.2)
    else (acc.1, acc.2.insert (.tool entry))) (([], []) : List String × List Permission)
  let deny := collect (roleConfig.deny.map .tool)
  let role : Role := ⟨agentId ++ "-role", acc.2, deny⟩
  (⟨bridge.accessControl.addRole agentId role⟩, acc.1)

def checkTool (debugStr : String → String) (bridge : RbacBridge) (agentId toolName : String) :
    Except AccessDenied Unit :=
  bridge.accessControl.check debugStr agentId (.tool toolName)

def checkDelegation (debugStr : String → String) (bridge : RbacBridge) (callerId targetId : String) :
    Except AccessDenied Unit :=
  bridge.accessControl.check debugStr callerId (.agent targetId)

def removeAgent (bridge : RbacBridge) (agentId : String) : RbacBridge :=
  ⟨bridge.accessControl.removeRole agentId⟩

/-- What the old bridge held is dropped. -/
def rebuildFromRegistry (_bridge : RbacBridge) (registry : AgentRegistry) : RbacBridge :=
  ⟨registry.list.foldl (fun ac entry ↦
    let id := entry.1
    let record := entry.2
    if registry.isSystemAgent id then
      let role : Role := ⟨id ++ "-admin", collect [.allTools, .allAgents], []⟩
      ac.addRole id role
    else
      let allow := record.config.role.allow.foldl (fun allow entry ↦
        if !systemTools.contains entry then allow.insert (.tool entry) else allow) []
      let deny := collect (record.config.role.deny.map .tool)
      let role : Role := ⟨id ++ "-role", allow, deny⟩
      ac.addRole id role) AccessControl.new⟩

end RbacBridge

inductive Operation
  | registerSystemAgent (agentId : String)
  | registerAgent (agentId : String) (roleConfig : AgentRoleConfig)
  | removeAgent (agentId : String)
  | rebuildFromRegistry (registry : AgentRegistry)

inductive Registration
  | systemAgent
  | userAgent (roleConfig : AgentRoleConfig)

def Registration.ofRegistry (registry : AgentRegistry) (agentId : String) : Option Registration :=
  (registry.agents.lookup agentId).map fun record ↦
    if registry.isSystemAgent agentId then .systemAgent else .userAgent record.config.role

def register (registered : String → Option Registration) : Operation → String → Option Registration
  | .registerSystemAgent agentId => Function.update registered agentId (some .systemAgent)
  | .registerAgent agentId roleConfig => Function.update registered agentId (some (.userAgent roleConfig))
  | .removeAgent agentId => Function.update registered agentId none
  | .rebuildFromRegistry registry => Registration.ofRegistry registry

/-- How each agent was registered last, unless it was removed since. -/
def registered (ops : List Operation) : String → Option Registration :=
  ops.foldl register fun _ ↦ none

namespace RbacBridge

def apply (bridge : RbacBridge) : Operation → RbacBridge
  | .registerSystemAgent agentId => bridge.registerSystemAgent agentId
  | .registerAgent agentId roleConfig => (bridge.registerAgent agentId roleConfig).1
  | .removeAgent agentId => bridge.removeAgent agentId
  | .rebuildFromRegistry registry => bridge.rebuildFromRegistry registry

def after (ops : List Operation) : RbacBridge := ops.foldl apply new

def registerRecord (registry : AgentRegistry) (bridge : RbacBridge) (record : String × AgentRecord) :
    RbacBridge :=
  if registry.isSystemAgent record.1 then bridge.registerSystemAgent record.1
  else (bridge.registerAgent record.1 record.2.config.role).1

end RbacBridge

section Roles

def allowed (allow : List String) : List Permission :=
  allow.foldl (fun allow entry ↦
    if !systemTools.contains entry then allow.insert (.tool entry) else allow) []

def role (agentId : String) : Registration → Role
  | .systemAgent => ⟨agentId ++ "-admin", collect [.allTools, .allAgents], []⟩
  | .userAgent roleConfig =>
    ⟨agentId ++ "-role", allowed roleConfig.allow, collect (roleConfig.deny.map .tool)⟩

theorem mem_collect {permissions : List Permission} {permission : Permission} :
    permission ∈ collect permissions ↔ permission ∈ permissions := by
  induction permissions using List.reverseRecOn with
  | nil => rfl
  | append_singleton permissions last ih =>
    rw [collect, List.foldl_append, List.foldl_cons, List.foldl_nil, List.mem_insert_iff,
      List.mem_append, List.mem_singleton, or_comm]
    exact or_congr_left ih

theorem mem_allowed {allow : List String} {permission : Permission} :
    permission ∈ allowed allow ↔ ∃ entry ∈ allow, entry ∉ systemTools ∧ permission = .tool entry := by
  induction allow using List.reverseRecOn with
  | nil => simp [allowed]
  | append_singleton allow last ih =>
    have hstep : allowed (allow ++ [last]) =
        if !systemTools.contains last then (allowed allow).insert (.tool last) else allowed allow :=
      List.foldl_append
    rw [hstep]
    by_cases hlast : last ∈ systemTools
    · simp [hlast, ih, or_and_right, exists_or]
    · simp [hlast, ih, or_and_right, exists_or, or_comm]

theorem strip_allow (entries stripped : List String) (allow : List Permission) :
    entries.foldl (fun acc entry ↦
      if systemTools.contains entry then (acc.1 ++ [entry], acc.2)
      else (acc.1, acc.2.insert (.tool entry))) (stripped, allow) =
    (stripped ++ entries.filter systemTools.contains,
      entries.foldl (fun allow entry ↦
        if !systemTools.contains entry then allow.insert (.tool entry) else allow) allow) := by
  induction entries generalizing stripped allow with
  | nil => simp
  | cons entry entries ih =>
    rw [List.foldl_cons, List.foldl_cons]
    cases hentry : systemTools.contains entry with
    | true =>
      rw [if_pos rfl, ih, List.filter_cons_of_pos hentry, List.append_assoc]
      rfl
    | false =>
      rw [if_neg Bool.false_ne_true, ih, List.filter_cons_of_neg (by rw [hentry]; exact Bool.false_ne_true)]
      rfl

end Roles

namespace RbacBridge

variable {bridge : RbacBridge}

theorem registerSystemAgent_roles (agentId : String) :
    (bridge.registerSystemAgent agentId).accessControl.roles =
      bridge.accessControl.roles.insert agentId (role agentId .systemAgent) := rfl

theorem registerAgent_eq (agentId : String) (roleConfig : AgentRoleConfig) :
    bridge.registerAgent agentId roleConfig =
      (⟨bridge.accessControl.addRole agentId (role agentId (.userAgent roleConfig))⟩,
        roleConfig.allow.filter systemTools.contains) := by
  rw [registerAgent, strip_allow]
  rfl

theorem registerAgent_roles (agentId : String) (roleConfig : AgentRoleConfig) :
    (bridge.registerAgent agentId roleConfig).1.accessControl.roles =
      bridge.accessControl.roles.insert agentId (role agentId (.userAgent roleConfig)) := by
  rw [registerAgent_eq]
  rfl

theorem rebuildFromRegistry_eq (registry : AgentRegistry) :
    bridge.rebuildFromRegistry registry =
      ⟨⟨registry.list.foldl (fun roles entry ↦ roles.insert entry.1
        (role entry.1 (if registry.isSystemAgent entry.1 then .systemAgent
          else .userAgent entry.2.config.role))) ∅⟩⟩ := by
  unfold rebuildFromRegistry AccessControl.new
  generalize (∅ : KeyedMap String Role) = roles
  induction registry.list generalizing roles with
  | nil => rfl
  | cons entry entries ih =>
    rw [List.foldl_cons, List.foldl_cons, ← ih]
    congr 2
    dsimp only
    split <;> rfl

theorem registerRecord_roles (registry : AgentRegistry) (record : String × AgentRecord) :
    (registerRecord registry bridge record).accessControl.roles =
      bridge.accessControl.roles.insert record.1
        (role record.1 (if registry.isSystemAgent record.1 then .systemAgent
          else .userAgent record.2.config.role)) := by
  unfold registerRecord
  split
  · exact registerSystemAgent_roles record.1
  · exact registerAgent_roles record.1 record.2.config.role

theorem registerRecords_roles (registry : AgentRegistry) (records : List (String × AgentRecord)) :
    (records.foldl (registerRecord registry) bridge).accessControl.roles =
      records.foldl (fun roles entry ↦ roles.insert entry.1
        (role entry.1 (if registry.isSystemAgent entry.1 then .systemAgent
          else .userAgent entry.2.config.role))) bridge.accessControl.roles := by
  induction records generalizing bridge with
  | nil => rfl
  | cons record records ih => rw [List.foldl_cons, ih, registerRecord_roles, List.foldl_cons]

/-- Registering the records of a registry in any order gives each agent the role the
registry says it has. -/
theorem lookup_registered (registry : AgentRegistry) {records : List (String × AgentRecord)}
    (hperm : records.Perm registry.list) (agentId : String) :
    (records.foldl (fun roles entry ↦ roles.insert entry.1
      (role entry.1 (if registry.isSystemAgent entry.1 then .systemAgent
        else .userAgent entry.2.config.role))) (∅ : KeyedMap String Role)).lookup agentId =
      (Registration.ofRegistry registry agentId).map (role agentId) := by
  have hnodup : (records.map Prod.fst).Nodup :=
    (hperm.map Prod.fst).nodup_iff.mpr registry.nodup_ids
  apply Option.ext
  intro w
  rw [KeyedMap.lookup_foldl_insert_pairs (fun id (record : AgentRecord) ↦
    role id (if registry.isSystemAgent id then .systemAgent else .userAgent record.config.role)) hnodup]
  simp only [hperm.mem_iff, AgentRegistry.mem_list, AList.lookup_empty, Registration.ofRegistry]
  simp

theorem lookup_apply {op : Operation} {before : String → Option Registration}
    (h : ∀ agentId, bridge.accessControl.roles.lookup agentId = (before agentId).map (role agentId))
    (agentId : String) :
    (bridge.apply op).accessControl.roles.lookup agentId =
      (register before op agentId).map (role agentId) := by
  cases op with
  | registerSystemAgent id =>
    rw [apply, registerSystemAgent_roles, KeyedMap.lookup_insert_if, h, register, Function.update_apply]
    split
    case isTrue he => rw [he]; rfl
    case isFalse => rfl
  | registerAgent id roleConfig =>
    rw [apply, registerAgent_roles, KeyedMap.lookup_insert_if, h, register, Function.update_apply]
    split
    case isTrue he => rw [he]; rfl
    case isFalse => rfl
  | removeAgent id =>
    have herase : (bridge.removeAgent id).accessControl.roles = bridge.accessControl.roles.erase id := rfl
    rw [apply, herase, KeyedMap.lookup_erase_if, h, register, Function.update_apply]
    split <;> rfl
  | rebuildFromRegistry registry =>
    rw [apply, rebuildFromRegistry_eq]
    exact lookup_registered registry (List.Perm.refl _) agentId

theorem lookup_after (ops : List Operation) (agentId : String) :
    (after ops).accessControl.roles.lookup agentId = (registered ops agentId).map (role agentId) := by
  induction ops using List.reverseRecOn generalizing agentId with
  | nil => rfl
  | append_singleton ops op ih =>
    have hafter : after (ops ++ [op]) = (after ops).apply op := List.foldl_append
    have hregistered : registered (ops ++ [op]) = register (registered ops) op := List.foldl_append
    rw [hafter, hregistered]
    exact lookup_apply ih agentId

variable {debugStr : String → String} {agentId : String}

theorem check_none (h : bridge.accessControl.roles.lookup agentId = none) (permission : Permission) :
    bridge.accessControl.check debugStr agentId permission =
      .error ⟨agentId, permission.debug debugStr, "no role registered"⟩ := by
  rw [AccessControl.check, h]

theorem check_systemAgent
    (h : bridge.accessControl.roles.lookup agentId = some (role agentId .systemAgent))
    (permission : Permission) : bridge.accessControl.check debugStr agentId permission = .ok () := by
  rw [AccessControl.check, h]
  cases permission <;> rfl

theorem check_userAgent {roleConfig : AgentRoleConfig}
    (h : bridge.accessControl.roles.lookup agentId = some (role agentId (.userAgent roleConfig)))
    (permission : Permission) :
    bridge.accessControl.check debugStr agentId permission = .ok () ↔
      permission ∉ roleConfig.deny.map Permission.tool ∧ permission ∈ allowed roleConfig.allow := by
  have hwild : Permission.allTools ∉ allowed roleConfig.allow := by simp [mem_allowed]
  have hwild' : Permission.allAgents ∉ allowed roleConfig.allow := by simp [mem_allowed]
  rw [AccessControl.check, h]
  simp only [role, List.contains_iff_mem, mem_collect]
  by_cases hdeny : permission ∈ roleConfig.deny.map Permission.tool
  · simp [hdeny]
  · by_cases hallow : permission ∈ allowed roleConfig.allow
    · simp [hdeny, hallow]
    · cases permission <;> simp [hdeny, hallow, hwild, hwild']

theorem checkTool_userAgent {roleConfig : AgentRoleConfig}
    (h : bridge.accessControl.roles.lookup agentId = some (role agentId (.userAgent roleConfig)))
    (tool : String) :
    bridge.checkTool debugStr agentId tool = .ok () ↔
      tool ∈ roleConfig.allow ∧ tool ∉ systemTools ∧ tool ∉ roleConfig.deny := by
  have hdeny : .tool tool ∈ roleConfig.deny.map Permission.tool ↔ tool ∈ roleConfig.deny := by simp
  have hallow : .tool tool ∈ allowed roleConfig.allow ↔ tool ∈ roleConfig.allow ∧ tool ∉ systemTools := by
    simp [mem_allowed]
  rw [checkTool, check_userAgent h, hdeny, hallow, and_comm, and_assoc]

theorem refused_of_ne_ok {answer : Except AccessDenied Unit} (h : answer ≠ .ok ()) :
    ∃ denied, answer = .error denied := by
  cases answer with
  | ok => exact absurd rfl h
  | error denied => exact ⟨denied, rfl⟩

theorem checkDelegation_userAgent {roleConfig : AgentRoleConfig}
    (h : bridge.accessControl.roles.lookup agentId = some (role agentId (.userAgent roleConfig)))
    (targetId : String) : ∃ denied, bridge.checkDelegation debugStr agentId targetId = .error denied := by
  apply refused_of_ne_ok
  rw [checkDelegation, ne_eq, check_userAgent h]
  simp [mem_allowed]

theorem check_congr {bridge' : RbacBridge}
    (h : bridge.accessControl.roles.lookup agentId = bridge'.accessControl.roles.lookup agentId)
    (permission : Permission) :
    bridge.accessControl.check debugStr agentId permission =
      bridge'.accessControl.check debugStr agentId permission := by
  rw [AccessControl.check, AccessControl.check, h]

theorem decisions_after (debugStr : String → String) (ops : List Operation) (agentId : String) :
    (∀ roleConfig, registered ops agentId = some (.userAgent roleConfig) →
      (∀ tool, (after ops).checkTool debugStr agentId tool = .ok () ↔
        tool ∈ roleConfig.allow ∧ tool ∉ systemTools ∧ tool ∉ roleConfig.deny) ∧
      ∀ targetId, ∃ denied, (after ops).checkDelegation debugStr agentId targetId = .error denied) ∧
    (registered ops agentId = none →
      (∀ tool, ∃ denied, (after ops).checkTool debugStr agentId tool = .error denied) ∧
      ∀ targetId, ∃ denied, (after ops).checkDelegation debugStr agentId targetId = .error denied) ∧
    ∀ (registry : AgentRegistry) (records : List (String × AgentRecord)),
      records.Perm registry.list →
      (∀ tool, ((after ops).rebuildFromRegistry registry).checkTool debugStr agentId tool =
        (records.foldl (registerRecord registry) new).checkTool debugStr agentId tool) ∧
      ∀ targetId, ((after ops).rebuildFromRegistry registry).checkDelegation debugStr agentId targetId =
        (records.foldl (registerRecord registry) new).checkDelegation debugStr agentId targetId := by
  have hlookup := lookup_after ops agentId
  refine ⟨fun roleConfig h ↦ ?_, fun h ↦ ?_, fun registry records hperm ↦ ?_⟩
  · rw [h, Option.map_some] at hlookup
    exact ⟨checkTool_userAgent hlookup, checkDelegation_userAgent hlookup⟩
  · rw [h, Option.map_none] at hlookup
    exact ⟨fun tool ↦ ⟨_, check_none hlookup _⟩, fun targetId ↦ ⟨_, check_none hlookup _⟩⟩
  · have hroles : ((after ops).rebuildFromRegistry registry).accessControl.roles.lookup agentId =
        (records.foldl (registerRecord registry) new).accessControl.roles.lookup agentId := by
      rw [rebuildFromRegistry_eq, registerRecords_roles]
      exact (lookup_registered registry (List.Perm.refl _) agentId).trans
        (lookup_registered registry hperm agentId).symm
    exact ⟨fun tool ↦ check_congr hroles _, fun targetId ↦ check_congr hroles _⟩

def searcher : AgentRecord :=
  ⟨{ makeConfig "u" with role := ⟨["search"], []⟩ }, .created, none, none, 0, 0⟩

theorem decisions_after_registering :
    (after [.registerSystemAgent "a", .registerAgent "a" ⟨["fs_read", "search", "mail"], ["mail"]⟩,
      .registerAgent "b" ⟨["search"], []⟩, .removeAgent "b"]).checkTool id "a" "search" = .ok () ∧
    (∃ denied, (after [.registerAgent "b" ⟨["search"], []⟩, .removeAgent "b"]).checkTool id "b" "search" =
      .error denied) ∧
    ((after []).rebuildFromRegistry ⟨AList.singleton "u" searcher, none⟩).checkTool id "u" "search" =
      (new.registerAgent "u" ⟨["search"], []⟩).1.checkTool id "u" "search" :=
  ⟨(((decisions_after id _ "a").1 _ rfl).1 "search").mpr (by decide),
    ((decisions_after id _ "b").2.1 rfl).1 "search",
    ((decisions_after id [] "u").2.2 ⟨AList.singleton "u" searcher, none⟩ _
      (List.Perm.refl _)).1 "search"⟩

theorem systemAgent_after (debugStr : String → String) {ops : List Operation} {agentId : String}
    (h : registered ops agentId = some .systemAgent) (permission : Permission) :
    (after ops).accessControl.check debugStr agentId permission = .ok () := by
  have hlookup := lookup_after ops agentId
  rw [h, Option.map_some] at hlookup
  exact check_systemAgent hlookup permission

end RbacBridge

end AdkGateway.Rbac
