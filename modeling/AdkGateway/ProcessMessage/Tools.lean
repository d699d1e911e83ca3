import AdkGateway.AccessControl.Decisions
import AdkGateway.Foundation.Json

namespace AdkGateway.ProcessMessage

open AccessControl Foundation

structure ToolEntry where
  name : String
  deriving DecidableEq

structure ToolRegistry where
  customTools : KeyedMap String ToolEntry
  agentTools : List String

namespace ToolRegistry

def new : ToolRegistry := ⟨∅, []⟩

def registerCustom (registry : ToolRegistry) (entry : ToolEntry) : ToolRegistry :=
  { registry with customTools := registry.customTools.insert entry.name entry }

def registerAgentTool (registry : ToolRegistry) (agentId : String) : ToolRegistry :=
  { registry with agentTools := registry.agentTools.insert agentId }

def registerAll (registry : ToolRegistry) (names : List String) : ToolRegistry :=
  names.foldl (fun registry name ↦ registry.registerCustom ⟨name⟩) registry

def resolveAll (registry : ToolRegistry) : List ToolEntry :=
  registry.customTools.values ++ registry.agentTools.map fun name ↦ ⟨name⟩

end ToolRegistry

section Startup

structure AgentEntry where
  id : String
  default : Bool
  tools : List String

structure ToolSources where
  memory : Bool
  rag : Bool
  mcpTools : List (List String)
  browserTools : List String
  agents : List AgentEntry
  delegator : Bool
  codingAgents : Bool
  taskHistory : Bool

def kgOps : List String :=
  ["kg_create_entities", "kg_create_relations", "kg_add_observations", "kg_delete_entities",
    "kg_delete_observations", "kg_delete_relations", "kg_search_nodes", "kg_open_nodes",
    "kg_read_graph"]

def ragOps : List String := ["rag_search", "rag_hybrid_search", "rag_filtered_search"]

def agentTools : List String :=
  ["agent_create", "agent_start", "agent_stop", "agent_delete", "agent_list", "agent_configure"]

def taskTools : List String := ["task_list", "task_create", "task_cancel", "task_delete"]

def fsTools : List String := ["fs_pwd", "fs_list", "fs_tree", "fs_read", "fs_search"]

def buildRegistry (sources : ToolSources) : ToolRegistry :=
  let registry := sources.mcpTools.foldl ToolRegistry.registerAll ToolRegistry.new
  let registry := if sources.memory then registry.registerAll kgOps else registry
  let registry := if sources.rag then registry.registerAll ragOps else registry
  let registry := registry.registerAll sources.browserTools
  let registry := sources.agents.foldl (fun registry entry ↦
    if entry.default then registry else registry.registerAgentTool entry.id) registry
  let registry := sources.agents.foldl (fun registry entry ↦ registry.registerAll entry.tools) registry
  registry.registerAll (agentTools ++ taskTools ++ fsTools ++ ["send_photo"])

def kgTools : List String :=
  ["kg_create_entities", "kg_add_observations", "kg_search_nodes", "kg_read_graph",
    "kg_delete_entities"]

def codingAgentTools (sources : ToolSources) : List String :=
  (if sources.delegator then ["delegate_to_coding_agent"] else []) ++
    (if sources.codingAgents then ["coding_agent_list"] else []) ++
    (if sources.taskHistory then ["coding_agent_task_status"] else [])

def attachedTools (sources : ToolSources) : List String :=
  (if sources.memory then kgTools else []) ++ agentTools ++ taskTools ++ fsTools ++ ["send_photo"] ++
    codingAgentTools sources ++ sources.mcpTools.flatten

end Startup

section Access

inductive ToolAccessDecision
  | allowed
  | denied (reason : String)
  deriving DecidableEq

def checkToolAccess (userRoles userScopes : List String) (toolName : String)
    (requiredRole : Option String) (requiredScopes : List String) : ToolAccessDecision :=
  match requiredRole.filter fun role ↦ !userRoles.contains role with
  | some role =>
    .denied ("tool '" ++ toolName ++ "' requires role '" ++ role ++
      "' which the user does not have")
  | none =>
    let missing := requiredScopes.filter fun scope ↦ !userScopes.contains scope
    if missing = [] then .allowed
    else
      .denied ("tool '" ++ toolName ++ "' requires scopes [" ++ ", ".intercalate missing ++
        "] which the user is missing")

def userRoleNames (bridge : AccessControlBridge) (canonicalId : String) : List String :=
  (bridge.userRoles.lookup canonicalId).getD []

def wrapToolCheck (bridge : AccessControlBridge) (canonicalId toolName : String)
    (requiredRole : Option String) (requiredScopes : List String)
    (resolveScopes : String → List String) : ToolAccessDecision :=
  checkToolAccess (userRoleNames bridge canonicalId) (resolveScopes canonicalId) toolName
    requiredRole requiredScopes

/-- Without a role or a scope that it asks for a tool is for everyone. -/
theorem wrapToolCheck_none (bridge : AccessControlBridge) (canonicalId toolName : String)
    (resolveScopes : String → List String) :
    wrapToolCheck bridge canonicalId toolName none [] resolveScopes = .allowed := by
  simp [wrapToolCheck, checkToolAccess]

end Access

section Skills

structure SkillDocument where
  name : String
  tags : List String
  allowedTools : Option (List String)
  trigger : Option String
  references : List String
  instructions : String
  deriving DecidableEq

def contains (text part : String) : Bool :=
  text.toList.tails.any fun tail ↦ part.toList.isPrefixOf tail

variable (toLowercase : String → String)

def triggered (message : String) (skill : SkillDocument) : Bool :=
  skill.trigger.any fun trigger ↦ contains message (toLowercase trigger)

def named (message : String) (skill : SkillDocument) : Bool :=
  skill.trigger.isNone && (skill.name :: skill.tags).any fun word ↦
    contains message (toLowercase word)

/-- One whose trigger the message holds, or else one without trigger whose name or one of whose tags
it holds. -/
def selectSkill (userMessage : String) (skills : List SkillDocument) : Option SkillDocument :=
  let message := toLowercase userMessage
  (skills.find? (triggered toLowercase message)).or (skills.find? (named toLowercase message))

def filterTools (tools : List ToolEntry) (skill : SkillDocument) : List ToolEntry :=
  match skill.allowedTools with
  | none => tools
  | some allowed => tools.filter fun tool ↦ allowed.contains tool.name

end Skills

end AdkGateway.ProcessMessage
