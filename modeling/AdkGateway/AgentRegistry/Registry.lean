import AdkGateway.Foundation.Json
import AdkGateway.Foundation.KeyedMap
import AdkGateway.Foundation.Time

namespace AdkGateway

structure AgentRoleConfig where
  allow : List String
  deny : List String
  deriving DecidableEq

structure ChannelBinding where
  channelType : String
  accountId : Option String
  peerFilter : Option String
  deriving DecidableEq

open Foundation

/-- The definition of an agent; what no modelled function reads is `other`. -/
structure AgentConfig where
  id : String
  name : String
  description : String
  model : String
  instruction : String
  tools : List String
  role : AgentRoleConfig
  channelBindings : List ChannelBinding
  autoStart : Bool
  other : Json

def makeConfig (id : String) : AgentConfig :=
  ⟨id, "Agent " ++ id, "test agent", "test/model", "do stuff", [], ⟨[], []⟩, [], false, .null⟩

inductive LifecycleState
  | created
  | starting
  | running
  | stopping
  | stopped
  | error (message : String)
  deriving DecidableEq

structure AgentRecord where
  config : AgentConfig
  state : LifecycleState
  port : Option UInt16
  pid : Option UInt32
  createdAt : DateTime
  updatedAt : DateTime

structure AgentRegistry where
  agents : KeyedMap String AgentRecord
  systemAgentId : Option String

namespace AgentRegistry

def list (registry : AgentRegistry) : List (String × AgentRecord) :=
  registry.agents.entries.map fun e ↦ (e.1, e.2)

def isSystemAgent (registry : AgentRegistry) (id : String) : Bool :=
  (registry.systemAgentId.map (· == id)).getD false

theorem mem_list {registry : AgentRegistry} {id : String} {record : AgentRecord} :
    (id, record) ∈ registry.list ↔ registry.agents.lookup id = some record := by
  simp only [list, List.mem_map, KeyedMap.lookup_eq_some_iff, Prod.mk.injEq]
  constructor
  · rintro ⟨e, he, rfl, rfl⟩
    exact he
  · exact fun h ↦ ⟨_, h, rfl, rfl⟩

theorem nodup_ids (registry : AgentRegistry) : (registry.list.map Prod.fst).Nodup := by
  have hkeys : registry.list.map Prod.fst = registry.agents.keys := by
    simp [list, AList.keys, List.keys, Function.comp_def]
  rw [hkeys]
  exact registry.agents.keys_nodup

end AgentRegistry

end AdkGateway
