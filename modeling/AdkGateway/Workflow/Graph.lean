import AdkGateway.Foundation.Json
import AdkGateway.Foundation.KeyedMap
import AdkGateway.Foundation.Text

namespace AdkGateway.Workflow

open Foundation Text

inductive GraphNodeType
  | agent
  | action
  | tool

inductive ReducerType
  | overwrite
  | append
  | sum
  | custom (name : String)

inductive GraphStreamMode
  | values
  | updates
  | messages
  | debug

structure CheckpointConfig where
  backend : String
  path : Option String

structure InterruptConfig where
  before : List String
  after : List String

structure GraphNodeConfig where
  id : String
  nodeType : GraphNodeType
  config : Json

structure GraphEdgeConfig where
  «from» : String
  «to» : String
  condition : Option String

structure GraphWorkflowConfig where
  nodes : List GraphNodeConfig
  edges : List GraphEdgeConfig
  stateReducers : KeyedMap String ReducerType
  checkpoint : Option CheckpointConfig
  streamMode : Option GraphStreamMode
  maxIterations : Option UInt32
  interrupts : Option InterruptConfig

abbrev WorkflowState := KeyedMap String Json

structure WorkflowNode where
  id : String
  nodeType : GraphNodeType
  config : Json

structure WorkflowEdge where
  «from» : String
  «to» : String
  condition : Option String

structure GraphWorkflow where
  nodes : List WorkflowNode
  edges : List WorkflowEdge
  stateReducers : KeyedMap String ReducerType
  checkpoint : Option CheckpointConfig
  streamMode : Option GraphStreamMode
  maxIterations : UInt32
  interrupts : Option InterruptConfig

structure NodeResult where
  nodeId : String
  output : Json
  error : Option String

structure CheckpointSnapshot where
  nodeId : String
  state : WorkflowState
  iteration : UInt32

structure CheckpointStore where
  snapshots : List CheckpointSnapshot

structure WorkflowExecutionResult where
  state : WorkflowState
  executedNodes : List NodeResult
  checkpointStore : CheckpointStore
  iterations : UInt32

inductive GraphWorkflowError
  | emptyGraph
  | duplicateNodeId (id : String)
  | invalidEdge («from» «to» reason : String)
  | nodeNotFound (id : String)
  | maxIterationsReached (max : UInt32) (lastNode : String)
  | nodeExecutionFailed (nodeId reason : String)

def GraphWorkflowError.toString : GraphWorkflowError → String
  | .emptyGraph => "graph has no nodes"
  | .duplicateNodeId id => "duplicate node ID: " ++ id
  | .invalidEdge «from» «to» reason =>
    "invalid edge from '" ++ «from» ++ "' to '" ++ «to» ++ "': " ++ reason
  | .nodeNotFound id => "node not found: " ++ id
  | .maxIterationsReached max lastNode =>
    "max iterations (" ++ (ToString.toString max.toNat) ++ ") reached at node '" ++ lastNode ++ "'"
  | .nodeExecutionFailed nodeId reason =>
    "node '" ++ nodeId ++ "' execution failed: " ++ reason

/-- What the workflow asks of the arithmetic of `f64`. -/
structure Floats where
  F : Type
  zero : F
  ofNumber : String → F
  parse : String → Option F
  lt : F → F → Bool
  add : F → F → F
  toJson : F → Json

/-- How the nodes behave: what the `n`-th execution answers for an action's config, or for an
agent, its node's config and the state. -/
structure WorkflowExecutionContext where
  runAction : ℕ → Json → Except String Json
  runAgent : ℕ → String → Json → WorkflowState → Except String String

namespace GraphWorkflowBuilder

def firstDuplicate : List String → List String → Option String
  | [], _ => none
  | id :: ids, seen => if seen.contains id then some id else firstDuplicate ids (id :: seen)

def edgeError (nodeIds : List String) (edge : GraphEdgeConfig) : Option GraphWorkflowError :=
  if !nodeIds.contains edge.«from» then
    some (.invalidEdge edge.«from» edge.«to» ("source node '" ++ edge.«from» ++ "' not found"))
  else if !nodeIds.contains edge.«to» then
    some (.invalidEdge edge.«from» edge.«to» ("target node '" ++ edge.«to» ++ "' not found"))
  else none

def build (config : GraphWorkflowConfig) : Except GraphWorkflowError GraphWorkflow :=
  if config.nodes.isEmpty then .error .emptyGraph
  else
    let nodeIds := config.nodes.map GraphNodeConfig.id
    match firstDuplicate nodeIds [] with
    | some id => .error (.duplicateNodeId id)
    | none =>
      match config.edges.findSome? (edgeError nodeIds) with
      | some e => .error e
      | none => .ok {
          nodes := config.nodes.map fun n ↦ ⟨n.id, n.nodeType, n.config⟩
          edges := config.edges.map fun e ↦ ⟨e.«from», e.«to», e.condition⟩
          stateReducers := config.stateReducers
          checkpoint := config.checkpoint
          streamMode := config.streamMode
          maxIterations := config.maxIterations.getD 100
          interrupts := config.interrupts }

end GraphWorkflowBuilder

section Conditions

variable (floats : Floats)

def asF64 : Json → Option floats.F
  | .number literal => some (floats.ofNumber literal)
  | _ => none

def comparable : Json → Option String
  | .string s => some s
  | .number literal => some literal
  | .bool b => some (if b then "true" else "false")
  | _ => none

def truthy (condition : String) (state : WorkflowState) : Bool :=
  match state.lookup condition with
  | none => false
  | some v => v != .null && v != .bool false

def compareNumber (symbol condition : String) (holds : floats.F → floats.F → Bool)
    (state : WorkflowState) : Option Bool :=
  match splitOnce symbol condition with
  | none => none
  | some (key, val) =>
    (floats.parse (trim val)).map fun threshold ↦
      (((state.lookup (trim key)).bind (asF64 floats)).map fun n ↦ holds n threshold).getD false

def evaluateCondition (condition : String) (state : WorkflowState) : Bool :=
  let condition := trim condition
  match splitOnce "==" condition with
  | some (key, val) =>
    let val := trimMatches '"' (trim val)
    ((state.lookup (trim key)).map fun v ↦ ((comparable v).map (· == val)).getD false).getD false
  | none =>
  match splitOnce "!=" condition with
  | some (key, val) =>
    let val := trimMatches '"' (trim val)
    ((state.lookup (trim key)).map fun v ↦ ((comparable v).map (· != val)).getD true).getD true
  | none =>
  match compareNumber floats ">" condition (fun n threshold ↦ floats.lt threshold n) state with
  | some answer => answer
  | none =>
  match compareNumber floats "<" condition floats.lt state with
  | some answer => answer
  | none => truthy condition state

end Conditions

def executeNode (ctx : WorkflowExecutionContext) (n : ℕ) (node : WorkflowNode)
    (state : WorkflowState) : Except GraphWorkflowError NodeResult :=
  match node.nodeType with
  | .action =>
    match ctx.runAction n node.config with
    | .error reason => .error (.nodeExecutionFailed node.id reason)
    | .ok output => .ok ⟨node.id, output, none⟩
  | .agent =>
    let agentId := ((node.config.get "agent_id").bind Json.asStr).getD "unknown"
    match ctx.runAgent n agentId node.config state with
    | .error reason => .error (.nodeExecutionFailed node.id reason)
    | .ok response =>
      .ok ⟨node.id, .object [("agent_id", .string agentId), ("response", .string response)], none⟩
  | .tool =>
    let toolName := ((node.config.get "tool").bind Json.asStr).getD "unknown"
    .ok ⟨node.id, .object [("tool", .string toolName),
      ("result", .string ("Tool " ++ toolName ++ " executed"))], none⟩

namespace GraphWorkflow

variable (floats : Floats) (wf : GraphWorkflow)

def findNode (id : String) : Option WorkflowNode := wf.nodes.find? fun n ↦ n.id == id

def outgoingEdges (nodeId : String) : List WorkflowEdge := wf.edges.filter fun e ↦ e.«from» == nodeId

def resolveNextNode (currentNode : String) (state : WorkflowState) : Option String :=
  let edges := wf.outgoingEdges currentNode
  match edges.find? fun e ↦ (e.condition.map (evaluateCondition floats · state)).getD false with
  | some edge => some edge.«to»
  | none => (edges.find? fun e ↦ e.condition.isNone).map WorkflowEdge.«to»

def applyReducer (state : WorkflowState) (key : String) (value : Json) : WorkflowState :=
  match (wf.stateReducers.lookup key).getD .overwrite with
  | .overwrite => state.insert key value
  | .append =>
    match (state.lookup key).getD (.array []), value with
    | .array arr, .array newItems => state.insert key (.array (arr ++ newItems))
    | .array arr, value => state.insert key (.array (arr ++ [value]))
    | old, value => state.insert key (.array [old, value])
  | .sum =>
    let current := (state.lookup key).getD (.number "0")
    let currentNum := (asF64 floats current).getD floats.zero
    let addNum := (asF64 floats value).getD floats.zero
    state.insert key (floats.toJson (floats.add currentNum addNum))
  | .custom _ => state.insert key value

def interrupt (listed : InterruptConfig → List String) (key nodeId : String) (state : WorkflowState) :
    WorkflowState :=
  match wf.interrupts with
  | none => state
  | some interrupts =>
    if (listed interrupts).contains nodeId then state.insert key (.string nodeId) else state

def before (nodeId : String) (state : WorkflowState) : WorkflowState :=
  wf.interrupt InterruptConfig.before "__interrupt_before" nodeId state

def after (nodeId : String) (state : WorkflowState) : WorkflowState :=
  wf.interrupt InterruptConfig.after "__interrupt_after" nodeId state

def record (nodeId : String) (state : WorkflowState) (result : Except GraphWorkflowError NodeResult) :
    WorkflowState × NodeResult :=
  match result with
  | .ok nodeResult =>
    let state := match nodeResult.output with
      | .object map => map.foldl (fun state e ↦ wf.applyReducer floats state e.1 e.2) state
      | _ => state
    (state, nodeResult)
  | .error e => (state, ⟨nodeId, .object [("error", .string e.toString)], some e.toString⟩)

def executeLoop (ctx : WorkflowExecutionContext) (currentNodeId : Option String) (state : WorkflowState)
    (checkpointStore : CheckpointStore) (iteration : UInt32) (executedNodes : List NodeResult) :
    Except GraphWorkflowError WorkflowExecutionResult :=
  match currentNodeId with
  | none => .ok ⟨state, executedNodes, checkpointStore, iteration⟩
  | some nodeId =>
    if _hmax : wf.maxIterations ≤ iteration then
      .error (.maxIterationsReached wf.maxIterations nodeId)
    else
      match wf.findNode nodeId with
      | none => .error (.nodeNotFound nodeId)
      | some node =>
        let state := wf.before node.id state
        let result := executeNode ctx iteration.toNat node state
        let (state, nodeResult) := wf.record floats nodeId state result
        let checkpointStore := match wf.checkpoint with
          | some _ => ⟨checkpointStore.snapshots ++ [⟨nodeId, state, iteration⟩]⟩
          | none => checkpointStore
        let state := wf.after node.id state
        executeLoop ctx (wf.resolveNextNode floats nodeId state) state checkpointStore (iteration + 1)
          (executedNodes ++ [nodeResult])
termination_by wf.maxIterations.toNat - iteration.toNat
decreasing_by
  have hlt : iteration.toNat < wf.maxIterations.toNat :=
    Nat.lt_of_not_le fun hle ↦ _hmax (UInt32.le_iff_toNat_le.mpr hle)
  have hbound := wf.maxIterations.toNat_lt
  rw [UInt32.toNat_add, UInt32.toNat_one, Nat.mod_eq_of_lt (by omega)]
  omega

def execute (initialState : WorkflowState) (ctx : WorkflowExecutionContext) :
    Except GraphWorkflowError WorkflowExecutionResult :=
  wf.executeLoop floats ctx (wf.nodes.head?.map WorkflowNode.id) initialState ⟨[]⟩ 0 []

end GraphWorkflow

end AdkGateway.Workflow
