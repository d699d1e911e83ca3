import AdkGateway.Workflow.Graph
import Mathlib.Data.List.Basic

namespace AdkGateway.Workflow

open Foundation

namespace GraphWorkflow

variable (floats : Floats) (wf : GraphWorkflow) (ctx : WorkflowExecutionContext)

/-- The state that the `n`-th execution leaves, its node's result reduced into it. -/
def reduced (n : ℕ) (node : WorkflowNode) (state : WorkflowState) : WorkflowState :=
  let state := wf.before node.id state
  wf.after node.id (wf.record floats node.id state (executeNode ctx n node state)).1

/-- The `n`-th node of the path with the state it meets, if the path is that long: the entry
first, and then always what `resolveNextNode` says of the reduced state. -/
def path (initialState : WorkflowState) : ℕ → Option (WorkflowNode × WorkflowState)
  | 0 => wf.nodes.head?.map (·, initialState)
  | n + 1 => (path initialState n).bind fun at' ↦
    let state := wf.reduced floats ctx n at'.1 at'.2
    ((wf.resolveNextNode floats at'.1.id state).bind wf.findNode).map (·, state)

structure WellFormed : Prop where
  nonempty : wf.nodes ≠ []
  nodup : (wf.nodes.map WorkflowNode.id).Nodup
  targets : ∀ edge ∈ wf.edges, edge.«to» ∈ wf.nodes.map WorkflowNode.id

variable {floats wf ctx}

section Build

theorem firstDuplicate_eq_none {ids seen : List String}
    (h : GraphWorkflowBuilder.firstDuplicate ids seen = none) : ids.Nodup ∧ ∀ id ∈ ids, id ∉ seen := by
  induction ids generalizing seen with
  | nil => exact ⟨List.nodup_nil, fun _ hid ↦ absurd hid List.not_mem_nil⟩
  | cons id ids ih =>
    rw [GraphWorkflowBuilder.firstDuplicate] at h
    split at h
    case isTrue => cases h
    case isFalse hnew =>
      obtain ⟨hnodup, hrest⟩ := ih h
      refine ⟨List.nodup_cons.mpr ⟨fun hid ↦ hrest id hid List.mem_cons_self, hnodup⟩, ?_⟩
      refine List.forall_mem_cons.mpr ⟨by simpa using hnew, fun id' hid' hseen ↦ ?_⟩
      exact hrest id' hid' (List.mem_cons_of_mem id hseen)

theorem edgeError_eq_none {nodeIds : List String} {edge : GraphEdgeConfig}
    (h : GraphWorkflowBuilder.edgeError nodeIds edge = none) :
    edge.«from» ∈ nodeIds ∧ edge.«to» ∈ nodeIds := by
  unfold GraphWorkflowBuilder.edgeError at h
  split at h
  case isTrue => cases h
  case isFalse hfrom =>
    split at h
    case isTrue => cases h
    case isFalse hto => exact ⟨by simpa using hfrom, by simpa using hto⟩

theorem wellFormed_of_build {config : GraphWorkflowConfig}
    (h : GraphWorkflowBuilder.build config = .ok wf) : wf.WellFormed := by
  unfold GraphWorkflowBuilder.build at h
  split at h
  case isTrue => cases h
  case isFalse hne =>
    dsimp only at h
    split at h
    case h_1 => cases h
    case h_2 hdup =>
      split at h
      case h_1 => cases h
      case h_2 hedges =>
        cases h
        have hids : (config.nodes.map fun n ↦ (⟨n.id, n.nodeType, n.config⟩ : WorkflowNode)).map
            WorkflowNode.id = config.nodes.map GraphNodeConfig.id := List.map_map
        refine ⟨by simpa using hne, ?_, fun edge hedge ↦ ?_⟩
        · rw [hids]
          exact (firstDuplicate_eq_none hdup).1
        · obtain ⟨e, he, rfl⟩ := List.mem_map.mp hedge
          rw [hids]
          exact (edgeError_eq_none (List.findSome?_eq_none_iff.mp hedges e he)).2

end Build

section Nodes

theorem resolveNextNode_mem {current next : String} {state : WorkflowState}
    (h : wf.resolveNextNode floats current state = some next) : ∃ edge ∈ wf.edges, edge.«to» = next := by
  unfold resolveNextNode at h
  dsimp only at h
  split at h
  case h_1 edge hedge =>
    exact ⟨edge, List.mem_of_mem_filter (List.mem_of_find?_eq_some hedge), Option.some_inj.mp h⟩
  case h_2 =>
    obtain ⟨edge, hedge, rfl⟩ := Option.map_eq_some_iff.mp h
    exact ⟨edge, List.mem_of_mem_filter (List.mem_of_find?_eq_some hedge), rfl⟩

theorem id_of_findNode {id : String} {node : WorkflowNode} (h : wf.findNode id = some node) :
    node.id = id := by simpa using List.find?_some h

theorem findNode_of_mem {id : String} (h : id ∈ wf.nodes.map WorkflowNode.id) :
    ∃ node, wf.findNode id = some node := by
  obtain ⟨node, hnode, rfl⟩ := List.mem_map.mp h
  exact Option.isSome_iff_exists.mp (List.find?_isSome.mpr ⟨node, hnode, by simp⟩)

theorem WellFormed.resolve_findNode (h : wf.WellFormed) {current : String} {state : WorkflowState}
    {next : String} (hnext : wf.resolveNextNode floats current state = some next) :
    ∃ node, wf.findNode next = some node := by
  obtain ⟨edge, hedge, rfl⟩ := resolveNextNode_mem hnext
  exact findNode_of_mem (h.targets edge hedge)

theorem WellFormed.resolve_eq (h : wf.WellFormed) (current : String) (state : WorkflowState) :
    wf.resolveNextNode floats current state =
      ((wf.resolveNextNode floats current state).bind wf.findNode).map WorkflowNode.id := by
  cases hnext : wf.resolveNextNode floats current state with
  | none => rfl
  | some next =>
    obtain ⟨node, hnode⟩ := h.resolve_findNode hnext
    rw [Option.bind_some, hnode, Option.map_some, id_of_findNode hnode]

theorem WellFormed.findNode_entry (h : wf.WellFormed) :
    (wf.nodes.head?.map WorkflowNode.id).bind wf.findNode = wf.nodes.head? := by
  cases hnodes : wf.nodes with
  | nil => exact absurd hnodes h.nonempty
  | cons node nodes => simp [findNode, hnodes]

end Nodes

variable (floats wf ctx) in
structure Follows (initialState : WorkflowState) (n : ℕ) (executedNodes : List NodeResult)
    (checkpointStore : CheckpointStore) : Prop where
  length : executedNodes.length = n
  nodes : ∀ k < n, (executedNodes.map NodeResult.nodeId)[k]? =
    (wf.path floats ctx initialState k).map fun at' ↦ at'.1.id
  snapshots : (checkpointStore.snapshots.map fun s ↦ (s.nodeId, s.iteration.toNat)) =
    if wf.checkpoint.isSome then (executedNodes.map NodeResult.nodeId).zipIdx else []

variable (floats wf ctx) in
def Ended (initialState : WorkflowState) : Except GraphWorkflowError WorkflowExecutionResult → Prop
  | .ok result =>
    wf.path floats ctx initialState result.iterations.toNat = none ∧
      wf.Follows floats ctx initialState result.iterations.toNat result.executedNodes
        result.checkpointStore ∧ result.iterations ≤ wf.maxIterations
  | .error (.maxIterationsReached max lastNode) => max = wf.maxIterations ∧
    (wf.path floats ctx initialState wf.maxIterations.toNat).map (fun at' ↦ at'.1.id) = some lastNode
  | .error _ => False

section Loop

variable {initialState state : WorkflowState}

theorem nodeId_record (n : ℕ) (node : WorkflowNode) (state state' : WorkflowState) :
    (wf.record floats node.id state (executeNode ctx n node state')).2.nodeId = node.id := by
  unfold executeNode
  cases node.nodeType with
  | action =>
    dsimp only
    cases ctx.runAction n node.config <;> rfl
  | agent =>
    dsimp only
    cases ctx.runAgent n _ node.config state' <;> rfl
  | tool => rfl

theorem Follows.next {n : ℕ} {executedNodes : List NodeResult} {checkpointStore : CheckpointStore}
    (h : wf.Follows floats ctx initialState n executedNodes checkpointStore) {node : WorkflowNode}
    (hpath : wf.path floats ctx initialState n = some (node, state)) {nodeResult : NodeResult}
    (hid : nodeResult.nodeId = node.id) {iteration : UInt32} (hn : iteration.toNat = n)
    (saved : WorkflowState) :
    wf.Follows floats ctx initialState (n + 1) (executedNodes ++ [nodeResult])
      (match wf.checkpoint with
        | some _ => ⟨checkpointStore.snapshots ++ [⟨node.id, saved, iteration⟩]⟩
        | none => checkpointStore) := by
  have hlen : (executedNodes.map NodeResult.nodeId).length = n := by rw [List.length_map, h.length]
  refine ⟨by rw [List.length_append, h.length]; rfl, fun k hk ↦ ?_, ?_⟩
  · rw [List.map_append]
    by_cases hkn : k < n
    · rw [List.getElem?_append_left (by omega)]
      exact h.nodes k hkn
    · obtain rfl : k = n := by omega
      rw [List.getElem?_append_right (by omega), hlen, Nat.sub_self, hpath]
      exact congrArg some hid
  · have hsnapshots := h.snapshots
    cases hcheckpoint : wf.checkpoint with
    | none => simpa [hcheckpoint] using hsnapshots
    | some config =>
      rw [hcheckpoint] at hsnapshots
      simp only [List.map_append, hsnapshots, Option.isSome_some, if_true, List.zipIdx_append, hlen,
        Nat.zero_add]
      simp [hid, hn]

theorem executeLoop_ended (hwf : wf.WellFormed) {current : Option WorkflowNode}
    {checkpointStore : CheckpointStore} {iteration : UInt32} {executedNodes : List NodeResult}
    (hfound : ∀ node ∈ current, wf.findNode node.id = some node)
    (hpath : wf.path floats ctx initialState iteration.toNat = current.map (·, state))
    (hfollows : wf.Follows floats ctx initialState iteration.toNat executedNodes checkpointStore)
    (hle : iteration ≤ wf.maxIterations) :
    wf.Ended floats ctx initialState
      (wf.executeLoop floats ctx (current.map WorkflowNode.id) state checkpointStore iteration
        executedNodes) := by
  -- every turn brings the count closer to its limit
  induction hleft : wf.maxIterations.toNat - iteration.toNat generalizing current state
    checkpointStore iteration executedNodes with
  | zero =>
    cases current with
    | none =>
      rw [Option.map_none, executeLoop]
      exact ⟨hpath, hfollows, hle⟩
    | some node =>
      have hlimit : wf.maxIterations ≤ iteration :=
        UInt32.le_iff_toNat_le.mpr (Nat.le_of_sub_eq_zero hleft)
      have heq : wf.maxIterations = iteration := UInt32.le_antisymm hlimit hle
      rw [Option.map_some, executeLoop, dif_pos hlimit]
      refine ⟨rfl, ?_⟩
      rw [heq, hpath]
      rfl
  | succ left ih =>
    cases current with
    | none =>
      rw [Option.map_none, executeLoop]
      exact ⟨hpath, hfollows, hle⟩
    | some node =>
      have hlimit : ¬ wf.maxIterations ≤ iteration := fun h ↦ by
        have hle' := UInt32.le_iff_toNat_le.mp h
        omega
      have hbound := wf.maxIterations.toNat_lt
      have hnext : (iteration + 1).toNat = iteration.toNat + 1 := by
        rw [UInt32.toNat_add, UInt32.toNat_one, Nat.mod_eq_of_lt (by omega)]
      rw [Option.map_some, executeLoop, dif_neg hlimit, hfound node rfl]
      dsimp only
      rw [hwf.resolve_eq]
      refine ih (fun next hmem ↦ ?_) ?_ ?_ ?_ (by omega)
      · obtain ⟨id, -, hid⟩ := Option.bind_eq_some_iff.mp hmem
        rw [id_of_findNode hid]
        exact hid
      · rw [hnext, path, hpath]
        rfl
      · rw [hnext]
        exact hfollows.next hpath (nodeId_record _ node _ _) rfl _
      · rw [UInt32.le_iff_toNat_le, hnext]
        omega

end Loop

theorem execute_ended (hwf : wf.WellFormed) (initialState : WorkflowState) :
    wf.Ended floats ctx initialState (wf.execute floats initialState ctx) := by
  refine executeLoop_ended hwf (fun node hnode ↦ ?_) rfl ?_ (UInt32.le_iff_toNat_le.mpr (Nat.zero_le _))
  · have hentry := hwf.findNode_entry
    rw [Option.mem_def.mp hnode] at hentry
    exact hentry
  · refine ⟨rfl, fun k hk ↦ absurd hk (Nat.not_lt_zero k), ?_⟩
    cases wf.checkpoint <;> rfl

theorem path_none_of_le {initialState : WorkflowState} {n m : ℕ} (hnm : n ≤ m)
    (h : wf.path floats ctx initialState n = none) : wf.path floats ctx initialState m = none := by
  induction hnm with
  | refl => exact h
  | step _ ih =>
    rw [path, ih]
    rfl

theorem execute_follows_path (floats : Floats) {config : GraphWorkflowConfig} {wf : GraphWorkflow}
    (hbuild : GraphWorkflowBuilder.build config = .ok wf) (initialState : WorkflowState)
    (ctx : WorkflowExecutionContext) :
    (∀ id, wf.execute floats initialState ctx ≠ .error (.nodeNotFound id)) ∧
    (∀ result, wf.execute floats initialState ctx = .ok result →
      (∀ k, (result.executedNodes.map NodeResult.nodeId)[k]? =
        (wf.path floats ctx initialState k).map fun at' ↦ at'.1.id) ∧
      result.iterations.toNat = result.executedNodes.length ∧
      result.iterations ≤ wf.maxIterations ∧
      (result.checkpointStore.snapshots.map fun s ↦ (s.nodeId, s.iteration.toNat)) =
        if wf.checkpoint.isSome then (result.executedNodes.map NodeResult.nodeId).zipIdx else []) ∧
    ((∃ max lastNode, wf.execute floats initialState ctx = .error (.maxIterationsReached max lastNode)) ↔
      (wf.path floats ctx initialState wf.maxIterations.toNat).isSome) := by
  have hended : wf.Ended floats ctx initialState (wf.execute floats initialState ctx) :=
    execute_ended (wellFormed_of_build hbuild) initialState
  cases hexecute : wf.execute floats initialState ctx with
  | ok result =>
    rw [hexecute] at hended
    obtain ⟨hend, hfollows, hle⟩ := hended
    refine ⟨fun id h ↦ (by cases h), fun result' h ↦ ?_, ?_⟩
    · cases h
      refine ⟨fun k ↦ ?_, hfollows.length.symm, hle, hfollows.snapshots⟩
      by_cases hk : k < result.iterations.toNat
      · exact hfollows.nodes k hk
      · rw [path_none_of_le (Nat.le_of_not_lt hk) hend, List.getElem?_eq_none]
        · rfl
        · rw [List.length_map, hfollows.length]
          exact Nat.le_of_not_lt hk
    · refine iff_of_false (fun ⟨max, lastNode, h⟩ ↦ (by cases h)) ?_
      rw [path_none_of_le (UInt32.le_iff_toNat_le.mp hle) hend]
      exact Bool.false_ne_true
  | error e =>
    rw [hexecute] at hended
    cases e with
    | maxIterationsReached max lastNode =>
      obtain ⟨hmax, hlast⟩ := hended
      refine ⟨fun id h ↦ (by cases h), fun result h ↦ (by cases h), ?_⟩
      refine iff_of_true ⟨max, lastNode, rfl⟩ ?_
      obtain ⟨at', hat, -⟩ := Option.map_eq_some_iff.mp hlast
      rw [hat]
      rfl
    | _ => exact hended.elim

def integers : Floats where
  F := ℤ
  zero := 0
  ofNumber literal := literal.toInt?.getD 0
  parse := String.toInt?
  lt x y := decide (x < y)
  add := (· + ·)
  toJson x := .number (ToString.toString x)

def toolConfig (edges : List GraphEdgeConfig) (maxIterations : Option UInt32) : GraphWorkflowConfig :=
  ⟨[⟨"a", .tool, .null⟩], edges, ∅, none, none, maxIterations, none⟩

def toolWorkflow (edges : List WorkflowEdge) (maxIterations : UInt32) : GraphWorkflow :=
  ⟨[⟨"a", .tool, .null⟩], edges, ∅, none, none, maxIterations, none⟩

theorem execute_follows_path_cycle :
    ∃ max lastNode, (toolWorkflow [⟨"a", "a", none⟩] 2).execute integers ∅
      ⟨fun _ _ ↦ .error "", fun _ _ _ _ ↦ .error ""⟩ =
        .error (.maxIterationsReached max lastNode) := by
  have hbuild : GraphWorkflowBuilder.build (toolConfig [⟨"a", "a", none⟩] (some 2)) =
      .ok (toolWorkflow [⟨"a", "a", none⟩] 2) := rfl
  have hfollows := execute_follows_path integers hbuild ∅
    ⟨fun _ _ ↦ .error "", fun _ _ _ _ ↦ .error ""⟩
  exact hfollows.2.2.mpr rfl

/-- Without a checkpoint config nothing is saved. -/
theorem execute_saves_nothing :
    GraphWorkflowBuilder.build (toolConfig [] none) = .ok (toolWorkflow [] 100) ∧
      ((toolWorkflow [] 100).execute integers ∅
        ⟨fun _ _ ↦ .error "", fun _ _ _ _ ↦ .error ""⟩).toOption.map (fun result ↦
          (result.executedNodes.length, result.checkpointStore.snapshots.length)) = some (1, 0) := by
  refine ⟨rfl, ?_⟩
  rw [execute, toolWorkflow, List.head?_cons, Option.map_some, executeLoop, dif_neg (by decide)]
  change (executeLoop integers _ _ none _ ⟨[]⟩ 1 [_]).toOption.map _ = _
  rw [executeLoop]
  rfl

end GraphWorkflow

end AdkGateway.Workflow
