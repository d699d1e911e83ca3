import AdkGateway.AgentTools.Tools
import AdkGateway.Foundation.Digraph
import AdkGateway.Foundation.Machine
import AdkGateway.Foundation.Text
import Mathlib.Data.List.Induction
import Mathlib.Data.List.Nodup

namespace AdkGateway.ControlPanel

open Foundation AgentTools

structure SettingsResponse where
  ok : Bool
  message : String

structure CreateAgentBinding where
  channelType : String
  accountId : Option String

/-- The fields of a request to create an agent; what no modelled function reads is `other`. -/
structure CreateAgentPayload where
  name : String
  model : String
  description : String
  instruction : String
  tools : List String
  channelBindings : List CreateAgentBinding
  autoStart : Bool
  other : Json

structure ConfigureAgentPayload where
  model : Option String
  instruction : Option String
  tools : Option (List String)
  channelBindings : Option String
  autoStart : Option Bool

variable (F : Formats)

def CreateAgentPayload.config (payload : CreateAgentPayload) (name : String) : AgentConfig where
  id := idOfName F name
  name := name
  description := payload.description
  model := payload.model
  instruction := payload.instruction
  tools := payload.tools
  role := ⟨payload.tools, []⟩
  channelBindings := payload.channelBindings.map fun b ↦ ⟨b.channelType, b.accountId, none⟩
  autoStart := payload.autoStart
  other := payload.other

def createAs (config : AgentConfig) : Code SettingsResponse := do
  match ← call (.createAgent config) with
  | .ok () => return ⟨true, "Agent '" ++ config.id ++ "' created."⟩
  | .error e => return ⟨false, "Failed to create agent: " ++ e.message F.debugStr⟩

def apiAgentsCreate (payload : CreateAgentPayload) : Code SettingsResponse :=
  let name := Text.trim payload.name
  if name.isEmpty then pure ⟨false, "Agent name is required"⟩
  else if (Text.trim payload.model).isEmpty then pure ⟨false, "Model is required"⟩
  else if name.utf8ByteSize > 128 then
    pure ⟨false, "Agent name must be 128 characters or fewer"⟩
  else createAs F (payload.config F name)

def apiAgentsStart (id : String) : Code SettingsResponse := do
  match ← call (.transition id .starting) with
  | .ok () =>
    let _ ← call (.transition id .running)
    return ⟨true, "Agent '" ++ id ++ "' started."⟩
  | .error e => return ⟨false, "Failed to start agent: " ++ e.message F.debugStr⟩

def apiAgentsStop (id : String) : Code SettingsResponse := do
  match ← call (.transition id .stopping) with
  | .ok () =>
    let _ ← call (.transition id .stopped)
    return ⟨true, "Agent '" ++ id ++ "' stopped."⟩
  | .error e => return ⟨false, "Failed to stop agent: " ++ e.message F.debugStr⟩

def apiAgentsDelete (id : String) : Code SettingsResponse := do
  match ← AgentTools.delete id with
  | .ok _ => return ⟨true, "Agent '" ++ id ++ "' deleted and workspace archived."⟩
  | .error e => return ⟨false, "Failed to delete agent: " ++ e.message F.debugStr⟩

def parseBinding (text : String) : ChannelBinding :=
  match Text.splitOnce ":" text with
  | none => ⟨text, none, none⟩
  | some (channelType, accountId) => ⟨channelType, some accountId, none⟩

def parseBindings (text : String) : List ChannelBinding :=
  ((((text.toList.splitOn ',').map String.ofList).map Text.trim).filter (!·.isEmpty)).map
    parseBinding

/-- The definition that a request changes an agent's to, unless it empties the model. -/
def ConfigureAgentPayload.config (payload : ConfigureAgentPayload) (config : AgentConfig) :
    Option AgentConfig :=
  let tools := payload.tools.getD config.tools
  let configured : AgentConfig := { config with
    model := payload.model.getD config.model
    instruction := payload.instruction.getD config.instruction
    tools := tools
    role := ⟨payload.tools.getD config.role.allow, config.role.deny⟩
    autoStart := payload.autoStart.getD config.autoStart
    channelBindings := (payload.channelBindings.map parseBindings).getD config.channelBindings }
  match payload.model with
  | some model => if (Text.trim model).isEmpty then none else some configured
  | none => some configured

def apiAgentsConfigure (id : String) (payload : ConfigureAgentPayload) : Code SettingsResponse := do
  match ← call (.get id) with
  | none => return ⟨false, "Agent '" ++ id ++ "' not found"⟩
  | some record =>
    match payload.config record.config with
    | none => return ⟨false, "Model cannot be empty"⟩
    | some config =>
      match ← call (.updateConfig id config) with
      | .ok () => return ⟨true, "Agent '" ++ id ++ "' configuration updated."⟩
      | .error e => return ⟨false, "Failed to configure agent: " ++ e.message F.debugStr⟩

open Machine

structure DelegationRule where
  callerId : String
  targetId : String
  createdAt : String

abbrev DelegationStore := List DelegationRule

structure DelegationPayload where
  callerId : String
  targetId : String

structure Answer where
  ok : Bool
  message : String

def newDelegationStore : DelegationStore := []

def pairs (permissions : List DelegationRule) : List (String × String) :=
  permissions.map fun r ↦ (r.callerId, r.targetId)

def wouldCreateCycle (permissions : List DelegationRule) (caller target : String) : Bool :=
  if caller = target then true
  else Digraph.search (pairs permissions) caller [] [target]

def apiDelegationAdd (now : String) (store : DelegationStore) (payload : DelegationPayload) :
    Answer × DelegationStore :=
  let callerId := Text.trim payload.callerId
  let targetId := Text.trim payload.targetId
  if callerId.isEmpty || targetId.isEmpty then
    (⟨false, "Both caller_id and target_id are required"⟩, store)
  else if store.any fun r ↦ r.callerId == callerId && r.targetId == targetId then
    (⟨false, "Delegation permission already exists"⟩, store)
  else if wouldCreateCycle store callerId targetId then
    (⟨false, "Cannot add delegation " ++ callerId ++ " → " ++ targetId ++
      ": would create a circular chain"⟩, store)
  else
    (⟨true, "Delegation permission added: " ++ callerId ++ " → " ++ targetId⟩,
      store ++ [⟨callerId, targetId, now⟩])

def apiDelegationRemove (store : DelegationStore) (payload : DelegationPayload) :
    Answer × DelegationStore :=
  let callerId := Text.trim payload.callerId
  let targetId := Text.trim payload.targetId
  let kept := store.filter fun r ↦ !(r.callerId == callerId && r.targetId == targetId)
  if kept.length < store.length then
    (⟨true, "Delegation permission removed: " ++ callerId ++ " → " ++ targetId⟩, kept)
  else (⟨false, "Delegation permission not found"⟩, kept)

inductive DelegationRequest
  | add (now : String) (payload : DelegationPayload)
  | remove (payload : DelegationPayload)

/-- The lock on the store makes every request one step. -/
def delegationStep (store : DelegationStore) : DelegationRequest → Answer × DelegationStore
  | .add now payload => apiDelegationAdd now store payload
  | .remove payload => apiDelegationRemove store payload

section Spec

def Delegates (permissions : List DelegationRule) (caller target : String) : Prop :=
  ∃ rule ∈ permissions, rule.callerId = caller ∧ rule.targetId = target

/-- No chain of rules leads from an agent back to it. -/
def Acyclic (permissions : List DelegationRule) : Prop :=
  ∀ a, ¬ Relation.TransGen (Delegates permissions) a a

/-- With one more rule there would be a chain of rules from an agent back to it. -/
def ClosesCycle (permissions : List DelegationRule) (caller target : String) : Prop :=
  ∃ a, Relation.TransGen
    (fun x y ↦ Delegates permissions x y ∨ x = caller ∧ y = target) a a

end Spec

section Lemmas

variable {permissions : List DelegationRule} {caller target : String}

theorem edge_pairs : Digraph.Edge (pairs permissions) = Delegates permissions := by
  funext caller target
  simp [Digraph.Edge, pairs, Delegates]

theorem acyclic_pairs : Digraph.Acyclic (pairs permissions) ↔ Acyclic permissions := by
  rw [Digraph.Acyclic, edge_pairs]
  rfl

theorem not_closesCycle_iff : ¬ ClosesCycle permissions caller target ↔
    Digraph.Acyclic (pairs permissions ++ [(caller, target)]) := by
  have hedge : Digraph.Edge (pairs permissions ++ [(caller, target)]) =
      fun x y ↦ Delegates permissions x y ∨ x = caller ∧ y = target := by
    funext x y
    rw [← edge_pairs]
    simp [Digraph.Edge]
  rw [ClosesCycle, Digraph.Acyclic, hedge, not_exists]

theorem wouldCreateCycle_iff : wouldCreateCycle permissions caller target = true ↔
    Relation.ReflTransGen (Delegates permissions) target caller := by
  rw [wouldCreateCycle]
  split
  next heq =>
    subst heq
    exact iff_of_true rfl .refl
  next => rw [Digraph.search_singleton_iff, edge_pairs]

theorem wouldCreateCycle_iff_closesCycle (h : Acyclic permissions) :
    wouldCreateCycle permissions caller target = true ↔ ClosesCycle permissions caller target := by
  rw [wouldCreateCycle_iff, ← not_iff_not, not_closesCycle_iff,
    Digraph.acyclic_append_iff (acyclic_pairs.mpr h), edge_pairs]

theorem any_iff_mem_pairs {callerId targetId : String} :
    permissions.any (fun r ↦ r.callerId == callerId && r.targetId == targetId) = true ↔
      (callerId, targetId) ∈ pairs permissions := by
  simp [pairs]

/-- An add is refused for one of three reasons, or it stores the rule. -/
theorem apiDelegationAdd_cases (now : String) (store : DelegationStore)
    (payload : DelegationPayload) (h : Acyclic store) :
    ((apiDelegationAdd now store payload).1.ok = false ∧
      (apiDelegationAdd now store payload).2 = store ∧
      (Text.trim payload.callerId = "" ∨ Text.trim payload.targetId = "" ∨
        (Text.trim payload.callerId, Text.trim payload.targetId) ∈ pairs store ∨
        ClosesCycle store (Text.trim payload.callerId) (Text.trim payload.targetId))) ∨
    ((apiDelegationAdd now store payload).1.ok = true ∧
      (apiDelegationAdd now store payload).2 =
        store ++ [⟨Text.trim payload.callerId, Text.trim payload.targetId, now⟩] ∧
      Text.trim payload.callerId ≠ "" ∧ Text.trim payload.targetId ≠ "" ∧
      (Text.trim payload.callerId, Text.trim payload.targetId) ∉ pairs store ∧
      ¬ ClosesCycle store (Text.trim payload.callerId) (Text.trim payload.targetId)) := by
  rw [apiDelegationAdd]
  split
  next hblank =>
    rw [Bool.or_eq_true, String.isEmpty_iff, String.isEmpty_iff] at hblank
    exact .inl ⟨rfl, rfl, hblank.imp id .inl⟩
  next hblank =>
    rw [Bool.or_eq_true, String.isEmpty_iff, String.isEmpty_iff, not_or] at hblank
    split
    next hstored => exact .inl ⟨rfl, rfl, .inr (.inr (.inl (any_iff_mem_pairs.mp hstored)))⟩
    next hstored =>
      rw [any_iff_mem_pairs] at hstored
      split
      next hcycle =>
        exact .inl ⟨rfl, rfl, .inr (.inr (.inr ((wouldCreateCycle_iff_closesCycle h).mp hcycle)))⟩
      next hcycle =>
        rw [wouldCreateCycle_iff_closesCycle h] at hcycle
        exact .inr ⟨rfl, rfl, hblank.1, hblank.2, hstored, hcycle⟩

theorem apiDelegationRemove_spec (store : DelegationStore) (payload : DelegationPayload) :
    (apiDelegationRemove store payload).2 = store.filter (fun r ↦
      (r.callerId, r.targetId) ≠ (Text.trim payload.callerId, Text.trim payload.targetId)) ∧
    ((apiDelegationRemove store payload).1.ok = true ↔
      (Text.trim payload.callerId, Text.trim payload.targetId) ∈ pairs store) := by
  have hkept : (store.filter fun r : DelegationRule ↦
      !(r.callerId == Text.trim payload.callerId && r.targetId == Text.trim payload.targetId)) =
      store.filter fun r ↦
        (r.callerId, r.targetId) ≠ (Text.trim payload.callerId, Text.trim payload.targetId) :=
    List.filter_congr fun r _ ↦ by
      rw [Bool.eq_iff_iff]
      simp
  have hshort : (store.filter fun r ↦
      decide ((r.callerId, r.targetId) ≠ (Text.trim payload.callerId, Text.trim payload.targetId))
      ).length < store.length ↔
      (Text.trim payload.callerId, Text.trim payload.targetId) ∈ pairs store := by
    rw [List.length_filter_lt_length_iff_exists]
    simp [pairs]
  rw [apiDelegationRemove]
  simp only [hkept, hshort]
  split
  next h => exact ⟨rfl, iff_of_true rfl h⟩
  next h => exact ⟨rfl, iff_of_false Bool.false_ne_true h⟩

theorem apiDelegationRemove_sublist (store : DelegationStore) (payload : DelegationPayload) :
    (apiDelegationRemove store payload).2.Sublist store := by
  rw [apiDelegationRemove]
  split <;> exact List.filter_sublist

end Lemmas

structure DelegationInv (store : DelegationStore) : Prop where
  acyclic : Acyclic store
  nodup : (pairs store).Nodup

theorem delegationInv_nil : DelegationInv newDelegationStore := by
  refine ⟨acyclic_pairs.mp fun a hcycle ↦ ?_, List.nodup_nil⟩
  obtain ⟨b, hedge, -⟩ := Relation.TransGen.head'_iff.mp hcycle
  exact absurd hedge List.not_mem_nil

theorem delegationInv_step {store : DelegationStore} (h : DelegationInv store)
    (request : DelegationRequest) : DelegationInv (delegationStep store request).2 := by
  cases request with
  | add now payload =>
    rw [delegationStep]
    obtain ⟨-, heq, -⟩ | ⟨-, heq, -, -, hnew, hcycle⟩ :=
      apiDelegationAdd_cases now store payload h.acyclic
    · rw [heq]
      exact h
    · have hpairs : pairs (store ++ [⟨Text.trim payload.callerId, Text.trim payload.targetId, now⟩]) =
          pairs store ++ [(Text.trim payload.callerId, Text.trim payload.targetId)] :=
        List.map_append
      rw [heq]
      refine ⟨acyclic_pairs.mp ?_, ?_⟩
      · rw [hpairs]
        exact not_closesCycle_iff.mp hcycle
      · rw [hpairs]
        exact List.nodup_append.mpr ⟨h.nodup, List.nodup_singleton _, fun x hx y hy heq ↦
          hnew (List.mem_singleton.mp hy ▸ heq ▸ hx)⟩
  | remove payload =>
    have hsub := (apiDelegationRemove_sublist store payload).map
      fun r : DelegationRule ↦ (r.callerId, r.targetId)
    have hac := acyclic_pairs.mpr h.acyclic
    exact ⟨acyclic_pairs.mp (hac.mono hsub.subset), h.nodup.sublist hsub⟩

theorem delegationInv_run (requests : List DelegationRequest) :
    DelegationInv (run delegationStep newDelegationStore requests) := by
  induction requests using List.reverseRecOn with
  | nil => exact delegationInv_nil
  | append_singleton requests request ih =>
    rw [run_concat]
    exact delegationInv_step ih request

/-- The stored permissions have no cycle and no duplicate after any requests; the search answers
whether a chain leads back, on any list of rules; an add is refused just if an id is blank, the
pair is stored or it would close a cycle, and is then without effect, else it stores its rule; and
a removal takes its pair and no other. -/
theorem delegation_integrity (requests : List DelegationRequest) :
    Acyclic (run delegationStep newDelegationStore requests) ∧
    (pairs (run delegationStep newDelegationStore requests)).Nodup ∧
    (∀ permissions caller target, wouldCreateCycle permissions caller target = true ↔
      target = caller ∨ Relation.TransGen (Delegates permissions) target caller) ∧
    (∀ now payload,
      let store := run delegationStep newDelegationStore requests
      let (answer, store') := apiDelegationAdd now store payload
      let callerId := Text.trim payload.callerId
      let targetId := Text.trim payload.targetId
      (answer.ok = false ↔ callerId = "" ∨ targetId = "" ∨ (callerId, targetId) ∈ pairs store ∨
        ClosesCycle store callerId targetId) ∧
      (answer.ok = false → store' = store) ∧
      (answer.ok = true → store' = store ++ [⟨callerId, targetId, now⟩])) ∧
    ∀ payload,
      let store := run delegationStep newDelegationStore requests
      let (answer, store') := apiDelegationRemove store payload
      let pair := (Text.trim payload.callerId, Text.trim payload.targetId)
      (answer.ok = true ↔ pair ∈ pairs store) ∧
        store' = store.filter fun r ↦ (r.callerId, r.targetId) ≠ pair := by
  have hinv := delegationInv_run requests
  refine ⟨hinv.acyclic, hinv.nodup, fun permissions caller target ↦ ?_, fun now payload ↦ ?_,
    fun payload ↦ ?_⟩
  · rw [wouldCreateCycle_iff, Relation.reflTransGen_iff_eq_or_transGen]
    exact or_congr_left eq_comm
  · simp only
    obtain ⟨hrefused, heq, hreason⟩ | ⟨hdone, heq, hcaller, htarget, hnew, hcycle⟩ :=
      apiDelegationAdd_cases now _ payload hinv.acyclic
    · refine ⟨iff_of_true hrefused hreason, fun _ ↦ heq, fun h ↦ ?_⟩
      exact absurd (hrefused.symm.trans h) Bool.false_ne_true
    · rw [hdone]
      refine ⟨iff_of_false Bool.false_ne_true.symm ?_,
        fun h ↦ absurd h Bool.false_ne_true.symm, fun _ ↦ heq⟩
      rintro (h | h | h | h)
      · exact hcaller h
      · exact htarget h
      · exact hnew h
      · exact hcycle h
  · obtain ⟨hkept, hanswer⟩ := apiDelegationRemove_spec _ payload
    exact ⟨hanswer, hkept⟩

end AdkGateway.ControlPanel
