import AdkGateway.CodingAgent.Confinement
import Mathlib.Algebra.BigOperators.Group.List.Basic
import Mathlib.Algebra.Order.Ring.Rat
import Mathlib.Data.List.Induction
import Mathlib.Tactic.NormNum

namespace AdkGateway.CodingAgent

open Foundation

inductive AgentConnectionStatus
  | connected
  | disconnected
  | error (message : String)
  | unknown
  deriving DecidableEq

structure RegistryEntry extends RegisteredAgent where
  id : String
  agentAlias : Option String
  status : AgentConnectionStatus

structure DelegatedTask where
  description : String
  trigger : TaskTrigger
  workspace : Option String
  fileContext : Option (List String)

def DelegatedTask.request (task : DelegatedTask) : TaskRequest :=
  ⟨task.description, task.trigger, task.workspace.map pathComponents⟩

def CodingAgentError.ofCostError : CostTracker.CostError → CodingAgentError
  | .costCapExceeded spentUsd capUsd => .costCapExceeded spentUsd capUsd

/-- The agents in the order in which the map gives them. -/
structure CodingAgentRegistry where
  agents : List RegistryEntry

namespace CodingAgentRegistry

def getAgent (registry : CodingAgentRegistry) (agentId : String) : Option RegistryEntry :=
  registry.agents.find? (·.id == agentId)

def resolveByAlias (registry : CodingAgentRegistry) (toLowercase : String → String)
    (agentAlias : String) : Option String :=
  (registry.agents.find? fun agent ↦
    (agent.agentAlias.map fun a ↦ toLowercase a == toLowercase agentAlias).getD false).map (·.id)

end CodingAgentRegistry

namespace CostTracker

def getAgentStats (costs : CostTracker) (agentId : String) : Option AgentCostRecord :=
  costs.agentCosts.lookup agentId

def resetPeriod (costs : CostTracker) (agentId : String) : CostTracker :=
  match costs.agentCosts.lookup agentId with
  | some record => ⟨costs.agentCosts.insert agentId
      { record with
        totalInputTokens := 0, totalOutputTokens := 0, estimatedTotalCostUsd := 0, taskCount := 0 }⟩
  | none => costs

end CostTracker

structure TaskDelegator where
  registry : CodingAgentRegistry
  costTracker : CostTracker

namespace TaskDelegator

variable (toLowercase : String → String) (disk : Disk) (cwd : Path)

def resolveAgentId (registry : CodingAgentRegistry) (agentId : String) :
    Except CodingAgentError String :=
  if (registry.getAgent agentId).isSome then
    .ok agentId
  else
    match registry.resolveByAlias toLowercase agentId with
    | some resolved => .ok resolved
    | none =>
      match registry.agents.find? fun agent ↦ toLowercase agent.id == toLowercase agentId with
      | some agent => .ok agent.id
      | none => .error (.agentNotFound agentId)

def checkStatus (resolvedId : String) : AgentConnectionStatus → Except CodingAgentError Unit
  | .connected => .ok ()
  | .disconnected => .error (.agentDisconnected resolvedId)
  | .error message => .error (.agentDisconnected (resolvedId ++ ": " ++ message))
  | .unknown => .ok ()

/-- What `delegate` does before it looks at costs. -/
def precheck (registry : CodingAgentRegistry) (agentId : String) (task : DelegatedTask) :
    Except CodingAgentError (String × RegistryEntry) := do
  let resolvedId ← resolveAgentId toLowercase registry agentId
  let agent ← ((registry.getAgent resolvedId).elim (.error (.agentNotFound agentId)) .ok :
    Except CodingAgentError RegistryEntry)
  checkStatus resolvedId agent.status
  -- the configured paths are taken as they are
  let validator := WorkspaceValidator.fromCanonical agent.config.workspaces
  if let some workspace := task.workspace then
    validator.validatePath disk cwd workspace
  if let some fileContext := task.fileContext then
    validator.validatePaths disk cwd fileContext
  return (resolvedId, agent)

def checkCost (costs : CostTracker) (resolvedId : String) (costCapUsd : Option ℚ) :
    Except CodingAgentError Unit :=
  match costCapUsd with
  | some cap =>
    match costs.getAgentStats resolvedId with
    | some stats =>
      (CostTracker.checkCostCap stats.estimatedTotalCostUsd cap).mapError .ofCostError
    | none => .ok ()
  | none => .ok ()

def delegate (d : TaskDelegator) (agentId : String) (task : DelegatedTask) :
    Except CodingAgentError TaskQueue.Call := do
  let (resolvedId, agent) ← precheck toLowercase disk cwd d.registry agentId task
  checkCost d.costTracker resolvedId agent.config.costCapUsd
  return .enqueue resolvedId task.request

end TaskDelegator

open TaskExecutor

/-- All that touches what the delegator reads: its own calls, the executor where it tracks the cost
of a task, the start of a billing period, and the registry where it changes. -/
inductive Activity
  | delegate (agentId : String) (task : DelegatedTask)
  | track (agentId : String) (usage : TokenUsage) (costCapUsd : Option ℚ)
  | resetPeriod (agentId : String)
  | setRegistry (registry : CodingAgentRegistry)

namespace TaskDelegator

def next (d : TaskDelegator) : Activity → TaskDelegator
  | .delegate _ _ => d
  | .track agentId usage costCapUsd =>
    { d with costTracker := (trackCost d.costTracker agentId usage costCapUsd).1 }
  | .resetPeriod agentId => { d with costTracker := d.costTracker.resetPeriod agentId }
  | .setRegistry registry => { d with registry := registry }

def after (history : List Activity) : TaskDelegator :=
  history.foldl next ⟨⟨[]⟩, ⟨∅⟩⟩

end TaskDelegator

section Totals

variable (id : String)

def reported (history : List Activity) : List TokenUsage :=
  history.filterMap fun
    | .track agentId usage _ => if agentId = id then some usage else none
    | _ => none

def addReport (usages : List TokenUsage) : Activity → List TokenUsage
  | .track agentId usage _ => if agentId = id then usages ++ [usage] else usages
  | .resetPeriod agentId => if agentId = id then [] else usages
  | _ => usages

def reportedInPeriod (history : List Activity) : List TokenUsage :=
  history.foldl (addReport id) []

def totalCost (usages : List TokenUsage) : ℚ :=
  (usages.map (·.estimatedCostUsd)).sum

def recordedTotal (costs : CostTracker) : Option ℚ :=
  (costs.getAgentStats id).map (·.estimatedTotalCostUsd)

theorem reportedInPeriod_concat (history : List Activity) (activity : Activity) :
    reportedInPeriod id (history ++ [activity]) =
      addReport id (reportedInPeriod id history) activity :=
  List.foldl_concat ..

theorem reportedInPeriod_suffix (history : List Activity) :
    reportedInPeriod id history <:+ reported id history := by
  induction history using List.reverseRecOn with
  | nil => exact List.suffix_rfl
  | append_singleton history activity ih =>
    rw [reportedInPeriod_concat, reported, List.filterMap_append, ← reported]
    cases activity with
    | delegate agentId task => simpa [addReport] using ih
    | setRegistry registry => simpa [addReport] using ih
    | track agentId usage costCapUsd =>
      obtain ⟨before, hbefore⟩ := ih
      by_cases hid : agentId = id
      · exact ⟨before, by simp [addReport, hid, ← hbefore]⟩
      · exact ⟨before, by simp [addReport, hid, ← hbefore]⟩
    | resetPeriod agentId =>
      by_cases hid : agentId = id
      · simp [addReport, hid]
      · simpa [addReport, hid] using ih

variable {id} (costs : CostTracker)

theorem recordedTotal_recordUsage (agentId : String) (usage : TokenUsage) :
    recordedTotal id (costs.recordUsage agentId usage) =
      if agentId = id then some ((recordedTotal id costs).getD 0 + usage.estimatedCostUsd)
      else recordedTotal id costs := by
  unfold recordedTotal CostTracker.getAgentStats CostTracker.recordUsage
  by_cases hid : agentId = id
  · subst hid
    cases hrecord : costs.agentCosts.lookup agentId with
    | none => simp
    | some record => simp
  · rw [KeyedMap.lookup_insert_if, if_neg (Ne.symm hid), if_neg hid]

theorem recordedTotal_resetPeriod (agentId : String) :
    recordedTotal id (costs.resetPeriod agentId) =
      if agentId = id then (recordedTotal id costs).map fun _ ↦ 0 else recordedTotal id costs := by
  unfold recordedTotal CostTracker.getAgentStats CostTracker.resetPeriod
  cases hrecord : costs.agentCosts.lookup agentId with
  | none =>
    by_cases hid : agentId = id
    · subst hid
      simp [hrecord]
    · rw [if_neg hid]
  | some record =>
    by_cases hid : agentId = id
    · subst hid
      simp [hrecord]
    · dsimp only
      rw [KeyedMap.lookup_insert_if, if_neg (Ne.symm hid), if_neg hid]

theorem recordedTotal_after (id : String) (history : List Activity) :
    recordedTotal id (TaskDelegator.after history).costTracker =
      if reported id history = [] then none
      else some (totalCost (reportedInPeriod id history)) := by
  induction history using List.reverseRecOn with
  | nil => rfl
  | append_singleton history activity ih =>
    have hafter : TaskDelegator.after (history ++ [activity]) =
        (TaskDelegator.after history).next activity := List.foldl_concat ..
    rw [hafter, reportedInPeriod_concat, reported, List.filterMap_append, ← reported]
    cases activity with
    | delegate agentId task => simpa [TaskDelegator.next, addReport] using ih
    | setRegistry registry => simpa [TaskDelegator.next, addReport] using ih
    | track agentId usage costCapUsd =>
      simp only [TaskDelegator.next, trackCost, recordedTotal_recordUsage, addReport, ih]
      by_cases hid : agentId = id
      · by_cases hnone : reported id history = []
        · have hperiod : reportedInPeriod id history = [] := by
            simpa [hnone] using reportedInPeriod_suffix id history
          simp [hid, hnone, hperiod, totalCost]
        · simp [hid, hnone, totalCost]
      · simp [hid]
    | resetPeriod agentId =>
      simp only [TaskDelegator.next, recordedTotal_resetPeriod, addReport, ih]
      by_cases hid : agentId = id
      · by_cases hnone : reported id history = []
        · simp [hid, hnone]
        · simp [hid, hnone, totalCost]
      · simp [hid]

end Totals

section Caps

variable (toLowercase : String → String) (disk : Disk) (cwd : Path)

/-- The cap is one of a single task: it turns no delegation away before a task went over it, and
every task that goes over it is flagged. -/
structure CapsTasks (history : List Activity) : Prop where
  neverRefused : ∀ before agentId task rest, history = before ++ .delegate agentId task :: rest →
    ∀ resolvedId agent cap,
      TaskDelegator.precheck toLowercase disk cwd (TaskDelegator.after before).registry agentId
        task = .ok (resolvedId, agent) →
      agent.config.costCapUsd = some cap →
      (∀ usage ∈ reported resolvedId before, usage.estimatedCostUsd ≤ cap) →
      (TaskDelegator.after before).delegate toLowercase disk cwd agentId task =
        .ok (.enqueue resolvedId task.request)
  flagged : ∀ before agentId usage cap rest,
    history = before ++ .track agentId usage (some cap) :: rest → cap < usage.estimatedCostUsd →
      (trackCost (TaskDelegator.after before).costTracker agentId usage (some cap)).2 =
        .error (.costCap usage.estimatedCostUsd cap)

/-- Where a delegation comes as far as the cap, the tasks of the period keep below it together, or
one of the tasks so far went over it alone. -/
def KeepsBelow (history : List Activity) : Prop :=
  ∀ before agentId task rest, history = before ++ .delegate agentId task :: rest →
    ∀ resolvedId agent cap,
      TaskDelegator.precheck toLowercase disk cwd (TaskDelegator.after before).registry agentId
        task = .ok (resolvedId, agent) →
      agent.config.costCapUsd = some cap →
      reported resolvedId before = [] ∨ totalCost (reportedInPeriod resolvedId before) ≤ cap ∨
        ∃ usage ∈ reported resolvedId before, cap < usage.estimatedCostUsd

variable {toLowercase disk cwd}

theorem checkCost_eq_ok_iff {costs : CostTracker} {resolvedId : String} {cap : ℚ} :
    TaskDelegator.checkCost costs resolvedId (some cap) = .ok () ↔
      ∀ total, recordedTotal resolvedId costs = some total → total ≤ cap := by
  unfold TaskDelegator.checkCost recordedTotal
  cases hstats : costs.getAgentStats resolvedId with
  | none => simp
  | some stats =>
    by_cases hcap : cap < stats.estimatedTotalCostUsd
    · simp [CostTracker.checkCostCap, hcap, Except.mapError]
    · simp [CostTracker.checkCostCap, hcap, Except.mapError, not_lt.mp hcap]

theorem delegate_eq_ok_iff {d : TaskDelegator} {agentId resolvedId : String} {task : DelegatedTask}
    {agent : RegistryEntry} {cap : ℚ}
    (hprecheck : TaskDelegator.precheck toLowercase disk cwd d.registry agentId task =
      .ok (resolvedId, agent)) (hcap : agent.config.costCapUsd = some cap) :
    d.delegate toLowercase disk cwd agentId task =
        .ok (.enqueue resolvedId task.request) ↔
      ∀ total, recordedTotal resolvedId d.costTracker = some total → total ≤ cap := by
  rw [← checkCost_eq_ok_iff, TaskDelegator.delegate, hprecheck]
  change (TaskDelegator.checkCost d.costTracker resolvedId agent.config.costCapUsd >>= _) = _ ↔ _
  rw [hcap]
  cases hcheck : TaskDelegator.checkCost d.costTracker resolvedId (some cap) with
  | error e =>
    constructor
    · intro h
      cases h
    · intro h
      cases h
  | ok _ => exact iff_of_true rfl rfl

theorem trackCost_flagged (costs : CostTracker) (agentId : String) {usage : TokenUsage} {cap : ℚ}
    (hcap : cap < usage.estimatedCostUsd) : (trackCost costs agentId usage (some cap)).2 =
      .error (.costCap usage.estimatedCostUsd cap) := by
  simp [trackCost, capped, CostTracker.checkCostCap, hcap]

/-- In the executor the flagged task fails, whatever its result was. -/
theorem step_trackCost_flagged {s : TaskExecutor} {task : Task} {agent : RegisteredAgent}
    {result : TaskResult} {usage : TokenUsage} {cap : ℚ}
    (hcap : agent.config.costCapUsd = some cap) (hover : cap < usage.estimatedCostUsd) :
    step .poll (.trackCost task agent result usage) s =
      some ({ s with costTracker := s.costTracker.recordUsage task.agentId usage },
        .inl (.finalize task (.error (.costCap usage.estimatedCostUsd cap))), []) := by
  have hflagged := trackCost_flagged s.costTracker task.agentId hover
  rw [← hcap] at hflagged
  simp only [step]
  rw [hflagged]
  rfl

/-- The cap is one of a single task just in the histories in which the sums keep below it. -/
theorem capsTasks_iff (history : List Activity) : CapsTasks toLowercase disk cwd history ↔
    KeepsBelow toLowercase disk cwd history := by
  constructor
  · intro h before agentId task rest hhistory resolvedId agent cap hprecheck hcap
    by_cases hover : ∃ usage ∈ reported resolvedId before, cap < usage.estimatedCostUsd
    · exact .inr (.inr hover)
    by_cases hnone : reported resolvedId before = []
    · exact .inl hnone
    simp only [not_exists, not_and, not_lt] at hover
    have hok := h.neverRefused before agentId task rest hhistory resolvedId agent cap hprecheck hcap
      hover
    rw [delegate_eq_ok_iff hprecheck hcap, recordedTotal_after, if_neg hnone] at hok
    exact .inr (.inl (hok _ rfl))
  · intro h
    refine ⟨?_, fun before agentId usage cap rest _ hover ↦ trackCost_flagged _ agentId hover⟩
    intro before agentId task rest hhistory resolvedId agent cap hprecheck hcap hunder
    rw [delegate_eq_ok_iff hprecheck hcap, recordedTotal_after]
    intro total htotal
    rcases h before agentId task rest hhistory resolvedId agent cap hprecheck hcap with
      hnone | hbelow | hover
    · rw [if_pos hnone] at htotal
      cases htotal
    · split at htotal
      · cases htotal
      · rw [← Option.some_inj.mp htotal]
        exact hbelow
    · obtain ⟨usage, husage, hover⟩ := hover
      exact absurd (hunder usage husage) (not_le.mpr hover)

end Caps

/-- Two tasks of three dollars each, and a third one for an agent whose cap is five. -/
def twoTasks : List Activity :=
  [.setRegistry ⟨[⟨⟨⟨[], none, some 5⟩⟩, "a", none, .connected⟩]⟩,
    .track "a" ⟨10, 10, 3⟩ (some 5), .track "a" ⟨10, 10, 3⟩ (some 5),
    .delegate "a" ⟨"t", .controlPanel "u", none, none⟩]

theorem recordedTotal_twoTasks :
    recordedTotal "a" (TaskDelegator.after (twoTasks.take 3)).costTracker = some (3 + 3) := by
  rw [recordedTotal_after]
  simp [twoTasks, reported, reportedInPeriod, addReport, totalCost]

theorem not_capsTasks : ¬ CapsTasks id (.ofDirs [[]] (by decide)) [] twoTasks := by
  intro h
  have hok := h.neverRefused (twoTasks.take 3) "a" ⟨"t", .controlPanel "u", none, none⟩ [] rfl
    "a" ⟨⟨⟨[], none, some 5⟩⟩, "a", none, .connected⟩ 5 rfl rfl (by decide)
  rw [delegate_eq_ok_iff rfl rfl] at hok
  exact absurd (hok _ recordedTotal_twoTasks) (by norm_num)

end AdkGateway.CodingAgent
