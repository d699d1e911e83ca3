import AdkGateway.CodingAgent.Conservation
import Mathlib.Data.Rat.Defs

namespace AdkGateway.CodingAgent

open Foundation Interleaving

structure TokenUsage where
  inputTokens : UInt64
  outputTokens : UInt64
  estimatedCostUsd : ℚ
  deriving DecidableEq, Repr

inductive FileChangeType
  | added
  | modified
  | deleted
  deriving DecidableEq, Repr

structure FileChange where
  path : PathBuf
  changeType : FileChangeType
  linesAdded : UInt32
  linesRemoved : UInt32
  deriving DecidableEq, Repr

structure TaskResult where
  output : String
  modifiedFiles : List FileChange
  durationMs : UInt64
  tokenUsage : Option TokenUsage
  deriving DecidableEq, Repr

inductive TaskError
  | timeout (elapsedSecs limitSecs : ℕ)
  | costCap (spentUsd capUsd : ℚ)
  | rateLimit (retryAfterSecs : Option ℕ)
  | executionError (message : String) (partialOutput : Option String)
  | agentDisconnected (agentId : String)
  | workspaceViolation (attemptedPath : PathBuf) (allowedWorkspaces : List PathBuf)
  deriving DecidableEq, Repr

inductive CancellationReason
  | userRequested
  | timeout
  | costCapExceeded
  | agentDisconnected
  | systemShutdown
  deriving DecidableEq, Repr

inductive TaskState
  | queued
  | running (progressPercent : Option UInt8)
  | completed (result : TaskResult)
  | failed (error : TaskError)
  | cancelled (reason : CancellationReason)
  deriving DecidableEq, Repr

def TaskState.isTerminal : TaskState → Bool
  | .queued => false
  | .running _ => false
  | .completed _ => true
  | .failed _ => true
  | .cancelled _ => true

structure TaskHistoryEntry where
  taskId : TaskId
  agentId : String
  description : String
  trigger : TaskTrigger
  state : TaskState
  workspace : PathBuf
  deriving DecidableEq, Repr

structure TaskHistory where
  entries : KeyedMap String (List TaskHistoryEntry)
  maxEntriesPerAgent : ℕ

def TaskHistory.record (history : TaskHistory) (entry : TaskHistoryEntry) : TaskHistory :=
  match history.entries.lookup entry.agentId with
  | some entries =>
    let kept := (entry :: entries).take history.maxEntriesPerAgent
    { history with entries := history.entries.insert entry.agentId kept }
  | none => { history with entries := history.entries.insert entry.agentId [entry] }

structure AgentCostRecord where
  agentId : String
  totalInputTokens : UInt64
  totalOutputTokens : UInt64
  estimatedTotalCostUsd : ℚ
  taskCount : UInt64

structure CostTracker where
  agentCosts : KeyedMap String AgentCostRecord

namespace CostTracker

inductive CostError
  | costCapExceeded (spentUsd capUsd : ℚ)

def recordUsage (costs : CostTracker) (agentId : String) (usage : TokenUsage) : CostTracker :=
  let record := match costs.agentCosts.lookup agentId with
    | some record =>
      { record with
        totalInputTokens := record.totalInputTokens + usage.inputTokens
        totalOutputTokens := record.totalOutputTokens + usage.outputTokens
        estimatedTotalCostUsd := record.estimatedTotalCostUsd + usage.estimatedCostUsd
        taskCount := record.taskCount + 1 }
    | none => ⟨agentId, usage.inputTokens, usage.outputTokens, usage.estimatedCostUsd, 1⟩
  ⟨costs.agentCosts.insert agentId record⟩

def checkCostCap (currentCost cap : ℚ) : Except CostError Unit :=
  if cap < currentCost then .error (.costCapExceeded currentCost cap) else .ok ()

end CostTracker

structure CodingAgentInstanceConfig where
  workspaces : List PathBuf
  timeoutSecs : Option ℕ
  costCapUsd : Option ℚ

structure RegisteredAgent where
  config : CodingAgentInstanceConfig

/-- The history sinks only count here: what each is given is in the events. -/
structure TaskExecutor where
  queue : TaskQueue
  costTracker : CostTracker
  history : TaskHistory
  historySinks : ℕ
  defaultTimeoutSecs : ℕ

namespace TaskExecutor

def new (maxConcurrent : Option ℕ) (maxEntriesPerAgent historySinks defaultTimeoutSecs : ℕ) :
    TaskExecutor :=
  ⟨TaskQueue.new maxConcurrent, ⟨∅⟩, ⟨∅, maxEntriesPerAgent⟩, historySinks, defaultTimeoutSecs⟩

/-- The rest of the gateway enqueues and cancels; only the executor dequeues. -/
inductive Call
  | run
  | enqueue (agentId : String) (request : TaskRequest)
  | cancelTask (taskId : TaskId)

structure Task where
  taskId : TaskId
  agentId : String
  request : TaskRequest

/-- Where a call is. The loop is at `loop` when `select!` starts anew. -/
inductive Point
  | client (p : TaskQueue.Point)
  | loop
  | tryDequeue (p : TaskQueue.Point)
  | sleep
  | details (taskId : TaskId)
  | resolve (task : Task)
  | executeTask (task : Task) (agent : RegisteredAgent) (attempts : ℕ)
  | retry (task : Task) (agent : RegisteredAgent) (attempts waitSecs : ℕ)
  | trackCost (task : Task) (agent : RegisteredAgent) (result : TaskResult) (usage : TokenUsage)
  | finalize (task : Task) (result : Except TaskError TaskResult)
  | record (entry : TaskHistoryEntry)
  | publish (entry : TaskHistoryEntry) (sink : ℕ)
  | completeTask (p : TaskQueue.Point)

/-- The loop is polled on, the registry looked up, the backend answers, the time
is over, or the shutdown signal comes while the loop waits. -/
inductive Input
  | queue (i : TaskQueue.Input)
  | poll
  | agent (found : Option RegisteredAgent)
  | answer (result : Except TaskError TaskResult)
  | elapsed
  | shutdown

inductive Output
  | client (o : TaskQueue.Output)
  | stopped

/-- A task is `abandoned` when the future that holds it is dropped. -/
inductive Event
  | queue (e : TaskQueue.Event)
  | notFound (taskId : TaskId)
  | abandoned (taskId : TaskId)
  | finalizing (taskId : TaskId)
  | succeeded (taskId : TaskId) (agentId : String)
  | recorded (entry : TaskHistoryEntry)
  | published (entry : TaskHistoryEntry) (sink : ℕ)
  deriving DecidableEq

def maxRetries : ℕ := 3

def validateWorkspace (allowedWorkspaces : List PathBuf) (workspace : PathBuf) :
    Except TaskError Unit :=
  if allowedWorkspaces.isEmpty then .ok ()
  else if allowedWorkspaces.any fun allowed ↦ allowed.isPrefixOf workspace || workspace == allowed then
    .ok ()
  else .error (.workspaceViolation workspace allowedWorkspaces)

def resolveAgent (task : Task) (found : Option RegisteredAgent) :
    Except TaskError RegisteredAgent := do
  let agent ← (found.elim (.error (.agentDisconnected task.agentId)) .ok : Except _ _)
  let workspace := task.request.workspace.getD (agent.config.workspaces.head?.getD ["."])
  validateWorkspace agent.config.workspaces workspace
  return agent

def capped (usage : TokenUsage) (costCap : Option ℚ) : Except TaskError Unit :=
  match costCap with
  | some cap =>
    match CostTracker.checkCostCap usage.estimatedCostUsd cap with
    | .error _ => .error (.costCap usage.estimatedCostUsd cap)
    | .ok () => .ok ()
  | none => .ok ()

def trackCost (costs : CostTracker) (agentId : String) (usage : TokenUsage)
    (costCap : Option ℚ) : CostTracker × Except TaskError Unit :=
  (costs.recordUsage agentId usage, capped usage costCap)

def historyEntry (task : Task) (result : Except TaskError TaskResult)
    (found : Option RegisteredAgent) : TaskHistoryEntry where
  taskId := task.taskId
  agentId := task.agentId
  description := task.request.description
  trigger := task.request.trigger
  state := match result with
    | .ok result => .completed result
    | .error error => .failed error
  workspace := task.request.workspace.getD
    ((found.bind fun agent ↦ agent.config.workspaces.head?).getD ["."])

def afterDequeue : TaskQueue.Point ⊕ TaskQueue.Output → Point
  | .inl p => .tryDequeue p
  | .inr (.dequeued (some taskId)) => .details taskId
  | .inr _ => .sleep

def afterResolve (task : Task) (found : Option RegisteredAgent) : Point :=
  match resolveAgent task found with
  | .ok agent => .executeTask task agent 1
  | .error error => .finalize task (.error error)

def afterAnswer (task : Task) (agent : RegisteredAgent) (attempts : ℕ) :
    Except TaskError TaskResult → Point
  | .ok result =>
    match result.tokenUsage with
    | some usage => .trackCost task agent result usage
    | none => .finalize task (.ok result)
  | .error (.rateLimit retryAfterSecs) =>
    if maxRetries ≤ attempts then .finalize task (.error (.rateLimit retryAfterSecs))
    else .retry task agent attempts (retryAfterSecs.getD 30)
  | .error error => .finalize task (.error error)

def afterComplete : TaskQueue.Point ⊕ TaskQueue.Output → Point
  | .inl p => .completeTask p
  | .inr _ => .loop

def timedOut (s : TaskExecutor) (task : Task) (agent : RegisteredAgent) : Point :=
  let timeoutSecs := agent.config.timeoutSecs.getD s.defaultTimeoutSecs
  .finalize task (.error (.timeout timeoutSecs timeoutSecs))

def start : Call → Point
  | .run => .loop
  | .enqueue agentId request => .client (.enqueue agentId request)
  | .cancelTask taskId => .client (.cancelActive taskId)

def step (i : Input) (p : Point) (s : TaskExecutor) :
    Option (TaskExecutor × (Point ⊕ Output) × List Event) :=
  match p, i with
  | .client p, .queue i => do
    let (q, o, evs) ← TaskQueue.step i p s.queue
    some ({ s with queue := q }, o.map .client .client, evs.map .queue)
  | .loop, .poll => some (s, .inl (.tryDequeue (TaskQueue.start .tryDequeue)), [])
  | .loop, .shutdown => some (s, .inr .stopped, [])
  | .tryDequeue p, .poll => do
    let (q, o, evs) ← TaskQueue.step .poll p s.queue
    some ({ s with queue := q }, .inl (afterDequeue o), evs.map .queue)
  | .tryDequeue p, .shutdown => do
    let (q, _, evs) ← TaskQueue.step .drop p s.queue
    some ({ s with queue := q }, .inr .stopped, evs.map .queue)
  | .sleep, .poll => some (s, .inl .loop, [])
  | .sleep, .shutdown => some (s, .inr .stopped, [])
  | .details taskId, .poll =>
    match s.queue.active.lookup taskId with
    | some task => some (s, .inl (.resolve ⟨taskId, task.agentId, task.request⟩), [])
    | none => some (s, .inl .loop, [.notFound taskId])
  | .resolve task, .agent found => some (s, .inl (afterResolve task found), [])
  | .executeTask task agent attempts, .answer result =>
    some (s, .inl (afterAnswer task agent attempts result), [])
  | .executeTask task agent _, .elapsed => some (s, .inl (timedOut s task agent), [])
  | .executeTask task _ _, .shutdown => some (s, .inr .stopped, [.abandoned task.taskId])
  | .retry task agent attempts _, .poll =>
    some (s, .inl (.executeTask task agent (attempts + 1)), [])
  | .retry task agent _ _, .elapsed => some (s, .inl (timedOut s task agent), [])
  | .retry task _ _ _, .shutdown => some (s, .inr .stopped, [.abandoned task.taskId])
  | .trackCost task agent result usage, .poll =>
    let (costs, checked) := trackCost s.costTracker task.agentId usage agent.config.costCapUsd
    some ({ s with costTracker := costs }, .inl (.finalize task (checked.map fun _ ↦ result)), [])
  | .finalize task result, .agent found =>
    let succeeded := match result with
      | .ok _ => [.succeeded task.taskId task.agentId]
      | .error _ => []
    some (s, .inl (.record (historyEntry task result found)), .finalizing task.taskId :: succeeded)
  | .record entry, .poll =>
    some ({ s with history := s.history.record entry }, .inl (.publish entry 0), [.recorded entry])
  | .publish entry sink, .poll =>
    if sink < s.historySinks then
      some (s, .inl (.publish entry (sink + 1)), [.published entry sink])
    else some (s, .inl (.completeTask (TaskQueue.start (.completeTask entry.taskId))), [])
  | .completeTask p, .poll => do
    let (q, o, evs) ← TaskQueue.step .poll p s.queue
    some ({ s with queue := q }, .inl (afterComplete o), evs.map .queue)
  | _, _ => none

def program : Program TaskExecutor Call Point Output Input Event := ⟨start, step⟩

inductive Moves (s : TaskExecutor) : Point → TaskExecutor → Point ⊕ Output → List Event → Prop
  | client {p : TaskQueue.Point} {q : TaskQueue} {o : TaskQueue.Point ⊕ TaskQueue.Output}
      {evs : List TaskQueue.Event} : TaskQueue.Moves s.queue p q o evs →
      Moves s (.client p) { s with queue := q } (o.map .client .client) (evs.map .queue)
  | begin : Moves s .loop s (.inl (.tryDequeue .tryAcquire)) []
  | loopStopped : Moves s .loop s (.inr .stopped) []
  | dequeue {p : TaskQueue.Point} {q : TaskQueue} {o : TaskQueue.Point ⊕ TaskQueue.Output}
      {evs : List TaskQueue.Event} : TaskQueue.Moves s.queue p q o evs →
      Moves s (.tryDequeue p) { s with queue := q } (.inl (afterDequeue o)) (evs.map .queue)
  | dequeueStopped {p : TaskQueue.Point} {q : TaskQueue} {evs : List TaskQueue.Event} :
      TaskQueue.Moves s.queue p q (.inr .dropped) evs →
      Moves s (.tryDequeue p) { s with queue := q } (.inr .stopped) (evs.map .queue)
  | wake : Moves s .sleep s (.inl .loop) []
  | sleepStopped : Moves s .sleep s (.inr .stopped) []
  | found {id : TaskId} {task : ActiveTask} : s.queue.active.lookup id = some task →
      Moves s (.details id) s (.inl (.resolve ⟨id, task.agentId, task.request⟩)) []
  | notFound {id : TaskId} : s.queue.active.lookup id = none →
      Moves s (.details id) s (.inl .loop) [.notFound id]
  | resolved {task : Task} {agent : RegisteredAgent} :
      Moves s (.resolve task) s (.inl (.executeTask task agent 1)) []
  | refused {task : Task} {error : TaskError} :
      Moves s (.resolve task) s (.inl (.finalize task (.error error))) []
  | answered {task : Task} {agent : RegisteredAgent} {attempts : ℕ} {result : TaskResult} :
      result.tokenUsage = none → Moves s (.executeTask task agent attempts) s
        (.inl (.finalize task (.ok result))) []
  | answeredUsage {task : Task} {agent : RegisteredAgent} {attempts : ℕ} {result : TaskResult}
      {usage : TokenUsage} : result.tokenUsage = some usage →
      Moves s (.executeTask task agent attempts) s (.inl (.trackCost task agent result usage)) []
  | rateLimited {task : Task} {agent : RegisteredAgent} {attempts waitSecs : ℕ} :
      attempts < maxRetries → Moves s (.executeTask task agent attempts) s
        (.inl (.retry task agent attempts waitSecs)) []
  | executeFailed {task : Task} {agent : RegisteredAgent} {attempts : ℕ} {error : TaskError} :
      Moves s (.executeTask task agent attempts) s (.inl (.finalize task (.error error))) []
  | executeStopped {task : Task} {agent : RegisteredAgent} {attempts : ℕ} :
      Moves s (.executeTask task agent attempts) s (.inr .stopped) [.abandoned task.taskId]
  | retry {task : Task} {agent : RegisteredAgent} {attempts waitSecs : ℕ} :
      Moves s (.retry task agent attempts waitSecs) s
        (.inl (.executeTask task agent (attempts + 1))) []
  | retryElapsed {task : Task} {agent : RegisteredAgent} {attempts waitSecs : ℕ}
      {error : TaskError} : Moves s (.retry task agent attempts waitSecs) s
        (.inl (.finalize task (.error error))) []
  | retryStopped {task : Task} {agent : RegisteredAgent} {attempts waitSecs : ℕ} :
      Moves s (.retry task agent attempts waitSecs) s (.inr .stopped) [.abandoned task.taskId]
  | withinCap {task : Task} {agent : RegisteredAgent} {result : TaskResult} {usage : TokenUsage} :
      capped usage agent.config.costCapUsd = .ok () → Moves s (.trackCost task agent result usage)
        { s with costTracker := s.costTracker.recordUsage task.agentId usage }
        (.inl (.finalize task (.ok result))) []
  | overCap {task : Task} {agent : RegisteredAgent} {result : TaskResult} {usage : TokenUsage}
      {error : TaskError} : Moves s (.trackCost task agent result usage)
        { s with costTracker := s.costTracker.recordUsage task.agentId usage }
        (.inl (.finalize task (.error error))) []
  | finalizeOk {task : Task} {result : TaskResult} (found : Option RegisteredAgent) :
      Moves s (.finalize task (.ok result)) s (.inl (.record (historyEntry task (.ok result) found)))
        [.finalizing task.taskId, .succeeded task.taskId task.agentId]
  | finalizeError {task : Task} {error : TaskError} (found : Option RegisteredAgent) :
      Moves s (.finalize task (.error error)) s
        (.inl (.record (historyEntry task (.error error) found))) [.finalizing task.taskId]
  | record {entry : TaskHistoryEntry} : Moves s (.record entry)
      { s with history := s.history.record entry } (.inl (.publish entry 0)) [.recorded entry]
  | publish {entry : TaskHistoryEntry} {sink : ℕ} : sink < s.historySinks →
      Moves s (.publish entry sink) s (.inl (.publish entry (sink + 1))) [.published entry sink]
  | allPublished {entry : TaskHistoryEntry} {sink : ℕ} : s.historySinks ≤ sink →
      Moves s (.publish entry sink) s (.inl (.completeTask (.completeTask entry.taskId))) []
  | complete {p : TaskQueue.Point} {q : TaskQueue} {o : TaskQueue.Point ⊕ TaskQueue.Output}
      {evs : List TaskQueue.Event} : TaskQueue.Moves s.queue p q o evs →
      Moves s (.completeTask p) { s with queue := q } (.inl (afterComplete o)) (evs.map .queue)

theorem dropped_of_step {q q' : TaskQueue} {p : TaskQueue.Point}
    {o : TaskQueue.Point ⊕ TaskQueue.Output} {evs : List TaskQueue.Event}
    (h : TaskQueue.step .drop p q = some (q', o, evs)) : o = .inr .dropped := by
  cases p <;> cases h <;> rfl

theorem moves_afterAnswer {s : TaskExecutor} (task : Task) (agent : RegisteredAgent)
    (attempts : ℕ) (result : Except TaskError TaskResult) : Moves s (.executeTask task agent attempts)
      s (.inl (afterAnswer task agent attempts result)) [] := by
  unfold afterAnswer
  split
  · split
    · rename_i usage husage
      exact .answeredUsage husage
    · rename_i husage
      exact .answered husage
  · split
    · exact .executeFailed
    · rename_i hattempts
      exact .rateLimited (not_le.mp hattempts)
  · exact .executeFailed

theorem moves_of_step {i : Input} {p : Point} {s s' : TaskExecutor} {o : Point ⊕ Output}
    {evs : List Event} (h : step i p s = some (s', o, evs)) : Moves s p s' o evs := by
  cases p <;> cases i <;> try cases h
  case client.queue p i =>
    obtain ⟨⟨q, oq, es⟩, hq, h⟩ := Option.bind_eq_some_iff.mp h
    cases h
    exact .client (TaskQueue.moves_of_step hq)
  case loop.poll => exact .begin
  case loop.shutdown => exact .loopStopped
  case tryDequeue.poll p =>
    obtain ⟨⟨q, oq, es⟩, hq, h⟩ := Option.bind_eq_some_iff.mp h
    cases h
    exact .dequeue (TaskQueue.moves_of_step hq)
  case tryDequeue.shutdown p =>
    obtain ⟨⟨q, oq, es⟩, hq, h⟩ := Option.bind_eq_some_iff.mp h
    cases h
    obtain rfl := dropped_of_step hq
    exact .dequeueStopped (TaskQueue.moves_of_step hq)
  case sleep.poll => exact .wake
  case sleep.shutdown => exact .sleepStopped
  case details.poll id =>
    simp only [step] at h
    split at h
    · rename_i task hfound
      cases h
      exact .found hfound
    · rename_i hnone
      cases h
      exact .notFound hnone
  case resolve.agent task found =>
    simp only [afterResolve]
    split
    · exact .resolved
    · exact .refused
  case executeTask.answer task agent attempts result =>
    exact moves_afterAnswer task agent attempts result
  case executeTask.elapsed task agent attempts => exact .executeFailed
  case executeTask.shutdown task agent attempts => exact .executeStopped
  case retry.poll task agent attempts waitSecs => exact .retry
  case retry.elapsed task agent attempts waitSecs => exact .retryElapsed
  case retry.shutdown task agent attempts waitSecs => exact .retryStopped
  case trackCost.poll task agent result usage =>
    cases hcap : capped usage agent.config.costCapUsd with
    | ok => exact .withinCap hcap
    | error error => exact .overCap
  case finalize.agent task result found =>
    cases result with
    | ok result => exact .finalizeOk found
    | error error => exact .finalizeError found
  case record.poll entry => exact .record
  case publish.poll entry sink =>
    simp only [step] at h
    split at h
    · rename_i hsink
      cases h
      exact .publish hsink
    · rename_i hsink
      cases h
      exact .allPublished (not_lt.mp hsink)
  case completeTask.poll p =>
    obtain ⟨⟨q, oq, es⟩, hq, h⟩ := Option.bind_eq_some_iff.mp h
    cases h
    exact .complete (TaskQueue.moves_of_step hq)

section Queue

@[simp] def Event.queue? : Event → Option TaskQueue.Event
  | .queue e => some e
  | _ => none

def Point.queue? : Point → Option TaskQueue.Point
  | .client p => some p
  | .tryDequeue p => some p
  | .completeTask p => some p
  | _ => none

def queueEvents (h : List Event) : List TaskQueue.Event := h.filterMap Event.queue?

@[simp] theorem queueEvents_nil : queueEvents [] = [] := rfl

@[simp] theorem queueEvents_cons (e : Event) (h : List Event) :
    queueEvents (e :: h) = e.queue?.toList ++ queueEvents h := by
  cases e <;> rfl

@[simp] theorem queueEvents_append (h h' : List Event) :
    queueEvents (h ++ h') = queueEvents h ++ queueEvents h' := List.filterMap_append

@[simp] theorem queueEvents_map (evs : List TaskQueue.Event) :
    queueEvents (evs.map .queue) = evs := by
  rw [queueEvents, List.filterMap_map]
  exact List.filterMap_some

theorem queue_outside {s s' : TaskExecutor} {p : Point} {o : Point ⊕ Output} {evs : List Event}
    (hm : Moves s p s' o evs) (hp : p.queue? = none) :
    s'.queue = s.queue ∧ queueEvents evs = [] ∧
      ((remaining o).filterMap Point.queue? = [] ∨
        ∃ k, (remaining o).filterMap Point.queue? = [TaskQueue.start k]) := by
  cases hm with
  | client | dequeue | dequeueStopped | complete => cases hp
  | begin => exact ⟨rfl, rfl, .inr ⟨.tryDequeue, rfl⟩⟩
  | @allPublished entry => exact ⟨rfl, rfl, .inr ⟨.completeTask entry.taskId, rfl⟩⟩
  | _ => exact ⟨rfl, rfl, .inl rfl⟩

theorem remaining_afterDequeue (o : TaskQueue.Point ⊕ TaskQueue.Output) :
    [afterDequeue o].filterMap Point.queue? = remaining o := by
  obtain p | o := o
  · rfl
  · cases o with
    | dequeued found => cases found <;> rfl
    | _ => rfl

theorem queue_inside {i : Input} {s s' : TaskExecutor} {p : Point} {o : Point ⊕ Output}
    {evs : List Event} {p' : TaskQueue.Point} (h : step i p s = some (s', o, evs))
    (hp : p.queue? = some p') : ∃ i' o', TaskQueue.step i' p' s.queue =
      some (s'.queue, o', queueEvents evs) ∧ (remaining o).filterMap Point.queue? = remaining o' := by
  cases p <;> cases hp <;> cases i <;> try cases h
  case client.refl.queue i =>
    obtain ⟨⟨q, oq, es⟩, hq, h⟩ := Option.bind_eq_some_iff.mp h
    cases h
    rw [queueEvents_map]
    refine ⟨i, oq, hq, ?_⟩
    cases oq <;> rfl
  case tryDequeue.refl.poll =>
    obtain ⟨⟨q, oq, es⟩, hq, h⟩ := Option.bind_eq_some_iff.mp h
    cases h
    rw [queueEvents_map]
    exact ⟨.poll, oq, hq, remaining_afterDequeue oq⟩
  case tryDequeue.refl.shutdown =>
    obtain ⟨⟨q, oq, es⟩, hq, h⟩ := Option.bind_eq_some_iff.mp h
    cases h
    obtain rfl := dropped_of_step hq
    rw [queueEvents_map]
    exact ⟨.drop, .inr .dropped, hq, rfl⟩
  case completeTask.refl.poll =>
    obtain ⟨⟨q, oq, es⟩, hq, h⟩ := Option.bind_eq_some_iff.mp h
    cases h
    rw [queueEvents_map]
    refine ⟨.poll, oq, hq, ?_⟩
    cases oq <;> rfl

def queueView : Projection program TaskQueue.program where
  shared := queue
  point := Point.queue?
  event := Event.queue?
  start k := by
    cases k with
    | run => exact .inl rfl
    | enqueue agentId request => exact .inr ⟨.enqueue agentId request, rfl⟩
    | cancelTask taskId => exact .inr ⟨.cancelTask taskId, rfl⟩
  outside hstep hp := queue_outside (moves_of_step hstep) hp
  inside hstep hp := queue_inside hstep hp

theorem tallied_of_run {ok : Config TaskExecutor Point Event → Label Call Point Input → Prop}
    {maxConcurrent : Option ℕ} {maxEntriesPerAgent historySinks defaultTimeoutSecs : ℕ}
    {c : Config TaskExecutor Point Event} (hc : Run program ok
      (initial (new maxConcurrent maxEntriesPerAgent historySinks defaultTimeoutSecs)) c) :
    TaskQueue.Tallied (queueView.config c) :=
  TaskQueue.tallied_of_reachable (queueView.run hc)

end Queue

end TaskExecutor

end AdkGateway.CodingAgent
