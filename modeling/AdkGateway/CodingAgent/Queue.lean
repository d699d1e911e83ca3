import AdkGateway.Foundation.Interleaving
import AdkGateway.Foundation.KeyedMap

namespace AdkGateway.CodingAgent

open Foundation

abbrev TaskId := String

abbrev PathBuf := List String

inductive TaskTrigger
  | userCommand (userId channel : String)
  | cronJob (jobId : String)
  | agentDelegation (sourceAgentId : String)
  | controlPanel (userId : String)
  deriving DecidableEq, Repr

structure TaskRequest where
  description : String
  trigger : TaskTrigger
  workspace : Option PathBuf
  deriving DecidableEq, Repr

structure QueuedTask where
  taskId : TaskId
  agentId : String
  request : TaskRequest
  deriving DecidableEq, Repr

structure ActiveTask where
  taskId : TaskId
  agentId : String
  request : TaskRequest
  deriving DecidableEq, Repr

/-- `slots` is the number of free permits. Beside the queue stands the source
of task ids, which never gives an id twice. -/
structure TaskQueue where
  pending : List QueuedTask
  active : KeyedMap TaskId ActiveTask
  maxConcurrent : ℕ
  slots : ℕ
  issued : List TaskId
  deriving DecidableEq

def defaultMaxConcurrent : ℕ := 3

namespace TaskQueue

def new (maxConcurrent : Option ℕ) : TaskQueue :=
  let max := maxConcurrent.getD defaultMaxConcurrent
  ⟨[], ∅, max, max, []⟩

inductive Call
  | enqueue (agentId : String) (request : TaskRequest)
  | tryDequeue
  | completeTask (taskId : TaskId)
  | cancelTask (taskId : TaskId)
  deriving DecidableEq

/-- Between two accesses to the shared state. The calls at `push`, `popFront`
and `cancelPending` wait for the lock of the pending queue. -/
inductive Point
  | enqueue (agentId : String) (request : TaskRequest)
  | push (task : QueuedTask)
  | tryAcquire
  | popFront
  | insertActive (task : QueuedTask)
  | dropPermit
  | completeTask (taskId : TaskId)
  | completeRelease (taskId : TaskId)
  | cancelActive (taskId : TaskId)
  | cancelRelease (taskId : TaskId)
  | cancelPending (taskId : TaskId)
  deriving DecidableEq

/-- The future is polled, perhaps with a new id at hand, or dropped where it waits. -/
inductive Input
  | poll
  | uuid (id : TaskId)
  | drop
  deriving DecidableEq

inductive Output
  | enqueued (taskId : TaskId)
  | dequeued (taskId : Option TaskId)
  | completed (found : Bool)
  | cancelled (found : Bool)
  | dropped
  deriving DecidableEq

inductive Event
  | pushed (taskId : TaskId)
  | popped (taskId : TaskId)
  | activated (taskId : TaskId)
  | completed (taskId : TaskId)
  | cancelled (taskId : TaskId)
  | released (taskId : TaskId)
  | cancelReturned (taskId : TaskId) (found : Bool)
  deriving DecidableEq

def start : Call → Point
  | .enqueue agentId request => .enqueue agentId request
  | .tryDequeue => .tryAcquire
  | .completeTask taskId => .completeTask taskId
  | .cancelTask taskId => .cancelActive taskId

def step (i : Input) (p : Point) (q : TaskQueue) :
    Option (TaskQueue × (Point ⊕ Output) × List Event) :=
  match p, i with
  | .enqueue agentId request, .uuid id =>
    if id ∈ q.issued then none
    else some ({ q with issued := id :: q.issued }, .inl (.push ⟨id, agentId, request⟩), [])
  | .push task, .poll =>
    some ({ q with pending := q.pending ++ [task] }, .inr (.enqueued task.taskId),
      [.pushed task.taskId])
  | .push _, .drop => some (q, .inr .dropped, [])
  | .tryAcquire, .poll =>
    if q.slots = 0 then some (q, .inr (.dequeued none), [])
    else some ({ q with slots := q.slots - 1 }, .inl .popFront, [])
  | .popFront, .poll =>
    match q.pending with
    | [] => some (q, .inl .dropPermit, [])
    | task :: pending =>
      some ({ q with pending := pending }, .inl (.insertActive task), [.popped task.taskId])
  | .popFront, .drop => some ({ q with slots := q.slots + 1 }, .inr .dropped, [])
  | .insertActive task, .poll =>
    -- a task that was there already is dropped, with its permit
    let freed := if (q.active.lookup task.taskId).isSome then 1 else 0
    let active := q.active.insert task.taskId ⟨task.taskId, task.agentId, task.request⟩
    some ({ q with active := active, slots := q.slots + freed },
      .inr (.dequeued (some task.taskId)), [.activated task.taskId])
  | .dropPermit, .poll => some ({ q with slots := q.slots + 1 }, .inr (.dequeued none), [])
  | .completeTask taskId, .poll =>
    if (q.active.lookup taskId).isSome then
      some ({ q with active := q.active.erase taskId }, .inl (.completeRelease taskId),
        [.completed taskId])
    else some (q, .inr (.completed false), [])
  | .completeRelease taskId, .poll =>
    some ({ q with slots := q.slots + 1 }, .inr (.completed true), [.released taskId])
  | .cancelActive taskId, .poll =>
    if (q.active.lookup taskId).isSome then
      some ({ q with active := q.active.erase taskId }, .inl (.cancelRelease taskId),
        [.cancelled taskId])
    else some (q, .inl (.cancelPending taskId), [])
  | .cancelRelease taskId, .poll =>
    some ({ q with slots := q.slots + 1 }, .inr (.cancelled true),
      [.released taskId, .cancelReturned taskId true])
  | .cancelPending taskId, .poll =>
    if taskId ∈ q.pending.map (·.taskId) then
      some ({ q with pending := q.pending.eraseP (·.taskId = taskId) }, .inr (.cancelled true),
        [.cancelled taskId, .cancelReturned taskId true])
    else some (q, .inr (.cancelled false), [.cancelReturned taskId false])
  | .cancelPending _, .drop => some (q, .inr .dropped, [])
  | _, _ => none

def program : Program TaskQueue Call Point Output Input Event := ⟨start, step⟩

inductive Moves (q : TaskQueue) : Point → TaskQueue → Point ⊕ Output → List Event → Prop
  | issue {agentId : String} {request : TaskRequest} {id : TaskId} : id ∉ q.issued →
      Moves q (.enqueue agentId request) { q with issued := id :: q.issued }
        (.inl (.push ⟨id, agentId, request⟩)) []
  | push {task : QueuedTask} : Moves q (.push task) { q with pending := q.pending ++ [task] }
      (.inr (.enqueued task.taskId)) [.pushed task.taskId]
  | pushDropped {task : QueuedTask} : Moves q (.push task) q (.inr .dropped) []
  | noPermit : q.slots = 0 → Moves q .tryAcquire q (.inr (.dequeued none)) []
  | acquire {n : ℕ} : q.slots = n + 1 →
      Moves q .tryAcquire { q with slots := n } (.inl .popFront) []
  | nothingPending : q.pending = [] → Moves q .popFront q (.inl .dropPermit) []
  | pop {task : QueuedTask} {pending : List QueuedTask} : q.pending = task :: pending →
      Moves q .popFront { q with pending := pending } (.inl (.insertActive task))
        [.popped task.taskId]
  | popDropped : Moves q .popFront { q with slots := q.slots + 1 } (.inr .dropped) []
  | insert {task : QueuedTask} : Moves q (.insertActive task)
      { q with
        active := q.active.insert task.taskId ⟨task.taskId, task.agentId, task.request⟩
        slots := q.slots + if (q.active.lookup task.taskId).isSome then 1 else 0 }
      (.inr (.dequeued (some task.taskId))) [.activated task.taskId]
  | dropPermit : Moves q .dropPermit { q with slots := q.slots + 1 } (.inr (.dequeued none)) []
  | complete {id : TaskId} : (q.active.lookup id).isSome → Moves q (.completeTask id)
      { q with active := q.active.erase id } (.inl (.completeRelease id)) [.completed id]
  | completeUnknown {id : TaskId} : ¬ (q.active.lookup id).isSome →
      Moves q (.completeTask id) q (.inr (.completed false)) []
  | completeRelease {id : TaskId} : Moves q (.completeRelease id)
      { q with slots := q.slots + 1 } (.inr (.completed true)) [.released id]
  | cancelActive {id : TaskId} : (q.active.lookup id).isSome → Moves q (.cancelActive id)
      { q with active := q.active.erase id } (.inl (.cancelRelease id)) [.cancelled id]
  | cancelLook {id : TaskId} : ¬ (q.active.lookup id).isSome →
      Moves q (.cancelActive id) q (.inl (.cancelPending id)) []
  | cancelRelease {id : TaskId} : Moves q (.cancelRelease id) { q with slots := q.slots + 1 }
      (.inr (.cancelled true)) [.released id, .cancelReturned id true]
  | cancelPending {id : TaskId} : id ∈ q.pending.map (·.taskId) → Moves q (.cancelPending id)
      { q with pending := q.pending.eraseP (·.taskId = id) } (.inr (.cancelled true))
      [.cancelled id, .cancelReturned id true]
  | cancelUnknown {id : TaskId} : id ∉ q.pending.map (·.taskId) →
      Moves q (.cancelPending id) q (.inr (.cancelled false)) [.cancelReturned id false]
  | cancelDropped {id : TaskId} : Moves q (.cancelPending id) q (.inr .dropped) []

theorem moves_of_step {i : Input} {p : Point} {q q' : TaskQueue} {o : Point ⊕ Output}
    {evs : List Event} (h : step i p q = some (q', o, evs)) : Moves q p q' o evs := by
  cases p <;> cases i <;> try cases h
  case enqueue.uuid agentId request id =>
    simp only [step] at h
    split at h
    · cases h
    · rename_i hid
      cases h
      exact .issue hid
  case push.poll task => exact .push
  case push.drop task => exact .pushDropped
  case tryAcquire.poll =>
    simp only [step] at h
    split at h
    · rename_i hnone
      cases h
      exact .noPermit hnone
    · rename_i hsome
      cases h
      exact .acquire (Nat.succ_pred_eq_of_ne_zero hsome).symm
  case popFront.poll =>
    simp only [step] at h
    split at h
    · rename_i hnil
      cases h
      exact .nothingPending hnil
    · rename_i task pending hcons
      cases h
      exact .pop hcons
  case popFront.drop => exact .popDropped
  case insertActive.poll task => exact .insert
  case dropPermit.poll => exact .dropPermit
  case completeTask.poll id =>
    simp only [step] at h
    split at h
    · rename_i hfound
      cases h
      exact .complete hfound
    · rename_i hnone
      cases h
      exact .completeUnknown hnone
  case completeRelease.poll id => exact .completeRelease
  case cancelActive.poll id =>
    simp only [step] at h
    split at h
    · rename_i hfound
      cases h
      exact .cancelActive hfound
    · rename_i hnone
      cases h
      exact .cancelLook hnone
  case cancelRelease.poll id => exact .cancelRelease
  case cancelPending.poll id =>
    simp only [step] at h
    split at h
    · rename_i hfound
      cases h
      exact .cancelPending hfound
    · rename_i hnone
      cases h
      exact .cancelUnknown hnone
  case cancelPending.drop id => exact .cancelDropped

end TaskQueue

end AdkGateway.CodingAgent
