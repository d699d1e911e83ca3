import AdkGateway.Foundation.KeyedMap
import AdkGateway.Foundation.Machine

namespace AdkGateway.AcpClient

open Foundation Machine

structure AcpSession where
  agentId : String
  isActive : Bool

/-- Where a call waits or works; a call of `get_or_create` may be one of `execute_task`. -/
inductive Point
  | getting (forTask : Bool)
  | checking (forTask : Bool) (session : ℕ)
  | removing (forTask : Bool)
  | creating (forTask : Bool)
  | inserting (forTask : Bool) (session : ℕ)
  | lockingPrompt (session : ℕ)
  | prompting (session : ℕ)
  | dropping
  | looking
  | lockingCancel (session : ℕ)
  | cancelling (session : ℕ)
  | taking
  | lockingClose (session : ℕ)
  | closing (session : ℕ)
  | done
  deriving DecidableEq

structure Call where
  agentId : String
  point : Point
  deriving DecidableEq

inductive Lock
  | shard (k : ℕ)
  | session (id : ℕ)
  deriving DecidableEq

/-- `started` are all sessions ever started, and `sessions` is the map of the pool. -/
structure AcpSessionPool where
  started : List AcpSession
  sessions : KeyedMap String ℕ
  calls : List Call

inductive Operation
  | getOrCreate
  | executeTask
  | cancelTask
  | closeSession

/-- `succeeds` tells what becomes of a start or a prompt. -/
inductive PoolEvent
  | call (agentId : String) (operation : Operation)
  | act (i : ℕ) (succeeds : Bool)
  | die (session : ℕ)

inductive Effect
  | nothing
  | start
  | insert (session : ℕ)
  | remove
  | close (session : ℕ)

inductive Answer
  | found (session : ℕ)
  | created (session : ℕ)

def Answer.session : Answer → ℕ
  | found session => session
  | created session => session

structure Observation where
  before : AcpSessionPool
  answer : Option (String × Answer)
  after : AcpSessionPool

namespace Operation

def start : Operation → Point
  | getOrCreate => .getting false
  | executeTask => .getting true
  | cancelTask => .looking
  | closeSession => .taking

end Operation

namespace Point

def hands : Point → Option ℕ
  | inserting _ session => some session
  | lockingClose session => some session
  | closing session => some session
  | _ => none

/-- `get_or_create` is left with a session. -/
def got (forTask : Bool) (session : ℕ) : Point :=
  if forTask then .lockingPrompt session else .done

end Point

section Locks

variable (shard : String → ℕ)

/-- The map entry that `get_or_create` has found is held until the session has been checked, and
beyond if the entry is to be removed. -/
def Call.holds (c : Call) : Option Lock :=
  match c.point with
  | .checking _ _ => some (.shard (shard c.agentId))
  | .removing _ => some (.shard (shard c.agentId))
  | .prompting session => some (.session session)
  | .cancelling session => some (.session session)
  | .closing session => some (.session session)
  | _ => none

def Call.waitsFor (c : Call) : Option Lock :=
  match c.point with
  | .checking _ session => some (.session session)
  | .removing _ => some (.shard (shard c.agentId))
  | .inserting _ _ => some (.shard (shard c.agentId))
  | .lockingPrompt session => some (.session session)
  | .dropping => some (.shard (shard c.agentId))
  | .lockingCancel session => some (.session session)
  | .taking => some (.shard (shard c.agentId))
  | .lockingClose session => some (.session session)
  | _ => none

def isFree (calls : List Call) (lock : Lock) : Bool :=
  calls.all fun c ↦ c.holds shard ≠ some lock

def mayGoOn (calls : List Call) (c : Call) : Bool :=
  (c.waitsFor shard).all (isFree shard calls)

end Locks

namespace AcpSessionPool

def isActive (s : AcpSessionPool) (session : ℕ) : Bool :=
  s.started[session]?.any AcpSession.isActive

def deactivate (s : AcpSessionPool) (session : ℕ) : AcpSessionPool :=
  { s with started := s.started.modify session fun a ↦ { a with isActive := false } }

def move (s : AcpSessionPool) (c : Call) (succeeds : Bool) : Effect × Point :=
  match c.point with
  | .getting forTask =>
    match s.sessions.lookup c.agentId with
    | some session => (.nothing, .checking forTask session)
    | none => (.nothing, .creating forTask)
  | .checking forTask session =>
    -- the entry of a session that died is removed while it is still held
    (.nothing, if s.isActive session then .got forTask session else .removing forTask)
  | .removing forTask => (.remove, .creating forTask)
  | .creating forTask =>
    if succeeds then (.start, .inserting forTask s.started.length) else (.nothing, .done)
  | .inserting forTask session => (.insert session, .got forTask session)
  | .lockingPrompt session => (.nothing, .prompting session)
  | .prompting _ => (.nothing, if succeeds then .done else .dropping)
  | .dropping => (.remove, .done)
  | .looking =>
    match s.sessions.lookup c.agentId with
    | some session => (.nothing, .lockingCancel session)
    | none => (.nothing, .done)
  | .lockingCancel session => (.nothing, .cancelling session)
  | .cancelling _ => (.nothing, .done)
  | .taking =>
    match s.sessions.lookup c.agentId with
    | some session => (.remove, .lockingClose session)
    | none => (.nothing, .done)
  | .lockingClose session => (.nothing, .closing session)
  | .closing session => (.close session, .done)
  | .done => (.nothing, .done)

def perform (s : AcpSessionPool) (agentId : String) : Effect → AcpSessionPool
  | .nothing => s
  | .start => { s with started := s.started ++ [⟨agentId, true⟩] }
  | .insert session => { s with sessions := s.sessions.insert agentId session }
  | .remove => { s with sessions := s.sessions.erase agentId }
  | .close session => s.deactivate session

def putCall (s : AcpSessionPool) (i : ℕ) (c : Call) : AcpSessionPool :=
  { s with calls := s.calls.set i c }

section Steps

variable (shard : String → ℕ)

def acting (s : AcpSessionPool) (i : ℕ) : Option Call :=
  s.calls[i]?.filter (mayGoOn shard s.calls)

def next (s : AcpSessionPool) : PoolEvent → AcpSessionPool
  | .call agentId operation => { s with calls := s.calls ++ [⟨agentId, operation.start⟩] }
  | .act i succeeds =>
    match s.acting shard i with
    | some c =>
      (s.perform c.agentId (s.move c succeeds).1).putCall i ⟨c.agentId, (s.move c succeeds).2⟩
    | none => s
  | .die session => s.deactivate session

def answer (s : AcpSessionPool) : PoolEvent → Option (String × Answer)
  | .act i _ =>
    (s.acting shard i).bind fun c ↦
      match c.point with
      | .checking _ session =>
        if s.isActive session then some (c.agentId, .found session) else none
      | .inserting _ session => some (c.agentId, .created session)
      | _ => none
  | _ => none

def step (s : AcpSessionPool) (event : PoolEvent) : Observation × AcpSessionPool :=
  (⟨s, s.answer shard event, s.next shard event⟩, s.next shard event)

end Steps

def new : AcpSessionPool := ⟨[], ∅, []⟩

end AcpSessionPool

end AdkGateway.AcpClient
