import AdkGateway.Foundation.Interleaving
import AdkGateway.Foundation.KeyedMap

namespace AdkGateway

open Foundation

structure ManagedProcess where
  port : UInt16
  child : ℕ
  deriving DecidableEq

structure Child where
  agentId : String
  port : UInt16
  deriving DecidableEq

/-- Beside the manager stands the operating system, with the children that run. -/
structure ProcessManager where
  processes : KeyedMap String ManagedProcess
  startPort : UInt16
  endPort : UInt16
  nextPort : UInt16
  running : KeyedMap ℕ Child
  started : ℕ

namespace ProcessManager

def new (startPort endPort : UInt16) : ProcessManager := ⟨∅, startPort, endPort, startPort, ∅, 0⟩

def withDefaults : ProcessManager := new 19001 19100

def rangeLen (pm : ProcessManager) : ℕ := (pm.endPort - pm.startPort + 1).toNat

/-- `binary` is the path as the messages print it. -/
structure SpawnArgs where
  agentId : String
  binary : String
  deriving DecidableEq

inductive Call
  | spawn (args : SpawnArgs)
  | stop (agentId : String)
  | removeProcess (agentId : String)
  | exit (child : ℕ)
  deriving DecidableEq

/-- Between two accesses to the shared state. In the loop over the ports `left`
is the number of tries left; a look through the table has the agents `unseen`
still before it. -/
inductive Point
  | containsKey (args : SpawnArgs)
  | fetchAdd (args : SpawnArgs) (left : ℕ)
  | storeStart (args : SpawnArgs) (left : ℕ)
  | isPortActive (args : SpawnArgs) (port : UInt16) (left : ℕ)
  | iterate (args : SpawnArgs) (port : UInt16) (left : ℕ) (unseen : List String)
  | bindPort (args : SpawnArgs) (port : UInt16) (left : ℕ)
  | startChild (args : SpawnArgs) (port : UInt16)
  | insert (args : SpawnArgs) (port : UInt16) (child : ℕ)
  | stop (agentId : String)
  | wait (agentId : String) (child : ℕ)
  | waitKilled (agentId : String) (child : ℕ)
  | remove (agentId : String)
  | removeProcess (agentId : String)
  | kill (agentId : String) (process : ManagedProcess)
  | exit (child : ℕ)
  deriving DecidableEq

/-- The call goes on, what it tries fails or takes too long, it is dropped
where it waits, or the iterator yields the entry of an agent. -/
inductive Input
  | go
  | fail
  | elapsed
  | drop
  | yield (agentId : String)
  deriving DecidableEq

inductive Output
  | spawned (result : Except String UInt16)
  | stopped (result : Except String Unit)
  | removed (found : Bool)
  | exited
  | dropped

def start : Call → Point
  | .spawn args => .containsKey args
  | .stop agentId => .stop agentId
  | .removeProcess agentId => .removeProcess agentId
  | .exit child => .exit child

def alreadyRunning (args : SpawnArgs) : String :=
  "agent '" ++ args.agentId ++ "' is already running"

def noPorts (pm : ProcessManager) : String :=
  "no available ports in range " ++ toString pm.startPort.toNat ++ "..=" ++
    toString pm.endPort.toNat

def failedToSpawn (args : SpawnArgs) : String :=
  "failed to spawn agent '" ++ args.agentId ++ "' from " ++ args.binary

def notFound (agentId : String) : String :=
  "agent '" ++ agentId ++ "' not found in process manager"

def ended (child : ℕ) (pm : ProcessManager) : ProcessManager :=
  { pm with running := pm.running.erase child }

def step (i : Input) (p : Point) (pm : ProcessManager) :
    Option (ProcessManager × (Point ⊕ Output) × List Empty) :=
  match p, i with
  | .containsKey args, .go =>
    if (pm.processes.lookup args.agentId).isSome then
      some (pm, .inr (.spawned (.error (alreadyRunning args))), [])
    else some (pm, .inl (.fetchAdd args pm.rangeLen), [])
  | .fetchAdd _ 0, .go => some (pm, .inr (.spawned (.error (noPorts pm))), [])
  | .fetchAdd args (left + 1), .go =>
    some ({ pm with nextPort := pm.nextPort + 1 },
      .inl (if pm.nextPort > pm.endPort then .storeStart args left
        else .isPortActive args pm.nextPort left), [])
  | .storeStart args left, .go =>
    some ({ pm with nextPort := pm.startPort }, .inl (.fetchAdd args left), [])
  | .isPortActive args port left, .go =>
    some (pm, .inl (.iterate args port left pm.processes.keys), [])
  | .iterate args port left unseen, .yield agentId =>
    some (pm, .inl (if (pm.processes.lookup agentId).any (·.port == port) then .fetchAdd args left
      else .iterate args port left (unseen.erase agentId)), [])
  | .iterate args port left [], .go => some (pm, .inl (.bindPort args port left), [])
  | .bindPort args port _, .go => some (pm, .inl (.startChild args port), [])
  | .bindPort args _ left, .fail => some (pm, .inl (.fetchAdd args left), [])
  | .startChild args port, .go =>
    some ({ pm with
        running := pm.running.insert pm.started ⟨args.agentId, port⟩
        started := pm.started + 1 }, .inl (.insert args port pm.started), [])
  | .startChild args _, .fail => some (pm, .inr (.spawned (.error (failedToSpawn args))), [])
  | .insert args port child, .go =>
    -- a process that was in the table is dropped, and its child runs on
    some ({ pm with processes := pm.processes.insert args.agentId ⟨port, child⟩ },
      .inr (.spawned (.ok port)), [])
  | .stop agentId, .go =>
    match pm.processes.lookup agentId with
    | none => some (pm, .inr (.stopped (.error (notFound agentId))), [])
    | some process => some (pm, .inl (.wait agentId process.child), [])
  | .wait agentId child, .go => some (ended child pm, .inl (.remove agentId), [])
  | .wait agentId _, .fail => some (pm, .inl (.remove agentId), [])
  | .wait agentId child, .elapsed => some (pm, .inl (.waitKilled agentId child), [])
  | .wait _ _, .drop => some (pm, .inr .dropped, [])
  | .waitKilled agentId child, .go => some (ended child pm, .inl (.remove agentId), [])
  | .waitKilled agentId _, .fail => some (pm, .inl (.remove agentId), [])
  | .waitKilled agentId _, .elapsed => some (pm, .inl (.remove agentId), [])
  | .waitKilled _ _, .drop => some (pm, .inr .dropped, [])
  | .remove agentId, .go =>
    some ({ pm with processes := pm.processes.erase agentId }, .inr (.stopped (.ok ())), [])
  | .removeProcess agentId, .go =>
    match pm.processes.lookup agentId with
    | none => some (pm, .inr (.removed false), [])
    | some process =>
      some ({ pm with processes := pm.processes.erase agentId }, .inl (.kill agentId process), [])
  | .kill _ process, .go => some (ended process.child pm, .inr (.removed true), [])
  | .exit child, .go => some (ended child pm, .inr .exited, [])
  | _, _ => none

def program : Program ProcessManager Call Point Output Input Empty := ⟨start, step⟩

end ProcessManager

end AdkGateway
