import AdkGateway.Foundation.Interleaving

namespace AdkGateway.Shutdown

open Foundation Interleaving

structure ShutdownCoordinator where
  inFlight : UInt32
  accepting : Bool
  cancelled : Bool
  restartInitiated : Bool
  deriving DecidableEq

namespace ShutdownCoordinator

def new : ShutdownCoordinator := ⟨0, true, false, false⟩

inductive Call
  | acquire
  | initiateShutdown
  | initiateRestart

/-- Between two accesses to the atomics. A caller of `acquire` that got its guard
is at `guard` until it drops it; `drained` tells how the drain ended. -/
inductive Point
  | checkAccepting
  | increment
  | recheck
  | rollback
  | guard
  | markRestart
  | countInFlight
  | stopAccepting
  | drain
  | sleep
  | countRemaining
  | cancel (drained : Bool)
  deriving DecidableEq

inductive Input
  | poll
  | elapsed

inductive Output
  | refused
  | released
  | done

inductive Event
  | granted
  | drained
  | cancelled (drained : Bool)
  deriving DecidableEq

def start : Call → Point
  | .acquire => .checkAccepting
  | .initiateShutdown => .stopAccepting
  | .initiateRestart => .markRestart

def step (i : Input) (p : Point) (s : ShutdownCoordinator) :
    Option (ShutdownCoordinator × (Point ⊕ Output) × List Event) :=
  match p, i with
  | .checkAccepting, .poll =>
    if s.accepting then some (s, .inl .increment, []) else some (s, .inr .refused, [])
  | .increment, .poll => some ({ s with inFlight := s.inFlight + 1 }, .inl .recheck, [])
  | .recheck, .poll =>
    if s.accepting then some (s, .inl .guard, [.granted]) else some (s, .inl .rollback, [])
  | .rollback, .poll => some ({ s with inFlight := s.inFlight - 1 }, .inr .refused, [])
  | .guard, .poll => some ({ s with inFlight := s.inFlight - 1 }, .inr .released, [])
  | .markRestart, .poll => some ({ s with restartInitiated := true }, .inl .countInFlight, [])
  | .countInFlight, .poll => some (s, .inl .stopAccepting, [])
  | .stopAccepting, .poll => some ({ s with accepting := false }, .inl .drain, [])
  | .drain, .poll =>
    if 0 < s.inFlight then some (s, .inl .sleep, [])
    else some (s, .inl (.cancel true), [.drained])
  | .sleep, .poll => some (s, .inl .drain, [])
  | .sleep, .elapsed => some (s, .inl .countRemaining, [])
  | .countRemaining, .poll => some (s, .inl (.cancel false), [])
  | .cancel drained, .poll =>
    some ({ s with cancelled := true }, .inr .done, [.cancelled drained])
  | _, _ => none

def program : Program ShutdownCoordinator Call Point Output Input Event := ⟨start, step⟩

inductive Moves (s : ShutdownCoordinator) :
    Point → ShutdownCoordinator → Point ⊕ Output → List Event → Prop
  | accepts : s.accepting = true → Moves s .checkAccepting s (.inl .increment) []
  | refuses : s.accepting = false → Moves s .checkAccepting s (.inr .refused) []
  | increment : Moves s .increment { s with inFlight := s.inFlight + 1 } (.inl .recheck) []
  | grant : s.accepting = true → Moves s .recheck s (.inl .guard) [.granted]
  | undo : s.accepting = false → Moves s .recheck s (.inl .rollback) []
  | rollback : Moves s .rollback { s with inFlight := s.inFlight - 1 } (.inr .refused) []
  | release : Moves s .guard { s with inFlight := s.inFlight - 1 } (.inr .released) []
  | markRestart : Moves s .markRestart { s with restartInitiated := true } (.inl .countInFlight) []
  | countInFlight : Moves s .countInFlight s (.inl .stopAccepting) []
  | stopAccepting : Moves s .stopAccepting { s with accepting := false } (.inl .drain) []
  | wait : 0 < s.inFlight → Moves s .drain s (.inl .sleep) []
  | drained : s.inFlight = 0 → Moves s .drain s (.inl (.cancel true)) [.drained]
  | wake : Moves s .sleep s (.inl .drain) []
  | elapsed : Moves s .sleep s (.inl .countRemaining) []
  | countRemaining : Moves s .countRemaining s (.inl (.cancel false)) []
  | cancel {drained : Bool} : Moves s (.cancel drained) { s with cancelled := true } (.inr .done)
      [.cancelled drained]

theorem moves_of_step {i : Input} {p : Point} {s s' : ShutdownCoordinator} {o : Point ⊕ Output}
    {evs : List Event} (h : step i p s = some (s', o, evs)) : Moves s p s' o evs := by
  cases p <;> cases i <;> try cases h
  case checkAccepting.poll =>
    simp only [step] at h
    split at h
    · rename_i hyes
      cases h
      exact .accepts hyes
    · rename_i hno
      cases h
      exact .refuses (Bool.eq_false_iff.mpr hno)
  case increment.poll => exact .increment
  case recheck.poll =>
    simp only [step] at h
    split at h
    · rename_i hyes
      cases h
      exact .grant hyes
    · rename_i hno
      cases h
      exact .undo (Bool.eq_false_iff.mpr hno)
  case rollback.poll => exact .rollback
  case guard.poll => exact .release
  case markRestart.poll => exact .markRestart
  case countInFlight.poll => exact .countInFlight
  case stopAccepting.poll => exact .stopAccepting
  case drain.poll =>
    simp only [step] at h
    split at h
    · rename_i hpos
      cases h
      exact .wait hpos
    · rename_i hzero
      cases h
      refine .drained ?_
      simpa [UInt32.pos_iff_ne_zero] using hzero
  case sleep.poll => exact .wake
  case sleep.elapsed => exact .elapsed
  case countRemaining.poll => exact .countRemaining
  case cancel.poll drained => exact .cancel

end ShutdownCoordinator

end AdkGateway.Shutdown
