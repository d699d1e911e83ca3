import AdkGateway.Foundation.Machine
import Mathlib.Algebra.Group.Nat.Defs
import Mathlib.Order.Nat

namespace AdkGateway

open Foundation

/-- An `Instant` or a `Duration`, in nanoseconds. -/
abbrev Nanos := ℕ

def fromSecs (secs : UInt64) : Nanos := secs.toNat * 1000000000

structure RateLimitConfig where
  maxCalls : UInt32
  windowSecs : UInt64
  cooldownSecs : UInt64
  maxTriggers : UInt32

def RateLimitConfig.default : RateLimitConfig := ⟨100, 30, 5, 10⟩

inductive RateLimitDecision
  | allow
  | pause (duration : Nanos)
  | terminate (reason : String)
  deriving DecidableEq

structure RateLimiter where
  window : List Nanos
  triggerCount : UInt32
  config : RateLimitConfig

namespace RateLimiter

def new (config : RateLimitConfig) : RateLimiter := ⟨[], 0, config⟩

def terminateReason (triggers : ℕ) (toolName : String) (count windowSecs : ℕ) : String :=
  "Rate limit triggered " ++ toString triggers ++
    (" times in this request (tool: '" ++ toolName ++ "', " ++ toString count ++ " calls in " ++
      toString windowSecs ++ "s window). Terminating to prevent runaway loop.")

/-- The length of the deque is cut to 32 bits, and the trigger counter wraps
around (a build with overflow checks panics there). -/
def recordInvocation (limiter : RateLimiter) (toolName : String) (now : Nanos) :
    RateLimitDecision × RateLimiter :=
  let windowDuration := fromSecs limiter.config.windowSecs
  let window := limiter.window.dropWhile fun front ↦ now - front > windowDuration
  let window := window ++ [now]
  let count := UInt32.ofNat window.length
  if count > limiter.config.maxCalls then
    let triggerCount := limiter.triggerCount + 1
    let limiter := { limiter with window := window, triggerCount := triggerCount }
    if triggerCount ≥ limiter.config.maxTriggers then
      (.terminate (terminateReason triggerCount.toNat toolName count.toNat
        limiter.config.windowSecs.toNat), limiter)
    else (.pause (fromSecs limiter.config.cooldownSecs), limiter)
  else (.allow, { limiter with window := window })

def windowCount (limiter : RateLimiter) (now : Nanos) : UInt32 :=
  let windowDuration := fromSecs limiter.config.windowSecs
  UInt32.ofNat (limiter.window.filter fun ts ↦ now - ts ≤ windowDuration).length

def reset (limiter : RateLimiter) : RateLimiter := { limiter with window := [], triggerCount := 0 }

inductive Op
  | invoke (toolName : String) (now : Nanos)
  | reset

def step (limiter : RateLimiter) : Op → Option RateLimitDecision × RateLimiter
  | .invoke toolName now => (limiter.recordInvocation toolName now).map some id
  | .reset => (none, limiter.reset)

end RateLimiter

structure ReferenceLimiter where
  history : List Nanos
  triggers : ℕ

namespace ReferenceLimiter

open RateLimiter

def new : ReferenceLimiter := ⟨[], 0⟩

/-- The calls within the last `window_secs`. -/
def count (config : RateLimitConfig) (ref : ReferenceLimiter) (now : Nanos) : ℕ :=
  (ref.history.filter fun ts ↦ now - ts ≤ fromSecs config.windowSecs).length

def record (config : RateLimitConfig) (ref : ReferenceLimiter) (toolName : String) (now : Nanos) :
    RateLimitDecision × ReferenceLimiter :=
  let called : ReferenceLimiter := { ref with history := ref.history ++ [now] }
  let calls := called.count config now
  if config.maxCalls.toNat < calls then
    let triggers := ref.triggers + 1
    if config.maxTriggers.toNat ≤ triggers then
      (.terminate (terminateReason triggers toolName calls config.windowSecs.toNat),
        { called with triggers := triggers })
    else (.pause (fromSecs config.cooldownSecs), { called with triggers := triggers })
  else (.allow, called)

def step (config : RateLimitConfig) (ref : ReferenceLimiter) :
    Op → Option RateLimitDecision × ReferenceLimiter
  | .invoke toolName now => (ref.record config toolName now).map some id
  | .reset => (none, new)

end ReferenceLimiter

end AdkGateway
