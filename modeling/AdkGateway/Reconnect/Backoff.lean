import AdkGateway.Foundation.Machine
import Mathlib.Algebra.Order.Ring.Nat
import Mathlib.Data.List.Induction

namespace AdkGateway.Reconnect

open Foundation

def maxNanos : ℕ := 2 ^ 64 * 10 ^ 9 - 1

structure Duration where
  nanos : ℕ
  nanos_le : nanos ≤ maxNanos
  deriving DecidableEq

namespace Duration

def saturatingMul (d : Duration) (n : ℕ) : Duration := ⟨min (d.nanos * n) maxNanos, min_le_right _ _⟩

protected def min (d d' : Duration) : Duration := if d'.nanos < d.nanos then d' else d

@[simp] theorem nanos_saturatingMul (d : Duration) (n : ℕ) :
    (d.saturatingMul n).nanos = min (d.nanos * n) maxNanos := rfl

@[simp] theorem nanos_min (d d' : Duration) : (d.min d').nanos = min d.nanos d'.nanos := by
  unfold Duration.min
  split <;> omega

end Duration

structure ReconnectPolicy where
  initialDelay : Duration
  maxDelay : Duration
  maxAttempts : UInt32

/-- The last attempt is a reading of the monotonic clock. -/
structure ReconnectState where
  attempts : UInt32
  lastAttempt : Option ℕ
  currentDelay : Duration
  policy : ReconnectPolicy

namespace ReconnectState

def new (policy : ReconnectPolicy) : ReconnectState := ⟨0, none, policy.initialDelay, policy⟩

/-- The counter of attempts wraps around (a build with overflow checks panics there). -/
def nextDelay (state : ReconnectState) (now : ℕ) : Duration × ReconnectState :=
  let delay := state.currentDelay
  (delay, { state with
    attempts := state.attempts + 1
    lastAttempt := some now
    currentDelay := (state.currentDelay.saturatingMul 2).min state.policy.maxDelay })

def shouldMarkFailed (state : ReconnectState) : Bool :=
  decide (state.policy.maxAttempts ≤ state.attempts)

def reset (state : ReconnectState) : ReconnectState :=
  { state with attempts := 0, lastAttempt := none, currentDelay := state.policy.initialDelay }

end ReconnectState

inductive Op
  | nextDelay (now : ℕ)
  | reset

def step (state : ReconnectState) : Op → Option Duration × ReconnectState
  | .nextDelay now => (state.nextDelay now).map some id
  | .reset => (none, state.reset)

def runOps (policy : ReconnectPolicy) (ops : List Op) : ReconnectState :=
  Machine.run step (.new policy) ops

def sinceReset (ops : List Op) : ℕ :=
  ops.foldl (fun n op ↦ match op with
    | .nextDelay _ => n + 1
    | .reset => 0) 0

/-- The `k`-th delay after a reset as it should be, counted from one. -/
def ReconnectPolicy.delay (policy : ReconnectPolicy) (k : ℕ) : ℕ :=
  min (min (policy.initialDelay.nanos * 2 ^ (k - 1)) maxNanos) policy.maxDelay.nanos

def FollowsLaw (policy : ReconnectPolicy) (ops : List Op) : Prop :=
  ∀ before now, before ++ [.nextDelay now] <+: ops →
    ((runOps policy before).nextDelay now).1.nanos = policy.delay (sinceReset before + 1) ∧
      ((runOps policy before).nextDelay now).1.nanos ≤ policy.maxDelay.nanos

section Runs

variable {policy : ReconnectPolicy} {ops : List Op}

@[simp] theorem sinceReset_concat_nextDelay (ops : List Op) (now : ℕ) :
    sinceReset (ops ++ [.nextDelay now]) = sinceReset ops + 1 := by
  simp [sinceReset]

@[simp] theorem sinceReset_concat_reset (ops : List Op) : sinceReset (ops ++ [.reset]) = 0 := by
  simp [sinceReset]

/-- What the state holds when so many delays have been returned in a row: the first delay is
returned as it is, and only those after it are capped. -/
structure Tracks (policy : ReconnectPolicy) (n : ℕ) (state : ReconnectState) : Prop where
  policy_eq : state.policy = policy
  attempts : state.attempts = UInt32.ofNat n
  delay : state.currentDelay.nanos =
    if n = 0 then policy.initialDelay.nanos
    else min (policy.initialDelay.nanos * 2 ^ n) policy.maxDelay.nanos

theorem tracks_new (policy : ReconnectPolicy) : Tracks policy 0 (.new policy) := ⟨rfl, rfl, rfl⟩

theorem Tracks.reset {n : ℕ} {state : ReconnectState} (h : Tracks policy n state) :
    Tracks policy 0 state.reset := by
  obtain ⟨rfl, -, -⟩ := h
  exact ⟨rfl, rfl, rfl⟩

theorem Tracks.nextDelay {n : ℕ} {state : ReconnectState} (h : Tracks policy n state) (now : ℕ) :
    Tracks policy (n + 1) (state.nextDelay now).2 := by
  obtain ⟨rfl, hattempts, hdelay⟩ := h
  refine ⟨rfl, ?_, ?_⟩
  · rw [UInt32.ofNat_add, ← hattempts]
    rfl
  · have hmax := state.policy.maxDelay.nanos_le
    rw [if_neg n.succ_ne_zero, ReconnectState.nextDelay, Duration.nanos_min,
      Duration.nanos_saturatingMul, hdelay, pow_succ, ← mul_assoc]
    split
    · next hn =>
      rw [hn, pow_zero, mul_one]
      omega
    · omega

/-- With a cap that the first delay keeps to, the law holds. -/
theorem Tracks.delay_eq {n : ℕ} {state : ReconnectState} (h : Tracks policy n state)
    (hcap : policy.initialDelay.nanos ≤ policy.maxDelay.nanos) (now : ℕ) :
    (state.nextDelay now).1.nanos = policy.delay (n + 1) := by
  have hmax := policy.maxDelay.nanos_le
  rw [ReconnectState.nextDelay, ReconnectPolicy.delay, Nat.add_sub_cancel, h.delay]
  split
  · next hzero =>
    rw [hzero, pow_zero, mul_one]
    omega
  · omega

/-- As long as the attempts do not exceed the bound, their counter does not wrap around. -/
theorem Tracks.shouldMarkFailed_iff {n : ℕ} {state : ReconnectState} (h : Tracks policy n state)
    (hn : n ≤ policy.maxAttempts.toNat) :
    state.shouldMarkFailed = true ↔ n = policy.maxAttempts.toNat := by
  have hlt := policy.maxAttempts.toNat_lt
  rw [ReconnectState.shouldMarkFailed, decide_eq_true_iff, h.policy_eq, h.attempts,
    UInt32.le_iff_toNat_le, UInt32.toNat_ofNat_of_lt' (hn.trans_lt hlt)]
  omega

theorem tracks_runOps (policy : ReconnectPolicy) (ops : List Op) :
    Tracks policy (sinceReset ops) (runOps policy ops) := by
  induction ops using List.reverseRecOn with
  | nil => exact tracks_new policy
  | append_singleton ops op ih =>
    rw [runOps, Machine.run_concat]
    cases op with
    | nextDelay now =>
      rw [sinceReset_concat_nextDelay]
      exact ih.nextDelay now
    | reset =>
      rw [sinceReset_concat_reset]
      exact ih.reset

/-- A channel is given up when so many attempts have failed in a row, as far as 32 bits tell. -/
theorem shouldMarkFailed_runOps (policy : ReconnectPolicy) (ops : List Op) :
    (runOps policy ops).shouldMarkFailed =
      decide (policy.maxAttempts ≤ UInt32.ofNat (sinceReset ops)) := by
  have htracks := tracks_runOps policy ops
  rw [ReconnectState.shouldMarkFailed, htracks.policy_eq, htracks.attempts]

theorem exists_first {now : ℕ} (h : .nextDelay now ∈ ops) :
    ∃ before now', before ++ [.nextDelay now'] <+: ops ∧ sinceReset before = 0 := by
  induction ops with
  | nil => cases h
  | cons op ops ih =>
    cases op with
    | nextDelay now' => exact ⟨[], now', ⟨ops, rfl⟩, rfl⟩
    | reset =>
      have hmem : .nextDelay now ∈ ops := by simpa using h
      obtain ⟨before, now', hbefore, hzero⟩ := ih hmem
      exact ⟨.reset :: before, now', List.cons_prefix_cons.mpr ⟨rfl, hbefore⟩, hzero⟩

/-- Past the first delay the cap comes with the doubling, and the first one has none. -/
theorem followsLaw_iff (policy : ReconnectPolicy) (ops : List Op) : FollowsLaw policy ops ↔
    policy.initialDelay.nanos ≤ policy.maxDelay.nanos ∨ ∀ now, .nextDelay now ∉ ops := by
  constructor
  · intro h
    by_cases hasked : ∃ now, Op.nextDelay now ∈ ops
    · left
      obtain ⟨now, hmem⟩ := hasked
      obtain ⟨before, now', hbefore, hzero⟩ := exists_first hmem
      have hdelay := (tracks_runOps policy before).delay
      rw [if_pos hzero] at hdelay
      have hle := (h before now' hbefore).2
      rw [ReconnectState.nextDelay, hdelay] at hle
      exact hle
    · right
      exact fun now hmem ↦ hasked ⟨now, hmem⟩
  · intro h before now hbefore
    have hmem : .nextDelay now ∈ ops := hbefore.subset (by simp)
    have hinitial : policy.initialDelay.nanos ≤ policy.maxDelay.nanos :=
      h.resolve_right fun hnone ↦ hnone now hmem
    have hmax := policy.maxDelay.nanos_le
    have hdelay := (tracks_runOps policy before).delay
    rw [ReconnectState.nextDelay, ReconnectPolicy.delay, Nat.add_sub_cancel, hdelay]
    split
    · next hzero =>
      rw [hzero, pow_zero, mul_one]
      omega
    · omega

end Runs

section Uncapped

def impatientPolicy : ReconnectPolicy where
  initialDelay := ⟨600 * 10 ^ 9, by decide⟩
  maxDelay := ⟨300 * 10 ^ 9, by decide⟩
  maxAttempts := 10

theorem not_followsLaw : ¬ ∀ policy ops, FollowsLaw policy ops := by
  intro h
  have hle := (h impatientPolicy [.nextDelay 0] [] 0 (List.prefix_refl _)).2
  exact absurd hle (by decide)

end Uncapped

end AdkGateway.Reconnect
