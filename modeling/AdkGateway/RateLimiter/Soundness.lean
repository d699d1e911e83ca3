import AdkGateway.Foundation.SlidingWindow
import AdkGateway.RateLimiter.Limiter
import Mathlib.Data.List.Induction

namespace AdkGateway.RateLimiter

open Foundation Machine

def lastCall (ops : List Op) : Nanos :=
  ops.foldl (fun _ op ↦ match op with
    | .invoke _ now => now
    | .reset => 0) 0

/-- No call is earlier than one before it, resets starting afresh. -/
def WellTimed (ops : List Op) : Prop :=
  ∀ earlier toolName now, earlier ++ [.invoke toolName now] <+: ops → lastCall earlier ≤ now

section Runs

variable (config : RateLimitConfig)

def after (ops : List Op) : RateLimiter := run step (new config) ops

def referenceAfter (ops : List Op) : ReferenceLimiter :=
  run (ReferenceLimiter.step config) .new ops

structure Agrees (ops : List Op) : Prop where
  decisions : outputs step (new config) ops = outputs (ReferenceLimiter.step config) .new ops
  counts : ∀ earlier, earlier <+: ops → ∀ now, lastCall earlier ≤ now →
    ((after config earlier).windowCount now).toNat = (referenceAfter config earlier).count config now

/-- Calls in a window and triggers since a reset stay countable in 32 bits. -/
structure InBounds (ops : List Op) : Prop where
  calls : ∀ earlier, earlier <+: ops →
    (referenceAfter config earlier).count config (lastCall earlier) < 2 ^ 32
  triggers : ∀ earlier, earlier <+: ops → (referenceAfter config earlier).triggers < 2 ^ 32

end Runs

section Step

variable {config : RateLimitConfig} {limiter : RateLimiter} {ref : ReferenceLimiter}
  {last now : Nanos}

/-- An entry is live for `window_secs` after its call. -/
def horizon (config : RateLimitConfig) : Horizon Nanos where
  live now ts := now - ts ≤ fromSecs config.windowSecs
  live_of_newer := by
    intro now t t' h hle
    have hgap : now - t ≤ fromSecs config.windowSecs := of_decide_eq_true h
    exact decide_eq_true ((Nat.sub_le_sub_left hle now).trans hgap)
  live_of_earlier := by
    intro now later t h hle
    have hgap : later - t ≤ fromSecs config.windowSecs := of_decide_eq_true h
    exact decide_eq_true ((Nat.sub_le_sub_right hle t).trans hgap)

theorem prune_horizon (window : List Nanos) :
    window.dropWhile (fun front ↦ now - front > fromSecs config.windowSecs) =
      (horizon config).prune now window := by
  have hexpired : (fun front ↦ decide (now - front > fromSecs config.windowSecs)) =
      fun front ↦ !(horizon config).live now front := by
    funext front
    simp only [horizon, gt_iff_lt, ← Nat.not_le, decide_not]
  rw [Horizon.prune, hexpired]

/-- The deque is the live part of the history, as of the latest call. -/
structure Tracks (config : RateLimitConfig) (limiter : RateLimiter) (ref : ReferenceLimiter)
    (last : Nanos) : Prop where
  configured : limiter.config = config
  sorted : ref.history.Pairwise (· ≤ ·)
  past : ∀ ts ∈ ref.history, ts ≤ last
  window : limiter.window = (horizon config).recent last ref.history
  triggers : limiter.triggerCount.toNat = ref.triggers

theorem tracks_new : Tracks config (new config) .new 0 :=
  ⟨rfl, .nil, fun _ h ↦ absurd h List.not_mem_nil, rfl, rfl⟩

theorem tracks_reset (h : Tracks config limiter ref last) : Tracks config limiter.reset .new 0 :=
  ⟨h.configured, .nil, fun _ h ↦ absurd h List.not_mem_nil, rfl, rfl⟩

theorem windowCount_eq (h : Tracks config limiter ref last) (hle : last ≤ now) :
    limiter.windowCount now = UInt32.ofNat (ref.count config now) := by
  have hcount : limiter.windowCount now =
      UInt32.ofNat ((horizon limiter.config).recent now limiter.window).length := rfl
  rw [hcount, h.configured, h.window, (horizon config).recent_recent hle]
  rfl

/-- Pruning at the next call leaves the live part of the longer history. -/
theorem window_recordInvocation (h : Tracks config limiter ref last) (hle : last ≤ now) :
    limiter.window.dropWhile (fun front ↦ now - front > fromSecs limiter.config.windowSecs) ++ [now] =
      (horizon config).recent now (ref.history ++ [now]) := by
  have hlive : (horizon config).recent now [now] = [now] := by
    simp [Horizon.recent, horizon]
  have hsorted : ((horizon config).recent last ref.history).Pairwise (· ≤ ·) :=
    (horizon config).pairwise_recent h.sorted
  rw [h.configured, prune_horizon, h.window, (horizon config).prune_eq_recent hsorted,
    (horizon config).recent_recent hle, Horizon.recent_append, hlive]

theorem history_record (toolName : String) :
    (ref.record config toolName now).2.history = ref.history ++ [now] := by
  simp only [ReferenceLimiter.record]
  split
  · split <;> rfl
  · rfl

theorem triggers_record (toolName : String) :
    (ref.record config toolName now).2.triggers = ref.triggers ∨
      (ref.record config toolName now).2.triggers = ref.triggers + 1 := by
  simp only [ReferenceLimiter.record]
  split
  · split <;> exact .inr rfl
  · exact .inl rfl

/-- One call, in terms of the reference's history; the trigger counter is
known modulo its width. -/
theorem recordInvocation_eq (h : Tracks config limiter ref last) (hle : last ≤ now)
    (toolName : String) {calls triggers : ℕ}
    (hcalls : ReferenceLimiter.count config ⟨ref.history ++ [now], ref.triggers⟩ now = calls)
    (hbound : calls < 2 ^ 32) (htriggers : (ref.triggers + 1) % 2 ^ 32 = triggers) :
    limiter.recordInvocation toolName now =
      if config.maxCalls.toNat < calls then
        (if config.maxTriggers.toNat ≤ triggers then
          .terminate (terminateReason triggers toolName calls config.windowSecs.toNat)
        else .pause (fromSecs config.cooldownSecs),
        ⟨(horizon config).recent now (ref.history ++ [now]), limiter.triggerCount + 1, config⟩)
      else (.allow,
        ⟨(horizon config).recent now (ref.history ++ [now]), limiter.triggerCount, config⟩) := by
  have hlength : ((horizon config).recent now (ref.history ++ [now])).length = calls := hcalls
  have htoNat : (UInt32.ofNat calls).toNat = calls := UInt32.toNat_ofNat_of_lt hbound
  have hnext : (limiter.triggerCount + 1).toNat = triggers := by
    rw [UInt32.toNat_add, h.triggers]
    exact htriggers
  simp only [recordInvocation]
  rw [window_recordInvocation h hle, hlength]
  simp only [h.configured, gt_iff_lt, ge_iff_le, UInt32.lt_iff_toNat_lt, UInt32.le_iff_toNat_le,
    htoNat, hnext]
  by_cases hexceeds : config.maxCalls.toNat < calls
  · simp only [if_pos hexceeds]
    split <;> rfl
  · simp only [if_neg hexceeds]

/-- One call, while the calls in the window and the triggers fit in 32 bits. -/
theorem record_step (h : Tracks config limiter ref last) (hle : last ≤ now) (toolName : String)
    (hcalls : (ref.record config toolName now).2.count config now < 2 ^ 32)
    (htriggers : (ref.record config toolName now).2.triggers < 2 ^ 32) :
    (limiter.recordInvocation toolName now).1 = (ref.record config toolName now).1 ∧
      Tracks config (limiter.recordInvocation toolName now).2
        (ref.record config toolName now).2 now := by
  have hsorted : (ref.history ++ [now]).Pairwise (· ≤ ·) := by
    refine List.pairwise_append.mpr ⟨h.sorted, List.pairwise_singleton _ _, fun ts hts t ht ↦ ?_⟩
    rw [List.mem_singleton.mp ht]
    exact (h.past ts hts).trans hle
  have hpast : ∀ ts ∈ ref.history ++ [now], ts ≤ now := by
    intro ts hts
    rcases List.mem_append.mp hts with hts | hts
    · exact (h.past ts hts).trans hle
    · exact (List.mem_singleton.mp hts).le
  obtain ⟨calls, hcount⟩ : ∃ calls,
      ReferenceLimiter.count config ⟨ref.history ++ [now], ref.triggers⟩ now = calls := ⟨_, rfl⟩
  have hbound : calls < 2 ^ 32 := by
    rw [ReferenceLimiter.count, history_record] at hcalls
    rwa [← hcount]
  rw [recordInvocation_eq h hle toolName hcount hbound rfl]
  simp only [ReferenceLimiter.record, hcount] at htriggers ⊢
  by_cases hexceeds : config.maxCalls.toNat < calls
  · have hfits : ref.triggers + 1 < 2 ^ 32 := by
      rw [if_pos hexceeds] at htriggers
      split at htriggers <;> exact htriggers
    have hnext : (limiter.triggerCount + 1).toNat = ref.triggers + 1 := by
      rw [UInt32.toNat_add, h.triggers]
      exact Nat.mod_eq_of_lt hfits
    simp only [if_pos hexceeds, Nat.mod_eq_of_lt hfits]
    by_cases hends : config.maxTriggers.toNat ≤ ref.triggers + 1
    · simp only [if_pos hends]
      exact ⟨trivial, rfl, hsorted, hpast, rfl, hnext⟩
    · simp only [if_neg hends]
      exact ⟨trivial, rfl, hsorted, hpast, rfl, hnext⟩
  · simp only [if_neg hexceeds]
    exact ⟨trivial, rfl, hsorted, hpast, rfl, h.triggers⟩

theorem append_ne_of_length {a x y b : String} (h : x.length ≠ y.length) :
    a ++ x ++ b ≠ a ++ y ++ b := by
  intro heq
  have hlength := congrArg String.length heq
  simp only [String.length_append] at hlength
  omega

theorem terminateReason_wrapped (toolName : String) (calls windowSecs : ℕ) :
    terminateReason 0 toolName calls windowSecs ≠
      terminateReason (2 ^ 32) toolName calls windowSecs :=
  append_ne_of_length (by decide)

/-- The trigger that wraps the counter around is answered wrongly. -/
theorem record_wrapped (h : Tracks config limiter ref last) (hle : last ≤ now) (toolName : String)
    (hcalls : (ref.record config toolName now).2.count config now < 2 ^ 32)
    (htriggers : ref.triggers + 1 = 2 ^ 32)
    (hexceeds : (ref.record config toolName now).2.triggers = ref.triggers + 1) :
    (limiter.recordInvocation toolName now).1 ≠ (ref.record config toolName now).1 := by
  obtain ⟨calls, hcount⟩ : ∃ calls,
      ReferenceLimiter.count config ⟨ref.history ++ [now], ref.triggers⟩ now = calls := ⟨_, rfl⟩
  have hbound : calls < 2 ^ 32 := by
    rw [ReferenceLimiter.count, history_record] at hcalls
    rwa [← hcount]
  have hwrap : (ref.triggers + 1) % 2 ^ 32 = 0 := htriggers ▸ Nat.mod_self _
  have hmax : config.maxTriggers.toNat ≤ 2 ^ 32 := config.maxTriggers.toNat_lt.le
  rw [recordInvocation_eq h hle toolName hcount hbound hwrap]
  simp only [ReferenceLimiter.record, hcount] at hexceeds ⊢
  split at hexceeds
  · rename_i hover
    simp only [if_pos hover, htriggers, if_pos hmax]
    split
    · intro heq
      exact terminateReason_wrapped toolName calls config.windowSecs.toNat
        (RateLimitDecision.terminate.inj heq)
    · exact fun heq ↦ RateLimitDecision.noConfusion heq
  · exact absurd hexceeds (Nat.ne_of_lt (Nat.lt_succ_self _))

end Step

section Prefixes

variable {config : RateLimitConfig} {ops : List Op} {op : Op}

theorem lastCall_invoke (ops : List Op) (toolName : String) (now : Nanos) :
    lastCall (ops ++ [.invoke toolName now]) = now := by
  simp [lastCall]

theorem lastCall_reset (ops : List Op) : lastCall (ops ++ [.reset]) = 0 := by simp [lastCall]

theorem WellTimed.of_concat (h : WellTimed (ops ++ [op])) : WellTimed ops :=
  fun earlier toolName now hp ↦ h earlier toolName now (hp.trans (List.prefix_append ops [op]))

theorem WellTimed.earlier {earlier : List Op} (h : WellTimed ops) (hp : earlier <+: ops) :
    WellTimed earlier := fun earlier' toolName now hp' ↦ h earlier' toolName now (hp'.trans hp)

theorem wellTimed_nil : WellTimed [] := by
  intro earlier toolName now hp
  have hlen := hp.length_le
  simp at hlen

theorem wellTimed_invoke {toolName : String} {now : Nanos} (h : WellTimed ops)
    (hle : lastCall ops ≤ now) : WellTimed (ops ++ [.invoke toolName now]) := by
  intro earlier toolName' now' hp
  rcases List.prefix_concat_iff.mp hp with heq | hp
  · obtain ⟨rfl, hop⟩ := List.append_inj' heq rfl
    obtain ⟨_, rfl⟩ := Op.invoke.inj (List.singleton_inj.mp hop)
    exact hle
  · exact h earlier toolName' now' hp

theorem InBounds.earlier {earlier : List Op} (h : InBounds config ops) (hp : earlier <+: ops) :
    InBounds config earlier :=
  ⟨fun e he ↦ h.calls e (he.trans hp), fun e he ↦ h.triggers e (he.trans hp)⟩

theorem Agrees.of_concat (h : Agrees config (ops ++ [op])) : Agrees config ops := by
  refine ⟨?_, fun e he ↦ h.counts e (he.trans (List.prefix_append ops [op]))⟩
  have hdecisions := h.decisions
  rw [outputs_concat, outputs_concat] at hdecisions
  exact (List.append_inj' hdecisions rfl).1

theorem Agrees.last (h : Agrees config (ops ++ [op])) :
    (step (after config ops) op).1 = (ReferenceLimiter.step config (referenceAfter config ops) op).1 := by
  have hdecisions := h.decisions
  rw [outputs_concat, outputs_concat] at hdecisions
  exact List.singleton_inj.mp (List.append_inj' hdecisions rfl).2

end Prefixes

variable {config : RateLimitConfig} {ops : List Op}

theorem tracks_after (ht : WellTimed ops) (hb : InBounds config ops) :
    outputs step (new config) ops = outputs (ReferenceLimiter.step config) .new ops ∧
      Tracks config (after config ops) (referenceAfter config ops) (lastCall ops) := by
  induction ops using List.reverseRecOn with
  | nil => exact ⟨rfl, tracks_new⟩
  | append_singleton ops op ih =>
    obtain ⟨hout, htracks⟩ := ih ht.of_concat (hb.earlier (List.prefix_append ops [op]))
    have hcalls := hb.calls _ List.prefix_rfl
    have htriggers := hb.triggers _ List.prefix_rfl
    simp only [after, referenceAfter, outputs_concat, run_concat, hout] at hcalls htriggers htracks ⊢
    cases op with
    | invoke toolName now =>
      rw [lastCall_invoke] at hcalls ⊢
      obtain ⟨hdecision, htracks⟩ := record_step htracks (ht ops toolName now List.prefix_rfl)
        toolName hcalls htriggers
      exact ⟨congrArg (fun d ↦ _ ++ [some d]) hdecision, htracks⟩
    | reset =>
      rw [lastCall_reset]
      exact ⟨rfl, tracks_reset htracks⟩

theorem agrees_of_inBounds (ht : WellTimed ops) (hb : InBounds config ops) : Agrees config ops := by
  refine ⟨(tracks_after ht hb).1, fun earlier hp now hle ↦ ?_⟩
  have htracks := (tracks_after (ht.earlier hp) (hb.earlier hp)).2
  have hfits : (referenceAfter config earlier).count config now < 2 ^ 32 :=
    ((horizon config).length_recent_le hle).trans_lt (hb.calls earlier hp)
  rw [windowCount_eq htracks hle]
  exact UInt32.toNat_ofNat_of_lt hfits

/-- A 32-bit count that agrees is small, and so is a counter that has not
wrapped around at any call. -/
theorem inBounds_of_agrees (ht : WellTimed ops) (ha : Agrees config ops) : InBounds config ops := by
  induction ops using List.reverseRecOn with
  | nil =>
    refine ⟨fun earlier hp ↦ ?_, fun earlier hp ↦ ?_⟩
    · rw [List.prefix_nil.mp hp]
      exact Nat.two_pow_pos 32
    · rw [List.prefix_nil.mp hp]
      exact Nat.two_pow_pos 32
  | append_singleton ops op ih =>
    have hb := ih ht.of_concat ha.of_concat
    have hcalls : ∀ earlier, earlier <+: ops ++ [op] →
        (referenceAfter config earlier).count config (lastCall earlier) < 2 ^ 32 := by
      intro earlier hp
      rw [← ha.counts earlier hp (lastCall earlier) le_rfl]
      exact UInt32.toNat_lt _
    refine ⟨hcalls, fun earlier hp ↦ ?_⟩
    rcases List.prefix_concat_iff.mp hp with rfl | hp
    · have htracks := (tracks_after ht.of_concat hb).2
      have hbefore := hb.triggers ops List.prefix_rfl
      have hlast := ha.last
      have hfits := hcalls _ List.prefix_rfl
      simp only [referenceAfter, run_concat] at hfits ⊢
      cases op with
      | invoke toolName now =>
        rw [lastCall_invoke] at hfits
        have hdecision := Option.some_inj.mp hlast
        refine Nat.lt_of_not_le fun hwraps ↦ ?_
        change 2 ^ 32 ≤ ((referenceAfter config ops).record config toolName now).2.triggers at hwraps
        have hrecord : ((referenceAfter config ops).record config toolName now).2.triggers = _ ∨ _ :=
          triggers_record toolName
        obtain hsame | hnext := hrecord
        · omega
        · exact record_wrapped htracks (ht ops toolName now List.prefix_rfl) toolName hfits
            (by omega) hnext hdecision
      | reset => exact Nat.two_pow_pos 32
    · exact hb.triggers earlier hp

/-- The limiter is the reference limiter exactly on the runs on which no window
holds 2^32 calls and no 2^32 triggers fall between two resets. -/
theorem agrees_iff_inBounds (config : RateLimitConfig) (ops : List Op) (ht : WellTimed ops) :
    Agrees config ops ↔ InBounds config ops :=
  ⟨inBounds_of_agrees ht, agrees_of_inBounds ht⟩

theorem agrees_iff_inBounds_two_calls :
    Agrees .default [.invoke "search" 0, .invoke "search" 1] ↔
      InBounds .default [.invoke "search" 0, .invoke "search" 1] :=
  agrees_iff_inBounds .default
    (([] ++ ([.invoke "search" 0] : List Op)) ++ ([.invoke "search" 1] : List Op))
    (wellTimed_invoke (wellTimed_invoke wellTimed_nil le_rfl) (Nat.zero_le 1))

/-- Calls that all come at once. -/
def burst (n : ℕ) : List Op := List.replicate n (.invoke "search" 0)

theorem wellTimed_burst (n : ℕ) : WellTimed (burst n) ∧ lastCall (burst n) = 0 := by
  induction n with
  | zero => exact ⟨wellTimed_nil, rfl⟩
  | succ n ih =>
    obtain ⟨ht, hlast⟩ := ih
    rw [burst, List.replicate_succ', lastCall_invoke]
    exact ⟨wellTimed_invoke ht hlast.le, rfl⟩

theorem history_burst (config : RateLimitConfig) (n : ℕ) :
    (referenceAfter config (burst n)).history = List.replicate n 0 := by
  induction n with
  | zero => rfl
  | succ n ih =>
    rw [burst, List.replicate_succ', referenceAfter, run_concat, List.replicate_succ']
    change ((referenceAfter config (burst n)).record config "search" 0).2.history = _
    rw [history_record, ih]

theorem count_burst (config : RateLimitConfig) (n : ℕ) :
    (referenceAfter config (burst n)).count config 0 = n := by
  rw [ReferenceLimiter.count, history_burst, List.filter_eq_self.mpr, List.length_replicate]
  intro ts hts
  rw [List.eq_of_mem_replicate hts]
  exact decide_eq_true (Nat.zero_le _)

/-- After 2^32 calls at once no 32-bit count can be right. -/
theorem not_agrees : ¬ ∀ config ops, WellTimed ops → Agrees config ops := by
  intro h
  obtain ⟨ht, hlast⟩ := wellTimed_burst (2 ^ 32)
  have hcount := (h .default (burst (2 ^ 32)) ht).counts _ List.prefix_rfl 0 hlast.le
  rw [count_burst] at hcount
  exact Nat.ne_of_lt (UInt32.toNat_lt _) hcount

end AdkGateway.RateLimiter
