import AdkGateway.Foundation.Json
import AdkGateway.Foundation.Separator
import AdkGateway.RateLimiter.Soundness

namespace AdkGateway.RateLimiter

open Foundation Machine

variable {ρ : Type}

structure ToolCall (ρ : Type) where
  request : ρ
  toolName : String
  now : Nanos

structure AfterTool where
  decision : RateLimitDecision
  sleep : Nanos
  result : Option Json

def afterTool (decision : RateLimitDecision) : AfterTool :=
  match decision with
  | .pause duration => ⟨decision, duration, none⟩
  | .terminate reason => ⟨decision, 0,
      some (.object [("error", .string "RATE_LIMIT_TERMINATED"), ("message", .string reason)])⟩
  | .allow => ⟨decision, 0, none⟩

/-- The callback has the lock of the one limiter while it reads the clock and records the call. -/
def afterToolCallback (limiter : RateLimiter) (call : ToolCall ρ) : AfterTool × RateLimiter :=
  (limiter.recordInvocation call.toolName call.now).map afterTool id

def gatewayLimiter (config : RateLimitConfig) : RateLimiter := (new config).reset

/-- The calls in the order in which they take the lock; the clock does not go back. -/
structure Traffic (ρ : Type) where
  calls : List (ToolCall ρ)
  ordered : (calls.map ToolCall.now).Pairwise (· ≤ ·)

section Decisions

variable (config : RateLimitConfig)

def callbackDecision (earlier : List (ToolCall ρ)) (call : ToolCall ρ) : RateLimitDecision :=
  (afterToolCallback (run afterToolCallback (gatewayLimiter config) earlier) call).1.decision

def freshDecision (earlier : List (ToolCall ρ)) (call : ToolCall ρ) : RateLimitDecision :=
  ((earlier.foldl (fun limiter c ↦ (limiter.recordInvocation c.toolName c.now).2)
    (new config)).recordInvocation call.toolName call.now).1

variable [DecidableEq ρ]

def sameRequest (call : ToolCall ρ) (calls : List (ToolCall ρ)) : List (ToolCall ρ) :=
  calls.filter fun c ↦ c.request = call.request

/-- Every decision is that of a limiter which only sees the calls of the same request. -/
def PerRequest (traffic : Traffic ρ) : Prop :=
  ∀ earlier call, earlier ++ [call] <+: traffic.calls →
    callbackDecision config earlier call = freshDecision config (sameRequest call earlier) call

end Decisions

section Counting

variable (config : RateLimitConfig)

def callsInWindow (calls : List (ToolCall ρ)) (now : Nanos) : UInt32 :=
  UInt32.ofNat ((calls.map ToolCall.now).filter fun ts ↦
    now - ts ≤ fromSecs config.windowSecs).length

def exceeds (earlier : List (ToolCall ρ)) (call : ToolCall ρ) : Bool :=
  config.maxCalls < callsInWindow config (earlier ++ [call]) call.now

def exceedings : List (ToolCall ρ) → List (ToolCall ρ) → ℕ
  | _, [] => 0
  | earlier, call :: calls =>
    (if exceeds config earlier call then 1 else 0) + exceedings (earlier ++ [call]) calls

def triggerNumber (earlier : List (ToolCall ρ)) : UInt32 :=
  UInt32.ofNat (exceedings config [] earlier + 1)

variable [DecidableEq ρ]

/-- The calls of the other requests make no difference: with and without them the call does not
exceed, or it exceeds and the triggers are below the limit, or it exceeds and all numbers are
the same. -/
def Unaffected (earlier : List (ToolCall ρ)) (call : ToolCall ρ) : Prop :=
  let own := sameRequest call earlier
  match exceeds config earlier call, exceeds config own call with
  | false, false => True
  | true, true =>
    triggerNumber config earlier < config.maxTriggers ∧
        triggerNumber config own < config.maxTriggers ∨
      triggerNumber config earlier = triggerNumber config own ∧
        callsInWindow config (earlier ++ [call]) call.now =
          callsInWindow config (own ++ [call]) call.now
  | _, _ => False

end Counting

section Verdict

variable (config : RateLimitConfig)

def verdict (toolName : String) (count triggers : UInt32) : RateLimitDecision :=
  if config.maxCalls < count then
    if config.maxTriggers ≤ triggers then
      .terminate (terminateReason triggers.toNat toolName count.toNat config.windowSecs.toNat)
    else .pause (fromSecs config.cooldownSecs)
  else .allow

theorem space_notMem_toString (n : ℕ) : ' ' ∉ (toString n).toList := by
  intro h
  have hdigit : Char.isDigit ' ' = true :=
    Nat.isDigit_of_mem_toDigits (b := 10) (n := n) (by decide) (by decide) (by simpa using h)
  cases hdigit

theorem eq_of_toList_toString {m n : ℕ} (h : (toString m).toList = (toString n).toList) : m = n := by
  have hdigits : Nat.toDigits 10 m = Nat.toDigits 10 n := by simpa using h
  rw [← Nat.ofDigitChars_ten_toDigits (n := m), hdigits, Nat.ofDigitChars_ten_toDigits]

/-- A number in a text ends where a space follows. -/
theorem toString_space_inj {m n : ℕ} {s s' : List Char}
    (h : (toString m).toList ++ ' ' :: s = (toString n).toList ++ ' ' :: s') : m = n ∧ s = s' := by
  obtain ⟨hnumber, hrest⟩ := (Separator.join_inj (space_notMem_toString m)
    (space_notMem_toString n)).mp h
  exact ⟨eq_of_toList_toString hnumber, hrest⟩

theorem terminateReason_inj {toolName : String} {windowSecs triggers triggers' count count' : ℕ}
    (h : terminateReason triggers toolName count windowSecs =
      terminateReason triggers' toolName count' windowSecs) :
    triggers = triggers' ∧ count = count' := by
  have htimes : (" times in this request (tool: '" : String).toList =
      ' ' :: ("times in this request (tool: '" : String).toList := by simp
  have hcalls : (" calls in " : String).toList = ' ' :: ("calls in " : String).toList := by simp
  have hlist := congrArg String.toList h
  unfold terminateReason at hlist
  simp only [String.toList_append, List.append_assoc, htimes, hcalls, List.cons_append,
    List.append_right_inj] at hlist
  obtain ⟨htriggers, hrest⟩ := toString_space_inj hlist
  simp only [List.append_right_inj] at hrest
  exact ⟨htriggers, (toString_space_inj hrest).1⟩

variable {config : RateLimitConfig} {toolName : String} {count count' triggers triggers' : UInt32}

theorem verdict_eq_iff :
    verdict config toolName count triggers = verdict config toolName count' triggers' ↔
      ¬ config.maxCalls < count ∧ ¬ config.maxCalls < count' ∨
      (config.maxCalls < count ∧ config.maxCalls < count') ∧
        (triggers < config.maxTriggers ∧ triggers' < config.maxTriggers ∨
          triggers = triggers' ∧ count = count') := by
  unfold verdict
  by_cases hcount : config.maxCalls < count
  · by_cases hcount' : config.maxCalls < count'
    · simp only [hcount, hcount', if_true, not_true_eq_false, and_self, false_or, true_and]
      by_cases hends : config.maxTriggers ≤ triggers
      · by_cases hends' : config.maxTriggers ≤ triggers'
        · rw [if_pos hends, if_pos hends', RateLimitDecision.terminate.injEq]
          have hnot : ¬ triggers < config.maxTriggers := UInt32.not_lt.mpr hends
          simp only [hnot, false_and, false_or]
          constructor
          · intro h
            obtain ⟨htriggers, hcounts⟩ := terminateReason_inj h
            exact ⟨UInt32.toNat_inj.mp htriggers, UInt32.toNat_inj.mp hcounts⟩
          · rintro ⟨rfl, rfl⟩
            rfl
        · rw [if_pos hends, if_neg hends']
          refine iff_of_false (fun h ↦ by cases h) ?_
          rintro (⟨hlt, -⟩ | ⟨rfl, -⟩)
          · exact UInt32.not_lt.mpr hends hlt
          · exact hends' hends
      · by_cases hends' : config.maxTriggers ≤ triggers'
        · rw [if_neg hends, if_pos hends']
          refine iff_of_false (fun h ↦ by cases h) ?_
          rintro (⟨-, hlt⟩ | ⟨rfl, -⟩)
          · exact UInt32.not_lt.mpr hends' hlt
          · exact hends hends'
        · rw [if_neg hends, if_neg hends']
          exact iff_of_true rfl (.inl ⟨UInt32.not_le.mp hends, UInt32.not_le.mp hends'⟩)
    · simp only [hcount, hcount', if_true, if_false, not_true_eq_false, false_and, and_false,
        or_self, iff_false]
      split <;> exact fun h ↦ by cases h
  · by_cases hcount' : config.maxCalls < count'
    · simp only [hcount, hcount', if_true, if_false, not_true_eq_false, false_and, and_false,
        or_self, iff_false]
      split <;> exact fun h ↦ by cases h
    · simp only [hcount, hcount', if_false, not_false_eq_true, and_self, true_or]

end Verdict

section Following

variable {config : RateLimitConfig} {limiter : RateLimiter} {earlier calls : List (ToolCall ρ)}
  {call : ToolCall ρ}

structure Follows (config : RateLimitConfig) (limiter : RateLimiter)
    (calls : List (ToolCall ρ)) : Prop where
  configured : limiter.config = config
  window : ∀ now, (∀ ts ∈ calls.map ToolCall.now, ts ≤ now) →
    (horizon config).prune now limiter.window =
      (horizon config).recent now (calls.map ToolCall.now)
  triggers : limiter.triggerCount = UInt32.ofNat (exceedings config [] calls)

theorem exceedings_concat (config : RateLimitConfig) (earlier calls : List (ToolCall ρ))
    (call : ToolCall ρ) : exceedings config earlier (calls ++ [call]) =
      exceedings config earlier calls + if exceeds config (earlier ++ calls) call then 1 else 0 := by
  induction calls generalizing earlier with
  | nil => simp [exceedings]
  | cons c calls ih =>
    rw [List.cons_append, exceedings, exceedings, ih, List.append_assoc, List.singleton_append,
      Nat.add_assoc]

theorem follows_new (config : RateLimitConfig) :
    Follows config (new config) ([] : List (ToolCall ρ)) :=
  ⟨rfl, fun _ _ ↦ rfl, rfl⟩

theorem recordInvocation_of_follows (h : Follows config limiter calls)
    (hlast : ∀ ts ∈ calls.map ToolCall.now, ts ≤ call.now) :
    limiter.recordInvocation call.toolName call.now =
      (verdict config call.toolName (callsInWindow config (calls ++ [call]) call.now)
          (triggerNumber config calls),
        ⟨(horizon config).recent call.now ((calls ++ [call]).map ToolCall.now),
          UInt32.ofNat (exceedings config [] (calls ++ [call])), config⟩) := by
  have hwindow : limiter.window.dropWhile
      (fun front ↦ call.now - front > fromSecs limiter.config.windowSecs) ++ [call.now] =
        (horizon config).recent call.now ((calls ++ [call]).map ToolCall.now) := by
    have hlive : (horizon config).recent call.now [call.now] = [call.now] := by
      simp [Horizon.recent, horizon]
    rw [h.configured, prune_horizon, h.window call.now hlast, List.map_append, List.map_singleton,
      Horizon.recent_append, hlive]
  have hcount : UInt32.ofNat
      ((horizon config).recent call.now ((calls ++ [call]).map ToolCall.now)).length =
        callsInWindow config (calls ++ [call]) call.now := rfl
  have hnext : limiter.triggerCount + 1 = triggerNumber config calls := by
    rw [h.triggers, triggerNumber, UInt32.ofNat_add]
    rfl
  have hexceedings : exceedings config [] (calls ++ [call]) = exceedings config [] calls +
      if config.maxCalls < callsInWindow config (calls ++ [call]) call.now then 1 else 0 := by
    rw [exceedings_concat, List.nil_append, exceeds]
    simp only [decide_eq_true_eq]
  simp only [recordInvocation]
  rw [hwindow, hcount, hexceedings]
  simp only [verdict, gt_iff_lt, ge_iff_le, h.configured, hnext]
  by_cases hexceeds : config.maxCalls < callsInWindow config (calls ++ [call]) call.now
  · simp only [if_pos hexceeds]
    by_cases hends : config.maxTriggers ≤ triggerNumber config calls
    · rw [if_pos hends, if_pos hends]
      rfl
    · rw [if_neg hends, if_neg hends]
      rfl
  · simp only [if_neg hexceeds, Nat.add_zero, h.triggers]

theorem follows_recordInvocation (h : Follows config limiter calls)
    (hordered : ((calls ++ [call]).map ToolCall.now).Pairwise (· ≤ ·)) :
    Follows config (limiter.recordInvocation call.toolName call.now).2 (calls ++ [call]) := by
  have hlast : ∀ ts ∈ calls.map ToolCall.now, ts ≤ call.now := by
    rw [List.map_append] at hordered
    exact fun ts hts ↦ (List.pairwise_append.mp hordered).2.2 ts hts _ List.mem_cons_self
  rw [recordInvocation_of_follows h hlast]
  refine ⟨rfl, fun now hnow ↦ ?_, rfl⟩
  have hle : call.now ≤ now :=
    hnow _ (List.mem_map_of_mem (List.mem_append_right _ List.mem_cons_self))
  rw [(horizon config).prune_eq_recent ((horizon config).pairwise_recent hordered),
    (horizon config).recent_recent hle]

theorem follows_foldl (config : RateLimitConfig) {calls : List (ToolCall ρ)}
    (hordered : (calls.map ToolCall.now).Pairwise (· ≤ ·)) :
    Follows config (calls.foldl (fun limiter c ↦ (limiter.recordInvocation c.toolName c.now).2)
      (new config)) calls := by
  induction calls using List.reverseRecOn with
  | nil => exact follows_new config
  | append_singleton calls call ih =>
    rw [List.foldl_append]
    refine follows_recordInvocation (ih ?_) hordered
    rw [List.map_append] at hordered
    exact (List.pairwise_append.mp hordered).1

theorem run_afterToolCallback (config : RateLimitConfig) (calls : List (ToolCall ρ)) :
    run afterToolCallback (gatewayLimiter config) calls =
      calls.foldl (fun limiter c ↦ (limiter.recordInvocation c.toolName c.now).2) (new config) := by
  induction calls using List.reverseRecOn with
  | nil => rfl
  | append_singleton calls call ih =>
    rw [run_concat, ih, List.foldl_append]
    rfl

theorem decision_afterTool (decision : RateLimitDecision) :
    (afterTool decision).decision = decision := by
  cases decision <;> rfl

theorem callbackDecision_eq (config : RateLimitConfig) (earlier : List (ToolCall ρ))
    (call : ToolCall ρ) : callbackDecision config earlier call = freshDecision config earlier call := by
  rw [callbackDecision, run_afterToolCallback]
  exact decision_afterTool _

theorem freshDecision_eq (config : RateLimitConfig)
    (hordered : ((earlier ++ [call]).map ToolCall.now).Pairwise (· ≤ ·)) :
    freshDecision config earlier call =
      verdict config call.toolName (callsInWindow config (earlier ++ [call]) call.now)
        (triggerNumber config earlier) := by
  rw [List.map_append] at hordered
  obtain ⟨hearlier, -, hlast⟩ := List.pairwise_append.mp hordered
  rw [freshDecision, recordInvocation_of_follows (follows_foldl config hearlier)
    fun ts hts ↦ hlast ts hts _ List.mem_cons_self]

end Following

section PerRequest

variable [DecidableEq ρ]

/-- Where the calls of the other requests make no difference at any call, and nowhere else, every
decision is that of a limiter which only sees the calls of the same request. -/
theorem perRequest_iff (config : RateLimitConfig) (traffic : Traffic ρ) :
    PerRequest config traffic ↔
      ∀ earlier call, earlier ++ [call] <+: traffic.calls → Unaffected config earlier call := by
  refine forall_congr' fun earlier ↦ forall_congr' fun call ↦ imp_congr_right fun hearlier ↦ ?_
  have hordered : ((earlier ++ [call]).map ToolCall.now).Pairwise (· ≤ ·) :=
    traffic.ordered.sublist (hearlier.sublist.map _)
  have hown : ((sameRequest call earlier ++ [call]).map ToolCall.now).Pairwise (· ≤ ·) :=
    hordered.sublist ((List.filter_sublist.append (.refl _)).map _)
  rw [callbackDecision_eq, freshDecision_eq config hordered, freshDecision_eq config hown,
    verdict_eq_iff]
  simp only [Unaffected, exceeds]
  by_cases hexceeds : config.maxCalls < callsInWindow config (earlier ++ [call]) call.now <;>
    by_cases hexceeds' : config.maxCalls <
        callsInWindow config (sameRequest call earlier ++ [call]) call.now <;>
      simp [hexceeds, hexceeds']

/-- A request that has called no tool yet is paused, for another has just called one. -/
theorem not_perRequest :
    ¬ ∀ (config : RateLimitConfig) (traffic : Traffic ℕ), PerRequest config traffic := by
  intro h
  have hsame := h ⟨1, 30, 5, 10⟩ ⟨[⟨1, "search", 0⟩, ⟨2, "search", 1⟩], by decide⟩
    [⟨1, "search", 0⟩] ⟨2, "search", 1⟩ List.prefix_rfl
  exact absurd hsame (by decide)

end PerRequest

end AdkGateway.RateLimiter
