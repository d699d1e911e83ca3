import AdkGateway.Foundation.KeyedMap
import Mathlib.Algebra.BigOperators.Group.List.Basic
import Mathlib.Algebra.Order.BigOperators.Group.List
import Mathlib.Algebra.Order.Ring.Nat
import Mathlib.Data.List.Induction
import Mathlib.Data.UInt

namespace AdkGateway.Metrics

open Foundation

inductive MessageStatus
  | success
  | failure
  deriving DecidableEq

structure MessageLabels where
  channel : String
  status : MessageStatus
  deriving DecidableEq

inductive TokenDirection
  | input
  | output
  deriving DecidableEq

structure TokenLabels where
  model : String
  direction : TokenDirection
  deriving DecidableEq

/-- The time is a reading of the monotonic clock in nanoseconds. -/
structure WindowEntry where
  timestamp : ℤ
  isError : Bool

structure SlidingWindow where
  windowDuration : ℤ
  entries : List WindowEntry

namespace SlidingWindow

def new (windowDuration : ℤ) : SlidingWindow := ⟨windowDuration, []⟩

def record (window : SlidingWindow) (isError : Bool) (now : ℤ) : SlidingWindow :=
  { window with entries := window.entries ++ [⟨now, isError⟩] }

def errorRate (window : SlidingWindow) (now : ℤ) : (ℕ × ℕ) × SlidingWindow :=
  let cutoff := now - window.windowDuration
  let entries := window.entries.filter fun entry ↦ cutoff ≤ entry.timestamp
  ((entries.length, entries.countP WindowEntry.isError), { window with entries := entries })

def errorRateFraction (window : SlidingWindow) (now : ℤ) : Float × SlidingWindow :=
  let ((total, errors), window) := window.errorRate now
  (if total = 0 then 0.0 else (UInt64.ofNat errors).toFloat / (UInt64.ofNat total).toFloat, window)

end SlidingWindow

structure Histogram where
  buckets : List Float
  counts : List UInt64
  sum : UInt64
  count : UInt64
  length_counts : counts.length = buckets.length + 1

namespace Histogram

def new (buckets : List Float) : Histogram :=
  ⟨buckets, .replicate (buckets.length + 1) 0, 0, 0, List.length_replicate⟩

def bucketOf (hist : Histogram) (value : Float) : ℕ :=
  match hist.buckets.findIdx? fun bucket ↦ value ≤ bucket with
  | some i => i
  | none => hist.counts.length - 1

/-- The counters wrap around. -/
def observe (hist : Histogram) (value : Float) : Histogram where
  buckets := hist.buckets
  counts := hist.counts.modify (hist.bucketOf value) (· + 1)
  sum := hist.sum + (value * 1000000.0).toUInt64
  count := hist.count + 1
  length_counts := by rw [List.length_modify, hist.length_counts]

theorem bucketOf_lt (hist : Histogram) (value : Float) :
    hist.bucketOf value < hist.counts.length := by
  have hlength := hist.length_counts
  unfold bucketOf
  split
  · next i hi =>
    have hlt := (List.findIdx?_eq_some_iff_findIdx_eq.mp hi).1
    omega
  · omega

def cumulative (hist : Histogram) (i : ℕ) : ℕ := ((hist.counts.take (i + 1)).map UInt64.toNat).sum

end Histogram

structure Latency where
  secs : UInt64
  nanos : UInt32

def Latency.asSecsF64 (latency : Latency) : Float :=
  latency.secs.toFloat + latency.nanos.toFloat / 1000000000.0

def latencyBuckets : List Float := [0.01, 0.05, 0.1, 0.25, 0.5, 1.0, 2.5, 5.0, 10.0]

theorem latencyBuckets_sorted : latencyBuckets.Pairwise (· < ·) := by decide +kernel

/-- The arguments of a call, and the clock when the message is put into the window, when the window
is looked at, and when it is looked at again for the warning. -/
structure Message where
  channel : String
  status : MessageStatus
  latency : Latency
  inputTokens : Option UInt64
  outputTokens : Option UInt64
  model : Option String
  recorded : ℤ
  checked : ℤ
  warned : ℤ

structure GatewayMetrics where
  messagesTotal : KeyedMap MessageLabels UInt64
  messageLatency : KeyedMap String Histogram
  tokensTotal : KeyedMap TokenLabels UInt64
  errorsTotal : KeyedMap String UInt64
  errorWindows : KeyedMap String SlidingWindow

/-- `*map.entry(key).or_insert(0) += n`, which wraps around (a build with overflow checks panics
there). -/
def addTo {κ : Type} [DecidableEq κ] (key : κ) (n : UInt64) (map : KeyedMap κ UInt64) :
    KeyedMap κ UInt64 := map.insert key ((map.lookup key).getD 0 + n)

namespace GatewayMetrics

def new : GatewayMetrics := ⟨∅, ∅, ∅, ∅, ∅⟩

def addTokens (message : Message) (tokens : KeyedMap TokenLabels UInt64) :
    KeyedMap TokenLabels UInt64 :=
  match message.model with
  | none => tokens
  | some model =>
    let tokens := match message.inputTokens with
      | some n => addTo ⟨model, .input⟩ n tokens
      | none => tokens
    match message.outputTokens with
    | some n => addTo ⟨model, .output⟩ n tokens
    | none => tokens

/-- The window is left with fewer entries; a rate above a half is only logged. -/
def checkErrorRate (message : Message) (windows : KeyedMap String SlidingWindow) :
    KeyedMap String SlidingWindow :=
  match windows.lookup message.channel with
  | none => windows
  | some window =>
    let (rate, window) := window.errorRateFraction message.checked
    let window := if 0.5 < rate then (window.errorRate message.warned).2 else window
    windows.insert message.channel window

def recordWindow (message : Message) (windows : KeyedMap String SlidingWindow) :
    KeyedMap String SlidingWindow :=
  let window := (windows.lookup message.channel).getD (.new 300000000000)
  windows.insert message.channel (window.record (message.status = .failure) message.recorded)

def recordMessage (metrics : GatewayMetrics) (message : Message) : GatewayMetrics where
  messagesTotal := addTo ⟨message.channel, message.status⟩ 1 metrics.messagesTotal
  messageLatency :=
    let hist := (metrics.messageLatency.lookup message.channel).getD (.new latencyBuckets)
    metrics.messageLatency.insert message.channel (hist.observe message.latency.asSecsF64)
  tokensTotal := addTokens message metrics.tokensTotal
  errorsTotal :=
    if message.status = .failure then addTo message.channel 1 metrics.errorsTotal
    else metrics.errorsTotal
  errorWindows := checkErrorRate message (recordWindow message metrics.errorWindows)

def getMessagesTotal (metrics : GatewayMetrics) (channel : String) (status : MessageStatus) :
    UInt64 := (metrics.messagesTotal.lookup ⟨channel, status⟩).getD 0

end GatewayMetrics

namespace GatewayMetrics

def runMessages (messages : List Message) : GatewayMetrics := messages.foldl recordMessage .new

def errorsOf (metrics : GatewayMetrics) (channel : String) : UInt64 :=
  (metrics.errorsTotal.lookup channel).getD 0

def histogramOf (metrics : GatewayMetrics) (channel : String) : Histogram :=
  (metrics.messageLatency.lookup channel).getD (.new latencyBuckets)

end GatewayMetrics

open GatewayMetrics

def recordedOn (channel : String) (messages : List Message) : ℕ :=
  messages.countP fun message ↦ message.channel = channel

def failedOn (channel : String) (messages : List Message) : ℕ :=
  messages.countP fun message ↦ message.channel = channel ∧ message.status = .failure

/-- The counters of a channel are equal as 64-bit counters, which wrap around, and tell the exact
numbers until they do. -/
structure MetricsAgree (messages : List Message) (channel : String) : Prop where
  errors : (runMessages messages).errorsOf channel =
    (runMessages messages).getMessagesTotal channel .failure
  failed : (runMessages messages).errorsOf channel = UInt64.ofNat (failedOn channel messages)
  total : ((runMessages messages).histogramOf channel).counts.sum =
    ((runMessages messages).histogramOf channel).count
  count : ((runMessages messages).histogramOf channel).count =
    UInt64.ofNat (recordedOn channel messages)
  exact : recordedOn channel messages < 2 ^ 64 →
    (((runMessages messages).histogramOf channel).counts.map UInt64.toNat).sum =
        recordedOn channel messages ∧
      ((runMessages messages).histogramOf channel).count.toNat = recordedOn channel messages
  bounds : ((runMessages messages).histogramOf channel).buckets.Pairwise (· < ·)
  nondecreasing : ∀ i j, i ≤ j → ((runMessages messages).histogramOf channel).cumulative i ≤
    ((runMessages messages).histogramOf channel).cumulative j

section Lists

variable {α M : Type} [AddCommMonoid M]

theorem sum_map_modify {l : List α} {i : ℕ} {f : α → α} {g : α → M} {d : M} (hi : i < l.length)
    (h : g (f l[i]) = g l[i] + d) : ((l.modify i f).map g).sum = (l.map g).sum + d := by
  induction l generalizing i with
  | nil => cases hi
  | cons a l ih =>
    cases i with
    | zero =>
      have hhead : g (f a) = g a + d := h
      rw [List.modify_zero_cons, List.map_cons, List.sum_cons, hhead, List.map_cons, List.sum_cons]
      exact add_right_comm _ _ _
    | succ i =>
      have hrest := ih (Nat.lt_of_succ_lt_succ hi) h
      rw [List.modify_succ_cons, List.map_cons, List.sum_cons, hrest, List.map_cons, List.sum_cons]
      exact (add_assoc _ _ _).symm

end Lists

open scoped UInt64.CommRing

namespace Histogram

structure Counts (n : ℕ) (hist : Histogram) : Prop where
  count : hist.count = UInt64.ofNat n
  total : hist.counts.sum = hist.count
  exact : n < 2 ^ 64 → (hist.counts.map UInt64.toNat).sum = n

theorem counts_new (buckets : List Float) : Counts 0 (.new buckets) := by
  refine ⟨rfl, ?_, ?_⟩
  · simp [new]
  · simp [new]

theorem Counts.observe {n : ℕ} {hist : Histogram} (h : Counts n hist) (value : Float) :
    Counts (n + 1) (hist.observe value) := by
  obtain ⟨hcount, htotal, hexact⟩ := h
  have hlt := hist.bucketOf_lt value
  refine ⟨?_, ?_, ?_⟩
  · rw [UInt64.ofNat_add, ← hcount]
    rfl
  · have hsum := @sum_map_modify UInt64 UInt64 _ hist.counts _ (· + 1) id 1 hlt rfl
    rw [List.map_id, List.map_id] at hsum
    exact hsum.trans (congrArg (· + 1) htotal)
  · intro hn
    have hbefore := hexact (by omega)
    -- no count is above the number of values, and so the one that grows does not wrap around
    have hle : hist.counts[hist.bucketOf value].toNat ≤ (hist.counts.map UInt64.toNat).sum :=
      List.single_le_sum (fun _ _ ↦ Nat.zero_le _) _
        (List.mem_map_of_mem (List.getElem_mem hlt))
    have hgrows : (hist.counts[hist.bucketOf value] + 1).toNat =
        hist.counts[hist.bucketOf value].toNat + 1 := by
      rw [UInt64.toNat_add, UInt64.toNat_one, Nat.mod_eq_of_lt (by omega)]
    rw [Histogram.observe, sum_map_modify hlt hgrows, hbefore]

theorem cumulative_mono (hist : Histogram) : Monotone hist.cumulative := by
  intro i j hij
  have htake := (hist.counts.map UInt64.toNat).monotone_sum_take (Nat.succ_le_succ hij)
  simpa only [cumulative, List.map_take] using htake

end Histogram

section Runs

variable {channel : String} {status : MessageStatus}

theorem getD_lookup_addTo {κ : Type} [DecidableEq κ] (key key' : κ) (map : KeyedMap κ UInt64) :
    ((addTo key 1 map).lookup key').getD 0 =
      (map.lookup key').getD 0 + if key = key' then 1 else 0 := by
  rw [addTo, KeyedMap.lookup_insert_if]
  by_cases h : key = key'
  · subst h
    rw [if_pos rfl, if_pos rfl, Option.getD_some]
  · rw [if_neg (Ne.symm h), if_neg h, add_zero]

structure Tracks (messages : List Message) (channel : String) (metrics : GatewayMetrics) : Prop where
  errors : metrics.errorsOf channel = UInt64.ofNat (failedOn channel messages)
  failures : metrics.getMessagesTotal channel .failure = UInt64.ofNat (failedOn channel messages)
  histogram : (metrics.histogramOf channel).Counts (recordedOn channel messages)
  buckets : (metrics.histogramOf channel).buckets = latencyBuckets

theorem tracks_new (channel : String) : Tracks [] channel .new := ⟨rfl, rfl, Histogram.counts_new _, rfl⟩

theorem recordedOn_concat (messages : List Message) (message : Message) :
    recordedOn channel (messages ++ [message]) =
      recordedOn channel messages + if message.channel = channel then 1 else 0 := by
  simp [recordedOn, List.countP_append, List.countP_singleton]

theorem failedOn_concat (messages : List Message) (message : Message) :
    failedOn channel (messages ++ [message]) = failedOn channel messages +
      if message.channel = channel ∧ message.status = .failure then 1 else 0 := by
  simp [failedOn, List.countP_append, List.countP_singleton]

theorem Tracks.recordMessage {messages : List Message} {metrics : GatewayMetrics}
    (h : Tracks messages channel metrics) (message : Message) :
    Tracks (messages ++ [message]) channel (metrics.recordMessage message) := by
  obtain ⟨herrors, hfailures, hhistogram, hbuckets⟩ := h
  refine ⟨?_, ?_, ?_, ?_⟩
  · rw [failedOn_concat, UInt64.ofNat_add, ← herrors]
    simp only [errorsOf, GatewayMetrics.recordMessage]
    by_cases hstatus : message.status = .failure
    · simp only [hstatus, if_true, getD_lookup_addTo, and_true]
      split <;> rfl
    · simp only [hstatus, if_false, and_false]
      exact (add_zero _).symm
  · rw [failedOn_concat, UInt64.ofNat_add, ← hfailures]
    simp only [getMessagesTotal, GatewayMetrics.recordMessage, getD_lookup_addTo,
      MessageLabels.mk.injEq]
    split <;> rfl
  · rw [recordedOn_concat]
    simp only [histogramOf, GatewayMetrics.recordMessage, KeyedMap.lookup_insert_if]
    by_cases hchannel : message.channel = channel
    · subst hchannel
      rw [if_pos rfl, if_pos rfl, Option.getD_some]
      exact hhistogram.observe _
    · rw [if_neg (Ne.symm hchannel), if_neg hchannel]
      exact hhistogram
  · simp only [histogramOf, GatewayMetrics.recordMessage, KeyedMap.lookup_insert_if]
    split
    · next hchannel =>
      rw [← hchannel]
      exact hbuckets
    · exact hbuckets

theorem tracks_runMessages (messages : List Message) (channel : String) :
    Tracks messages channel (runMessages messages) := by
  induction messages using List.reverseRecOn with
  | nil => exact tracks_new channel
  | append_singleton messages message ih =>
    rw [runMessages, List.foldl_concat]
    exact ih.recordMessage message

theorem metricsAgree (messages : List Message) (channel : String) :
    MetricsAgree messages channel := by
  obtain ⟨herrors, hfailures, ⟨hcount, htotal, hexact⟩, hbuckets⟩ :=
    tracks_runMessages messages channel
  refine ⟨herrors.trans hfailures.symm, herrors, htotal, hcount, ?_, ?_, ?_⟩
  · intro hfew
    refine ⟨hexact hfew, ?_⟩
    rw [hcount]
    exact UInt64.toNat_ofNat_of_lt' hfew
  · rw [hbuckets]
    exact latencyBuckets_sorted
  · exact fun i j hij ↦ Histogram.cumulative_mono _ hij

end Runs

end AdkGateway.Metrics
