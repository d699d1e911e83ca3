import AdkGateway.CodingAgent.Executor
import AdkGateway.Delivery.Strategy

namespace AdkGateway.CodingAgent

open Foundation Delivery

inductive AgentStatusKind
  | starting
  | running
  | waitingPermission
  | idle
  | error
  | stopped

structure AgentStatusUpdate where
  status : AgentStatusKind
  description : String

inductive CodingAgentUpdate
  | status (status : AgentStatusUpdate)
  | text (text : String)
  | thought (thought : String)
  | toolCallStarted (title : String)
  | toolCallCompleted (title : String)
  | permissionRequested (title : String) (approved : Bool)
  | done (output : String) (duration : ℕ) (success : Bool) (error : Option String)

structure StreamingConfig where
  updateInterval : DateTime
  showThoughts : Bool
  streamText : Bool
  textChunkSize : ℕ

/-- `duration.as_millis() as u64` -/
def durationMs (duration : ℕ) : UInt64 := UInt64.ofNat (duration / 1000000)

def partialOutput (output : String) : Option String := if output.isEmpty then none else some output

def formatStatus (status : AgentStatusUpdate) : String :=
  let emoji := match status.status with
    | .starting => "🚀"
    | .running => "⚙️"
    | .waitingPermission => "🔐"
    | .idle => "💤"
    | .error => "❌"
    | .stopped => "🛑"
  emoji ++ " " ++ status.description

namespace StreamingTaskExecutor

/-- What a run of the stream reads and changes: a clock, and a delivery. -/
structure Surroundings (σ : Type) where
  now : σ → DateTime × σ
  delivery : DeliveryStrategy σ

structure StreamState where
  accumulatedText : String
  lastUpdateSent : DateTime
  pendingStatusUpdates : List String

variable {σ : Type} (config : StreamingConfig) (env : Surroundings σ) (msgRef : MessageRef)

/-- The arms of the match, but for the last update. -/
def receive (st : StreamState) (w : σ) : CodingAgentUpdate → StreamState × σ
  | .text text =>
    let st := { st with accumulatedText := st.accumulatedText ++ text }
    if config.streamText && config.textChunkSize ≤ st.accumulatedText.utf8ByteSize then
      (st, (env.delivery.onPartial st.accumulatedText msgRef w).2)
    else (st, w)
  | .thought thought =>
    if config.showThoughts then
      ({ st with
        pendingStatusUpdates := st.pendingStatusUpdates ++ ["💭 _" ++ Text.trim thought ++ "_"] }, w)
    else (st, w)
  | .status status =>
    ({ st with pendingStatusUpdates := st.pendingStatusUpdates ++ [formatStatus status] }, w)
  | .toolCallStarted title =>
    ({ st with pendingStatusUpdates := st.pendingStatusUpdates ++ ["🔧 " ++ title] }, w)
  | .toolCallCompleted title =>
    ({ st with pendingStatusUpdates := st.pendingStatusUpdates ++ ["✅ " ++ title] }, w)
  | .permissionRequested title approved =>
    let formatted := if approved then "🔓 " ++ title else "🔒 Denied: " ++ title
    ({ st with pendingStatusUpdates := st.pendingStatusUpdates ++ [formatted] }, w)
  | .done .. => (st, w)

/-- Send the pending status updates, once the interval is over. The clock is read only if there
are any. -/
def sendPending (st : StreamState) (w : σ) : StreamState × σ :=
  if st.pendingStatusUpdates.isEmpty then (st, w)
  else
    let (now, w) := env.now w
    if config.updateInterval ≤ now - st.lastUpdateSent then
      let statusBlock := String.intercalate "\n" st.pendingStatusUpdates
      let combined :=
        if st.accumulatedText.isEmpty then statusBlock
        else statusBlock ++ "\n\n---\n" ++ st.accumulatedText
      let (_, w) := env.delivery.onPartial combined msgRef w
      let (sent, w) := env.now w
      (⟨st.accumulatedText, sent, []⟩, w)
    else (st, w)

def processUpdates : List CodingAgentUpdate → StreamState → σ → Except TaskError TaskResult × σ
  | [], st, w =>
    (.error (.executionError "Stream ended unexpectedly" (partialOutput st.accumulatedText)), w)
  | .done output duration success error :: _, _, w =>
    if success then
      let (_, w) := env.delivery.onComplete output msgRef w
      (.ok ⟨output, [], durationMs duration, none⟩, w)
    else
      let errorMsg := error.getD "Unknown error"
      let (_, w) := env.delivery.onComplete ("❌ Task failed: " ++ errorMsg) msgRef w
      (.error (.executionError errorMsg (partialOutput output)), w)
  | update :: updates, st, w =>
    let (st, w) := receive config env msgRef st w update
    let (st, w) := sendPending config env msgRef st w
    processUpdates updates st w

def processStream (stream : List CodingAgentUpdate) (w : σ) : Except TaskError TaskResult × σ :=
  let (now, w) := env.now w
  processUpdates config env msgRef stream ⟨"", now, []⟩ w

def noDeliveryLoop : List CodingAgentUpdate → String → Except TaskError TaskResult
  | [], accumulatedText =>
    .error (.executionError "Stream ended unexpectedly" (partialOutput accumulatedText))
  | .text text :: updates, accumulatedText => noDeliveryLoop updates (accumulatedText ++ text)
  | .done output duration success error :: _, _ =>
    if success then .ok ⟨output, [], durationMs duration, none⟩
    else
      let errorMsg := error.getD "Unknown error"
      .error (.executionError errorMsg (partialOutput output))
  | _ :: updates, accumulatedText => noDeliveryLoop updates accumulatedText

def processStreamNoDelivery (stream : List CodingAgentUpdate) : Except TaskError TaskResult :=
  noDeliveryLoop stream ""

end StreamingTaskExecutor

namespace StreamingAcpClient

/-- The loop of `executeTask`: what it has of the output, the duration and the error at its end. -/
def collect : List CodingAgentUpdate → String → ℕ → Option String → String × ℕ × Option String
  | [], output, duration, error => (output, duration, error)
  | .text text :: updates, output, duration, error => collect updates (output ++ text) duration error
  | .done finalOutput d success e :: _, _, _, error =>
    (finalOutput, d, if !success then e else error)
  | _ :: updates, output, duration, error => collect updates output duration error

/-- `executeTask`, once the stream is there. -/
def executeTask (stream : List CodingAgentUpdate) : Except TaskError TaskResult :=
  let (output, duration, error) := collect stream "" 0 none
  match error with
  | some err => .error (.executionError err (partialOutput output))
  | none => .ok ⟨output, [], durationMs duration, none⟩

end StreamingAcpClient

open StreamingTaskExecutor StreamingAcpClient

/-- Success or failure, with the output text or the error. -/
def outcome (answer : Except TaskError TaskResult) : Except TaskError String :=
  answer.map TaskResult.output

/-- The stream says how the task ended: its first final update is a success or has an error. -/
def SaysEnd : List CodingAgentUpdate → Prop
  | [] => False
  | .done _ _ success error :: _ => success = true ∨ error.isSome = true
  | _ :: updates => SaysEnd updates

section Delivered

variable {σ : Type} (config : StreamingConfig) (env : Surroundings σ) (msgRef : MessageRef)

theorem accumulatedText_sendPending (st : StreamState) (w : σ) :
    (sendPending config env msgRef st w).1.accumulatedText = st.accumulatedText := by
  unfold sendPending
  split
  · rfl
  · dsimp only
    split <;> rfl

def chunk : CodingAgentUpdate → String
  | .text text => text
  | _ => ""

theorem accumulatedText_receive (st : StreamState) (w : σ) (update : CodingAgentUpdate) :
    (receive config env msgRef st w update).1.accumulatedText = st.accumulatedText ++ chunk update := by
  cases update with
  | text text =>
    rw [receive]
    dsimp only
    split <;> rfl
  | thought thought =>
    rw [receive]
    split <;> exact String.append_empty.symm
  | _ => exact String.append_empty.symm

/-- Neither the clock nor the delivery has a say in the result. -/
theorem processUpdates_eq (stream : List CodingAgentUpdate) (st : StreamState) (w : σ) :
    (processUpdates config env msgRef stream st w).1 = noDeliveryLoop stream st.accumulatedText := by
  induction stream generalizing st w with
  | nil => rfl
  | cons update stream ih =>
    have hnext := ih
      (sendPending config env msgRef (receive config env msgRef st w update).1
        (receive config env msgRef st w update).2).1
      (sendPending config env msgRef (receive config env msgRef st w update).1
        (receive config env msgRef st w update).2).2
    rw [accumulatedText_sendPending, accumulatedText_receive] at hnext
    cases update with
    | done output duration success error => cases success <;> rfl
    | text text => exact hnext
    | _ =>
      rw [chunk, String.append_empty] at hnext
      · exact hnext
      · intros
        contradiction

theorem processStream_eq (stream : List CodingAgentUpdate) (w : σ) :
    (processStream config env msgRef stream w).1 = processStreamNoDelivery stream :=
  processUpdates_eq config env msgRef stream _ _

end Delivered

/-- What `executeTask` answers from an accumulated text on. -/
def executeFrom (stream : List CodingAgentUpdate) (output : String) : Except TaskError TaskResult :=
  match collect stream output 0 none with
  | (output, _, some err) => .error (.executionError err (partialOutput output))
  | (output, duration, none) => .ok ⟨output, [], durationMs duration, none⟩

theorem executeTask_eq (stream : List CodingAgentUpdate) : executeTask stream = executeFrom stream "" := by
  rw [executeTask, executeFrom]
  rcases collect stream "" 0 none with ⟨output, duration, error⟩
  cases error <;> rfl

theorem outcome_executeFrom_iff (stream : List CodingAgentUpdate) (output : String) :
    outcome (noDeliveryLoop stream output) = outcome (executeFrom stream output) ↔ SaysEnd stream := by
  induction stream generalizing output with
  | nil => exact iff_of_false (fun h ↦ by cases h) id
  | cons update stream ih =>
    cases update with
    | done finalOutput duration success error =>
      cases success with
      | true => exact iff_of_true rfl (.inl rfl)
      | false =>
        cases error with
        | some err => exact iff_of_true rfl (.inr rfl)
        | none => exact iff_of_false (fun h ↦ by cases h) (by simp [SaysEnd])
    | text text => exact ih (output ++ text)
    | _ => exact ih output

theorem stream_agreement_iff {σ : Type} (config : StreamingConfig) (env : Surroundings σ)
    (msgRef : MessageRef) (w : σ) (stream : List CodingAgentUpdate) :
    (outcome (processStream config env msgRef stream w).1 = outcome (processStreamNoDelivery stream) ∧
      outcome (processStreamNoDelivery stream) = outcome (executeTask stream)) ↔ SaysEnd stream := by
  rw [processStream_eq, executeTask_eq, eq_self, true_and]
  exact outcome_executeFrom_iff stream ""

/-- A failure without an error text is taken for a success by one of the loops. -/
theorem executeTask_failed_without_error :
    outcome (processStreamNoDelivery [.text "half", .done "half" 0 false none]) ≠
      outcome (executeTask [.text "half", .done "half" 0 false none]) := by
  intro h
  cases h

end AdkGateway.CodingAgent
