import AdkGateway.Config

namespace AdkGateway.ConfigWatcher

open Foundation

structure ConfigValidationError where
  message : String
  deriving DecidableEq

/-- The characters that a Rust `trim` takes away. -/
def isWhitespace (c : Char) : Bool :=
  let n := c.toNat
  (9 ≤ n && n ≤ 13) || n == 0x20 || n == 0x85 || n == 0xa0 || n == 0x1680 ||
    (0x2000 ≤ n && n ≤ 0x200a) || n == 0x2028 || n == 0x2029 || n == 0x202f || n == 0x205f ||
    n == 0x3000

def isBlank (s : String) : Bool := s.toList.all isWhitespace

def firstDuplicate? : List String → List String → Option String
  | _, [] => none
  | seen, id :: ids => if id ∈ seen then some id else firstDuplicate? (id :: seen) ids

def portError (config : GatewayConfig) : Option String :=
  if config.gateway.port = 0 then some "gateway port must be non-zero" else none

def cronIdError (config : GatewayConfig) : Option String :=
  (firstDuplicate? [] (config.cron.jobs.map CronJob.id)).map ("duplicate cron job id: " ++ ·)

def agentIdError (config : GatewayConfig) : Option String :=
  (firstDuplicate? [] (config.agents.list.map AgentEntry.id)).map ("duplicate agent id: " ++ ·)

def bindingError (config : GatewayConfig) : Option String :=
  config.routing.bindings.findSome? fun binding ↦
    if config.agents.list ≠ [] ∧ ∀ agent ∈ config.agents.list, agent.id ≠ binding.agentId then
      some ("routing binding references unknown agent: " ++ binding.agentId)
    else none

def embeddingError (use : String) (embedding : Option EmbeddingConfig) : Option String :=
  embedding.bind fun embedding ↦
    if embedding.provider = "gemini" ∨ embedding.provider = "openai" then none
    else some ("unknown " ++ use ++ " embedding provider: " ++ embedding.provider)

def ragError (config : GatewayConfig) : Option String :=
  embeddingError "RAG" (config.rag.map RagConfig.embedding)

def memoryError (config : GatewayConfig) : Option String :=
  embeddingError "memory" (config.memory.map MemoryConfig.embedding)

def tokenError (token : Option String) (field channel : String) : Option String :=
  token.bind fun token ↦
    if token = "" then some ("channels." ++ field ++ " is required when " ++ channel ++ " is enabled")
    else none

def telegramError (config : GatewayConfig) : Option String :=
  tokenError (config.channels.telegram.map TelegramConfig.botToken) "telegram.bot_token" "Telegram"

def slackBotError (config : GatewayConfig) : Option String :=
  tokenError (config.channels.slack.map SlackConfig.botToken) "slack.bot_token" "Slack"

def slackAppError (config : GatewayConfig) : Option String :=
  tokenError (config.channels.slack.map SlackConfig.appToken) "slack.app_token" "Slack"

def drainError (config : GatewayConfig) : Option String :=
  if config.gateway.drainTimeoutSecs = 0 then some "gateway.drain_timeout_secs must be > 0"
  else none

def scheduleError (config : GatewayConfig) : Option String :=
  config.cron.jobs.findSome? fun job ↦
    if isBlank job.schedule then some ("cron job '" ++ job.id ++ "' has empty schedule") else none

def validateConfig (config : GatewayConfig) : Except ConfigValidationError Unit :=
  match [portError, cronIdError, agentIdError, bindingError, ragError, memoryError, telegramError,
    slackBotError, slackAppError, drainError, scheduleError].findSome? (· config) with
  | some message => .error ⟨message⟩
  | none => .ok ()

structure Valid (config : GatewayConfig) : Prop where
  port_ne_zero : config.gateway.port ≠ 0
  cron_ids_nodup : (config.cron.jobs.map CronJob.id).Nodup
  agent_ids_nodup : (config.agents.list.map AgentEntry.id).Nodup
  agents_known : config.agents.list ≠ [] → ∀ binding ∈ config.routing.bindings,
    ∃ agent ∈ config.agents.list, agent.id = binding.agentId
  rag_known : ∀ rag ∈ config.rag,
    rag.embedding.provider = "gemini" ∨ rag.embedding.provider = "openai"
  memory_known : ∀ memory ∈ config.memory,
    memory.embedding.provider = "gemini" ∨ memory.embedding.provider = "openai"
  telegram_token : ∀ telegram ∈ config.channels.telegram, telegram.botToken ≠ ""
  slack_tokens : ∀ slack ∈ config.channels.slack, slack.botToken ≠ "" ∧ slack.appToken ≠ ""
  drain_ne_zero : config.gateway.drainTimeoutSecs ≠ 0
  schedules : ∀ job ∈ config.cron.jobs, isBlank job.schedule = false

theorem firstDuplicate?_eq_none_iff (seen ids : List String) :
    firstDuplicate? seen ids = none ↔ ids.Nodup ∧ ∀ id ∈ ids, id ∉ seen := by
  induction ids generalizing seen with
  | nil => simp [firstDuplicate?]
  | cons id ids ih =>
    rw [firstDuplicate?, List.nodup_cons, List.forall_mem_cons]
    split
    · next hmem => simp [hmem]
    · next hmem =>
      rw [ih]
      constructor
      · rintro ⟨hnodup, hnew⟩
        exact ⟨⟨fun h ↦ hnew id h (.head _), hnodup⟩, hmem,
          fun id' h hseen ↦ hnew id' h (.tail _ hseen)⟩
      · rintro ⟨⟨hid, hnodup⟩, -, hnew⟩
        refine ⟨hnodup, fun id' h hseen ↦ ?_⟩
        rcases List.mem_cons.mp hseen with rfl | hseen
        · exact hid h
        · exact hnew id' h hseen

theorem embeddingError_eq_none_iff (use : String) (embedding : Option EmbeddingConfig) :
    embeddingError use embedding = none ↔
      ∀ e ∈ embedding, e.provider = "gemini" ∨ e.provider = "openai" := by
  cases embedding <;> simp [embeddingError, or_iff_not_imp_left]

theorem tokenError_eq_none_iff (token : Option String) (field channel : String) :
    tokenError token field channel = none ↔ ∀ t ∈ token, t ≠ "" := by
  cases token <;> simp [tokenError]

theorem bindingError_eq_none_iff (config : GatewayConfig) :
    bindingError config = none ↔ (config.agents.list ≠ [] →
      ∀ binding ∈ config.routing.bindings,
        ∃ agent ∈ config.agents.list, agent.id = binding.agentId) := by
  simp only [bindingError, List.findSome?_eq_none_iff, ite_eq_right_iff, reduceCtorEq, imp_false,
    not_and, not_forall, not_not, exists_prop]
  exact ⟨fun h hlist binding hb ↦ h binding hb hlist, fun h binding hb hlist ↦ h hlist binding hb⟩

theorem scheduleError_eq_none_iff (config : GatewayConfig) :
    scheduleError config = none ↔ ∀ job ∈ config.cron.jobs, isBlank job.schedule = false := by
  simp [scheduleError]

theorem validateConfig_eq_ok_iff_errors (config : GatewayConfig) :
    validateConfig config = .ok () ↔ portError config = none ∧ cronIdError config = none ∧
      agentIdError config = none ∧ bindingError config = none ∧ ragError config = none ∧
      memoryError config = none ∧ telegramError config = none ∧ slackBotError config = none ∧
      slackAppError config = none ∧ drainError config = none ∧ scheduleError config = none := by
  have hnone : validateConfig config = .ok () ↔
      [portError, cronIdError, agentIdError, bindingError, ragError, memoryError, telegramError,
        slackBotError, slackAppError, drainError, scheduleError].findSome? (· config) = none := by
    rw [validateConfig]
    split
    · next h => simp only [h, reduceCtorEq]
    · next h => simp only [h]
  rw [hnone, List.findSome?_eq_none_iff]
  simp only [List.forall_mem_cons, List.not_mem_nil, false_imp_iff, implies_true, and_true]

/-- What is accepted is well formed, and what is well formed is accepted. -/
theorem validateConfig_eq_ok_iff (config : GatewayConfig) :
    validateConfig config = .ok () ↔ Valid config := by
  simp only [validateConfig_eq_ok_iff_errors, portError, cronIdError, agentIdError, ragError,
    memoryError, telegramError, slackBotError, slackAppError, drainError, Option.map_eq_none_iff,
    firstDuplicate?_eq_none_iff, bindingError_eq_none_iff, embeddingError_eq_none_iff,
    tokenError_eq_none_iff, scheduleError_eq_none_iff, List.not_mem_nil, not_false_eq_true,
    implies_true, and_true, ite_eq_right_iff, reduceCtorEq, imp_false, Option.mem_def,
    Option.map_eq_some_iff, forall_exists_index, and_imp, forall_apply_eq_imp_iff₂]
  constructor
  · rintro ⟨hport, hcron, hagents, hknown, hrag, hmemory, htelegram, hbot, happ, hdrain, hschedules⟩
    exact ⟨hport, hcron, hagents, hknown, hrag, hmemory, htelegram,
      fun slack h ↦ ⟨hbot slack h, happ slack h⟩, hdrain, hschedules⟩
  · intro h
    exact ⟨h.port_ne_zero, h.cron_ids_nodup, h.agent_ids_nodup, h.agents_known, h.rag_known,
      h.memory_known, h.telegram_token, fun slack hs ↦ (h.slack_tokens slack hs).1,
      fun slack hs ↦ (h.slack_tokens slack hs).2, h.drain_ne_zero, h.schedules⟩

end AdkGateway.ConfigWatcher
