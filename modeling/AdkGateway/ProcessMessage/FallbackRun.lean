import AdkGateway.FallbackChain.Attempts
import AdkGateway.Foundation.Text
import AdkGateway.RateLimiter.Limiter
import AdkGateway.SchemaSanitizer.Sanitizers

namespace AdkGateway.ProcessMessage.FallbackRun

open FallbackChain Foundation

section Callbacks

structure LlmRequest where
  model : String
  tools : List (String × Value)

def providerOf (model : String) : String :=
  ((Text.splitOnce "/" model).map (·.1)).getD model

def needsOpenAI (model : String) : Bool :=
  providerOf model = "openai" ||
    ["gpt-", "o1-", "o3-", "o4-", "codex-", "chatgpt-"].any fun start ↦
      start.toList.isPrefixOf model.toList

def sanitizeSchemas (req : LlmRequest) : LlmRequest :=
  let provider := providerOf req.model
  let sanitize := if provider = "gemini" ∨ provider = "google" then
      SchemaSanitizer.GeminiSanitizer.sanitize
    else if needsOpenAI req.model then SchemaSanitizer.OpenAISanitizer.sanitize
    else id
  { req with tools := req.tools.map fun tool ↦ (tool.1, sanitize tool.2) }

/-- The callback after a tool: how long it waits, and what it puts in the place of the result. The
progress that it notes for the user is left out. -/
def limitTools (limiter : RateLimiter) (toolName : String) (now : Nanos) :
    (Nanos × Option Value) × RateLimiter :=
  match limiter.recordInvocation toolName now with
  | (.allow, limiter) => ((0, none), limiter)
  | (.pause duration, limiter) => ((duration, none), limiter)
  | (.terminate reason, limiter) =>
    ((0, some (.object [("error", .string "RATE_LIMIT_TERMINATED"), ("message", .string reason)])),
      limiter)

structure AfterToolCallback where
  limiter : RateLimiter
  call : RateLimiter → String → Nanos → (Nanos × Option Value) × RateLimiter

end Callbacks

variable {Model Tool Toolset Stream : Type}

structure Agent (Model Tool Toolset : Type) where
  name : String
  model : Model
  instruction : String
  tools : List Tool
  toolsets : List Toolset
  beforeModel : Option (LlmRequest → LlmRequest)
  logsResponses : Bool
  afterTool : Option AfterToolCallback

namespace Agent

/-- `LlmAgentBuilder::new(name).model(model).instruction(instruction)` -/
def new (name : String) (model : Model) (instruction : String) : Agent Model Tool Toolset :=
  ⟨name, model, instruction, [], [], none, false, none⟩

end Agent

section Startup

structure Startup (Tool Toolset : Type) where
  memory : Bool
  memoryProtocol : Option String
  contextFile : String → Option String
  kgTools : List Tool
  managementTools : List Tool
  mcpServers : List (String × List String)
  mcpToolsets : List Toolset
  workspaceRoot : String
  projectDir : String
  logDir : String
  configPath : String
  knowledgeGraphPath : String
  rateLimiter : RateLimitConfig

variable (s : Startup Tool Toolset)

def baseInstruction : String :=
  "You are a helpful AI assistant connected via adk-gateway. " ++
    "Be concise and helpful. When you don't know something, say so.\n\n" ++
    "IMPORTANT: When you capture a screenshot or generate/receive any image data (base64), " ++
    "you MUST use the `send_photo` tool to display it in the chat. Pass the base64 data " ++
    "directly to send_photo with the `base64` parameter. Never just describe an image — send it."

namespace Startup

def contextFilesContent : String :=
  if s.memory then
    ["PROFILE.md", "USER.md", "PROJECTS.md", "HABITS.md", "NOTES.md"].foldl (fun context file ↦
      match s.contextFile file with
      | some content =>
        if Text.trim content = "" then context
        else context ++ "\n\n--- " ++ file ++ " ---\n" ++ content
      | none => context) ""
  else ""

def fullInstruction : String :=
  (match if s.memory then s.memoryProtocol else none with
    | some protocol => baseInstruction ++ "\n\n" ++ protocol
    | none => baseInstruction) ++ s.contextFilesContent

def mcpSection : String :=
  if s.mcpServers = [] then ""
  else
    "\n\n## MCP Tools (External Integrations)\n\nThe following MCP servers are connected with " ++
      "their available tools:\n\n" ++
      String.join (s.mcpServers.map fun (serverId, tools) ↦
        if tools = [] then "- **" ++ serverId ++ "** — connected (no tools discovered)\n"
        else "- **" ++ serverId ++ "** — " ++ toString tools.length ++ " tools: " ++
          ", ".intercalate tools ++ "\n") ++
      "\nThese tools are available via the MCP protocol. You can call them by name when " ++
      "relevant to the user's request.\n"

def dirContext : String :=
  "\n\n## System Paths\n\n" ++
    "- **Workspace root** (fs_pwd, config location): `" ++ s.workspaceRoot ++ "`\n" ++
    "- **Gateway project directory**: `" ++ s.projectDir ++ "`\n" ++
    "- **Log files**: `" ++ s.logDir ++ "`\n" ++
    "- **Config file**: `" ++ s.configPath ++ "`\n" ++
    "- **Knowledge graph DB**: `" ++ s.knowledgeGraphPath ++ "`\n\n" ++
    "When asked about logs, files, or the project, use these paths. " ++
    "The filesystem tools (fs_list, fs_read, etc.) accept absolute paths.\n"

/-- The agent that the start leaves as `assistant`: where there are management tools it is built a
second time, with all that the agents of the gateway have. -/
def rootAgent (model : Model) : Agent Model Tool Toolset :=
  let kgTools := if s.memory then s.kgTools else []
  if s.managementTools = [] then
    { (Agent.new "assistant" model s.fullInstruction : Agent Model Tool Toolset) with
      tools := kgTools }
  else
    { name := "assistant"
      model
      instruction := s.fullInstruction ++ s.mcpSection ++ s.dirContext
      tools := kgTools ++ s.managementTools
      toolsets := s.mcpToolsets
      beforeModel := some sanitizeSchemas
      logsResponses := true
      afterTool := some ⟨RateLimiter.new s.rateLimiter, limitTools⟩ }

end Startup

end Startup

section Runs

structure GatewayState (Model : Type) where
  fallbackChain : FallbackModelChain Model
  agentInstruction : String
  appName : String

/-- What the processing of a message has ready when it comes to the run: `agent` is the one it was
routed to, and `token` the one that is registered for `/stop`. -/
structure Prepared (Model Tool Toolset : Type) where
  agent : Agent Model Tool Toolset
  userId : String
  sessionId : String
  content : String
  token : ℕ

structure Run (Model Tool Toolset : Type) where
  appName : String
  agent : Agent Model Tool Toolset
  userId : String
  sessionId : String
  content : String
  cancellation : Option ℕ

structure Outside (Model Tool Toolset Stream : Type) where
  buildAgent : Agent Model Tool Toolset → Except String Unit
  buildRunner : Run Model Tool Toolset → Except String Unit
  start : ℕ → Run Model Tool Toolset → Except String Stream

variable (outside : Outside Model Tool Toolset Stream) (state : GatewayState Model)
  (message : Prepared Model Tool Toolset)

def directRun : Run Model Tool Toolset where
  appName := state.appName
  agent := message.agent
  userId := message.userId
  sessionId := message.sessionId
  content := message.content
  cancellation := some message.token

def fallbackAgent (model : Model) : Agent Model Tool Toolset :=
  Agent.new "assistant" model state.agentInstruction

def fallbackRun (model : Model) : Run Model Tool Toolset where
  appName := state.appName
  agent := fallbackAgent state model
  userId := message.userId
  sessionId := message.sessionId
  content := message.content
  cancellation := none

def directRunWith (model : Model) : Run Model Tool Toolset :=
  { directRun state message with agent := { message.agent with model } }

/-- The closure that the chain calls for each model; `n` attempts were made before it. -/
def attempt (model : Model) (n : ℕ) : Except String (Run Model Tool Toolset × Stream) × ℕ :=
  (do
    let run := fallbackRun state message model
    (outside.buildAgent run.agent).mapError ("failed to build fallback agent: " ++ ·)
    (outside.buildRunner run).mapError ("failed to create runner: " ++ ·)
    let stream ← outside.start n run
    return (run, stream), n + 1)

def fallbackPath : Option (FallbackModelChain.RunResult (Run Model Tool Toolset × Stream) × ℕ) :=
  FallbackModelChain.runWithFallback id (attempt outside state message) state.fallbackChain 0

def answered : Option (Run Model Tool Toolset × Stream × FallbackOutcome) :=
  if state.fallbackChain.hasFallbacks then
    match fallbackPath outside state message with
    | some (.ok ((run, stream), outcome), _) => some (run, stream, outcome)
    | _ => none
  else
    match outside.start 0 (directRun state message) with
    | .ok stream => some (directRun state message, stream, .primarySuccess)
    | .error _ => none

def SameAgent : Prop :=
  ∀ run stream outcome, answered outside state message = some (run, stream, outcome) →
    ∃ model ∈ state.fallbackChain.models, run = directRunWith state message model ∧
      (outcome = .primarySuccess → state.fallbackChain.models[0]? = some model)

/-- Every attempt fails, be it at the agent, at the runner or at the run. -/
def NoneAnswers : Prop :=
  ∀ n model, state.fallbackChain.models[n]? = some model →
    ∃ e, (attempt outside state message model n).1 = .error e

end Runs

section Proof

variable {outside : Outside Model Tool Toolset Stream} {state : GatewayState Model}
  {message : Prepared Model Tool Toolset}

theorem run_of_attempt {model : Model} {n : ℕ} {answer : Run Model Tool Toolset × Stream}
    (h : (attempt outside state message model n).1 = .ok answer) :
    answer.1 = fallbackRun state message model := by
  simp only [attempt] at h
  cases hagent : outside.buildAgent (fallbackRun state message model).agent with
  | error e =>
    rw [hagent] at h
    cases h
  | ok _ =>
    cases hrunner : outside.buildRunner (fallbackRun state message model) with
    | error e =>
      rw [hagent, hrunner] at h
      cases h
    | ok _ =>
      cases hstart : outside.start n (fallbackRun state message model) with
      | error e =>
        rw [hagent, hrunner, hstart] at h
        cases h
      | ok stream =>
        rw [hagent, hrunner, hstart] at h
        cases h
        rfl

theorem outcome_isSome (modelIds : List String) {n : ℕ} {errors : List (String × String)}
    (hn : n < modelIds.length) (herrors : errors.length = n) :
    ∃ told, FallbackModelChain.outcome modelIds n errors = some told := by
  rw [FallbackModelChain.outcome]
  split
  case isTrue => exact ⟨_, rfl⟩
  case isFalse hne =>
    rw [List.getElem?_eq_getElem (by omega), List.getElem?_eq_getElem hn,
      List.getElem?_eq_getElem (by omega)]
    exact ⟨_, rfl⟩

/-- From one model of the chain on, all attempts fail, or one of them gives the result. -/
theorem runFrom_attempt (modelIds : List String) (models : List Model) (n : ℕ)
    (errors : List (String × String)) (hids : n + models.length ≤ modelIds.length)
    (herrors : errors.length = n) :
    (∃ errors' k, FallbackModelChain.runFrom id (attempt outside state message) modelIds n errors
        models n = some (.error errors', k) ∧
      ∀ i model, models[i]? = some model →
        ∃ e, (attempt outside state message model (n + i)).1 = .error e) ∨
    ∃ i model stream outcome k, models[i]? = some model ∧
      (attempt outside state message model (n + i)).1 =
        .ok (fallbackRun state message model, stream) ∧
      FallbackModelChain.runFrom id (attempt outside state message) modelIds n errors models n =
        some (.ok ((fallbackRun state message model, stream), outcome), k) := by
  induction models generalizing n errors with
  | nil => exact .inl ⟨errors, n, rfl, by simp⟩
  | cons model models ih =>
    rw [List.length_cons] at hids
    have hnext : (attempt outside state message model n).2 = n + 1 := rfl
    cases hanswer : attempt outside state message model n with
    | mk answer k =>
      rw [hanswer] at hnext
      subst hnext
      cases answer with
      | ok answer =>
        obtain ⟨told, htold⟩ := outcome_isSome modelIds (by omega) herrors
        obtain ⟨run, stream⟩ := answer
        obtain rfl : run = fallbackRun state message model :=
          run_of_attempt (n := n) (congrArg Prod.fst hanswer)
        refine .inr ⟨0, model, stream, told, n + 1, rfl, congrArg Prod.fst hanswer, ?_⟩
        rw [FallbackModelChain.runFrom, hanswer]
        simp [htold]
      | error e =>
        have hid : modelIds[n]? = some modelIds[n] := List.getElem?_eq_getElem (by omega)
        have hrun : FallbackModelChain.runFrom id (attempt outside state message) modelIds n errors
            (model :: models) n = FallbackModelChain.runFrom id (attempt outside state message)
              modelIds (n + 1) (errors ++ [(modelIds[n], e)]) models (n + 1) := by
          rw [FallbackModelChain.runFrom, hanswer]
          simp [hid]
        rw [hrun]
        obtain ⟨errors', k, hfail, hall⟩ | ⟨i, model', stream, told, k, hmodel, hok, hrest⟩ :=
          ih (n + 1) (errors ++ [(modelIds[n], e)]) (by omega) (by simp [herrors])
        · refine .inl ⟨errors', k, hfail, fun i model' hmodel ↦ ?_⟩
          cases i with
          | zero =>
            obtain rfl : model = model' := Option.some.inj hmodel
            exact ⟨e, congrArg Prod.fst hanswer⟩
          | succ i =>
            rw [Nat.add_comm i 1, ← Nat.add_assoc]
            exact hall i model' hmodel
        · refine .inr ⟨i + 1, model', stream, told, k, hmodel, ?_, hrest⟩
          rw [Nat.add_comm i 1, ← Nat.add_assoc]
          exact hok

variable {createModel : String → Except String Model}

/-- Where the chain has fallbacks, the run that answers is that of the direct path just if there is
none: no runner of the fallback path has the token. -/
theorem sameAgent_iff (hchain : FallbackModelChain.Built createModel state.fallbackChain)
    (hfallbacks : state.fallbackChain.hasFallbacks = true) :
    SameAgent outside state message ↔ NoneAnswers outside state message := by
  have hids : 0 + state.fallbackChain.models.length ≤ state.fallbackChain.modelIds.length := by
    rw [Nat.zero_add, hchain.length]
  have hrun := @runFrom_attempt _ _ _ _ outside state message state.fallbackChain.modelIds
    state.fallbackChain.models 0 [] hids rfl
  simp only [Nat.zero_add] at hrun
  rw [SameAgent, answered, if_pos hfallbacks, fallbackPath, FallbackModelChain.runWithFallback]
  obtain ⟨errors, k, hfail, hall⟩ | ⟨i, model, stream, told, k, hmodel, hok, hanswer⟩ := hrun
  · rw [hfail]
    exact iff_of_true (by simp) hall
  · rw [hanswer]
    refine iff_of_false (fun h ↦ ?_) fun h ↦ ?_
    · obtain ⟨model', -, heq, -⟩ := h _ _ _ rfl
      cases congrArg Run.cancellation heq
    · obtain ⟨e, he⟩ := h i model hmodel
      rw [he] at hok
      cases hok

/-- The agent of the fallback path is the one that the start left just if this had nothing to
attach. -/
theorem fallbackAgent_eq_rootAgent_iff (s : Startup Tool Toolset) (model : Model)
    (h : state.agentInstruction = s.fullInstruction) :
    fallbackAgent state model = s.rootAgent model ↔
      s.managementTools = [] ∧ (s.memory = true → s.kgTools = []) := by
  rw [fallbackAgent, Startup.rootAgent, h]
  by_cases htools : s.managementTools = []
  · rw [if_pos htools]
    cases hmemory : s.memory <;> simp [Agent.new, htools, eq_comm]
  · rw [if_neg htools]
    refine iff_of_false (fun heq ↦ ?_) fun h ↦ htools h.1
    cases congrArg Agent.beforeModel heq

end Proof

section Example

def twoModels : GatewayState String where
  fallbackChain := ⟨["openai/gpt-4o", "anthropic/claude"], ["openai/gpt-4o", "anthropic/claude"]⟩
  agentInstruction := baseInstruction
  appName := "gateway"

def prepared : Prepared String String String where
  agent := { (Agent.new "assistant" "openai/gpt-4o" baseInstruction : Agent String String String) with
    tools := ["fs_read"] }
  userId := "u"
  sessionId := "s"
  content := "hello"
  token := 0

def unreachable : Outside String String String Unit where
  buildAgent _ := .ok ()
  buildRunner _ := .ok ()
  start _ _ := .error "connection refused"

def reachable : Outside String String String Unit where
  buildAgent _ := .ok ()
  buildRunner _ := .ok ()
  start _ _ := .ok ()

theorem sameAgent_iff_of_unreachable :
    SameAgent unreachable twoModels prepared ↔ NoneAnswers unreachable twoModels prepared :=
  sameAgent_iff
    (@FallbackModelChain.Built.build _ .ok ["openai/gpt-4o", "anthropic/claude"]
      ⟨twoModels.fallbackChain, []⟩ rfl) rfl

/-- The primary model answers, to an agent without the tool and without the token. -/
theorem not_sameAgent_of_reachable : ¬ SameAgent reachable twoModels prepared := by
  intro h
  obtain ⟨model, -, heq, -⟩ :=
    h (fallbackRun twoModels prepared "openai/gpt-4o") () .primarySuccess rfl
  cases congrArg Run.cancellation heq

end Example

end AdkGateway.ProcessMessage.FallbackRun
