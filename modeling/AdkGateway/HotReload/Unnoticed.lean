import AdkGateway.Foundation.Machine
import AdkGateway.HotReload.Dispatch

namespace AdkGateway.HotReload

open ConfigWatcher Foundation Machine

structure SameOthers (a b : GatewayConfig) : Prop where
  agent : a.agent = b.agent
  agents : a.agents = b.agents
  gateway : a.gateway = b.gateway
  graphWorkflow : a.graphWorkflow = b.graphWorkflow
  mcpServers : a.mcpServers = b.mcpServers
  awp : a.awp = b.awp
  runner : a.runner = b.runner
  rateLimiter : a.rateLimiter = b.rateLimiter
  toolApproval : a.toolApproval = b.toolApproval
  staleContext : a.staleContext = b.staleContext
  heartbeatV2 : a.heartbeatV2 = b.heartbeatV2
  multiUser : a.multiUser = b.multiUser
  healthMonitor : a.healthMonitor = b.healthMonitor

structure SameConfig (a b : GatewayConfig) : Prop where
  sections : SameSections a b
  others : SameOthers a b

/-- A section that the diff compares changes, or none of those that it leaves out does. -/
def Noticed (old new : GatewayConfig) : Prop := ¬ SameSections old new ∨ SameOthers old new

section Relations

variable {a b c : GatewayConfig}

theorem SameOthers.refl (a : GatewayConfig) : SameOthers a a :=
  ⟨rfl, rfl, rfl, rfl, rfl, rfl, rfl, rfl, rfl, rfl, rfl, rfl, rfl⟩

theorem SameOthers.symm (h : SameOthers a b) : SameOthers b a :=
  ⟨h.agent.symm, h.agents.symm, h.gateway.symm, h.graphWorkflow.symm, h.mcpServers.symm, h.awp.symm,
    h.runner.symm, h.rateLimiter.symm, h.toolApproval.symm, h.staleContext.symm,
    h.heartbeatV2.symm, h.multiUser.symm, h.healthMonitor.symm⟩

theorem SameOthers.trans (h : SameOthers a b) (h' : SameOthers b c) : SameOthers a c :=
  ⟨h.agent.trans h'.agent, h.agents.trans h'.agents, h.gateway.trans h'.gateway,
    h.graphWorkflow.trans h'.graphWorkflow, h.mcpServers.trans h'.mcpServers, h.awp.trans h'.awp,
    h.runner.trans h'.runner, h.rateLimiter.trans h'.rateLimiter,
    h.toolApproval.trans h'.toolApproval, h.staleContext.trans h'.staleContext,
    h.heartbeatV2.trans h'.heartbeatV2, h.multiUser.trans h'.multiUser,
    h.healthMonitor.trans h'.healthMonitor⟩

theorem SameSections.symm (h : SameSections a b) : SameSections b a :=
  ⟨h.channels.symm, h.routing.symm, h.session.symm, h.cron.symm, h.plugins.symm,
    authEq?_symm h.auth, h.rag.symm, h.memory.symm, h.telemetry.symm, h.conventions.symm,
    h.hooks.symm, h.codingAgents.symm⟩

theorem SameSections.trans (h : SameSections a b) (h' : SameSections b c) : SameSections a c := by
  rw [← hasChanges_eq_false_iff, h.compute_eq c]
  exact hasChanges_eq_false_iff.mpr h'

theorem SameConfig.refl (a : GatewayConfig) : SameConfig a a := ⟨.refl a, .refl a⟩

theorem SameConfig.symm (h : SameConfig a b) : SameConfig b a := ⟨h.sections.symm, h.others.symm⟩

theorem SameConfig.trans (h : SameConfig a b) (h' : SameConfig b c) : SameConfig a c :=
  ⟨h.sections.trans h'.sections, h.others.trans h'.others⟩

theorem hasChanges_eq_true_iff :
    (ConfigDiff.compute a b).hasChanges = true ↔ ¬ SameSections a b := by
  rw [← hasChanges_eq_false_iff, Bool.not_eq_false]

theorem sameConfig_of_unchanged_iff :
    ((ConfigDiff.compute a b).hasChanges = false → SameConfig a b) ↔ Noticed a b := by
  rw [hasChanges_eq_false_iff, Noticed, ← imp_iff_not_or]
  exact ⟨fun h hsame ↦ (h hsame).others, fun h hsame ↦ ⟨hsame, h hsame⟩⟩

end Relations

structure Edit where
  raw : String
  config : GatewayConfig
  now : DateTime
  res : Except String Event
  writable : Bool

inductive FileEvent
  | edit (e : Edit)
  | receive

/-- The watcher and the dispatch task, with how many of the configs that the watcher sent the task
has received, and the config of the last accepted edit. -/
structure FileReload where
  watch : Watch
  received : ℕ
  live : Live
  accepted : GatewayConfig

namespace FileReload

variable (w : Watcher)

def start (now : DateTime) (file : Option String) (config : GatewayConfig)
    (codingAgents : Option Json) : FileReload :=
  ⟨Watcher.start now file config, 0, .start config codingAgents, config⟩

def apply (s : FileReload) : FileEvent → FileReload
  | .edit e =>
    { s with
      watch := w.step (w.step s.watch (.write (some e.raw))) (.notify e.now e.res e.writable)
      accepted := e.config }
  | .receive =>
    match s.watch.sent[s.received]? with
    | none => s
    | some newConfig => { s with received := s.received + 1, live := s.live.dispatch newConfig }

/-- A step answers with the state it leads to. -/
def step (s : FileReload) (event : FileEvent) : FileReload × FileReload :=
  (s.apply w event, s.apply w event)

/-- The config of an edit is what the file says; it is valid, and the watcher reads it. -/
def Accepts (s : FileReload) : FileEvent → Prop
  | .edit e => w.format.load e.raw = .ok e.config ∧ validateConfig e.config = .ok () ∧
      w.acts s.watch.lastReload (.notify e.now e.res e.writable) = true
  | .receive => True

/-- The config in use is the last that was accepted, and the MCP manager has its servers once the
dispatch task has received all. -/
structure UpToDate (s : FileReload) : Prop where
  active : SameConfig s.watch.currentConfig s.accepted
  reconciled : s.received = s.watch.sent.length →
    s.live.mcpManager.given = s.accepted.mcpServers

def NoticesEdit (s : FileReload) : FileEvent → Prop
  | .edit e => Noticed s.accepted e.config
  | .receive => True

/-- The configs that are yet to be received lead from the old config of the task to the current
one, and each is a change that is told. -/
def Awaits (current : GatewayConfig) : GatewayConfig → List GatewayConfig → Prop
  | old, [] => old = current
  | old, c :: queue => (ConfigDiff.compute old c).hasChanges = true ∧ Awaits current c queue

structure Inv (s : FileReload) : Prop where
  active : SameConfig s.watch.currentConfig s.accepted
  given : s.live.mcpManager.given = s.live.oldConfig.mcpServers
  received_le : s.received ≤ s.watch.sent.length
  queue : Awaits s.watch.currentConfig s.live.oldConfig (s.watch.sent.drop s.received)

end FileReload

section Runs

variable {w : Watcher} {s : FileReload}

theorem Awaits.concat {current new old : GatewayConfig} {queue : List GatewayConfig}
    (h : FileReload.Awaits current old queue)
    (hnew : (ConfigDiff.compute current new).hasChanges = true) :
    FileReload.Awaits new old (queue ++ [new]) := by
  induction queue generalizing old with
  | nil =>
    obtain rfl : old = current := h
    exact ⟨hnew, rfl⟩
  | cons c queue ih => exact ⟨h.1, ih h.2⟩

theorem step_edit {e : Edit} (h : s.Accepts w (.edit e)) :
    w.step (w.step s.watch (.write (some e.raw))) (.notify e.now e.res e.writable) =
      Watcher.apply e.config { s.watch with file := some e.raw, lastReload := e.now } := by
  obtain ⟨hload, hvalid, hacts⟩ := h
  rw [Watcher.acts, Bool.and_eq_true, Bool.not_eq_true'] at hacts
  simp only [Watcher.step, Watcher.onEvent, if_pos hacts.1, hacts.2, Bool.false_eq_true, if_false]
  rw [Watcher.reload_of_valid rfl hload hvalid]

theorem upToDate_of_inv (h : s.Inv) : s.UpToDate := by
  refine ⟨h.active, fun hall ↦ ?_⟩
  have hqueue := h.queue
  rw [hall, List.drop_length] at hqueue
  rw [h.given, ← h.active.others.mcpServers]
  exact congrArg GatewayConfig.mcpServers hqueue

theorem inv_fileReload (now : DateTime) (file : Option String) (config : GatewayConfig)
    (codingAgents : Option Json) : (FileReload.start now file config codingAgents).Inv where
  active := .refl config
  given := rfl
  received_le := le_rfl
  queue := rfl

theorem inv_receive (h : s.Inv) : (s.apply w .receive).Inv := by
  cases hnext : s.watch.sent[s.received]? with
  | none =>
    have hsame : s.apply w .receive = s := by simp only [FileReload.apply, hnext]
    rw [hsame]
    exact h
  | some newConfig =>
    have happly : s.apply w .receive =
        { s with received := s.received + 1, live := s.live.dispatch newConfig } := by
      simp only [FileReload.apply, hnext]
    obtain ⟨hlt, hget⟩ := List.getElem?_eq_some_iff.mp hnext
    have hqueue := h.queue
    rw [List.drop_eq_getElem_cons hlt, hget] at hqueue
    obtain ⟨hold, hgiven⟩ := given_dispatch hqueue.1 h.given
    rw [happly]
    refine ⟨h.active, ?_, hlt, ?_⟩
    · exact hgiven.trans (congrArg GatewayConfig.mcpServers hold).symm
    · change FileReload.Awaits _ (s.live.dispatch newConfig).oldConfig _
      rw [hold]
      exact hqueue.2

theorem active_edit_iff {e : Edit} (h : s.Inv) (hok : s.Accepts w (.edit e)) :
    SameConfig (s.apply w (.edit e)).watch.currentConfig e.config ↔ Noticed s.accepted e.config := by
  have hwatch : (s.apply w (.edit e)).watch.currentConfig = settle s.watch.currentConfig e.config := by
    rw [FileReload.apply, step_edit hok, Watcher.currentConfig_apply]
  rw [hwatch, settle]
  have hsections : SameSections s.watch.currentConfig e.config ↔ SameSections s.accepted e.config :=
    ⟨h.active.sections.symm.trans, h.active.sections.trans⟩
  split
  · next hchanges =>
    rw [hasChanges_eq_true_iff, hsections] at hchanges
    exact iff_of_true (.refl e.config) (.inl hchanges)
  · next hchanges =>
    rw [hasChanges_eq_true_iff, not_not, hsections] at hchanges
    rw [Noticed, or_iff_right (not_not_intro hchanges)]
    exact ⟨fun hsame ↦ (h.active.symm.trans hsame).others, fun hothers ↦
      h.active.trans ⟨hchanges, hothers⟩⟩

theorem inv_edit {e : Edit} (h : s.Inv) (hok : s.Accepts w (.edit e))
    (hnoticed : Noticed s.accepted e.config) : (s.apply w (.edit e)).Inv := by
  refine ⟨(active_edit_iff h hok).mpr hnoticed, h.given, ?_, ?_⟩
  all_goals
    simp only [FileReload.apply, step_edit hok, Watcher.apply]
    split
  · next => exact Nat.le_trans h.received_le (by simp)
  · exact h.received_le
  · next hchanges =>
    simp only [List.drop_append_of_le_length h.received_le]
    exact Awaits.concat h.queue hchanges
  · exact h.queue

theorem upToDate_apply_iff (w : Watcher) (s : FileReload) (event : FileEvent) (h : s.Inv)
    (hok : s.Accepts w event) :
    ((s.apply w event).UpToDate ↔ s.NoticesEdit event) ∧
      (s.NoticesEdit event → (s.apply w event).Inv) := by
  cases event with
  | edit e =>
    have hkeep : Noticed s.accepted e.config → (s.apply w (.edit e)).Inv := inv_edit h hok
    exact ⟨⟨fun hup ↦ (active_edit_iff h hok).mp hup.active, fun hnoticed ↦
      upToDate_of_inv (hkeep hnoticed)⟩, hkeep⟩
  | receive =>
    have hkeep : (s.apply w .receive).Inv := inv_receive h
    exact ⟨iff_of_true (upToDate_of_inv hkeep) trivial, fun _ ↦ hkeep⟩

/-- No change goes unnoticed between two configs, and after the edits of a run, just if each edit
that leaves the compared sections alone leaves all others alone too. -/
theorem unnoticed_iff (w : Watcher) (now : DateTime) (file : Option String) (config : GatewayConfig)
    (codingAgents : Option Json) (events : List FileEvent)
    (haccepts : Along (FileReload.step w) (FileReload.Accepts w)
      (.start now file config codingAgents) events) :
    (∀ old new : GatewayConfig,
      ((ConfigDiff.compute old new).hasChanges = false → SameConfig old new) ↔ Noticed old new) ∧
    ((∀ s ∈ outputs (FileReload.step w) (.start now file config codingAgents) events, s.UpToDate) ↔
      Along (FileReload.step w) FileReload.NoticesEdit (.start now file config codingAgents)
        events) :=
  ⟨fun _ _ ↦ sameConfig_of_unchanged_iff, forall_outputs_iff_of_along (FileReload.step w)
    (upToDate_apply_iff w) (inv_fileReload now file config codingAgents) haccepts⟩

/-- All but the MCP servers is left to the defaults. -/
def serverConfig : GatewayConfig :=
  { GatewayConfig.default with
    mcpServers := [.object [("server_id", .string "files"), ("enabled", .bool true)]] }

def serverText : String := "\x7bmcpServers: [\x7bserver_id: 'files', enabled: true\x7d]\x7d"

def twoTexts : ConfigFormat where
  parse raw :=
    if raw = Watcher.cronText "0 8 * * *" then .ok (Watcher.cronConfig "0 8 * * *")
    else if raw = serverText then .ok serverConfig
    else .error "not one of the texts"
  defaultText := ""

def serverWatcher : Watcher := ⟨twoTexts, Watcher.gatewayJson⟩

def edited (raw : String) (config : GatewayConfig) (now : DateTime) : FileEvent :=
  .edit ⟨raw, config, now, .ok ⟨.modify, [Watcher.gatewayJson]⟩, true⟩

theorem unnoticed_iff_job :
    Along (FileReload.step serverWatcher) FileReload.NoticesEdit (.start 0 none .default none)
      [edited (Watcher.cronText "0 8 * * *") (Watcher.cronConfig "0 8 * * *") 0, .receive] ∧
    ∀ s ∈ outputs (FileReload.step serverWatcher) (.start 0 none .default none)
      [edited (Watcher.cronText "0 8 * * *") (Watcher.cronConfig "0 8 * * *") 0, .receive],
      s.UpToDate := by
  have hnotices : Along (FileReload.step serverWatcher) FileReload.NoticesEdit
      (.start 0 none .default none)
      [edited (Watcher.cronText "0 8 * * *") (Watcher.cronConfig "0 8 * * *") 0, .receive] :=
    ⟨.inl fun h ↦ absurd h.cron (by decide), trivial, trivial⟩
  refine ⟨hnotices, (unnoticed_iff serverWatcher 0 none .default none _ ?_).2.mpr hnotices⟩
  exact ⟨⟨rfl, by decide, by decide⟩, trivial, trivial⟩

/-- A server is added, and nobody hears of it. -/
theorem not_unnoticed :
    validateConfig .default = .ok () ∧ validateConfig serverConfig = .ok () ∧
    (ConfigDiff.compute .default serverConfig).hasChanges = false ∧
    ¬ SameConfig .default serverConfig ∧
    Along (FileReload.step serverWatcher) (FileReload.Accepts serverWatcher)
      (.start 0 none .default none) [edited serverText serverConfig 0, .receive] ∧
    (run (FileReload.step serverWatcher) (.start 0 none .default none)
      [edited serverText serverConfig 0, .receive]).watch.currentConfig.mcpServers = [] ∧
    (run (FileReload.step serverWatcher) (.start 0 none .default none)
      [edited serverText serverConfig 0, .receive]).live.mcpManager.given = [] := by
  refine ⟨by decide, by decide, by decide, fun h ↦ ?_, ?_, by decide, by decide⟩
  · exact absurd h.others.mcpServers (by decide)
  · exact ⟨⟨rfl, by decide, by decide⟩, trivial, trivial⟩

end Runs

end AdkGateway.HotReload
