import AdkGateway.ConfigWatcher.Validation
import AdkGateway.Foundation.Time

namespace AdkGateway.ConfigWatcher

open Foundation

def authEq (a b : AuthConfig) : Bool :=
  decide (a.roles = b.roles) && decide (a.userMappings = b.userMappings) &&
    decide (a.channelOverrides.entries.Perm b.channelOverrides.entries) &&
    decide (a.others = b.others)

def authEq? : Option AuthConfig → Option AuthConfig → Bool
  | none, none => true
  | some a, some b => authEq a b
  | _, _ => false

structure ConfigDiff where
  channelsChanged : Bool
  routingChanged : Bool
  sessionChanged : Bool
  cronChanged : Bool
  pluginsChanged : Bool
  authChanged : Bool
  ragChanged : Bool
  memoryChanged : Bool
  telemetryChanged : Bool
  conventionsChanged : Bool
  hooksChanged : Bool
  codingAgentsChanged : Bool

namespace ConfigDiff

def compute (old new : GatewayConfig) : ConfigDiff where
  channelsChanged := decide (old.channels ≠ new.channels)
  routingChanged := decide (old.routing ≠ new.routing)
  sessionChanged := decide (old.session ≠ new.session)
  cronChanged := decide (old.cron ≠ new.cron)
  pluginsChanged := decide (old.plugins ≠ new.plugins)
  authChanged := !authEq? old.auth new.auth
  ragChanged := decide (old.rag ≠ new.rag)
  memoryChanged := decide (old.memory ≠ new.memory)
  telemetryChanged := decide (old.telemetry ≠ new.telemetry)
  conventionsChanged := decide (old.conventions ≠ new.conventions)
  hooksChanged := decide (old.hooks ≠ new.hooks)
  codingAgentsChanged := decide (old.codingAgents ≠ new.codingAgents)

def hasChanges (diff : ConfigDiff) : Bool :=
  diff.channelsChanged || diff.routingChanged || diff.sessionChanged || diff.cronChanged ||
    diff.pluginsChanged || diff.authChanged || diff.ragChanged || diff.memoryChanged ||
    diff.telemetryChanged || diff.conventionsChanged || diff.hooksChanged ||
    diff.codingAgentsChanged

end ConfigDiff

inductive EventKind
  | any
  | access
  | create
  | modify
  | remove
  | other
  deriving DecidableEq

abbrev Path := List String

def fileName (path : Path) : Option String := path.getLast?.filter (· ≠ "..")

structure Event where
  kind : EventKind
  paths : List Path

inductive LoadError
  | parse (reason : String)
  | invalidMaxIterations (maxIterations : UInt32)

structure ConfigFormat where
  parse : String → Except String GatewayConfig
  defaultText : String

structure Watcher where
  format : ConfigFormat
  configPath : Path

structure Watch where
  file : Option String
  lastReload : DateTime
  currentConfig : GatewayConfig
  sent : List GatewayConfig

/-- The file is written or removed; the watcher is called. -/
inductive Step
  | write (content : Option String)
  | notify (now : DateTime) (res : Except String Event) (writable : Bool)

def validateRunner (config : GatewayConfig) : Except LoadError GatewayConfig :=
  if config.runner.maxIterations < 1 ∨ config.runner.maxIterations > 1000 then
    .error (.invalidMaxIterations config.runner.maxIterations)
  else .ok config

def ConfigFormat.load (format : ConfigFormat) (raw : String) : Except LoadError GatewayConfig :=
  match format.parse raw with
  | .error reason => .error (.parse reason)
  | .ok config => validateRunner config

def ConfigFormat.loadConfig (format : ConfigFormat) (writable : Bool) :
    Option String → Except LoadError GatewayConfig × Option String
  | none => (.ok .default, if writable then some format.defaultText else none)
  | some raw => (format.load raw, some raw)

def elapsed (now earlier : DateTime) : DateTime := max (now - earlier) 0

def debounced (lastReload now : DateTime) : Bool :=
  decide (elapsed now lastReload < DateTime.seconds 2)

namespace Watcher

variable (w : Watcher)

def isConfigFile (event : Event) : Bool :=
  event.paths.any fun path ↦ decide (fileName path = some ((fileName w.configPath).getD ""))

def concerns : Except String Event → Bool
  | .ok event => (event.kind == .modify || event.kind == .create) && w.isConfigFile event
  | .error _ => false

def apply (newConfig : GatewayConfig) (s : Watch) : Watch :=
  if (ConfigDiff.compute s.currentConfig newConfig).hasChanges then
    { s with currentConfig := newConfig, sent := s.sent ++ [newConfig] }
  else s

def reload (writable : Bool) (s : Watch) : Watch :=
  let loaded := w.format.loadConfig writable s.file
  match loaded.1 with
  | .error _ => { s with file := loaded.2 }
  | .ok newConfig =>
    match validateConfig newConfig with
    | .error _ => { s with file := loaded.2 }
    | .ok () => apply newConfig { s with file := loaded.2 }

def onEvent (now : DateTime) (res : Except String Event) (writable : Bool) (s : Watch) : Watch :=
  if w.concerns res then
    if debounced s.lastReload now then s else w.reload writable { s with lastReload := now }
  else s

def step (s : Watch) : Step → Watch
  | .write content => { s with file := content }
  | .notify now res writable => w.onEvent now res writable s

def start (now : DateTime) (file : Option String) (currentConfig : GatewayConfig) : Watch where
  file := file
  lastReload := now - DateTime.seconds 10
  currentConfig := currentConfig
  sent := []

end Watcher

theorem authEq_self (a : AuthConfig) : authEq a a = true := by
  simp only [authEq, List.Perm.refl, decide_true, Bool.and_self]

theorem hasChanges_self (config : GatewayConfig) :
    (ConfigDiff.compute config config).hasChanges = false := by
  have hauth : authEq? config.auth config.auth = true := by
    cases config.auth with
    | none => rfl
    | some a => exact authEq_self a
  simp only [ConfigDiff.hasChanges, ConfigDiff.compute, hauth, ne_eq, not_true_eq_false,
    decide_false, Bool.not_true, Bool.or_self]

def settle (old new : GatewayConfig) : GatewayConfig :=
  if (ConfigDiff.compute old new).hasChanges then new else old

theorem hasChanges_settle (old new : GatewayConfig) :
    (ConfigDiff.compute (settle old new) new).hasChanges = false := by
  unfold settle
  split
  · exact hasChanges_self new
  · next h => exact Bool.eq_false_iff.mpr h

theorem settle_settle (old new : GatewayConfig) : settle (settle old new) new = settle old new := by
  rw [settle, hasChanges_settle, if_neg Bool.false_ne_true]

namespace Watcher

variable (w : Watcher)

def run (s : Watch) (steps : List Step) : Watch := steps.foldl (step w) s

def isNotification : Step → Bool
  | .write _ => false
  | .notify _ _ _ => true

/-- The watcher reads the file at this step. -/
def acts (lastReload : DateTime) : Step → Bool
  | .write _ => false
  | .notify now res _ => w.concerns res && !debounced lastReload now

variable {w} {s : Watch} {i : Step} {steps : List Step} {raw : String} {config : GatewayConfig}

theorem currentConfig_apply (newConfig : GatewayConfig) (s : Watch) :
    (apply newConfig s).currentConfig = settle s.currentConfig newConfig := by
  unfold apply settle
  split <;> rfl

theorem file_apply (newConfig : GatewayConfig) (s : Watch) :
    (apply newConfig s).file = s.file := by
  unfold apply
  split <;> rfl

theorem reload_of_valid (hfile : s.file = some raw) (hload : w.format.load raw = .ok config)
    (hvalid : validateConfig config = .ok ()) (writable : Bool) :
    w.reload writable s = apply config s := by
  have hsame : ({ s with file := some raw } : Watch) = s := by rw [← hfile]
  simp only [reload, ConfigFormat.loadConfig, hfile, hload, hvalid, hsame]

theorem currentConfig_reload (writable : Bool) (s : Watch) :
    (w.reload writable s).currentConfig = s.currentConfig ∨
      validateConfig (w.reload writable s).currentConfig = .ok () := by
  rw [reload]
  split
  · exact .inl rfl
  · split
    · exact .inl rfl
    · next hvalid =>
      rw [currentConfig_apply, settle]
      split
      · exact .inr hvalid
      · exact .inl rfl

theorem valid_step (h : Valid s.currentConfig) (i : Step) : Valid (w.step s i).currentConfig := by
  cases i with
  | write content => exact h
  | notify now res writable =>
    rw [step, onEvent]
    split
    · split
      · exact h
      · rcases currentConfig_reload (w := w) writable { s with lastReload := now } with heq | hvalid
        · rw [heq]
          exact h
        · exact (validateConfig_eq_ok_iff _).mp hvalid
    · exact h

/-- No edit of the file puts an invalid config in use. -/
theorem valid_run (h : Valid s.currentConfig) (steps : List Step) :
    Valid (w.run s steps).currentConfig := by
  induction steps generalizing s with
  | nil => exact h
  | cons i steps ih => exact ih (valid_step h i)

theorem step_of_not_acts (hi : isNotification i = true) (h : w.acts s.lastReload i = false) :
    w.step s i = s := by
  cases i with
  | write content => cases hi
  | notify now res writable =>
    rw [step, onEvent]
    split
    · next hconcerns =>
      rw [acts, hconcerns, Bool.true_and, Bool.not_eq_false'] at h
      rw [if_pos h]
    · rfl

theorem step_of_acts (hfile : s.file = some raw) (hload : w.format.load raw = .ok config)
    (hvalid : validateConfig config = .ok ()) (h : w.acts s.lastReload i = true) :
    (w.step s i).file = some raw ∧
      (w.step s i).currentConfig = settle s.currentConfig config := by
  cases i with
  | write content => cases h
  | notify now res writable =>
    rw [acts, Bool.and_eq_true, Bool.not_eq_true'] at h
    rw [step, onEvent, if_pos h.1, if_neg (Bool.eq_false_iff.mp h.2),
      reload_of_valid (s := { s with lastReload := now }) hfile hload hvalid, file_apply,
      currentConfig_apply]
    exact ⟨hfile, rfl⟩

/-- Once the config in use has settled, reading the same file again changes nothing. -/
theorem currentConfig_run_of_settled (hfile : s.file = some raw)
    (hload : w.format.load raw = .ok config) (hvalid : validateConfig config = .ok ())
    (hsteps : ∀ i ∈ steps, isNotification i = true)
    (hsettled : settle s.currentConfig config = s.currentConfig) :
    (w.run s steps).currentConfig = s.currentConfig := by
  induction steps generalizing s with
  | nil => rfl
  | cons i steps ih =>
    obtain ⟨hi, hrest⟩ := List.forall_mem_cons.mp hsteps
    rw [run, List.foldl_cons]
    cases hacts : w.acts s.lastReload i with
    | false =>
      rw [step_of_not_acts hi hacts]
      exact ih hfile hrest hsettled
    | true =>
      obtain ⟨hfile', hconfig⟩ := step_of_acts hfile hload hvalid hacts
      rw [hsettled] at hconfig
      have hrun := ih hfile' hrest (by rw [hconfig, hsettled])
      exact hrun.trans hconfig

theorem currentConfig_run_of_acts (hfile : s.file = some raw)
    (hload : w.format.load raw = .ok config) (hvalid : validateConfig config = .ok ())
    (hsteps : ∀ i ∈ steps, isNotification i = true)
    (hacts : ∃ i ∈ steps, w.acts s.lastReload i = true) :
    (w.run s steps).currentConfig = settle s.currentConfig config := by
  induction steps generalizing s with
  | nil => obtain ⟨i, hi, -⟩ := hacts; cases hi
  | cons i steps ih =>
    obtain ⟨hi, hrest⟩ := List.forall_mem_cons.mp hsteps
    rw [run, List.foldl_cons]
    cases hhead : w.acts s.lastReload i with
    | false =>
      rw [step_of_not_acts hi hhead]
      refine ih hfile hrest ?_
      obtain ⟨j, hj, hjacts⟩ := hacts
      rcases List.mem_cons.mp hj with rfl | hj
      · exact absurd (hjacts.symm.trans hhead) (by decide)
      · exact ⟨j, hj, hjacts⟩
    | true =>
      obtain ⟨hfile', hconfig⟩ := step_of_acts hfile hload hvalid hhead
      have hrun := currentConfig_run_of_settled hfile' hload hvalid hrest
        (by rw [hconfig, settle_settle])
      exact hrun.trans hconfig

/-- What is read last is in use. -/
theorem lastEdit_active (w : Watcher) (s₀ : Watch) (before after : List Step) (raw : String)
    (config : GatewayConfig) (hload : w.format.load raw = .ok config)
    (hvalid : validateConfig config = .ok ())
    (hafter : ∀ i ∈ after, isNotification i = true)
    (hacts : ∃ i ∈ after, w.acts (w.run s₀ before).lastReload i = true) :
    let s := w.run s₀ (before ++ [.write (some raw)])
    let s' := w.run s₀ (before ++ .write (some raw) :: after)
    (ConfigDiff.compute s'.currentConfig config).hasChanges = false ∧
      ((ConfigDiff.compute s.currentConfig config).hasChanges = true →
        s'.currentConfig = config) := by
  intro s s'
  have hs : s = { w.run s₀ before with file := some raw } := by
    simp only [s, run, List.foldl_append, List.foldl_cons, List.foldl_nil, step]
  have hs' : s' = w.run s after := by
    simp only [s, s', run, List.foldl_append, List.foldl_cons, List.foldl_nil]
  have hconfig : s'.currentConfig = settle s.currentConfig config := by
    rw [hs']
    refine currentConfig_run_of_acts ?_ hload hvalid hafter ?_ <;> rw [hs]
    exact hacts
  refine ⟨hconfig ▸ hasChanges_settle _ _, fun hchanges ↦ ?_⟩
  rw [hconfig, settle, if_pos hchanges]

def gatewayJson : Path := ["home", "user", ".adk-gateway", "gateway.json"]

def cronText (schedule : String) : String :=
  "\x7bcron: \x7bjobs: [\x7bid: 'a', schedule: '" ++ schedule ++ "', message: 'm'\x7d]\x7d\x7d"

def cronConfig (schedule : String) : GatewayConfig :=
  { GatewayConfig.default with cron := ⟨[⟨"a", schedule, .object [("message", .string "m")]⟩]⟩ }

def portText : String := "\x7bgateway: \x7bport: 9999\x7d\x7d"

def portConfig : GatewayConfig :=
  { GatewayConfig.default with gateway := ⟨9999, 30, .object []⟩ }

/-- Faithful on the texts that are written below. -/
def threeTexts : ConfigFormat where
  parse raw :=
    if raw = cronText "0 8 * * *" then .ok (cronConfig "0 8 * * *")
    else if raw = cronText "0 9 * * *" then .ok (cronConfig "0 9 * * *")
    else if raw = portText then .ok portConfig
    else .error "not one of the texts"
  defaultText := ""

def gatewayWatcher : Watcher := ⟨threeTexts, gatewayJson⟩

def modified (now : DateTime) : Step := .notify now (.ok ⟨.modify, [gatewayJson]⟩) true

def started : Watch := start 0 none .default

theorem lastEdit_active_threeSeconds :
    (gatewayWatcher.run started ([.write (some (cronText "0 8 * * *")), modified 0] ++
      .write (some (cronText "0 9 * * *")) :: [modified (DateTime.seconds 3)])).currentConfig =
        cronConfig "0 9 * * *" := by
  refine (lastEdit_active gatewayWatcher started _ _ _ _ ?_ ?_ ?_ ?_).2 ?_
  · rfl
  · decide
  · decide
  · exact ⟨_, .head _, by decide⟩
  · decide

theorem not_lastEdit_active :
    (threeTexts.load (cronText "0 9 * * *") = .ok (cronConfig "0 9 * * *") ∧
      validateConfig (cronConfig "0 9 * * *") = .ok () ∧
      (gatewayWatcher.run started [.write (some (cronText "0 8 * * *")), modified 0,
        .write (some (cronText "0 9 * * *")), modified (DateTime.seconds 1)]).currentConfig ≠
          cronConfig "0 9 * * *") ∧
    (threeTexts.load portText = .ok portConfig ∧ validateConfig portConfig = .ok () ∧
      (gatewayWatcher.run started [.write (some portText), modified 0]).currentConfig ≠
        portConfig) := by
  refine ⟨⟨rfl, by decide, fun h ↦ ?_⟩, rfl, by decide, fun h ↦ ?_⟩
  · exact absurd (congrArg GatewayConfig.cron h) (by decide)
  · exact absurd (congrArg GatewayConfig.gateway h) (by decide)

end Watcher

end AdkGateway.ConfigWatcher
