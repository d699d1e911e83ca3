import AdkGateway.ConfigEdits.Writers
import AdkGateway.Foundation.Machine
import AdkGateway.Startup.ReloadedConfig

namespace AdkGateway.ConfigEdits

open ConfigWatcher Cron Foundation Machine Startup

namespace Change

def effect (config : GatewayConfig) : Change → GatewayConfig
  | .addJob job => config.withJobs (config.cron.jobs.filter (fun j ↦ j.id ≠ job.id) ++ [job])
  | .removeJob id => config.withJobs (config.cron.jobs.filter fun j ↦ j.id ≠ id)
  | .replace new => new
  | .addServers servers => config.withServers (servers.foldl addServer config.mcpServers)
  | .removeServer serverId =>
    config.withServers (config.mcpServers.filter fun s ↦ McpServer.serverId s ≠ serverId)
  | .toggleServer serverId =>
    config.withServers
      ((ConfigEdits.toggleServer serverId config.mcpServers).getD config.mcpServers)

/-- A config without the entry that a change replaces. -/
def rest (config : GatewayConfig) : Change → GatewayConfig
  | .addJob job => config.withJobs (config.cron.jobs.filter fun j ↦ j.id ≠ job.id)
  | .removeJob id => config.withJobs (config.cron.jobs.filter fun j ↦ j.id ≠ id)
  | .replace _ => .default
  | .addServers servers =>
    config.withServers (config.mcpServers.filter fun s ↦
      ∀ server ∈ servers, McpServer.serverId s ≠ server.1)
  | .removeServer serverId =>
    config.withServers (config.mcpServers.filter fun s ↦ McpServer.serverId s ≠ serverId)
  | .toggleServer _ => config

end Change

section Servers

theorem foldl_addServer (servers : List Json) (new : List (String × Json)) :
    new.foldl addServer servers =
      servers.filter (fun s ↦ ∀ server ∈ new, McpServer.serverId s ≠ server.1) ++
        new.foldl addServer [] := by
  induction new generalizing servers with
  | nil => simp
  | cons server new ih =>
    rw [List.foldl_cons, List.foldl_cons, ih, ih (addServer [] server), addServer, addServer,
      List.filter_append, List.filter_nil, List.nil_append, List.filter_filter, List.append_assoc]
    congr 2
    funext s
    rw [Bool.eq_iff_iff]
    simp [and_comm]

theorem get_toggled {key : String} (hkey : key ≠ "enabled") (server : Json) :
    (McpServer.toggled server).get key = server.get key := by
  cases server with
  | object fields =>
    simp only [McpServer.toggled, Json.get]
    induction fields with
    | nil => rfl
    | cons field fields ih =>
      rw [List.map_cons, List.lookup_cons, List.lookup_cons, ih]
      cases h : key == field.1 with
      | false => rfl
      | true =>
        have hfield : field.1 ≠ "enabled" := beq_iff_eq.mp h ▸ hkey
        simp only [if_neg hfield]
  | _ => rfl

theorem serverId_toggled (server : Json) :
    McpServer.serverId (McpServer.toggled server) = McpServer.serverId server := by
  rw [McpServer.serverId, HotReload.text, get_toggled (by decide)]
  rfl

theorem toggled_toggled (server : Json) : McpServer.toggled (McpServer.toggled server) = server := by
  have hflipped (value : Json) : McpServer.flipped (McpServer.flipped value) = value := by
    cases value <;> simp [McpServer.flipped]
  cases server with
  | object fields =>
    rw [McpServer.toggled, McpServer.toggled, List.map_map, Json.object.injEq]
    refine List.map_id'' (fun field ↦ ?_) fields
    simp only [Function.comp_apply]
    by_cases h : field.1 = "enabled"
    · simp only [if_pos h, hflipped]
    · simp only [if_neg h]
  | _ => rfl

/-- Toggling twice changes nothing. -/
theorem toggleServer_toggleServer {serverId : String} {servers servers' : List Json}
    (h : toggleServer serverId servers = some servers') :
    toggleServer serverId servers' = some servers := by
  induction servers generalizing servers' with
  | nil => cases h
  | cons server servers ih =>
    rw [toggleServer] at h
    split at h
    · next hid =>
      rw [← Option.some_inj.mp h, toggleServer, serverId_toggled, if_pos hid, toggled_toggled]
    · next hid =>
      obtain ⟨servers'', htoggle, rfl⟩ := Option.map_eq_some_iff.mp h
      rw [toggleServer, if_neg hid, ih htoggle, Option.map_some]

end Servers

section Changes

variable {loaded new a b : GatewayConfig} {change : Change}

theorem onto_eq_effect (h : change.onto loaded = some new) : new = change.effect loaded := by
  cases change with
  | addJob job =>
    obtain ⟨jobs, hjobs, rfl⟩ := Option.map_eq_some_iff.mp h
    rw [pushJob] at hjobs
    split at hjobs
    · cases hjobs
    · next hnew =>
      have hkeep : loaded.cron.jobs.filter (fun j ↦ j.id ≠ job.id) = loaded.cron.jobs := by
        simpa using hnew
      rw [Change.effect, hkeep, Option.some_inj.mp hjobs]
  | removeJob id =>
    obtain ⟨jobs, hjobs, rfl⟩ := Option.map_eq_some_iff.mp h
    simp only [retainJobs] at hjobs
    split at hjobs
    · cases hjobs
    · rw [Change.effect, Option.some_inj.mp hjobs]
  | replace config =>
    rw [Change.onto] at h
    split at h
    · cases h
    · exact (Option.some_inj.mp h).symm
  | addServers servers => exact (Option.some_inj.mp h).symm
  | removeServer serverId =>
    obtain ⟨servers, hservers, rfl⟩ := Option.map_eq_some_iff.mp h
    simp only [retainServers] at hservers
    split at hservers
    · cases hservers
    · rw [Change.effect, Option.some_inj.mp hservers]
  | toggleServer serverId =>
    obtain ⟨servers, hservers, rfl⟩ := Option.map_eq_some_iff.mp h
    rw [Change.effect, hservers, Option.getD_some]

theorem withJobs_eq_withJobs_iff {jobs jobs' : List CronJob} :
    a.withJobs jobs = b.withJobs jobs' ↔ a.withJobs [] = b.withJobs [] ∧ jobs = jobs' := by
  constructor
  · intro h
    have hrest := congrArg (fun config : GatewayConfig ↦ config.withJobs []) h
    have hjobs := congrArg (fun config : GatewayConfig ↦ config.cron.jobs) h
    exact ⟨hrest, hjobs⟩
  · rintro ⟨h, rfl⟩
    have hwith := congrArg (fun config : GatewayConfig ↦ config.withJobs jobs) h
    exact hwith

theorem withServers_eq_withServers_iff {servers servers' : List Json} :
    a.withServers servers = b.withServers servers' ↔
      a.withServers [] = b.withServers [] ∧ servers = servers' := by
  constructor
  · intro h
    have hrest := congrArg (fun config : GatewayConfig ↦ config.withServers []) h
    have hservers := congrArg GatewayConfig.mcpServers h
    exact ⟨hrest, hservers⟩
  · rintro ⟨h, rfl⟩
    have hwith := congrArg (fun config : GatewayConfig ↦ config.withServers servers) h
    exact hwith

theorem effect_effect_toggleServer (config : GatewayConfig) (serverId : String) :
    (Change.toggleServer serverId).effect ((Change.toggleServer serverId).effect config) =
      config := by
  simp only [Change.effect]
  cases h : toggleServer serverId config.mcpServers with
  | none =>
    have hsame : config.withServers config.mcpServers = config := rfl
    rw [Option.getD_none, hsame, h]
    rfl
  | some servers =>
    have htwice := toggleServer_toggleServer h
    rw [Option.getD_some]
    simp only [GatewayConfig.withServers, htwice, Option.getD_some]

theorem effect_eq_effect_iff : change.effect a = change.effect b ↔ change.rest a = change.rest b := by
  cases change with
  | addJob job =>
    rw [Change.effect, Change.effect, Change.rest, Change.rest, withJobs_eq_withJobs_iff,
      List.append_cancel_right_eq, ← withJobs_eq_withJobs_iff]
  | removeJob id => rfl
  | replace config => exact iff_of_true rfl rfl
  | addServers servers =>
    rw [Change.effect, Change.effect, Change.rest, Change.rest, withServers_eq_withServers_iff,
      foldl_addServer a.mcpServers, foldl_addServer b.mcpServers, List.append_cancel_right_eq,
      ← withServers_eq_withServers_iff]
  | removeServer serverId => rfl
  | toggleServer serverId =>
    refine ⟨fun h ↦ ?_, congrArg fun config ↦ (Change.toggleServer serverId).effect config⟩
    have htwice := congrArg (fun config ↦ (Change.toggleServer serverId).effect config) h
    simp only [effect_effect_toggleServer] at htwice
    exact htwice

end Changes

namespace Editing

variable (serde : Serde) (host : Host) (defaultText : String)

/-- The config that the changes make, each of what those before it have made. -/
def expected (original : GatewayConfig) (s : Editing) : GatewayConfig :=
  s.succeeded.foldl Change.effect original

/-- The file says, references and encrypted values as they stand, what it should. -/
def NothingLost (original : GatewayConfig) (s : Editing) : Prop :=
  serde.readConfig s.file = .ok (s.expected original)

def Readable (s : Editing) : Event → Prop
  | .write n _ => ∀ call, s.Pending n call →
      serde.readConfig (serde.toStringPretty call.newConfig.toValue) = .ok call.newConfig
  | .byHand raw config => serde.readConfig raw = .ok config
  | _ => True

/-- A file is written by a call only as long as it still says what the call has loaded, but for the
entry to be changed; and a change that is not written has nothing to do. -/
def UpToDate (s : Editing) : Event → Prop
  | .load n request => ∀ change current, s.AnsweredAsDone serde host defaultText n request change →
      serde.readConfig s.file = .ok current → change.effect current = current
  | .write n written => ∀ call current, s.Pending n call → serde.readConfig s.file = .ok current →
      if written then call.change.rest call.loaded = call.change.rest current
      else call.request.goesOn = true → call.change.effect current = current
  | _ => True

end Editing

section Runs

variable {serde : Serde} {host : Host} {defaultText : String} {original : GatewayConfig}
  {s s' : Editing}

open Editing

theorem expected_append {change : Change} (h : s'.succeeded = s.succeeded ++ [change]) :
    s'.expected original = change.effect (s.expected original) := by
  rw [expected, h, List.foldl_append]
  rfl

theorem nothingLost_of_eq (hfile : s'.file = s.file) (hsucceeded : s'.succeeded = s.succeeded)
    (h : s.NothingLost serde original) : s'.NothingLost serde original := by
  rw [NothingLost, hfile, expected, hsucceeded]
  exact h

theorem nothingLost_unwritten_iff {change : Change} (hfile : s'.file = s.file)
    (hsucceeded : s'.succeeded = s.succeeded ++ [change]) (h : s.NothingLost serde original) :
    s'.NothingLost serde original ↔
      ∀ current, serde.readConfig s.file = .ok current → change.effect current = current := by
  rw [NothingLost, hfile, expected_append hsucceeded]
  constructor
  · intro h' current hcurrent
    have hsame := Except.ok.inj (hcurrent.symm.trans h)
    rw [hsame]
    exact Except.ok.inj (h'.symm.trans h)
  · intro hidle
    rw [hidle _ h]
    exact h

/-- A change that is written is not alone lost, nor does it undo others, just if the config it was
made of is up to date but for its entry. -/
theorem nothingLost_written_iff {call : Call}
    (hfile : s'.file = serde.toStringPretty call.newConfig.toValue)
    (hsucceeded : s'.succeeded = s.succeeded ++ [call.change])
    (hread : serde.readConfig (serde.toStringPretty call.newConfig.toValue) = .ok call.newConfig)
    (hnew : call.newConfig = call.change.effect call.loaded) (h : s.NothingLost serde original) :
    s'.NothingLost serde original ↔ ∀ current, serde.readConfig s.file = .ok current →
      call.change.rest call.loaded = call.change.rest current := by
  rw [NothingLost, hfile, expected_append hsucceeded, hread, hnew, Except.ok.injEq,
    effect_eq_effect_iff]
  constructor
  · intro hrest current hcurrent
    rw [Except.ok.inj (hcurrent.symm.trans h)]
    exact hrest
  · exact fun hrest ↦ hrest _ h

def CallsInv (s : Editing) : Prop :=
  ∀ n call, s.calls.lookup n = some call → call.newConfig = call.change.effect call.loaded

theorem callsInv_insert {n : ℕ} {call : Call} (hcalls : s'.calls = s.calls.insert n call)
    (hcall : call.newConfig = call.change.effect call.loaded) (h : CallsInv s) : CallsInv s' := by
  rw [CallsInv, hcalls]
  exact KeyedMap.forall_lookup_insert hcall h

theorem callsInv_succeed {n : ℕ} {call : Call}
    (hcall : call.newConfig = call.change.effect call.loaded) (h : CallsInv s) :
    CallsInv (s.succeed n call) := by
  have hsucceeded : ({ call with succeeded := true } : Call).newConfig =
      call.change.effect call.loaded := hcall
  exact callsInv_insert rfl hsucceeded h

theorem callsInv_erase {n : ℕ} (hcalls : s'.calls = s.calls.erase n) (h : CallsInv s) :
    CallsInv s' := by
  rw [CallsInv, hcalls]
  exact KeyedMap.forall_lookup_erase h

theorem callsInv_step (event : Event) (h : CallsInv s) :
    CallsInv (s.apply serde host defaultText event) := by
  cases event with
  | load n request =>
    change CallsInv (s.load serde host defaultText n request)
    rcases load_cases serde host defaultText s n request with
      ⟨_, -, heq⟩ | ⟨change, loaded, newConfig, -, honto, -, heq, -⟩ | ⟨heq, -⟩
    · rw [heq]
      exact h
    · rw [heq]
      exact callsInv_insert rfl (onto_eq_effect honto) h
    · rw [heq]
      exact h
  | write n written =>
    change CallsInv (s.write serde n written)
    rcases write_cases serde s n written with
      ⟨call, ⟨hcall, -⟩, ⟨-, heq⟩ | ⟨-, -, heq⟩ | ⟨-, -, heq⟩⟩ | ⟨heq, -⟩
    · rw [heq]
      exact callsInv_succeed (h n call hcall) h
    · rw [heq]
      exact callsInv_succeed (h n call hcall) h
    · rw [heq]
      exact callsInv_erase rfl h
    · rw [heq]
      exact h
  | store n =>
    change CallsInv (s.store n)
    rcases store_cases s n with ⟨call, -, heq⟩ | heq
    · rw [heq]
      exact callsInv_erase rfl h
    · rw [heq]
      exact h
  | byHand raw config => exact h

theorem nothingLost_load_iff (n : ℕ) (request : Request) (hlost : s.NothingLost serde original) :
    (s.load serde host defaultText n request).NothingLost serde original ↔
      s.UpToDate serde host defaultText (.load n request) := by
  rcases load_cases serde host defaultText s n request with
    ⟨change, hdone, heq⟩ | ⟨_, _, _, -, -, -, heq, hnot⟩ | ⟨heq, hnot⟩
  · have hsucceeded : (s.load serde host defaultText n request).succeeded =
        s.succeeded ++ [change] := by rw [heq]
    rw [nothingLost_unwritten_iff (by rw [heq]) hsucceeded hlost]
    constructor
    · intro hidle change' current hdone' hcurrent
      obtain rfl := Option.some_inj.mp (hdone.2.1.symm.trans hdone'.2.1)
      exact hidle current hcurrent
    · exact fun hup current hcurrent ↦ hup change current hdone hcurrent
  · rw [heq]
    exact iff_of_true (nothingLost_of_eq rfl rfl hlost) fun _ _ hdone ↦ absurd hdone (hnot _)
  · rw [heq]
    exact iff_of_true hlost fun _ _ hdone ↦ absurd hdone (hnot _)

theorem nothingLost_write_iff (n : ℕ) (written : Bool) (hlost : s.NothingLost serde original)
    (hcalls : CallsInv s) (hread : s.Readable serde (.write n written)) :
    (s.write serde n written).NothingLost serde original ↔
      s.UpToDate serde host defaultText (.write n written) := by
  rcases write_cases serde s n written with ⟨call, hpending, hcase⟩ | ⟨heq, hnot⟩
  · have hup : s.UpToDate serde host defaultText (.write n written) ↔
        ∀ current, serde.readConfig s.file = .ok current →
          if written then call.change.rest call.loaded = call.change.rest current
          else call.request.goesOn = true → call.change.effect current = current := by
      refine ⟨fun h current ↦ h call current hpending, fun h call' current hpending' ↦ ?_⟩
      obtain rfl := Option.some_inj.mp (hpending.1.symm.trans hpending'.1)
      exact h current
    rw [hup]
    rcases hcase with ⟨rfl, heq⟩ | ⟨rfl, hgoes, heq⟩ | ⟨rfl, hgoes, heq⟩
    · have hsucceeded : (s.write serde n true).succeeded = s.succeeded ++ [call.change] := by
        rw [heq]
        rfl
      rw [nothingLost_written_iff (by rw [heq]) hsucceeded (hread call hpending)
        (hcalls n call hpending.1) hlost]
      rfl
    · have hsucceeded : (s.write serde n false).succeeded = s.succeeded ++ [call.change] := by
        rw [heq]
        rfl
      have hfile : (s.write serde n false).file = s.file := by
        rw [heq]
        rfl
      rw [nothingLost_unwritten_iff hfile hsucceeded hlost]
      simp [hgoes]
    · rw [heq]
      refine iff_of_true (nothingLost_of_eq rfl rfl hlost) fun current _ ↦ ?_
      simp [hgoes]
  · rw [heq]
    exact iff_of_true hlost fun call _ hpending ↦ absurd hpending (hnot call)

theorem nothingLost_step_iff (event : Event) (hlost : s.NothingLost serde original)
    (hcalls : CallsInv s) (hread : s.Readable serde event) :
    (s.apply serde host defaultText event).NothingLost serde original ↔
      s.UpToDate serde host defaultText event := by
  cases event with
  | load n request => exact nothingLost_load_iff n request hlost
  | write n written => exact nothingLost_write_iff n written hlost hcalls hread
  | store n =>
    refine iff_of_true ?_ trivial
    change (s.store n).NothingLost serde original
    rcases store_cases s n with ⟨call, -, heq⟩ | heq
    · rw [heq]
      exact nothingLost_of_eq rfl rfl hlost
    · rw [heq]
      exact hlost
  | byHand raw config =>
    have hsucceeded : (s.apply serde host defaultText (.byHand raw config)).succeeded =
        s.succeeded ++ [.replace config] := rfl
    refine iff_of_true ?_ trivial
    rw [NothingLost, expected_append hsucceeded]
    exact hread

structure Inv (serde : Serde) (original : GatewayConfig) (s : Editing) : Prop where
  nothingLost : s.NothingLost serde original
  calls : CallsInv s

theorem inv_start {raw : String} (hraw : serde.readConfig raw = .ok original)
    (config : GatewayConfig) : Inv serde original (start raw config) := by
  refine ⟨hraw, fun n call hcall ↦ ?_⟩
  rw [Editing.start, AList.lookup_empty] at hcall
  cases hcall

/-- The file has the effect of all changes that have succeeded, in their order and in every state of
a run, just if each is made of a config that is up to date but for its entry. -/
theorem nothingLost_iff (serde : Serde) (host : Host) (defaultText raw : String)
    (original config : GatewayConfig) (events : List Event)
    (hraw : serde.readConfig raw = .ok original)
    (hread : Along (Editing.step serde host defaultText) (Readable serde) (start raw config)
      events) :
    (∀ s ∈ outputs (Editing.step serde host defaultText) (start raw config) events,
      s.NothingLost serde original) ↔
    Along (Editing.step serde host defaultText) (UpToDate serde host defaultText)
      (start raw config) events := by
  refine forall_outputs_iff_of_along (Editing.step serde host defaultText) ?_
    (inv_start hraw config) hread
  intro s event hinv hreadable
  have hiff : (s.apply serde host defaultText event).NothingLost serde original ↔
      s.UpToDate serde host defaultText event :=
    nothingLost_step_iff event hinv.nothingLost hinv.calls hreadable
  exact ⟨hiff, fun hup ↦ ⟨hiff.mpr hup, callsInv_step event hinv.calls⟩⟩

end Runs

section Vectors

open Editing

def taskPayload (id : String) : Json :=
  .object [("id", .string id), ("schedule", .string "@every 1h"), ("message", .string id)]

def taskJob (id : String) : CronJob :=
  ⟨id, "@every 1h", .object [("message", .string id), ("deliverTo", .null)]⟩

/-- All but the jobs is left to the defaults. -/
def tasksConfig (ids : List String) : GatewayConfig :=
  GatewayConfig.default.withJobs (ids.map taskJob)

def prettyText (config : GatewayConfig) : String :=
  String.ofList (Replace.render '"' twoReadings.escape (prettyPieces 0 config.toValue))

/-- Faithful on the empty document, and on what is written of a config with one task. -/
def taskReadings (id : String) : Serde :=
  { twoReadings with
    pieces := prettyPieces 0
    readConfig := fun raw ↦
      if raw = prettyText (tasksConfig [id]) then .ok (tasksConfig [id])
      else if raw = "\x7b\x7d" then .ok .default
      else .error "not one of the texts" }

/-- The first entry of a config is written on a line of its own. -/
theorem prettyText_ne (config : GatewayConfig) {text : String} (h : text.toList[1]? ≠ some '\n') :
    prettyText config ≠ text := by
  rintro rfl
  refine h ?_
  rw [prettyText, String.toList_ofList]
  simp [GatewayConfig.toValue, prettyPieces, Replace.render, Replace.Piece.render, newline]

theorem readConfig_empty (id : String) : (taskReadings id).readConfig "\x7b\x7d" = .ok .default := by
  have hne : "\x7b\x7d" ≠ prettyText (tasksConfig [id]) := (prettyText_ne _ (by decide)).symm
  simp only [taskReadings, if_neg hne, if_true]

theorem readConfig_tasksConfig (id : String) :
    (taskReadings id).readConfig ((taskReadings id).toStringPretty (tasksConfig [id]).toValue) =
      .ok (tasksConfig [id]) := by
  have htext : (taskReadings id).toStringPretty (tasksConfig [id]).toValue =
      prettyText (tasksConfig [id]) := rfl
  rw [htext]
  simp only [taskReadings, if_true]

theorem newJob_taskPayload_a : newJob (taskPayload "a") = some (taskJob "a") := by
  decide +kernel

theorem newJob_taskPayload_b : newJob (taskPayload "b") = some (taskJob "b") := by
  decide +kernel

theorem load_addJob (serde : Serde) (host : Host) (defaultText : String) (s : Editing) (n : ℕ)
    {request : Request} {loaded : GatewayConfig} {job : CronJob} (hn : s.calls.lookup n = none)
    (hchange : request.change = some (.addJob job))
    (hload : s.loadFor serde host defaultText request.writer = some loaded)
    (hjobs : loaded.cron.jobs = []) :
    s.load serde host defaultText n request =
      { s with
        calls := s.calls.insert n
          ⟨request, .addJob job, loaded, loaded.withJobs [job], false⟩ } := by
  have honto : (Change.addJob job).onto loaded = some (loaded.withJobs [job]) := by
    simp [Change.onto, pushJob, hjobs]
  simp only [Editing.load, hn, hchange, hload, honto]

def createA : Request := .scheduledTaskCreate (taskPayload "a") false

def createB : Request := .taskCreate (taskPayload "b")

theorem change_createA : createA.change = some (.addJob (taskJob "a")) := by
  rw [createA, Request.change, newJob_taskPayload_a]
  rfl

theorem change_createB : createB.change = some (.addJob (taskJob "b")) := by
  rw [createB, Request.change, newJob_taskPayload_b]
  rfl

theorem run_addJob (serde : Serde) (host : Host) (defaultText : String) {s : Editing} (n : ℕ)
    {request : Request} {loaded : GatewayConfig} {job : CronJob} (hcalls : s.calls = ∅)
    (hchange : request.change = some (.addJob job))
    (hload : s.loadFor serde host defaultText request.writer = some loaded)
    (hjobs : loaded.cron.jobs = []) :
    run (Editing.step serde host defaultText) s [.load n request, .write n true, .store n] =
      { file := serde.toStringPretty (loaded.withJobs [job]).toValue
        tools := if request.writer = .tools then loaded.withJobs [job] else s.tools
        panel := if request.writer = .panel then loaded.withJobs [job] else s.panel
        calls := ∅
        succeeded := s.succeeded ++ [.addJob job] } := by
  have hn : s.calls.lookup n = none := by rw [hcalls, AList.lookup_empty]
  have hloaded := load_addJob serde host defaultText s n hn hchange hload hjobs
  have hempty (call call' : Call) :
      (((∅ : KeyedMap ℕ Call).insert n call).insert n call').erase n = ∅ := by
    apply AList.ext
    simp [AList.erase, AList.insert]
  simp only [run, Editing.step, Editing.apply, hloaded]
  simp only [Editing.write, AList.lookup_insert, Editing.succeed, Bool.false_eq_true, if_false,
    if_true, Editing.store, hcalls, hempty]
  cases request.writer <;> rfl

theorem nothingLost_iff_one :
    Along (Editing.step (taskReadings "a") zeroHost "") (UpToDate (taskReadings "a") zeroHost "")
      (Editing.start "\x7b\x7d" .default) [.load 0 createA, .write 0 true, .store 0] ∧
    ∀ s ∈ outputs (Editing.step (taskReadings "a") zeroHost "") (Editing.start "\x7b\x7d" .default)
      [.load 0 createA, .write 0 true, .store 0], s.NothingLost (taskReadings "a") .default := by
  have hload := load_addJob (taskReadings "a") zeroHost "" (Editing.start "\x7b\x7d" .default) 0 rfl
    change_createA rfl rfl
  have hpending {call : Call}
      (h : ((Editing.start "\x7b\x7d" .default).load (taskReadings "a") zeroHost "" 0 createA).Pending
        0 call) : call = ⟨createA, .addJob (taskJob "a"), .default, tasksConfig ["a"], false⟩ := by
    rw [hload] at h
    exact (Option.some_inj.mp h.1).symm
  have hup : Along (Editing.step (taskReadings "a") zeroHost "")
      (UpToDate (taskReadings "a") zeroHost "") (Editing.start "\x7b\x7d" .default)
      [.load 0 createA, .write 0 true, .store 0] := by
    refine ⟨?_, fun call current h hcurrent ↦ ?_, trivial, trivial⟩
    · rintro _ _ ⟨-, -, hdone, -⟩
      cases hdone
    · rw [hpending h]
      change (taskReadings "a").readConfig
        ((Editing.start "\x7b\x7d" .default).load (taskReadings "a") zeroHost "" 0 createA).file =
          .ok current at hcurrent
      rw [hload] at hcurrent
      rw [Except.ok.inj (hcurrent.symm.trans (readConfig_empty "a"))]
      rfl
  refine ⟨hup, (nothingLost_iff (taskReadings "a") zeroHost "" "\x7b\x7d" .default .default _
    (readConfig_empty "a") ?_).mpr hup⟩
  refine ⟨trivial, fun call h ↦ ?_, trivial, trivial⟩
  rw [hpending h]
  exact readConfig_tasksConfig "a"

/-- The panel creates a task, and after that a tool does from the config that the gateway was
started with. -/
theorem not_nothingLost :
    let s := run (Editing.step (taskReadings "b") zeroHost "") (Editing.start "\x7b\x7d" .default)
      [.load 0 createA, .write 0 true, .store 0, .load 1 createB, .write 1 true, .store 1]
    s.calls = ∅ ∧ s.succeeded = [.addJob (taskJob "a"), .addJob (taskJob "b")] ∧
      (taskReadings "b").readConfig s.file = .ok (tasksConfig ["b"]) ∧
      s.expected .default = tasksConfig ["a", "b"] := by
  intro s
  have hfirst := run_addJob (taskReadings "b") zeroHost "" (s := Editing.start "\x7b\x7d" .default) 0
    rfl change_createA rfl rfl
  have hs : s = _ := run_append (Editing.step (taskReadings "b") zeroHost "")
    (Editing.start "\x7b\x7d" .default) [.load 0 createA, .write 0 true, .store 0]
    [.load 1 createB, .write 1 true, .store 1]
  rw [hfirst, run_addJob (taskReadings "b") zeroHost "" 1 rfl change_createB rfl rfl] at hs
  rw [hs]
  exact ⟨rfl, rfl, readConfig_tasksConfig "b", rfl⟩

end Vectors

end AdkGateway.ConfigEdits
