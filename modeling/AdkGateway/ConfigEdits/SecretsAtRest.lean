import AdkGateway.ConfigEdits.NoLostUpdate
import AdkGateway.Foundation.JsonPath

namespace AdkGateway.ConfigEdits

open Foundation Machine Startup

def Holds (config : GatewayConfig) (secret : String) : Prop :=
  ∃ x ∈ config.toValue.strings none, secret.toList <:+: x.2.toList

instance (config : GatewayConfig) (secret : String) : Decidable (Holds config secret) :=
  inferInstanceAs (Decidable (∃ x ∈ _, _))

/-- The file is read as it stands, without the variables and without the key. -/
def Reveals (serde : Serde) (file secret : String) : Prop :=
  ∃ config, serde.readConfig file = .ok config ∧ Holds config secret

namespace Request

def isConfigSave : Request → Bool
  | .configSave _ => true
  | _ => false

end Request

namespace Editing

variable (serde : Serde) (host : Host) (defaultText secret : String)

/-- The request is not about the secret: the new config has it just if the loaded one does. Nor is
it put into the file by hand. -/
def Unasked (s : Editing) : Event → Prop
  | .load _ request => request.isConfigSave = false ∧ ∀ change loaded newConfig,
      request.change = some change →
      s.loadFor serde host defaultText request.writer = some loaded →
      change.onto loaded = some newConfig → (Holds newConfig secret ↔ Holds loaded secret)
  | .write n written => s.Readable serde (.write n written)
  | .store _ => True
  | .byHand raw _ => ¬ Reveals serde raw secret

/-- Of the writers only a command writes the file, and of a config without the secret. -/
def Discreet (s : Editing) : Event → Prop
  | .write n true => ∀ call, s.Pending n call →
      call.request.writer = .command ∧ ¬ Holds call.loaded secret
  | _ => True

structure InMemory (s : Editing) : Prop where
  tools : Holds s.tools secret
  panel : Holds s.panel secret
  newConfig_iff : ∀ n call, s.calls.lookup n = some call →
    (Holds call.newConfig secret ↔ Holds call.loaded secret)
  loaded : ∀ n call, s.calls.lookup n = some call → call.request.writer ≠ .command →
    Holds call.loaded secret

end Editing

section Runs

variable {serde : Serde} {host : Host} {defaultText secret : String} {s s' : Editing}

open Editing

theorem inMemory_insert {n : ℕ} {call : Call} (h : s.InMemory secret) (htools : s'.tools = s.tools)
    (hpanel : s'.panel = s.panel) (hcalls : s'.calls = s.calls.insert n call)
    (hnew : Holds call.newConfig secret ↔ Holds call.loaded secret)
    (hloaded : call.request.writer ≠ .command → Holds call.loaded secret) :
    s'.InMemory secret := by
  refine ⟨htools ▸ h.tools, hpanel ▸ h.panel, ?_, ?_⟩
  · rw [hcalls]
    exact KeyedMap.forall_lookup_insert hnew h.newConfig_iff
  · rw [hcalls]
    exact KeyedMap.forall_lookup_insert hloaded h.loaded

theorem inMemory_erase {n : ℕ} (htools : Holds s'.tools secret) (hpanel : Holds s'.panel secret)
    (hcalls : s'.calls = s.calls.erase n) (h : s.InMemory secret) : s'.InMemory secret := by
  refine ⟨htools, hpanel, ?_, ?_⟩
  · rw [hcalls]
    exact KeyedMap.forall_lookup_erase h.newConfig_iff
  · rw [hcalls]
    exact KeyedMap.forall_lookup_erase h.loaded

theorem holds_loadFor {writer : Writer} {loaded : GatewayConfig} (h : s.InMemory secret)
    (hload : s.loadFor serde host defaultText writer = some loaded) (hwriter : writer ≠ .command) :
    Holds loaded secret := by
  cases writer with
  | tools => exact Option.some_inj.mp hload ▸ h.tools
  | panel => exact Option.some_inj.mp hload ▸ h.panel
  | command => exact absurd rfl hwriter

theorem inMemory_load (n : ℕ) (request : Request) (h : s.InMemory secret)
    (hunasked : s.Unasked serde host defaultText secret (.load n request)) :
    (s.load serde host defaultText n request).InMemory secret := by
  rcases load_cases serde host defaultText s n request with
    ⟨_, -, heq⟩ | ⟨change, loaded, newConfig, hload, honto, hchange, heq, -⟩ | ⟨heq, -⟩
  · rw [heq]
    exact ⟨h.tools, h.panel, h.newConfig_iff, h.loaded⟩
  · rw [heq]
    exact inMemory_insert h rfl rfl rfl (hunasked.2 change loaded newConfig hchange hload honto)
      (holds_loadFor h hload)
  · rw [heq]
    exact h

theorem inMemory_succeed {n : ℕ} {call : Call} (h : s.InMemory secret)
    (hcall : s.calls.lookup n = some call) : (s.succeed n call).InMemory secret := by
  have hnew : Holds ({ call with succeeded := true } : Call).newConfig secret ↔
      Holds call.loaded secret := h.newConfig_iff n call hcall
  exact inMemory_insert h rfl rfl rfl hnew (h.loaded n call hcall)

theorem inMemory_write (n : ℕ) (written : Bool) (h : s.InMemory secret) :
    (s.write serde n written).InMemory secret := by
  rcases write_cases serde s n written with
    ⟨call, ⟨hcall, -⟩, ⟨-, heq⟩ | ⟨-, -, heq⟩ | ⟨-, -, heq⟩⟩ | ⟨heq, -⟩
  · have hsucceed := inMemory_succeed h hcall
    rw [heq]
    exact ⟨hsucceed.tools, hsucceed.panel, hsucceed.newConfig_iff, hsucceed.loaded⟩
  · rw [heq]
    exact inMemory_succeed h hcall
  · rw [heq]
    exact inMemory_erase h.tools h.panel rfl h
  · rw [heq]
    exact h

theorem inMemory_store (n : ℕ) (h : s.InMemory secret) : (s.store n).InMemory secret := by
  rcases store_cases s n with ⟨call, hcall, heq⟩ | heq
  · have hnew (hwriter : call.request.writer ≠ .command) : Holds call.newConfig secret :=
      (h.newConfig_iff n call hcall).mpr (h.loaded n call hcall hwriter)
    rw [heq]
    refine inMemory_erase ?_ ?_ rfl h
    · simp only
      split
      · next hwriter => exact hnew (by simp [hwriter])
      · exact h.tools
    · simp only
      split
      · next hwriter => exact hnew (by simp [hwriter])
      · exact h.panel
  · rw [heq]
    exact h

theorem inMemory_apply (event : Event) (h : s.InMemory secret)
    (hunasked : s.Unasked serde host defaultText secret event) :
    (s.apply serde host defaultText event).InMemory secret := by
  cases event with
  | load n request => exact inMemory_load n request h hunasked
  | write n written => exact inMemory_write n written h
  | store n => exact inMemory_store n h
  | byHand raw config => exact ⟨h.tools, h.panel, h.newConfig_iff, h.loaded⟩

theorem reveals_write_iff {n : ℕ} {call : Call} (h : s.InMemory secret) (hpending : s.Pending n call)
    (hread : serde.readConfig (serde.toStringPretty call.newConfig.toValue) = .ok call.newConfig) :
    ¬ Reveals serde (serde.toStringPretty call.newConfig.toValue) secret ↔
      call.request.writer = .command ∧ ¬ Holds call.loaded secret := by
  have hreveals : Reveals serde (serde.toStringPretty call.newConfig.toValue) secret ↔
      Holds call.loaded secret := by
    rw [← h.newConfig_iff n call hpending.1, Reveals, hread]
    simp only [Except.ok.injEq, exists_eq_left']
  rw [hreveals]
  refine ⟨fun hnot ↦ ⟨?_, hnot⟩, And.right⟩
  by_contra hwriter
  exact hnot (h.loaded n call hpending.1 hwriter)

theorem reveals_apply_iff (event : Event) (h : s.InMemory secret)
    (hfile : ¬ Reveals serde s.file secret)
    (hunasked : s.Unasked serde host defaultText secret event) :
    ¬ Reveals serde (s.apply serde host defaultText event).file secret ↔ s.Discreet secret event := by
  cases event with
  | load n request =>
    refine iff_of_true ?_ trivial
    change ¬ Reveals serde (s.load serde host defaultText n request).file secret
    rcases load_cases serde host defaultText s n request with
      ⟨_, -, heq⟩ | ⟨_, _, _, -, -, -, heq, -⟩ | ⟨heq, -⟩
    all_goals
      rw [heq]
      exact hfile
  | write n written =>
    change ¬ Reveals serde (s.write serde n written).file secret ↔ _
    rcases write_cases serde s n written with
      ⟨call, hpending, ⟨rfl, heq⟩ | ⟨rfl, -, heq⟩ | ⟨rfl, -, heq⟩⟩ | ⟨heq, hnot⟩
    · rw [heq, reveals_write_iff h hpending (hunasked call hpending)]
      refine ⟨fun hdiscreet call' hpending' ↦ ?_, fun hdiscreet ↦ hdiscreet call hpending⟩
      obtain rfl := Option.some_inj.mp (hpending.1.symm.trans hpending'.1)
      exact hdiscreet
    · rw [heq]
      exact iff_of_true hfile trivial
    · rw [heq]
      exact iff_of_true hfile trivial
    · rw [heq]
      refine iff_of_true hfile ?_
      cases written with
      | true => exact fun call hpending ↦ absurd hpending (hnot call)
      | false => trivial
  | store n =>
    refine iff_of_true ?_ trivial
    change ¬ Reveals serde (s.store n).file secret
    rcases store_cases s n with ⟨_, -, heq⟩ | heq
    all_goals
      rw [heq]
      exact hfile
  | byHand raw config => exact iff_of_true hunasked trivial

structure Kept (serde : Serde) (secret : String) (s : Editing) : Prop where
  file : ¬ Reveals serde s.file secret
  memory : s.InMemory secret

theorem kept_start {raw : String} {config : GatewayConfig} (hfile : ¬ Reveals serde raw secret)
    (hconfig : Holds config secret) : Kept serde secret (Editing.start raw config) := by
  refine ⟨hfile, hconfig, hconfig, fun n call hcall ↦ ?_, fun n call hcall ↦ ?_⟩
  all_goals
    rw [Editing.start, AList.lookup_empty] at hcall
    cases hcall

/-- A secret that the gateway has in memory and the file does not stays out of the file, in every
state of a run of requests that are not about it, just if nothing is written to the file but by
commands, and these of a config without the secret. -/
theorem secretsAtRest_iff (serde : Serde) (host : Host) (defaultText raw secret : String)
    (config : GatewayConfig) (events : List Event) (hfile : ¬ Reveals serde raw secret)
    (hconfig : Holds config secret)
    (hunasked : Along (Editing.step serde host defaultText)
      (Unasked serde host defaultText secret) (Editing.start raw config) events) :
    (∀ s ∈ outputs (Editing.step serde host defaultText) (Editing.start raw config) events,
      ¬ Reveals serde s.file secret) ↔
    Along (Editing.step serde host defaultText) (Discreet secret) (Editing.start raw config)
      events := by
  refine forall_outputs_iff_of_along (Editing.step serde host defaultText) ?_
    (kept_start hfile hconfig) hunasked
  intro s event hkept hevent
  have hiff : ¬ Reveals serde (s.apply serde host defaultText event).file secret ↔
      s.Discreet secret event := reveals_apply_iff event hkept.memory hkept.file hevent
  exact ⟨hiff, fun hdiscreet ↦ ⟨hiff.mpr hdiscreet, inMemory_apply event hkept.memory hevent⟩⟩

end Runs

section Vectors

open Editing

def hookToken : String := "$\x7bHOOK_TOKEN\x7d"

def tokenConfig (token : String) : GatewayConfig :=
  { GatewayConfig.default with
    hooks := .object [("enabled", .bool true), ("token", .string token)] }

def tokenText (token : String) : String :=
  "\x7bhooks: \x7benabled: true, token: '" ++ token ++ "'\x7d\x7d"

def tokenTaskConfig : GatewayConfig := (tokenConfig "s3cret").withJobs [taskJob "b"]

/-- Faithful on the text with the reference, the one with the token, and what is written. -/
def tokenReadings : Serde :=
  { twoReadings with
    pieces := prettyPieces 0
    readConfig := fun raw ↦
      if raw = tokenText hookToken then .ok (tokenConfig hookToken)
      else if raw = tokenText "s3cret" then .ok (tokenConfig "s3cret")
      else if raw = prettyText tokenTaskConfig then .ok tokenTaskConfig
      else .error "not one of the texts" }

def tokenHost : Host where
  var name := if name = "HOOK_TOKEN" then some "s3cret" else none
  keyFile _ := none
  utf8Lossy _ := ""

theorem load_tokenText : (configFormat tokenReadings tokenHost "").load (tokenText hookToken) =
    .ok (tokenConfig "s3cret") := by
  have hexpand : String.ofList (expandEnvVars tokenHost (tokenText hookToken).toList) =
      tokenText "s3cret" := by decide +kernel
  have hread : tokenReadings.readConfig (tokenText "s3cret") = .ok (tokenConfig "s3cret") := by
    simp only [tokenReadings]
    rw [if_neg (by decide +kernel), if_true]
  have hrunner : ConfigWatcher.validateRunner (tokenConfig "s3cret") = .ok (tokenConfig "s3cret") :=
    rfl
  simp only [ConfigWatcher.ConfigFormat.load, configFormat, hexpand, hread, hrunner]

theorem start_tokenText :
    Startup.start twoVectors tokenHost tokenReadings "" (tokenText hookToken) =
      .ok (tokenConfig "s3cret") := by
  have hplain : hasEncryptedValues (tokenConfig "s3cret").toValue = false := by decide
  exact start_eq_ok_iff.mpr ⟨_, load_tokenText, decryptAtStartup_of_plain hplain, by decide⟩

theorem holds_tokenConfig : Holds (tokenConfig "s3cret") "s3cret" := by
  decide

theorem not_reveals_tokenText : ¬ Reveals tokenReadings (tokenText hookToken) "s3cret" := by
  rintro ⟨config, hread, hholds⟩
  have hreads : tokenReadings.readConfig (tokenText hookToken) = .ok (tokenConfig hookToken) := by
    simp only [tokenReadings, if_true]
  rw [← Except.ok.inj (hreads.symm.trans hread)] at hholds
  exact absurd hholds (by decide)

theorem toStringPretty_tokenReadings (config : GatewayConfig) :
    tokenReadings.toStringPretty config.toValue = prettyText config := rfl

theorem readConfig_tokenReadings (raw : String) :
    tokenReadings.readConfig raw =
      if raw = tokenText hookToken then .ok (tokenConfig hookToken)
      else if raw = tokenText "s3cret" then .ok (tokenConfig "s3cret")
      else if raw = prettyText tokenTaskConfig then .ok tokenTaskConfig
      else .error "not one of the texts" := rfl

theorem readConfig_tokenTaskConfig :
    tokenReadings.readConfig (tokenReadings.toStringPretty tokenTaskConfig.toValue) =
      .ok tokenTaskConfig := by
  have hreference : prettyText tokenTaskConfig ≠ tokenText hookToken :=
    prettyText_ne _ (by decide +kernel)
  have htoken : prettyText tokenTaskConfig ≠ tokenText "s3cret" :=
    prettyText_ne _ (by decide +kernel)
  rw [toStringPretty_tokenReadings, readConfig_tokenReadings, if_neg hreference, if_neg htoken,
    if_pos rfl]

theorem unasked_createB (written : Bool) :
    Along (Editing.step tokenReadings tokenHost "") (Unasked tokenReadings tokenHost "" "s3cret")
      (Editing.start (tokenText hookToken) (tokenConfig "s3cret"))
      [.load 0 createB, .write 0 written, .store 0] := by
  have hload := load_addJob tokenReadings tokenHost ""
    (Editing.start (tokenText hookToken) (tokenConfig "s3cret")) 0 rfl change_createB rfl rfl
  refine ⟨⟨rfl, fun change loaded newConfig hchange hloaded honto ↦ ?_⟩, fun call hcall ↦ ?_, trivial,
    trivial⟩
  · rw [change_createB] at hchange
    obtain rfl := Option.some_inj.mp hchange
    obtain rfl := Option.some_inj.mp hloaded
    obtain rfl := Option.some_inj.mp honto
    exact iff_of_true (by decide) holds_tokenConfig
  · change ((Editing.start (tokenText hookToken) (tokenConfig "s3cret")).load tokenReadings tokenHost
      "" 0 createB).Pending 0 call at hcall
    rw [hload] at hcall
    obtain rfl := Option.some_inj.mp hcall.1
    exact readConfig_tokenTaskConfig

theorem secretsAtRest_iff_unwritten :
    Along (Editing.step tokenReadings tokenHost "") (Discreet "s3cret")
      (Editing.start (tokenText hookToken) (tokenConfig "s3cret"))
      [.load 0 createB, .write 0 false, .store 0] ∧
    ∀ s ∈ outputs (Editing.step tokenReadings tokenHost "")
      (Editing.start (tokenText hookToken) (tokenConfig "s3cret"))
      [.load 0 createB, .write 0 false, .store 0], ¬ Reveals tokenReadings s.file "s3cret" := by
  have hdiscreet : Along (Editing.step tokenReadings tokenHost "") (Discreet "s3cret")
      (Editing.start (tokenText hookToken) (tokenConfig "s3cret"))
      [.load 0 createB, .write 0 false, .store 0] := by
    simp only [Along, Discreet, and_self]
  exact ⟨hdiscreet, (secretsAtRest_iff tokenReadings tokenHost "" (tokenText hookToken) "s3cret"
    (tokenConfig "s3cret") [.load 0 createB, .write 0 false, .store 0] not_reveals_tokenText
    holds_tokenConfig (unasked_createB false)).mpr hdiscreet⟩

/-- A tool creates a task, and with it writes the token. -/
theorem not_secretsAtRest :
    Startup.start twoVectors tokenHost tokenReadings "" (tokenText hookToken) =
      .ok (tokenConfig "s3cret") ∧
    ¬ Reveals tokenReadings (tokenText hookToken) "s3cret" ∧
    Along (Editing.step tokenReadings tokenHost "") (Unasked tokenReadings tokenHost "" "s3cret")
      (Editing.start (tokenText hookToken) (tokenConfig "s3cret"))
      [.load 0 createB, .write 0 true, .store 0] ∧
    Reveals tokenReadings (run (Editing.step tokenReadings tokenHost "")
      (Editing.start (tokenText hookToken) (tokenConfig "s3cret"))
      [.load 0 createB, .write 0 true, .store 0]).file "s3cret" := by
  refine ⟨start_tokenText, not_reveals_tokenText, unasked_createB true, ?_⟩
  rw [run_addJob tokenReadings tokenHost "" 0 rfl change_createB rfl rfl]
  exact ⟨tokenTaskConfig, readConfig_tokenTaskConfig, by decide⟩

end Vectors

end AdkGateway.ConfigEdits
