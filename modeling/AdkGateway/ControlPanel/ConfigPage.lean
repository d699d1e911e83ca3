import AdkGateway.Foundation.JsonPath
import AdkGateway.Startup.Load

namespace AdkGateway.ControlPanel

open ConfigWatcher Foundation Startup

def sensitiveFields : List String :=
  ["bot_token", "botToken", "app_token", "appToken", "token", "password", "secret", "api_key",
    "apiKey", "connection_string", "connectionString"]

def isMasked (name : Option String) (s : String) : Bool :=
  name.any (fun name ↦ sensitiveFields.contains name) && !s.isEmpty

def mask (name : Option String) (s : String) : String := if isMasked name s then "***" else s

def redactConfig (value : Json) : Json := value.mapStrings mask none

structure ControlPanelState where
  configPath : Option String
  config : GatewayConfig
  file : String

structure SaveResponse where
  ok : Bool
  message : String
  deriving DecidableEq

def configJson (s : ControlPanelState) : Json := redactConfig s.config.toValue

/-- The content is JSON, or else JSON5. -/
def parseConfig (serde : Serde) (content : String) : Except String GatewayConfig :=
  match (serde.fromStr content).bind serde.fromValue with
  | .ok config => .ok config
  | .error _ => serde.readConfig content

/-- `write` is what comes of the writing of the file. -/
def configSave (serde : Serde) (write : Except String Unit) (content : String)
    (s : ControlPanelState) : SaveResponse × ControlPanelState :=
  match s.configPath with
  | none => (⟨false, "Config file path not configured"⟩, s)
  | some _ =>
    match parseConfig serde content with
    | .error e => (⟨false, "Invalid configuration: " ++ e⟩, s)
    | .ok newConfig =>
      match validateConfig newConfig with
      | .error e =>
        (⟨false, "Configuration validation failed: config validation error: " ++ e.message⟩, s)
      | .ok () =>
        match write with
        | .error e => (⟨false, "Failed to write config: " ++ e⟩, s)
        | .ok () =>
          (⟨true, "Configuration validated, saved, and reloaded."⟩,
            { s with config := newConfig, file := serde.toStringPretty newConfig.toValue })

section Fields

/-- The fields whose values are read as a whole: the variants of a type, or the models in one of
several forms. `none` stands for any item or entry. -/
def variantFields : List (List (Option String)) :=
  [[some "agent", some "model"], [some "gateway", some "bind"],
    [some "cron", some "jobs", none, some "target"], [some "mcpServers", none, some "transport"],
    [some "mcpServers", none, some "auth"], [some "graphWorkflow", some "stateReducers", none],
    [some "telemetry", some "logRotation", some "rotation"],
    [some "codingAgents", some "agents", none, some "transport"],
    [some "codingAgents", some "backends", none, some "authMethod"]]

def matchesStep : Option String → Json.Step → Bool
  | none, _ => true
  | some name, .key name' => name = name'
  | some _, .item _ => false

def isVariant (path : List Json.Step) : Bool :=
  variantFields.any fun pattern ↦
    pattern.length = path.length && (pattern.zip path).all fun x ↦ matchesStep x.1 x.2

def IsField (path : List Json.Step) : Prop :=
  ∀ prior ∈ path.inits, isVariant prior = true → prior = path

instance (path : List Json.Step) : Decidable (IsField path) :=
  inferInstanceAs (Decidable (∀ prior ∈ path.inits, isVariant prior = true → prior = path))

end Fields

/-- A field that is given as the page shows it is read as it is given. -/
def ReadsShown (serde : Serde) : Prop :=
  ∀ content posted (config newConfig : GatewayConfig) path value, serde.fromStr content = .ok posted →
    parseConfig serde content = .ok newConfig → IsField path →
    (redactConfig config.toValue).valueAt path = some value → posted.valueAt path = some value →
    newConfig.toValue.valueAt path = some value

/-- All fields that the page shows and that have not been edited are as before, and the file says what
is active, or nothing has changed. -/
structure KeepsUnedited (serde : Serde) (posted : Json) (s s' : ControlPanelState) : Prop where
  active : ∀ path value, IsField path → (configJson s).valueAt path = some value →
    posted.valueAt path = some value →
    s'.config.toValue.valueAt path = s.config.toValue.valueAt path
  written : s' = s ∨ s'.file = serde.toStringPretty s'.config.toValue

/-- In the fields that have not been edited there is no mask, but for what is the mask itself. -/
def LeavesNoMask (posted : Json) (s : ControlPanelState) : Prop :=
  ∀ path value, IsField path → s.config.toValue.valueAt path = some value →
    posted.valueAt path = some (value.mapStrings mask (Json.nameAt none path)) →
    ∀ x ∈ value.strings (Json.nameAt none path), isMasked x.1 x.2 = true → x.2 = "***"

section Save

variable {serde : Serde} {write : Except String Unit} {content : String} {posted : Json}
  {s : ControlPanelState} {newConfig : GatewayConfig}

theorem mask_eq_self_iff {name : Option String} {value : String} :
    mask name value = value ↔ (isMasked name value = true → value = "***") := by
  rw [mask]
  cases isMasked name value with
  | true => simp [eq_comm]
  | false => simp

theorem valueAt_configJson (path : List Json.Step) : (configJson s).valueAt path =
    (s.config.toValue.valueAt path).map fun value ↦
      value.mapStrings mask (Json.nameAt none path) :=
  Json.valueAt_mapStrings none path s.config.toValue

/-- What the reader makes of the posted document agrees with the active config where it was left
alone, just if no mask was left there. -/
theorem unedited_iff (hserde : ReadsShown serde) (hposted : serde.fromStr content = .ok posted)
    (hparse : parseConfig serde content = .ok newConfig) :
    (∀ path value, IsField path → (configJson s).valueAt path = some value →
      posted.valueAt path = some value →
      newConfig.toValue.valueAt path = s.config.toValue.valueAt path) ↔ LeavesNoMask posted s := by
  constructor
  · intro h path value hfield hvalue hleft
    have hshown : (configJson s).valueAt path =
        some (value.mapStrings mask (Json.nameAt none path)) := by
      rw [valueAt_configJson, hvalue, Option.map_some]
    have hread := hserde content posted s.config newConfig path _ hposted hparse hfield hshown hleft
    have hsame := (h path _ hfield hshown hleft).symm.trans hread
    have hmasked := Option.some_inj.mp (hvalue.symm.trans hsame)
    intro x hx
    exact mask_eq_self_iff.mp ((Json.mapStrings_eq_self_iff _ value).mp hmasked.symm x hx)
  · intro h path shown hfield hshown hleft
    have hread := hserde content posted s.config newConfig path shown hposted hparse hfield hshown
      hleft
    rw [valueAt_configJson, Option.map_eq_some_iff] at hshown
    obtain ⟨value, hvalue, rfl⟩ := hshown
    have hmasked : value.mapStrings mask (Json.nameAt none path) = value := by
      refine (Json.mapStrings_eq_self_iff _ value).mpr fun x hx ↦ mask_eq_self_iff.mpr ?_
      exact h path value hfield hvalue hleft x hx
    rw [hread, hvalue, hmasked]

theorem configSave_cases (serde : Serde) (write : Except String Unit) (content : String)
    (s : ControlPanelState) :
    (∃ newConfig, s.configPath.isSome ∧ parseConfig serde content = .ok newConfig ∧
      validateConfig newConfig = .ok () ∧ write = .ok () ∧
      (configSave serde write content s).2 =
        { s with config := newConfig, file := serde.toStringPretty newConfig.toValue }) ∨
    ((configSave serde write content s).2 = s ∧
      ∀ newConfig, parseConfig serde content = .ok newConfig → validateConfig newConfig = .ok () →
        write = .ok () → s.configPath = none) := by
  rw [configSave]
  cases hpath : s.configPath with
  | none => exact .inr ⟨rfl, fun _ _ _ _ ↦ rfl⟩
  | some path =>
    dsimp only
    cases hparse : parseConfig serde content with
    | error e =>
      refine .inr ⟨rfl, fun newConfig hparse' ↦ ?_⟩
      cases hparse'
    | ok newConfig =>
      dsimp only
      cases hvalid : validateConfig newConfig with
      | error e =>
        refine .inr ⟨rfl, fun newConfig' hparse' hvalid' ↦ ?_⟩
        obtain rfl := Except.ok.inj hparse'
        cases hvalid.symm.trans hvalid'
      | ok =>
        cases write with
        | error e =>
          refine .inr ⟨rfl, fun _ _ _ hwrite ↦ ?_⟩
          cases hwrite
        | ok => exact .inl ⟨newConfig, rfl, rfl, hvalid, rfl, rfl⟩

end Save

/-- Saving what was edited on the page keeps what was not edited just if the content is refused, or
no mask was left. -/
theorem keepsUnedited_iff {serde : Serde} (hserde : ReadsShown serde) {content : String}
    {posted : Json} (hposted : serde.fromStr content = .ok posted) (write : Except String Unit)
    (s : ControlPanelState) :
    KeepsUnedited serde posted s (configSave serde write content s).2 ↔
      ∀ newConfig, s.configPath.isSome → parseConfig serde content = .ok newConfig →
        validateConfig newConfig = .ok () → write = .ok () → LeavesNoMask posted s := by
  rcases configSave_cases serde write content s with
    ⟨newConfig, hpath, hparse, hvalid, hwrite, hsave⟩ | ⟨hsave, hrefused⟩
  · rw [hsave]
    have hiff := unedited_iff (s := s) hserde hposted hparse
    constructor
    · intro h _ _ _ _ _
      exact hiff.mp h.active
    · intro h
      exact ⟨hiff.mpr (h newConfig hpath hparse hvalid hwrite), .inr rfl⟩
  · rw [hsave]
    refine iff_of_true ⟨fun _ _ _ _ _ ↦ rfl, .inl rfl⟩ ?_
    intro newConfig hpath hparse hvalid hwrite
    rw [hrefused newConfig hparse hvalid hwrite] at hpath
    cases hpath

section BotToken

def telegramConfig (botToken : String) : GatewayConfig :=
  { GatewayConfig.default with
    channels := ⟨some ⟨botToken, .pairing, [], .object []⟩, none, .object []⟩ }

def telegramPanel : ControlPanelState := ⟨some "gateway.json", telegramConfig "123:ABC", ""⟩

def pageText : String :=
  String.ofList (Replace.render '"' String.toList (prettyPieces 0 (configJson telegramPanel)))

def pageReadings : Serde where
  pieces := prettyPieces 0
  escapeChar c := [c]
  fromStr content :=
    if content = pageText then .ok (configJson telegramPanel) else .error "expected value"
  readConfig _ := .error "expected a value"
  readContent := some
  fromValue document :=
    if document = (telegramConfig "***").toValue then .ok (telegramConfig "***")
    else .error "not the document"

theorem configJson_telegramPanel : configJson telegramPanel = (telegramConfig "***").toValue := by
  rfl

theorem fromStr_pageText : pageReadings.fromStr pageText = .ok (configJson telegramPanel) := by
  simp only [pageReadings, if_true]

theorem parseConfig_pageText : parseConfig pageReadings pageText = .ok (telegramConfig "***") := by
  have hvalue : pageReadings.fromValue (configJson telegramPanel) = .ok (telegramConfig "***") := by
    simp only [pageReadings]
    rw [if_pos configJson_telegramPanel]
  rw [parseConfig, fromStr_pageText, Except.bind, hvalue]

theorem readsShown_pageReadings : ReadsShown pageReadings := by
  intro content posted config newConfig path value hposted hparse hfield hshown hleft
  have hcontent : content = pageText := by
    by_contra hne
    simp only [pageReadings, if_neg hne] at hposted
    cases hposted
  subst hcontent
  obtain rfl := Except.ok.inj (fromStr_pageText.symm.trans hposted)
  obtain rfl := Except.ok.inj (parseConfig_pageText.symm.trans hparse)
  rw [← configJson_telegramPanel]
  exact hleft

theorem keepsUnedited_iff_page :
    KeepsUnedited pageReadings (configJson telegramPanel) telegramPanel
        (configSave pageReadings (.ok ()) pageText telegramPanel).2 ↔
      ∀ newConfig, telegramPanel.configPath.isSome →
        parseConfig pageReadings pageText = .ok newConfig → validateConfig newConfig = .ok () →
          (.ok () : Except String Unit) = .ok () →
            LeavesNoMask (configJson telegramPanel) telegramPanel :=
  keepsUnedited_iff readsShown_pageReadings fromStr_pageText (.ok ()) telegramPanel

/-- The token of the bot is saved as its mask. -/
theorem not_keepsUnedited : ¬ ∀ (serde : Serde) (content : String) (s : ControlPanelState),
    ReadsShown serde → validateConfig s.config = .ok () →
      serde.fromStr content = .ok (configJson s) →
        KeepsUnedited serde (configJson s) s (configSave serde (.ok ()) content s).2 := by
  intro h
  have hvalid : validateConfig telegramPanel.config = .ok () := by rfl
  have hkeeps := (h pageReadings pageText telegramPanel readsShown_pageReadings hvalid
    fromStr_pageText).active [.key "channels", .key "telegram", .key "botToken"] (.string "***")
    (by decide +kernel) (by decide +kernel) (by decide +kernel)
  have hsave : (configSave pageReadings (.ok ()) pageText telegramPanel).2.config =
      telegramConfig "***" := by
    rw [configSave, parseConfig_pageText]
    rfl
  rw [hsave] at hkeeps
  have hne : (telegramConfig "***").toValue.valueAt
      [.key "channels", .key "telegram", .key "botToken"] ≠ telegramPanel.config.toValue.valueAt
      [.key "channels", .key "telegram", .key "botToken"] := by
    decide +kernel
  exact hne hkeeps

end BotToken

end AdkGateway.ControlPanel
