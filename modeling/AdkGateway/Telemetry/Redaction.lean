import AdkGateway.ControlPanel.ConfigPage
import AdkGateway.Foundation.JsonEdit
import AdkGateway.Startup.Decryption

namespace AdkGateway.Telemetry

open ControlPanel (sensitiveFields isMasked mask mask_eq_self_iff)
open Encryption Foundation

section Redact

def redactField (key : String) (val redacted : Json) : Json :=
  if sensitiveFields.contains key then
    match val with
    | .string s => if s.isEmpty then redacted else .string "***"
    | _ => redacted
  else redacted

mutual

def redactConfig : Json → Json
  | .object map => .object (redactFields map)
  | .array arr => .array (redactItems arr)
  | other => other

def redactItems : List Json → List Json
  | [] => []
  | item :: arr => redactConfig item :: redactItems arr

def redactFields : List (String × Json) → List (String × Json)
  | [] => []
  | (key, val) :: map => (key, redactField key val (redactConfig val)) :: redactFields map

end

theorem redactField_mapStrings (key : String) (val : Json) :
    redactField key val (val.mapStrings mask none) = val.mapStrings mask (some key) := by
  cases val with
  | string s =>
    have hnone : mask none s = s := rfl
    rw [redactField, Json.mapStrings, Json.mapStrings, hnone, mask, isMasked, Option.any_some]
    cases sensitiveFields.contains key with
    | false => rfl
    | true => cases s.isEmpty <;> rfl
  | _ => exact ite_self _

theorem redactConfig_eq (value : Json) : redactConfig value = value.mapStrings mask none := by
  induction value using Json.induct with
  | array items ih =>
    rw [redactConfig, Json.mapStrings, Json.array.injEq]
    induction items with
    | nil => rfl
    | cons item items ihs =>
      obtain ⟨hitem, hitems⟩ := List.forall_mem_cons.mp ih
      rw [redactItems, Json.mapItems, hitem, ihs hitems]
  | object fields ih =>
    rw [redactConfig, Json.mapStrings, Json.object.injEq]
    induction fields with
    | nil => rfl
    | cons field fields ihs =>
      obtain ⟨key, val⟩ := field
      obtain ⟨hfield, hfields⟩ := List.forall_mem_cons.mp ih
      rw [redactFields, Json.mapFields, ihs hfields, hfield, redactField_mapStrings]
  | _ => rfl

theorem mask_mask (name : Option String) (s : String) : mask name (mask name s) = mask name s := by
  rw [mask_eq_self_iff]
  intro hmasked
  rw [mask] at hmasked ⊢
  split at hmasked
  case isTrue h => rw [if_pos h]
  case isFalse h => exact absurd hmasked h

theorem redactConfig_redactConfig (value : Json) :
    redactConfig (redactConfig value) = redactConfig value := by
  rw [redactConfig_eq (redactConfig value), Json.mapStrings_eq_self_iff, redactConfig_eq,
    Json.strings_mapStrings]
  intro x hx
  obtain ⟨y, -, rfl⟩ := List.mem_map.mp hx
  exact mask_mask y.1 y.2

theorem skeleton_redactConfig (value : Json) : (redactConfig value).skeleton = value.skeleton := by
  rw [redactConfig_eq, Json.skeleton_mapStrings]

theorem strings_redactConfig (value : Json) :
    List.Forall₂ (fun x y ↦ y.1 = x.1 ∧ (x.1.any sensitiveFields.contains = false → y.2 = x.2))
      (value.strings none) ((redactConfig value).strings none) := by
  rw [redactConfig_eq, Json.strings_mapStrings, List.forall₂_map_right_iff, List.forall₂_same]
  intro x _
  refine ⟨rfl, fun hname ↦ mask_eq_self_iff.mpr fun hmasked ↦ ?_⟩
  rw [isMasked, hname] at hmasked
  cases hmasked

theorem masked_redactConfig_iff {value : Json} {path : List Json.Step} {s : String} (hne : s ≠ "")
    (h : value.valueAt path = some (.string s)) : (redactConfig value).Masked path "***" ↔
      (Json.nameAt none path).any sensitiveFields.contains = true ∨ s = "***" := by
  have hvalue : (redactConfig value).valueAt path =
      some (.string (mask (Json.nameAt none path) s)) := by
    rw [redactConfig_eq, Json.valueAt_mapStrings, h]
    rfl
  have hempty : s.isEmpty = false := by simpa using hne
  rw [Json.masked_iff hvalue, mask, isMasked, hempty, Bool.not_false, Bool.and_true]
  split
  case isTrue hname => simp [hname]
  case isFalse hname => simp [hname]

end Redact

section Show

def redacted (_ : Json) : Json := .string "***REDACTED***"

def configShow (config : GatewayConfig) : Json :=
  config.toValue
    |> Json.adjust "channels" (fun channels ↦ channels
      |> Json.adjust "telegram" (Json.adjust "bot_token" redacted)
      |> Json.adjust "slack" fun slack ↦
        ["bot_token", "app_token", "signing_secret"].foldl
          (fun slack key ↦ Json.adjust key redacted slack) slack)
    |> Json.adjust "hooks" (Json.adjust "token" redacted)
    |> Json.adjust "auth" (Json.adjust "sso" (Json.adjust "client_secret" redacted))

def maskedPaths : List (List String) :=
  [["channels", "telegram", "bot_token"], ["channels", "slack", "bot_token"],
    ["channels", "slack", "app_token"], ["channels", "slack", "signing_secret"],
    ["hooks", "token"], ["auth", "sso", "client_secret"]]

theorem configShow_eq (config : GatewayConfig) :
    configShow config = Json.maskAll "***REDACTED***" maskedPaths config.toValue := by
  simp only [configShow, Json.maskAll, maskedPaths, List.foldl_cons, List.foldl_nil, Json.adjustAt,
    Json.adjust_adjust]
  rfl

end Show

section Secrets

def Encrypts (P : Primitives) (e : ConfigEncryption) (nonces : ℕ → Bytes 12) (n : ℕ) (config : Json)
    (path : List Json.Step) (s : String) : Prop :=
  config.valueAt path = some (.string s) ∧
    (e.encryptConfig P nonces config n).1.valueAt path ≠ some (.string s)

/-- What encryption takes for a secret is not shown, and masking a document keeps all else. -/
structure HidesSecrets (P : Primitives) (e : ConfigEncryption) (nonces : ℕ → Bytes 12) (n : ℕ)
    (config : GatewayConfig) : Prop where
  masked : ∀ path s, s ≠ "" → Encrypts P e nonces n config.toValue path s →
    (redactConfig config.toValue).Masked path "***" ∧
      (configShow config).Masked path "***REDACTED***"
  elsewhere : ∀ value : Json,
    List.Forall₂ (fun x y ↦ y.1 = x.1 ∧ (x.1.any sensitiveFields.contains = false → y.2 = x.2))
      (value.strings none) ((redactConfig value).strings none)
  shape : ∀ value, (redactConfig value).skeleton = value.skeleton
  again : ∀ value, redactConfig (redactConfig value) = redactConfig value

def Agrees (P : Primitives) (config : GatewayConfig) : Prop :=
  ∀ path s, config.toValue.valueAt path = some (.string s) → s ≠ "" →
    isSensitivePlaintext P (Json.nameAt none path, s) = true →
    ((Json.nameAt none path).any sensitiveFields.contains = true ∨ s = "***") ∧
      ((∃ keys ∈ maskedPaths, Json.keyPath keys <+: path) ∨ s = "***REDACTED***")

variable {P : Primitives} {e : ConfigEncryption} {nonces : ℕ → Bytes 12} {n : ℕ}
  {path : List Json.Step} {s : String}

variable (e nonces) in
theorem encryptStep_ne_iff (hP : P.Lawful) (name : Option String) (m : ℕ) :
    (ConfigEncryption.encryptStep P e nonces name s m).1 ≠ s ↔
      isSensitivePlaintext P (name, s) = true := by
  rw [ConfigEncryption.encryptStep]
  split
  case isTrue hsensitive =>
    refine iff_of_true ?_ hsensitive
    obtain ⟨encrypted, hencrypt, hprefix, -⟩ := ConfigEncryption.encrypt_spec hP s (nonces m)
    rw [hencrypt]
    change encrypted ≠ s
    rintro rfl
    rw [isSensitivePlaintext, hprefix, Bool.not_true, Bool.and_false] at hsensitive
    cases hsensitive
  case isFalse hsensitive => exact iff_of_false (fun hne ↦ hne rfl) hsensitive

theorem encrypts_iff (hP : P.Lawful) (config : Json) : Encrypts P e nonces n config path s ↔
    config.valueAt path = some (.string s) ∧
      isSensitivePlaintext P (Json.nameAt none path, s) = true := by
  refine and_congr_right fun hvalue ↦ ?_
  obtain ⟨m, hm⟩ := Json.valueAt_walk (f := ConfigEncryption.encryptStep P e nonces) hvalue n
  rw [ConfigEncryption.encryptConfig, ConfigEncryption.walkAndEncrypt_eq_walk, hm,
    ← encryptStep_ne_iff e nonces hP (Json.nameAt none path) m]
  simp

theorem masked_configShow_iff {config : GatewayConfig}
    (h : config.toValue.valueAt path = some (.string s)) :
    (configShow config).Masked path "***REDACTED***" ↔
      (∃ keys ∈ maskedPaths, Json.keyPath keys <+: path) ∨ s = "***REDACTED***" := by
  rw [configShow_eq, Json.masked_maskAll_iff maskedPaths h]

/-- The secrets of a config are hidden just if the fields that are masked and the places that are
masked are all those of its secrets. -/
theorem hidesSecrets_iff (hP : P.Lawful) (e : ConfigEncryption) (nonces : ℕ → Bytes 12) (n : ℕ)
    (config : GatewayConfig) : HidesSecrets P e nonces n config ↔ Agrees P config := by
  constructor
  · intro h path s hvalue hne hsensitive
    obtain ⟨hredact, hshow⟩ := h.masked path s hne ((encrypts_iff hP _).mpr ⟨hvalue, hsensitive⟩)
    exact ⟨(masked_redactConfig_iff hne hvalue).mp hredact, (masked_configShow_iff hvalue).mp hshow⟩
  · intro h
    refine ⟨?_, strings_redactConfig, skeleton_redactConfig, redactConfig_redactConfig⟩
    intro path s hne hencrypts
    obtain ⟨hvalue, hsensitive⟩ := (encrypts_iff hP _).mp hencrypts
    obtain ⟨hname, hpath⟩ := h path s hvalue hne hsensitive
    exact ⟨(masked_redactConfig_iff hne hvalue).mpr hname, (masked_configShow_iff hvalue).mpr hpath⟩

end Secrets

section HooksToken

open Startup

/-- All but the token of the hooks is left to the defaults. -/
def tokenConfig : GatewayConfig :=
  { GatewayConfig.default with hooks := .object [("token", .string "k")] }

theorem agrees_tokenConfig : Agrees twoVectors tokenConfig := by
  intro path s hvalue hne hsensitive
  have hstrings : ∀ x ∈ tokenConfig.toValue.strings none, isSensitivePlaintext twoVectors x = true →
      x.1.any sensitiveFields.contains = true := by
    decide +kernel
  have hshown : ∀ x ∈ (configShow tokenConfig).strings none,
      isSensitivePlaintext twoVectors x = true → x.2 = "***REDACTED***" := by
    decide +kernel
  refine ⟨.inl (hstrings _ (Json.mem_strings_of_valueAt hvalue) hsensitive), ?_⟩
  by_cases hpath : ∃ keys ∈ maskedPaths, Json.keyPath keys <+: path
  · exact .inl hpath
  · have hvalue' := Json.valueAt_maskAll_elsewhere (m := "***REDACTED***") hpath hvalue
    rw [← configShow_eq] at hvalue'
    exact .inr (hshown _ (Json.mem_strings_of_valueAt hvalue') hsensitive)

theorem hidesSecrets_iff_token :
    Encrypts twoVectors ConfigEncryption.zeroKey (fun _ ↦ ConfigEncryption.zeroNonce) 0
        tokenConfig.toValue [.key "hooks", .key "token"] "k" ∧
      HidesSecrets twoVectors ConfigEncryption.zeroKey (fun _ ↦ ConfigEncryption.zeroNonce) 0
        tokenConfig := by
  have hsecret : Encrypts twoVectors ConfigEncryption.zeroKey (fun _ ↦ ConfigEncryption.zeroNonce) 0
      tokenConfig.toValue [.key "hooks", .key "token"] "k" :=
    (encrypts_iff twoVectors_lawful _).mpr ⟨by decide +kernel, by decide +kernel⟩
  exact ⟨hsecret, (hidesSecrets_iff twoVectors_lawful _ _ _ _).mpr agrees_tokenConfig⟩

end HooksToken

section BotToken

open Startup

/-- The token of the bot is shown: in the document its name is in camel case. -/
theorem not_hidesSecrets : ¬ HidesSecrets twoVectors ConfigEncryption.zeroKey
    (fun _ ↦ ConfigEncryption.zeroNonce) 0 (ControlPanel.telegramConfig "k") := by
  intro h
  have hvalue : (ControlPanel.telegramConfig "k").toValue.valueAt
      [.key "channels", .key "telegram", .key "botToken"] = some (.string "k") := by
    decide +kernel
  have hshown := (h.masked _ "k" (by decide)
    ((encrypts_iff twoVectors_lawful _).mpr ⟨hvalue, by decide +kernel⟩)).2
  rw [masked_configShow_iff hvalue] at hshown
  revert hshown
  decide +kernel

end BotToken

end AdkGateway.Telemetry
