import AdkGateway.ConfigWatcher.LastEdit
import AdkGateway.Startup.Decryption

namespace AdkGateway.Startup

open ConfigWatcher Encryption Foundation

/-- A string that may be an encrypted value is read as it stands: a document that differs from a
written config only there is read as this config only if it does not differ. -/
def ReadsOwn (serde : Serde) : Prop :=
  ∀ (config : GatewayConfig) (document : Json), serde.fromValue document = .ok config →
    document.skeleton = config.toValue.skeleton →
    List.Forall₂ (fun x y ↦ y.1 = x.1 ∧ (isEncrypted x.2 = false → y.2 = x.2))
      (config.toValue.strings none) (document.strings none) →
    document = config.toValue

section Reload

variable {P : Primitives} {host : Host} {serde : Serde} {defaultText raw : String}
  {config started : GatewayConfig}

theorem started_ne_of_encrypted (hP : Shrinks P) (hserde : ReadsOwn serde)
    (hencrypted : hasEncryptedValues config.toValue = true)
    (h : decryptAtStartup P host serde config = .ok started) : config ≠ started := by
  rintro rfl
  obtain ⟨-, encryptor, decrypted, -, -, hdecrypt, hread⟩ :=
    decryptAtStartup_of_encrypted hencrypted h
  obtain ⟨hskeleton, hopened⟩ := decryptConfig_spec hdecrypt
  have hsame : decrypted = config.toValue := by
    refine hserde config decrypted hread hskeleton (hopened.imp ?_)
    rintro x y ⟨hname, hvalue⟩
    refine ⟨hname, fun hplain ↦ ?_⟩
    rwa [hplain, if_neg Bool.false_ne_true] at hvalue
  -- then an encrypted value would be its own plaintext
  obtain ⟨x, hx, henc⟩ := (hasEncryptedValues_iff _ none).mp hencrypted
  rw [hsame] at hopened
  obtain ⟨i, hi, hget⟩ := List.mem_iff_getElem.mp hx
  have hself := (List.forall₂_iff_get.mp hopened).2 i hi hi
  rw [List.get_eq_getElem, hget, Opened, if_pos henc] at hself
  exact decrypt_ne_self hP x.2 hself.2

/-- What a reload of the file makes active and sends is what a start on the file runs with, just
if the loaded config has no encrypted values. -/
theorem reload_eq_start_iff (hP : Shrinks P) (hserde : ReadsOwn serde) (configPath : ConfigWatcher.Path)
    (s : Watch) (writable : Bool) (hfile : s.file = some raw)
    (hload : (configFormat serde host defaultText).load raw = .ok config)
    (hvalid : validateConfig config = .ok ())
    (hchanges : (ConfigDiff.compute s.currentConfig config).hasChanges = true)
    (hstart : start P host serde defaultText raw = .ok started) :
    let s' := Watcher.reload ⟨configFormat serde host defaultText, configPath⟩ writable s
    (s'.currentConfig = started ∧ s'.sent = s.sent ++ [started]) ↔
      hasEncryptedValues config.toValue = false := by
  intro s'
  have hreload : s' = { s with currentConfig := config, sent := s.sent ++ [config] } := by
    rw [show s' = Watcher.apply config s from Watcher.reload_of_valid hfile hload hvalid writable,
      Watcher.apply, if_pos hchanges]
  obtain ⟨config', hload', hdecrypt, -⟩ := start_eq_ok_iff.mp hstart
  obtain rfl := Except.ok.inj (hload.symm.trans hload')
  constructor
  · rintro ⟨hactive, -⟩
    rw [hreload] at hactive
    by_contra hencrypted
    exact started_ne_of_encrypted hP hserde (Bool.eq_true_of_not_eq_false hencrypted) hdecrypt hactive
  · intro hplain
    have hsame := hdecrypt.symm.trans (decryptAtStartup_of_plain hplain)
    rw [hreload, Except.ok.inj hsame]
    exact ⟨rfl, rfl⟩

end Reload

section Vectors

open ConfigEncryption

def hooksConfig (token : String) : GatewayConfig :=
  { GatewayConfig.default with
    gateway := ⟨18789, 30, .object [("encryption", .object [("keyFile", .string "k")])]⟩
    hooks := .object [("enabled", .bool true), ("token", .string token)] }

def hooksText : String :=
  "\x7bgateway: \x7bencryption: \x7bkeyFile: 'k'\x7d\x7d, hooks: \x7benabled: true, token: 'enc:" ++
    encodedK ++ "'\x7d\x7d"

/-- Faithful on the two texts, and on the document that is decrypted. -/
def twoReadings : Serde where
  pieces _ := []
  escapeChar c := if c = '"' then ['\\', '"'] else if c = '\\' then ['\\', '\\'] else [c]
  fromStr _ := .error "expected a key"
  readConfig raw :=
    if raw = Watcher.cronText "0 8 * * *" then .ok (Watcher.cronConfig "0 8 * * *")
    else if raw = hooksText then .ok (hooksConfig (encryptedPrefix ++ encodedK))
    else .error "not one of the texts"
  readContent := some
  fromValue document :=
    if document = (hooksConfig "k").toValue then .ok (hooksConfig "k")
    else .error "not the document"

def zeroHost : Host where
  var _ := none
  keyFile path := if path = "k" then some (.ok zeroKey.key.1) else none
  utf8Lossy _ := ""

theorem twoReadings_readsOwn : ReadsOwn twoReadings := by
  intro config document hread _ _
  simp only [twoReadings] at hread
  split at hread
  · next hdocument => rw [hdocument, Except.ok.inj hread]
  · cases hread

theorem reload_eq_start_iff_job :
    (Watcher.reload ⟨configFormat twoReadings zeroHost "", Watcher.gatewayJson⟩ true
      (Watcher.start 0 (some (Watcher.cronText "0 8 * * *")) .default)).currentConfig =
        Watcher.cronConfig "0 8 * * *" := by
  have hload : (configFormat twoReadings zeroHost "").load (Watcher.cronText "0 8 * * *") =
      .ok (Watcher.cronConfig "0 8 * * *") := rfl
  have hstart : start twoVectors zeroHost twoReadings "" (Watcher.cronText "0 8 * * *") =
      .ok (Watcher.cronConfig "0 8 * * *") := rfl
  refine ((reload_eq_start_iff twoVectors_shrinks twoReadings_readsOwn Watcher.gatewayJson
    (Watcher.start 0 (some (Watcher.cronText "0 8 * * *")) .default) true rfl hload (by decide)
    (by decide) hstart).mpr ?_).1
  decide

theorem decrypt_encodedK :
    zeroKey.decrypt twoVectors (encryptedPrefix ++ encodedK) = .ok "k" := by
  have hencode : twoVectors.encode (zeroNonce.1 ++ sealedK) = encodedK := by
    simp only [twoVectors, if_true]
  rw [← hencode]
  exact decrypt_append twoVectors_lawful rfl

theorem decryptConfig_hooksConfig :
    zeroKey.decryptConfig twoVectors (hooksConfig (encryptedPrefix ++ encodedK)).toValue =
      (.ok (), (hooksConfig "k").toValue) := by
  have hstrings (token : String) : (hooksConfig token).toValue.strings none =
      [(some "keyFile", "k"), (some "dmScope", "per-channel-peer"), (some "mode", "daily"),
        (some "token", token)] := rfl
  have hplain (name : Option String) {s : String} (hs : isEncrypted s = false) :
      decryptStep twoVectors zeroKey name s none = (s, none) := by
    simp only [decryptStep, hs, Bool.false_eq_true, if_false]
  have htoken : decryptStep twoVectors zeroKey (some "token") (encryptedPrefix ++ encodedK) none =
      ("k", none) := by
    simp only [decryptStep, isEncrypted_append, decrypt_encodedK, if_true]
  have hvisit : Json.visit (decryptStep twoVectors zeroKey)
      ((hooksConfig (encryptedPrefix ++ encodedK)).toValue.strings none) none =
        ((hooksConfig "k").toValue.strings none, none) := by
    rw [hstrings, hstrings]
    simp only [Json.visit, htoken, hplain _ (s := "k") rfl, hplain _ (s := "daily") rfl,
      hplain _ (s := "per-channel-peer") rfl]
  have hskeleton : (hooksConfig (encryptedPrefix ++ encodedK)).toValue.skeleton =
      (hooksConfig "k").toValue.skeleton := rfl
  rw [decryptConfig, walkAndDecrypt_eq_walk twoVectors zeroKey _ none,
    Json.walk_eq_of_visit hskeleton hvisit]
  rfl

theorem decryptAtStartup_hooksConfig :
    decryptAtStartup twoVectors zeroHost twoReadings (hooksConfig (encryptedPrefix ++ encodedK)) =
      .ok (hooksConfig "k") := by
  have hencrypted : hasEncryptedValues (hooksConfig (encryptedPrefix ++ encodedK)).toValue = true := by
    decide
  have hkey : validateEncryptionAtStartup twoVectors zeroHost
      (hooksConfig (encryptedPrefix ++ encodedK)).toValue
      (hooksConfig (encryptedPrefix ++ encodedK)).keyFile = .ok (some zeroKey) := by
    simp only [validateEncryptionAtStartup, if_pos hencrypted]
    rfl
  have hread : twoReadings.fromValue (hooksConfig "k").toValue = .ok (hooksConfig "k") := by
    simp only [twoReadings, if_true]
  simp only [decryptAtStartup, hencrypted, if_true, hkey, decryptConfig_hooksConfig, hread]
  rfl

theorem expandEnvVars_zeroHost (input : List Char) : expandEnvVars zeroHost input = input := by
  rw [expandEnvVars]
  induction captures input with
  | nil => rfl
  | cons name names ih => exact ih

theorem load_zeroHost {serde : Serde} {raw : String} {config : GatewayConfig}
    (hread : serde.readConfig raw = .ok config) (hrunner : validateRunner config = .ok config) :
    (configFormat serde zeroHost "").load raw = .ok config := by
  simp only [ConfigFormat.load, configFormat, expandEnvVars_zeroHost, String.ofList_toList, hread,
    hrunner]

theorem load_hooksText : (configFormat twoReadings zeroHost "").load hooksText =
    .ok (hooksConfig (encryptedPrefix ++ encodedK)) := by
  have hread : twoReadings.readConfig hooksText = .ok (hooksConfig (encryptedPrefix ++ encodedK)) := by
    simp only [twoReadings]
    rw [if_neg (by decide +kernel), if_true]
  exact load_zeroHost hread rfl

theorem start_hooksText :
    start twoVectors zeroHost twoReadings "" hooksText = .ok (hooksConfig "k") :=
  start_eq_ok_iff.mpr ⟨_, load_hooksText, decryptAtStartup_hooksConfig, by decide⟩

/-- The hooks are reloaded with the token as it stands in the file. -/
theorem not_reload_eq_start :
    (configFormat twoReadings zeroHost "").load hooksText =
      .ok (hooksConfig (encryptedPrefix ++ encodedK)) ∧
    validateConfig (hooksConfig (encryptedPrefix ++ encodedK)) = .ok () ∧
    start twoVectors zeroHost twoReadings "" hooksText = .ok (hooksConfig "k") ∧
    (Watcher.reload ⟨configFormat twoReadings zeroHost "", Watcher.gatewayJson⟩ true
      (Watcher.start 0 (some hooksText) .default)).currentConfig ≠ hooksConfig "k" := by
  have hvalid : validateConfig (hooksConfig (encryptedPrefix ++ encodedK)) = .ok () := by decide
  refine ⟨load_hooksText, hvalid, start_hooksText, fun h ↦ ?_⟩
  have hfile : (Watcher.start 0 (some hooksText) .default).file = some hooksText := rfl
  have hreload : Watcher.reload ⟨configFormat twoReadings zeroHost "", Watcher.gatewayJson⟩ true
      (Watcher.start 0 (some hooksText) .default) =
        Watcher.apply (hooksConfig (encryptedPrefix ++ encodedK))
          (Watcher.start 0 (some hooksText) .default) := by
    refine Watcher.reload_of_valid hfile ?_ hvalid true
    exact load_hooksText
  rw [hreload] at h
  exact absurd (congrArg GatewayConfig.hooks h) (by decide)

end Vectors

end AdkGateway.Startup
