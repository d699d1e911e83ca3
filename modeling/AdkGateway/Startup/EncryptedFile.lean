import AdkGateway.Startup.Load
import AdkGateway.Startup.ReloadedConfig

namespace AdkGateway.Startup

open ConfigWatcher Encryption Foundation Replace

/-- What a document says under `gateway.encryption.keyFile`. -/
def keyFileOf (document : Json) : Option Json := do
  let gateway ← document.get "gateway"
  let encryption ← gateway.get "encryption"
  encryption.get "keyFile"

def isPlainChar (c : Char) : Bool := c.isAlpha || c == ':'

/-- How strings are written and read: by the content between the quotation marks, where letters
stand for themselves. -/
structure Serde.Lawful (serde : Serde) : Prop where
  plain : ∀ document text, .plain text ∈ serde.pieces document → '$' ∉ text
  content : ∀ c, Content (serde.escapeChar c)
  escapeChar_self : ∀ {c}, isPlainChar c = true → serde.escapeChar c = [c]
  readContent_nil : serde.readContent [] = some []
  readContent_cons : ∀ {c}, isPlainChar c = true → ∀ text,
    serde.readContent (c :: text) = (serde.readContent text).map (c :: ·)
  read_keyFile : ∀ {document content config s}, (∀ item, Content (content item)) →
    keyFileOf document = some (.string s) →
    (∀ key ∈ ["gateway", "encryption", "keyFile"],
      serde.readContent (content key) = some key.toList) →
    serde.readConfig (String.ofList (render '"' content (serde.pieces document))) = .ok config →
    ∃ text, serde.readContent (content s) = some text ∧
      config.keyFile = some (String.ofList text)

section Fields

variable {P : Primitives} {e : ConfigEncryption} {nonces : ℕ → Bytes 12}

theorem hasEncryptedValues_of_get {document value : Json} {key : String}
    (hget : document.get key = some value) (h : hasEncryptedValues value = true) :
    hasEncryptedValues document = true := by
  cases document with
  | object fields =>
    rw [hasEncryptedValues]
    rw [Json.get] at hget
    induction fields with
    | nil => cases hget
    | cons field fields ih =>
      rw [anyField, Bool.or_eq_true]
      rw [List.lookup_cons] at hget
      split at hget
      · rw [Option.some_inj.mp hget]
        exact .inl h
      · exact .inr (ih hget)
  | _ => cases hget

theorem anyField_append (fields fields' : List (String × Json)) :
    anyField (fields ++ fields') = (anyField fields || anyField fields') := by
  induction fields with
  | nil => rfl
  | cons field fields ih => rw [List.cons_append, anyField, anyField, ih, Bool.or_assoc]

theorem hasEncryptedValues_withOthers {known : List (String × Json)} {others value : Json}
    {key : String} (hget : others.get key = some value) (h : hasEncryptedValues value = true) :
    hasEncryptedValues (withOthers known others) = true := by
  have hothers := hasEncryptedValues_of_get hget h
  cases others with
  | object fields =>
    rw [hasEncryptedValues] at hothers
    rw [withOthers, hasEncryptedValues, anyField_append, hothers, Bool.or_true]
  | _ => cases hget

theorem hasEncryptedValues_of_keyFile {config : GatewayConfig} {path : String}
    (hpath : config.keyFile = some path) (henc : isEncrypted path = true) :
    hasEncryptedValues config.toValue = true := by
  obtain ⟨encryption, hencryption, hpath⟩ := Option.bind_eq_some_iff.mp hpath
  obtain ⟨value, hvalue, hpath⟩ := Option.bind_eq_some_iff.mp hpath
  obtain rfl : value = .string path := by
    cases value <;> simp_all [Json.asStr]
  have hgateway : hasEncryptedValues config.gateway.toValue = true :=
    hasEncryptedValues_withOthers hencryption (hasEncryptedValues_of_get hvalue henc)
  have hget : config.toValue.get "gateway" = some config.gateway.toValue := rfl
  exact hasEncryptedValues_of_get hget hgateway

open ConfigEncryption

variable (P e nonces) in
theorem get_walkAndEncrypt {document value : Json} {key : String}
    (h : document.get key = some value) (name : Option String) (n : ℕ) :
    ∃ m, (walkAndEncrypt P e nonces document name n).1.get key =
      some (walkAndEncrypt P e nonces value (some key) m).1 := by
  cases document with
  | object fields =>
    rw [walkAndEncrypt]
    simp only [Json.get] at h ⊢
    induction fields generalizing n with
    | nil => cases h
    | cons field fields ih =>
      rw [encryptFields]
      simp only [List.lookup_cons]
      cases hkey : key == field.1 with
      | true =>
        rw [List.lookup_cons, hkey] at h
        rw [← beq_iff_eq.mp hkey, ← Option.some_inj.mp h]
        exact ⟨n, rfl⟩
      | false =>
        rw [List.lookup_cons, hkey] at h
        exact ih _ h
  | _ => cases h

variable (e nonces) in
theorem isEncrypted_of_sensitive (hP : P.Lawful) {key : String}
    (hkey : isSensitiveField P key = true) (s : String) (n : ℕ) :
    ∃ s', (walkAndEncrypt P e nonces (.string s) (some key) n).1 = .string s' ∧
      isEncrypted s' = true := by
  obtain ⟨encrypted, hencrypt, henc, -⟩ := encrypt_spec (e := e) hP s (nonces n)
  rw [walkAndEncrypt, hkey, Bool.true_and]
  cases hs : isEncrypted s with
  | true => exact ⟨s, rfl, hs⟩
  | false =>
    rw [hencrypt]
    exact ⟨encrypted, rfl, henc⟩

variable (e nonces) in
/-- The name of the entry holds one of the patterns: the path of the key is encrypted too. -/
theorem keyFileOf_encryptConfig (hP : P.Lawful) (hlower : P.toLowercase "keyFile" = "keyfile")
    {document : Json} {s : String} (h : keyFileOf document = some (.string s)) (n : ℕ) :
    ∃ s', keyFileOf (encryptConfig P e nonces document n).1 = some (.string s') ∧
      isEncrypted s' = true := by
  obtain ⟨gateway, hgateway, h⟩ := Option.bind_eq_some_iff.mp h
  obtain ⟨encryption, hencryption, hkey⟩ := Option.bind_eq_some_iff.mp h
  obtain ⟨m₁, h₁⟩ := get_walkAndEncrypt P e nonces hgateway none n
  obtain ⟨m₂, h₂⟩ := get_walkAndEncrypt P e nonces hencryption
    (some "gateway") m₁
  obtain ⟨m₃, h₃⟩ := get_walkAndEncrypt P e nonces hkey
    (some "encryption") m₂
  have hsensitive : isSensitiveField P "keyFile" = true := by
    rw [isSensitiveField, hlower]
    decide
  obtain ⟨s', hs', henc⟩ := isEncrypted_of_sensitive e nonces hP hsensitive s m₃
  refine ⟨s', ?_, henc⟩
  simp only [keyFileOf, encryptConfig, h₁, h₂, h₃, hs', Option.bind_eq_bind, Option.bind_some]

end Fields

section Text

variable {serde : Serde} {host : Host} {names : List (List Char)}

theorem not_mem_of_plain {text : List Char} (h : ∀ c ∈ text, isPlainChar c = true) : '$' ∉ text :=
  fun hmem ↦ absurd (h '$' hmem) (by decide)

theorem escape_of_plain (hserde : serde.Lawful) {text : List Char}
    (h : ∀ c ∈ text, isPlainChar c = true) : text.flatMap serde.escapeChar = text := by
  induction text with
  | nil => rfl
  | cons c text ih =>
    obtain ⟨hc, htext⟩ := List.forall_mem_cons.mp h
    rw [List.flatMap_cons, hserde.escapeChar_self hc, ih htext]
    rfl

theorem readContent_append (hserde : serde.Lawful) {text : List Char}
    (h : ∀ c ∈ text, isPlainChar c = true) (rest : List Char) :
    serde.readContent (text ++ rest) = (serde.readContent rest).map (text ++ ·) := by
  induction text with
  | nil => exact Option.map_id_apply.symm
  | cons c text ih =>
    obtain ⟨hc, htext⟩ := List.forall_mem_cons.mp h
    rw [List.cons_append, hserde.readContent_cons hc, ih htext, Option.map_map]
    rfl

theorem readContent_key (hserde : serde.Lawful) {key : String}
    (h : ∀ c ∈ key.toList, isPlainChar c = true) :
    serde.readContent (expandNames host names (serde.escape key)) = some key.toList := by
  rw [Serde.escape, escape_of_plain hserde h, expandNames_of_not_mem (not_mem_of_plain h)]
  have hread := readContent_append hserde h []
  rw [List.append_nil, hserde.readContent_nil] at hread
  rw [hread, Option.map_some, List.append_nil]

/-- An encrypted value is read as one, whatever its variables are. -/
theorem isEncrypted_readContent (hserde : serde.Lawful) {s : String} (henc : isEncrypted s = true)
    {text : List Char} (h : serde.readContent (expandNames host names (serde.escape s)) = some text) :
    isEncrypted (String.ofList text) = true := by
  obtain ⟨rest, hrest⟩ := List.isPrefixOf_iff_prefix.mp henc
  have hletters : ∀ c ∈ encryptedPrefix.toList, isPlainChar c = true := by
    simp [encryptedPrefix, isPlainChar]
  rw [Serde.escape, ← hrest, List.flatMap_append, escape_of_plain hserde hletters,
    expandNames_append (not_mem_of_plain hletters), readContent_append hserde hletters] at h
  obtain ⟨tail, -, htail⟩ := Option.map_eq_some_iff.mp h
  rw [isEncrypted, String.toList_ofList, List.isPrefixOf_iff_prefix, ← htail]
  exact List.prefix_append _ _

end Text

section File

variable {P : Primitives} {host : Host} {serde : Serde} {e : ConfigEncryption}
  {nonces : ℕ → Bytes 12} {defaultText k raw : String} {started : GatewayConfig}

theorem readConfig_of_load {config : GatewayConfig}
    (h : (configFormat serde host defaultText).load raw = .ok config) :
    serde.readConfig (String.ofList (expandEnvVars host raw.toList)) = .ok config := by
  rw [ConfigFormat.load] at h
  split at h
  · cases h
  · next config' hparse =>
    rw [validateRunner] at h
    split at h
    · cases h
    · rw [← Except.ok.inj h]
      exact hparse

theorem start_toStringPretty_ne (hserde : serde.Lawful)
    (hhost : ∀ path, isEncrypted path = true → host.keyFile path = none) {document : Json}
    {s : String} (hs : keyFileOf document = some (.string s)) (henc : isEncrypted s = true) :
    start P host serde defaultText (serde.toStringPretty document) ≠ .ok started := by
  intro hstart
  obtain ⟨config, hload, hdecrypt, -⟩ := start_eq_ok_iff.mp hstart
  have hread := readConfig_of_load hload
  have hescape (item : String) : Content (serde.escape item) :=
    Body.flatMap hserde.content item.toList
  obtain ⟨names, hexpand, hcontent⟩ := expandEnvVars_render host (hserde.plain document)
    hescape
  rw [Serde.toStringPretty, String.toList_ofList, hexpand] at hread
  have hkeys : ∀ key ∈ ["gateway", "encryption", "keyFile"],
      serde.readContent (expandNames host names (serde.escape key)) = some key.toList := by
    intro key hkey
    refine readContent_key hserde ?_
    revert key
    simp [isPlainChar]
  obtain ⟨text, htext, hpath⟩ := hserde.read_keyFile hcontent hs hkeys hread
  have hpathenc := isEncrypted_readContent hserde henc htext
  obtain ⟨path, -, -, hpath', hthere, -⟩ :=
    decryptAtStartup_of_encrypted (hasEncryptedValues_of_keyFile hpath hpathenc) hdecrypt
  obtain rfl := Option.some_inj.mp (hpath.symm.trans hpath')
  rw [hhost _ hpathenc] at hthere
  cases hthere

/-- A file that names the file of its key starts as before, once it has been encrypted with this
key, just if it is not strict JSON, so that it is left alone. -/
theorem start_encryptedFile_iff (hP : P.Lawful) (hlower : P.toLowercase "keyFile" = "keyfile")
    (hserde : serde.Lawful) (hhost : ∀ path, isEncrypted path = true → host.keyFile path = none)
    (hkey : fromKeyFile P host k = .ok e)
    (hnames : ∀ document, serde.fromStr raw = .ok document →
      ∃ s, keyFileOf document = some (.string s))
    (hstart : start P host serde defaultText raw = .ok started) :
    start P host serde defaultText (encryptedFile P host serde nonces k raw) = .ok started ↔
      ∀ document, serde.fromStr raw ≠ .ok document := by
  rw [encryptedFile, encryptConfigFile, hkey]
  cases hparse : serde.fromStr raw with
  | error reason => exact iff_of_true hstart nofun
  | ok document =>
    obtain ⟨s, hs⟩ := hnames document hparse
    obtain ⟨s', hs', henc⟩ := keyFileOf_encryptConfig e nonces hP hlower hs 0
    refine iff_of_false ?_ fun h ↦ h document rfl
    exact start_toStringPretty_ne hserde hhost hs' henc

end File

section Vectors

open ConfigEncryption

theorem twoReadings_lawful : twoReadings.Lawful where
  plain _ _ h := absurd h List.not_mem_nil
  content c := by
    simp only [twoReadings]
    split
    · exact .escape (by decide) .nil
    · next hquote =>
      split
      · exact .escape (by decide) .nil
      · next hbackslash => exact .char hquote hbackslash .nil
  escapeChar_self {c} hc := by
    simp only [twoReadings]
    rw [if_neg, if_neg] <;> rintro rfl <;> exact absurd hc (by decide)
  readContent_nil := rfl
  readContent_cons _ _ := rfl
  read_keyFile _ _ _ hread := by
    cases hread

theorem start_encryptedFile_iff_single :
    start twoVectors zeroHost twoReadings ""
      (encryptedFile twoVectors zeroHost twoReadings (fun _ ↦ zeroNonce) "k" hooksText) =
        .ok (hooksConfig "k") := by
  have hhost (path : String) (henc : isEncrypted path = true) : zeroHost.keyFile path = none := by
    refine if_neg fun hk ↦ ?_
    rw [hk] at henc
    exact absurd henc (by decide)
  have hkey : fromKeyFile twoVectors zeroHost "k" = .ok zeroKey := rfl
  exact (start_encryptedFile_iff twoVectors_lawful (by decide) twoReadings_lawful hhost hkey nofun
    start_hooksText).mpr nofun

/-- All but the path of the key is left to the defaults. -/
def keyConfig (path : String) : GatewayConfig :=
  { GatewayConfig.default with
    gateway := ⟨18789, 30, .object [("encryption", .object [("keyFile", .string path)])]⟩ }

def keyDocument (path : String) : Json :=
  .object [("gateway", .object [("encryption", .object [("keyFile", .string path)])])]

def keyPieces (path : String) : List (Piece Char String) :=
  [.plain "\x7b\n  ".toList, .quoted "gateway", .plain ": \x7b\n    ".toList, .quoted "encryption",
    .plain ": \x7b\n      ".toList, .quoted "keyFile", .plain ": ".toList, .quoted path,
    .plain "\n    \x7d\n  \x7d\n\x7d".toList]

def keyText (path : String) : String := String.ofList (render '"' String.toList (keyPieces path))

/-- Faithful on the texts of the two documents, before and after the encryption. -/
def keyReadings : Serde :=
  { twoReadings with
    pieces := fun document ↦
      if document = keyDocument (encryptedPrefix ++ encodedK) then
        keyPieces (encryptedPrefix ++ encodedK)
      else []
    fromStr := fun raw ↦
      if raw = keyText "k" then .ok (keyDocument "k") else .error "not the text"
    readConfig := fun raw ↦
      if raw = keyText "k" then .ok (keyConfig "k")
      else if raw = keyText (encryptedPrefix ++ encodedK) then
        .ok (keyConfig (encryptedPrefix ++ encodedK))
      else .error "not one of the texts" }

theorem encryptConfig_keyDocument :
    zeroKey.encryptConfig twoVectors (fun _ ↦ zeroNonce) (keyDocument "k") 0 =
      (keyDocument (encryptedPrefix ++ encodedK), 1) := by
  have hencrypt : zeroKey.encrypt twoVectors "k" zeroNonce = .ok (encryptedPrefix ++ encodedK) := by
    simp only [encrypt, twoVectors, if_true]
  have hsensitive : (isSensitiveField twoVectors "keyFile" && !isEncrypted "k") = true := by decide
  simp only [encryptConfig, keyDocument, walkAndEncrypt, encryptFields, hsensitive, hencrypt, if_true]

theorem toStringPretty_keyDocument :
    keyReadings.toStringPretty (keyDocument (encryptedPrefix ++ encodedK)) =
      keyText (encryptedPrefix ++ encodedK) := by
  rfl

theorem encryptedFile_keyText :
    encryptedFile twoVectors zeroHost keyReadings (fun _ ↦ zeroNonce) "k" (keyText "k") =
      keyText (encryptedPrefix ++ encodedK) := by
  have hkey : fromKeyFile twoVectors zeroHost "k" = .ok zeroKey := rfl
  have hparse : keyReadings.fromStr (keyText "k") = .ok (keyDocument "k") := by
    simp only [keyReadings, if_true]
  rw [encryptedFile, encryptConfigFile, hkey, hparse]
  simp only [encryptConfig_keyDocument, toStringPretty_keyDocument]

/-- The path of the key is encrypted under the key. -/
theorem not_start_encryptedFile :
    start twoVectors zeroHost keyReadings "" (keyText "k") = .ok (keyConfig "k") ∧
    start twoVectors zeroHost keyReadings ""
      (encryptedFile twoVectors zeroHost keyReadings (fun _ ↦ zeroNonce) "k" (keyText "k")) =
        .error (.encryption .missingKey) := by
  have hplain : keyReadings.readConfig (keyText "k") = .ok (keyConfig "k") := by
    simp only [keyReadings, if_true]
  have hencrypted : keyReadings.readConfig (keyText (encryptedPrefix ++ encodedK)) =
      .ok (keyConfig (encryptedPrefix ++ encodedK)) := by
    simp only [keyReadings]
    rw [if_neg (by decide +kernel), if_true]
  rw [encryptedFile_keyText, start, start, load_zeroHost hplain rfl, load_zeroHost hencrypted rfl]
  exact ⟨rfl, rfl⟩

end Vectors

end AdkGateway.Startup
