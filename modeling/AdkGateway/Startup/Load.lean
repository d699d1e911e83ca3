import AdkGateway.ConfigWatcher.LastEdit
import AdkGateway.Encryption.ConfigEncryption
import AdkGateway.Foundation.Replace
import AdkGateway.Foundation.Text
import AdkGateway.Startup.Serialize
import Mathlib.Data.List.TakeWhile

namespace AdkGateway.Startup

open ConfigWatcher Encryption Foundation Replace

/-- `serde_json` and `json5` with the derived readers: the pieces of which a pretty text is made,
how a character is written between quotation marks, a strict and a lenient reader, what the latter
reads between quotation marks, and the reader of a document as a config. -/
structure Serde where
  pieces : Json → List (Piece Char String)
  escapeChar : Char → List Char
  fromStr : String → Except String Json
  readConfig : String → Except String GatewayConfig
  readContent : List Char → Option (List Char)
  fromValue : Json → Except String GatewayConfig

namespace Serde

variable (serde : Serde)

def escape (s : String) : List Char := s.toList.flatMap serde.escapeChar

def toStringPretty (document : Json) : String :=
  String.ofList (render '"' serde.escape (serde.pieces document))

end Serde

/-- The variables of the environment, and the files that hold keys: one may exist and still fail to
be read. -/
structure Host where
  var : String → Option String
  keyFile : String → Option (Except String ByteArray)
  utf8Lossy : ByteArray → String

section Environment

def isNameStart (c : Char) : Bool := c.isAlpha || c == '_'

def isNameChar (c : Char) : Bool := c.isAlphanum || c == '_'

def reference? : List Char → Option (List Char)
  | '$' :: '\x7b' :: rest =>
    let name := rest.takeWhile isNameChar
    if name.head?.any isNameStart && (rest.drop name.length).head? == some '\x7d' then some name
    else none
  | _ => none

def capturesFrom : ℕ → List Char → List (List Char)
  | _, [] => []
  | skip + 1, _ :: cs => capturesFrom skip cs
  | 0, c :: cs =>
    match reference? (c :: cs) with
    | some name => name :: capturesFrom (name.length + 2) cs
    | none => capturesFrom 0 cs

/-- The names in the references of a text, in order. -/
def captures (input : List Char) : List (List Char) := capturesFrom 0 input

def fullMatch (name : List Char) : List Char := '$' :: '\x7b' :: (name ++ ['\x7d'])

def escapeValue (val : List Char) : List Char :=
  replaceAll ['\t'] ['\\', 't'] <| replaceAll ['\r'] ['\\', 'r'] <|
    replaceAll ['\n'] ['\\', 'n'] <| replaceAll ['"'] ['\\', '"'] <|
      replaceAll ['\\'] ['\\', '\\'] val

/-- All occurrences of a reference are replaced at once, also in what came in for another. -/
def expandName (host : Host) (result name : List Char) : List Char :=
  match host.var (String.ofList name) with
  | none => result
  | some val => replaceAll (fullMatch name) (escapeValue val.toList) result

def expandEnvVars (host : Host) (input : List Char) : List Char :=
  (captures input).foldl (expandName host) input

end Environment

/-- How the watcher and a fresh start read the file. -/
def configFormat (serde : Serde) (host : Host) (defaultText : String) : ConfigFormat where
  parse raw := serde.readConfig (String.ofList (expandEnvVars host raw.toList))
  defaultText := defaultText

section Encryption

variable (P : Primitives) (host : Host)

def fromSlice (keyBytes : ByteArray) : Except CryptoError ConfigEncryption :=
  if h : keyBytes.size = 32 then .ok ⟨⟨keyBytes, h⟩⟩ else .error (.invalidKeyLength keyBytes.size)

/-- The file holds the key raw, or else in base64. -/
def fromKeyFile (path : String) : Except CryptoError ConfigEncryption :=
  match host.keyFile path with
  | none => .error (.decryptionFailed "failed to read key file: no such file")
  | some (.error e) => .error (.decryptionFailed ("failed to read key file: " ++ e))
  | some (.ok keyData) =>
    if keyData.size = 32 then fromSlice keyData
    else
      match P.decode (Text.trim (host.utf8Lossy keyData)) with
      | .ok decoded =>
        if decoded.size = 32 then fromSlice decoded else .error (.invalidKeyLength decoded.size)
      | .error _ => .error (.invalidKeyLength keyData.size)

mutual

def hasEncryptedValues : Json → Bool
  | .object fields => anyField fields
  | .array items => anyItem items
  | .string s => isEncrypted s
  | _ => false

def anyItem : List Json → Bool
  | [] => false
  | item :: items => hasEncryptedValues item || anyItem items

def anyField : List (String × Json) → Bool
  | [] => false
  | (_, value) :: fields => hasEncryptedValues value || anyField fields

end

def validateEncryptionAtStartup (config : Json) (keyFile : Option String) :
    Except CryptoError (Option ConfigEncryption) :=
  if hasEncryptedValues config then
    match keyFile with
    | none => .error .missingKey
    | some path =>
      if (host.keyFile path).isNone then .error .missingKey else (fromKeyFile P host path).map some
  else
    match keyFile with
    | none => .ok none
    | some path =>
      if (host.keyFile path).isSome then (fromKeyFile P host path).map some else .ok none

end Encryption

inductive StartError
  | load (e : LoadError)
  | encryption (e : CryptoError)
  | noKey
  | decryption (e : CryptoError)
  | deserialize (e : String)
  | invalid (e : ConfigValidationError)

section Start

variable (P : Primitives) (host : Host) (serde : Serde)

/-- What `run` does with the loaded config before all else. -/
def decryptAtStartup (config : GatewayConfig) : Except StartError GatewayConfig :=
  let configValue := config.toValue
  if hasEncryptedValues configValue then
    match validateEncryptionAtStartup P host configValue config.keyFile with
    | .error e => .error (.encryption e)
    | .ok none => .error .noKey
    | .ok (some encryptor) =>
      match encryptor.decryptConfig P configValue with
      | (.error e, _) => .error (.decryption e)
      | (.ok (), configValue) => (serde.fromValue configValue).mapError .deserialize
  else .ok config

/-- The config that a start on the file runs with. -/
def start (defaultText raw : String) : Except StartError GatewayConfig :=
  match (configFormat serde host defaultText).load raw with
  | .error e => .error (.load e)
  | .ok config =>
    match decryptAtStartup P host serde config with
    | .error e => .error e
    | .ok config =>
      match validateConfig config with
      | .error e => .error (.invalid e)
      | .ok () => .ok config

def encryptConfigFile (nonces : ℕ → Bytes 12) (keyFile raw : String) :
    Except CryptoError (String × UInt32) :=
  match fromKeyFile P host keyFile with
  | .error e => .error e
  | .ok encryptor =>
    match serde.fromStr raw with
    | .error e => .error (.encryptionFailed ("failed to parse config file: " ++ e))
    | .ok config =>
      .ok (serde.toStringPretty (encryptor.encryptConfig P nonces config 0).1,
        ConfigEncryption.countSensitivePlaintext P config)

/-- The file after the command, which leaves it alone where it fails. -/
def encryptedFile (nonces : ℕ → Bytes 12) (keyFile raw : String) : String :=
  match encryptConfigFile P host serde nonces keyFile raw with
  | .error _ => raw
  | .ok (output, _) => output

end Start

end AdkGateway.Startup

namespace AdkGateway.Startup

open Foundation Replace

abbrev Content (text : List Char) : Prop := Body '"' '\\' '$' text

section Names

variable {name : List Char}

theorem isNameChar_of_reference? {input : List Char} (h : reference? input = some name) :
    ∀ c ∈ name, isNameChar c = true := by
  unfold reference? at h
  split at h
  · next rest =>
    simp only at h
    split at h
    · rw [← Option.some_inj.mp h]
      exact fun c hc ↦ List.mem_takeWhile_imp hc
    · cases h
  · cases h

theorem isNameChar_of_capturesFrom {input : List Char} (skip : ℕ)
    (h : name ∈ capturesFrom skip input) : ∀ c ∈ name, isNameChar c = true := by
  induction input generalizing skip with
  | nil => simp [capturesFrom] at h
  | cons c input ih =>
    cases skip with
    | succ skip => exact ih skip h
    | zero =>
      rw [capturesFrom] at h
      split at h
      · next name' hname =>
        rcases List.mem_cons.mp h with rfl | h
        · exact isNameChar_of_reference? hname
        · exact ih _ h
      · exact ih 0 h

theorem not_mem_fullMatch (hname : ∀ c ∈ name, isNameChar c = true) {c : Char}
    (hc : isNameChar c = false) (hframe : c ∉ ['$', '\x7b', '\x7d']) : c ∉ fullMatch name := by
  intro hmem
  simp only [fullMatch, List.mem_cons, List.mem_append, List.not_mem_nil, or_false] at hmem hframe
  rcases hmem with h | h | h | h
  · exact hframe (.inl h)
  · exact hframe (.inr (.inl h))
  · exact Bool.false_ne_true (hc.symm.trans (hname c h))
  · exact hframe (.inr (.inr h))

end Names

section Values

def escapeValueChar (c : Char) : List Char :=
  if c = '\\' then ['\\', '\\']
  else if c = '"' then ['\\', '"']
  else if c = '\n' then ['\\', 'n']
  else if c = '\r' then ['\\', 'r']
  else if c = '\t' then ['\\', 't']
  else [c]

theorem escapeValue_eq_flatMap (val : List Char) : escapeValue val = val.flatMap escapeValueChar := by
  simp only [escapeValue, replaceAll_singleton, List.flatMap_assoc]
  congr 1
  funext c
  simp only [escapeValueChar]
  split_ifs <;> simp_all

theorem content_escapeValueChar (c : Char) : Content (escapeValueChar c) := by
  rw [escapeValueChar]
  split
  · exact .escape (by decide) .nil
  · next hbackslash =>
    split
    · exact .escape (by decide) .nil
    · next hquote =>
      split_ifs
      · exact .escape (by decide) .nil
      · exact .escape (by decide) .nil
      · exact .escape (by decide) .nil
      · exact .char hquote hbackslash .nil

theorem content_escapeValue (val : List Char) : Content (escapeValue val) := by
  rw [escapeValue_eq_flatMap]
  exact Body.flatMap content_escapeValueChar val

end Values

section Expansion

variable {host : Host}

def expandNames (host : Host) (names : List (List Char)) (text : List Char) : List Char :=
  names.foldl (expandName host) text

theorem expandName_append {x : List Char} (hx : '$' ∉ x) (y name : List Char) :
    expandName host (x ++ y) name = x ++ expandName host y name := by
  unfold expandName
  split
  · rfl
  · exact replaceAll_append_of_not_mem hx y

theorem expandNames_append {x : List Char} (hx : '$' ∉ x) (names : List (List Char))
    (y : List Char) : expandNames host names (x ++ y) = x ++ expandNames host names y := by
  induction names generalizing y with
  | nil => rfl
  | cons name names ih =>
    rw [expandNames, List.foldl_cons, expandName_append hx]
    exact ih _

theorem expandNames_nil (names : List (List Char)) : expandNames host names [] = [] := by
  induction names with
  | nil => rfl
  | cons name names ih =>
    have hname : expandName host [] name = [] := by
      unfold expandName
      split <;> rfl
    rw [expandNames, List.foldl_cons, hname]
    exact ih

theorem expandNames_of_not_mem {x : List Char} (hx : '$' ∉ x) (names : List (List Char)) :
    expandNames host names x = x := by
  have happend : expandNames host names (x ++ []) = x ++ expandNames host names [] :=
    expandNames_append hx names []
  rwa [List.append_nil, expandNames_nil, List.append_nil] at happend

theorem content_expandNames {names : List (List Char)}
    (hnames : ∀ name ∈ names, ∀ c ∈ name, isNameChar c = true) {text : List Char}
    (h : Content text) : Content (expandNames host names text) := by
  induction names generalizing text with
  | nil => exact h
  | cons name names ih =>
    obtain ⟨hname, hrest⟩ := List.forall_mem_cons.mp hnames
    refine ih hrest ?_
    unfold expandName
    split
    · exact h
    · exact Body.replaceAll (not_mem_fullMatch hname (by decide) (by decide))
        (content_escapeValue _) h

variable {content : String → List Char} {pieces : List (Piece Char String)}

theorem expandNames_render {names : List (List Char)}
    (hnames : ∀ name ∈ names, ∀ c ∈ name, isNameChar c = true)
    (hplain : ∀ text, .plain text ∈ pieces → '$' ∉ text) :
    expandNames host names (render '"' content pieces) =
      render '"' (fun item ↦ expandNames host names (content item)) pieces := by
  induction names generalizing content with
  | nil => rfl
  | cons name names ih =>
    obtain ⟨hname, hrest⟩ := List.forall_mem_cons.mp hnames
    have hstep : expandName host (render '"' content pieces) name =
        render '"' (fun item ↦ expandName host (content item) name) pieces := by
      unfold expandName
      split
      · rfl
      · exact replaceAll_render (not_mem_fullMatch hname (by decide) (by decide)) hplain
    rw [expandNames, List.foldl_cons, hstep]
    exact ih hrest

/-- In a written document the variables are put into each string by itself, and each stays one. -/
theorem expandEnvVars_render (host : Host) (hplain : ∀ text, .plain text ∈ pieces → '$' ∉ text)
    (hcontent : ∀ item, Content (content item)) :
    ∃ names, expandEnvVars host (render '"' content pieces) =
        render '"' (fun item ↦ expandNames host names (content item)) pieces ∧
      ∀ item, Content (expandNames host names (content item)) := by
  refine ⟨captures (render '"' content pieces), expandNames_render ?_ hplain, fun item ↦
    content_expandNames ?_ (hcontent item)⟩
  all_goals exact fun name hname ↦ isNameChar_of_capturesFrom 0 hname

end Expansion

end AdkGateway.Startup
