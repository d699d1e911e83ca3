import AdkGateway.Foundation.Json
import Mathlib.Data.List.Infix

namespace AdkGateway.Encryption

open Foundation

inductive CryptoError
  | encryptionFailed (reason : String)
  | decryptionFailed (reason : String)
  | invalidFormat (reason : String)
  | missingKey
  | invalidKeyLength (length : ℕ)

abbrev Bytes (n : ℕ) := { bytes : ByteArray // bytes.size = n }

/-- AES-256-GCM, base64 and the lower case of a string, with the texts of their errors. -/
structure Primitives where
  encrypt : Bytes 32 → Bytes 12 → ByteArray → Except String ByteArray
  decrypt : Bytes 32 → Bytes 12 → ByteArray → Except String ByteArray
  encode : ByteArray → String
  decode : String → Except String ByteArray
  toLowercase : String → String
  utf8Error : ByteArray → String

/-- Decryption undoes encryption, and decoding undoes encoding. -/
structure Primitives.Lawful (P : Primitives) : Prop where
  decrypt_encrypt : ∀ key nonce plaintext, ∃ ciphertext,
    P.encrypt key nonce plaintext = .ok ciphertext ∧ P.decrypt key nonce ciphertext = .ok plaintext
  decode_encode : ∀ bytes, P.decode (P.encode bytes) = .ok bytes

def encryptedPrefix : String := "enc:"

def sensitivePatterns : List String := ["key", "token", "secret", "password"]

def isEncrypted (value : String) : Bool := encryptedPrefix.toList.isPrefixOf value.toList

def encoded? (value : String) : Option String :=
  if isEncrypted value then some (String.ofList (value.toList.drop encryptedPrefix.toList.length))
  else none

structure ConfigEncryption where
  key : Bytes 32

namespace ConfigEncryption

variable (P : Primitives) (e : ConfigEncryption)

def encrypt (plaintext : String) (nonce : Bytes 12) : Except CryptoError String :=
  match P.encrypt e.key nonce plaintext.toByteArray with
  | .error err => .error (.encryptionFailed err)
  | .ok ciphertext => .ok (encryptedPrefix ++ P.encode (nonce.1 ++ ciphertext))

def decrypt (encrypted : String) : Except CryptoError String :=
  match encoded? encrypted with
  | none => .error (.invalidFormat "missing 'enc:' prefix")
  | some encoded =>
    match P.decode encoded with
    | .error err => .error (.invalidFormat ("invalid base64: " ++ err))
    | .ok combined =>
      if h : combined.size < 12 then
        .error (.invalidFormat "ciphertext too short to contain nonce")
      else
        match P.decrypt e.key ⟨combined.extract 0 12, by rw [ByteArray.size_extract]; omega⟩
          (combined.extract 12 combined.size) with
        | .error err => .error (.decryptionFailed ("decryption failed: " ++ err))
        | .ok plaintext =>
          match String.fromUTF8? plaintext with
          | some s => .ok s
          | none => .error (.decryptionFailed ("invalid UTF-8: " ++ P.utf8Error plaintext))

def isSensitiveField (fieldName : String) : Bool :=
  sensitivePatterns.any fun pattern ↦ decide (pattern.toList <:+: (P.toLowercase fieldName).toList)

variable (nonces : ℕ → Bytes 12)

mutual

def walkAndEncrypt : Json → Option String → ℕ → Json × ℕ
  | .object fields, _, n => (.object (encryptFields fields n).1, (encryptFields fields n).2)
  | .array items, _, n => (.array (encryptItems items n).1, (encryptItems items n).2)
  | .string s, some name, n =>
    if isSensitiveField P name && !isEncrypted s then
      match e.encrypt P s (nonces n) with
      | .ok encrypted => (.string encrypted, n + 1)
      | .error _ => (.string s, n + 1)
    else (.string s, n)
  | value, _, n => (value, n)

def encryptItems : List Json → ℕ → List Json × ℕ
  | [], n => ([], n)
  | item :: items, n =>
    let head := walkAndEncrypt item none n
    let tail := encryptItems items head.2
    (head.1 :: tail.1, tail.2)

def encryptFields : List (String × Json) → ℕ → List (String × Json) × ℕ
  | [], n => ([], n)
  | (key, value) :: fields, n =>
    let head := walkAndEncrypt value (some key) n
    let tail := encryptFields fields head.2
    ((key, head.1) :: tail.1, tail.2)

end

mutual

def walkAndDecrypt : Json → Except CryptoError Unit × Json
  | .object fields => ((decryptFields fields).1, .object (decryptFields fields).2)
  | .array items => ((decryptItems items).1, .array (decryptItems items).2)
  | .string s =>
    if isEncrypted s then
      match e.decrypt P s with
      | .ok decrypted => (.ok (), .string decrypted)
      | .error err => (.error err, .string s)
    else (.ok (), .string s)
  | value => (.ok (), value)

def decryptItems : List Json → Except CryptoError Unit × List Json
  | [] => (.ok (), [])
  | item :: items =>
    match walkAndDecrypt item with
    | (.error err, item) => (.error err, item :: items)
    | (.ok (), item) => ((decryptItems items).1, item :: (decryptItems items).2)

def decryptFields : List (String × Json) → Except CryptoError Unit × List (String × Json)
  | [] => (.ok (), [])
  | (key, value) :: fields =>
    match walkAndDecrypt value with
    | (.error err, value) => (.error err, (key, value) :: fields)
    | (.ok (), value) => ((decryptFields fields).1, (key, value) :: (decryptFields fields).2)

end

def encryptConfig (config : Json) (n : ℕ) : Json × ℕ := walkAndEncrypt P e nonces config none n

def decryptConfig (config : Json) : Except CryptoError Unit × Json := walkAndDecrypt P e config

mutual

/-- The sums are of 32 bits (a build with overflow checks panics when they are exceeded). -/
def countSensitivePlaintextInner : Json → Option String → UInt32
  | .object fields, _ => countFields fields
  | .array items, _ => countItems items
  | .string s, some name => if isSensitiveField P name && !isEncrypted s then 1 else 0
  | _, _ => 0

def countItems : List Json → UInt32
  | [] => 0
  | item :: items => countSensitivePlaintextInner item none + countItems items

def countFields : List (String × Json) → UInt32
  | [] => 0
  | (key, value) :: fields => countSensitivePlaintextInner value (some key) + countFields fields

end

def countSensitivePlaintext (config : Json) : UInt32 := countSensitivePlaintextInner P config none

end ConfigEncryption

end AdkGateway.Encryption
