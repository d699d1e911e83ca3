import AdkGateway.Encryption.RoundTrip
import AdkGateway.Startup.Load

namespace AdkGateway.Startup

open ConfigWatcher Encryption Foundation

/-- Base64 takes more characters than it gives bytes, and a ciphertext carries a tag of 16 bytes. -/
structure Shrinks (P : Primitives) : Prop where
  decode_size : ∀ {encoded bytes}, P.decode encoded = .ok bytes → bytes.size ≤ encoded.utf8ByteSize
  decrypt_size : ∀ {key nonce ciphertext plaintext},
    P.decrypt key nonce ciphertext = .ok plaintext → plaintext.size + 16 = ciphertext.size

section Strings

variable {P : Primitives} {e : ConfigEncryption}

theorem hasEncryptedValues_iff (document : Json) (name : Option String) :
    hasEncryptedValues document = true ↔ ∃ x ∈ document.strings name, isEncrypted x.2 = true := by
  induction document using Json.induct generalizing name with
  | string s => simp [hasEncryptedValues, Json.strings]
  | array items ih =>
    rw [hasEncryptedValues, Json.strings]
    induction items with
    | nil => simp [anyItem, Json.itemStrings]
    | cons item items ihs =>
      obtain ⟨hitem, hitems⟩ := List.forall_mem_cons.mp ih
      rw [anyItem, Json.itemStrings, Bool.or_eq_true, hitem none, ihs hitems]
      simp only [List.mem_append, or_and_right, exists_or]
  | object fields ih =>
    rw [hasEncryptedValues, Json.strings]
    induction fields with
    | nil => simp [anyField, Json.fieldStrings]
    | cons field fields ihs =>
      obtain ⟨hfield, hfields⟩ := List.forall_mem_cons.mp ih
      rw [anyField, Json.fieldStrings, Bool.or_eq_true, hfield (some field.1), ihs hfields]
      simp only [List.mem_append, or_and_right, exists_or]
  | _ => simp [hasEncryptedValues, Json.strings]

theorem utf8ByteSize_of_fromUTF8? {bytes : ByteArray} {s : String}
    (h : String.fromUTF8? bytes = some s) : s.utf8ByteSize = bytes.size := by
  rw [String.fromUTF8?] at h
  split at h
  · rw [← Option.some_inj.mp h]
    rfl
  · cases h

theorem utf8ByteSize_of_encoded? {value encoded : String} (h : encoded? value = some encoded) :
    value.utf8ByteSize = 4 + encoded.utf8ByteSize := by
  rw [encoded?] at h
  split at h
  · next hbegins =>
    obtain ⟨rest, hrest⟩ := List.isPrefixOf_iff_prefix.mp hbegins
    rw [← hrest, List.drop_left, Option.some_inj] at h
    have hvalue : value = encryptedPrefix ++ encoded := by
      rw [← h, ← String.toList_inj, String.toList_append, String.toList_ofList, hrest]
    rw [hvalue, String.utf8ByteSize_append]
    rfl
  · cases h

theorem utf8ByteSize_lt_of_decrypt (hP : Shrinks P) {encrypted plaintext : String}
    (h : e.decrypt P encrypted = .ok plaintext) : plaintext.utf8ByteSize < encrypted.utf8ByteSize := by
  unfold ConfigEncryption.decrypt at h
  split at h
  · cases h
  · next encoded hencoded =>
    split at h
    · cases h
    · next combined hdecode =>
      split at h
      · cases h
      · split at h
        · cases h
        · next plain hdecrypt =>
          split at h
          · next s hs =>
            obtain rfl := Except.ok.inj h
            have hcombined := hP.decode_size hdecode
            have hplain := hP.decrypt_size hdecrypt
            rw [ByteArray.size_extract] at hplain
            rw [utf8ByteSize_of_encoded? hencoded, utf8ByteSize_of_fromUTF8? hs]
            omega
          · cases h

theorem decrypt_ne_self (hP : Shrinks P) (s : String) : e.decrypt P s ≠ .ok s :=
  fun h ↦ Nat.lt_irrefl _ (utf8ByteSize_lt_of_decrypt hP h)

def Opened (P : Primitives) (e : ConfigEncryption) (x y : Option String × String) : Prop :=
  y.1 = x.1 ∧ if isEncrypted x.2 then e.decrypt P x.2 = .ok y.2 else y.2 = x.2

open ConfigEncryption in
theorem opened_of_visit {xs ys : List (Option String × String)}
    (h : Json.visit (decryptStep P e) xs none = (ys, none)) : List.Forall₂ (Opened P e) xs ys := by
  induction xs generalizing ys with
  | nil =>
    cases h
    exact .nil
  | cons x xs ih =>
    simp only [Json.visit] at h
    cases hstep : decryptStep P e x.1 x.2 none with
    | mk s st =>
      rw [hstep] at h
      cases st with
      | some err =>
        rw [visit_decryptStep_some] at h
        cases (Prod.mk.inj h).2
      | none =>
        obtain ⟨hys, hnone⟩ := Prod.mk.inj h
        rw [← hys]
        refine .cons ⟨rfl, ?_⟩ (ih (Prod.ext rfl hnone))
        simp only [decryptStep] at hstep
        split at hstep
        · next henc =>
          rw [if_pos henc]
          split at hstep
          · next plaintext hdecrypt =>
            rw [hdecrypt, (Prod.mk.inj hstep).1]
          · cases (Prod.mk.inj hstep).2
        · next henc => rw [if_neg henc, (Prod.mk.inj hstep).1]

theorem decryptConfig_spec {document decrypted : Json}
    (h : e.decryptConfig P document = (.ok (), decrypted)) :
    decrypted.skeleton = document.skeleton ∧
      List.Forall₂ (Opened P e) (document.strings none) (decrypted.strings none) := by
  rw [ConfigEncryption.decryptConfig, ConfigEncryption.walkAndDecrypt_eq_walk P e document none,
    Prod.mk.injEq] at h
  obtain ⟨houtcome, hdecrypted⟩ := h
  have hnone : (document.walk (ConfigEncryption.decryptStep P e) none none).2 = none := by
    cases hst : (document.walk (ConfigEncryption.decryptStep P e) none none).2 with
    | none => rfl
    | some err =>
      rw [hst] at houtcome
      cases houtcome
  refine ⟨by rw [← hdecrypted, Json.skeleton_walk], opened_of_visit ?_⟩
  rw [Json.visit_strings, hdecrypted, hnone]

end Strings

section Start

variable {P : Primitives} {host : Host} {serde : Serde}

theorem decryptAtStartup_of_plain {config : GatewayConfig}
    (h : hasEncryptedValues config.toValue = false) :
    decryptAtStartup P host serde config = .ok config := by
  rw [decryptAtStartup, h]
  rfl

theorem decryptAtStartup_of_encrypted {config started : GatewayConfig}
    (hencrypted : hasEncryptedValues config.toValue = true)
    (h : decryptAtStartup P host serde config = .ok started) :
    ∃ (path : String) (encryptor : ConfigEncryption) (decrypted : Json),
      config.keyFile = some path ∧ (host.keyFile path).isSome ∧
      encryptor.decryptConfig P config.toValue = (.ok (), decrypted) ∧
        serde.fromValue decrypted = .ok started := by
  simp only [decryptAtStartup, hencrypted, if_true, validateEncryptionAtStartup] at h
  cases hpath : config.keyFile with
  | none =>
    rw [hpath] at h
    cases h
  | some path =>
    simp only [hpath] at h
    cases hthere : host.keyFile path with
    | none =>
      rw [hthere] at h
      cases h
    | some content =>
      simp only [hthere, Option.isNone_some, Bool.false_eq_true, if_false] at h
      cases hkey : fromKeyFile P host path with
      | error err =>
        rw [hkey] at h
        cases h
      | ok encryptor =>
        simp only [hkey, Except.map] at h
        cases hdecrypt : encryptor.decryptConfig P config.toValue with
        | mk answer decrypted =>
          simp only [hdecrypt] at h
          cases answer with
          | error err => cases h
          | ok _ =>
            refine ⟨path, encryptor, decrypted, rfl, ?_, hdecrypt, ?_⟩
            · rw [hthere]
              rfl
            · cases hread : serde.fromValue decrypted with
              | error err =>
                simp only [hread] at h
                cases h
              | ok config' =>
                simp only [hread] at h
                rw [Except.ok.inj h]

theorem start_eq_ok_iff {defaultText raw : String} {started : GatewayConfig} :
    start P host serde defaultText raw = .ok started ↔
      ∃ config, (configFormat serde host defaultText).load raw = .ok config ∧
        decryptAtStartup P host serde config = .ok started ∧ validateConfig started = .ok () := by
  rw [start]
  cases (configFormat serde host defaultText).load raw with
  | error e => simp
  | ok config =>
    simp only [Except.ok.injEq, exists_eq_left']
    cases decryptAtStartup P host serde config with
    | error e => simp
    | ok config' =>
      simp only [Except.ok.injEq]
      constructor
      · intro h
        cases hvalid : validateConfig config' with
        | error e =>
          rw [hvalid] at h
          cases h
        | ok _ =>
          rw [hvalid] at h
          obtain rfl := Except.ok.inj h
          exact ⟨rfl, hvalid⟩
      · rintro ⟨rfl, hvalid⟩
        rw [hvalid]

end Start

section Vectors

open ConfigEncryption

def sealedK : ByteArray :=
  ⟨#[0xa5, 0x8d, 0xd7, 0x41, 0x73, 0xec, 0x3c, 0xaf, 0xb1, 0x2e, 0x04, 0x6f, 0x51, 0xea, 0x37,
    0x37, 0xd6]⟩

def encodedK : String := "AAAAAAAAAAAAAAAApY3XQXPsPK+xLgRvUeo3N9Y="

/-- Faithful on the empty text and on the text k under the zero key and the zero nonce. -/
def twoVectors : Primitives where
  encrypt _ _ plaintext :=
    .ok (if plaintext = "k".toByteArray then sealedK else plaintext ++ emptyTag)
  decrypt _ _ ciphertext :=
    if ciphertext = sealedK then .ok "k".toByteArray
    else if ciphertext = ciphertext.extract 0 (ciphertext.size - 16) ++ emptyTag then
      .ok (ciphertext.extract 0 (ciphertext.size - 16))
    else .error "aead::Error"
  encode bytes :=
    if bytes = zeroNonce.1 ++ sealedK then encodedK else zeroVector.encode bytes
  decode encoded :=
    if encoded = encodedK then .ok (zeroNonce.1 ++ sealedK) else zeroVector.decode encoded
  toLowercase := zeroVector.toLowercase
  utf8Error := zeroVector.utf8Error

theorem append_emptyTag_ne (plaintext : ByteArray) : plaintext ++ emptyTag ≠ sealedK := by
  intro h
  have hlast := congrArg (fun bytes : ByteArray ↦ bytes.data.toList.getLast?) h
  simp [emptyTag, sealedK] at hlast

theorem encode_ne (bytes : ByteArray) : zeroVector.encode bytes ≠ encodedK := by
  simp only [zeroVector]
  split
  · decide
  · intro h
    have hhead := congrArg (fun s ↦ s.toList.head?) h
    simp [rawEncode, encodedK] at hhead

theorem twoVectors_lawful : twoVectors.Lawful := by
  refine ⟨fun key nonce plaintext ↦ ?_, fun bytes ↦ ?_⟩
  · by_cases hk : plaintext = "k".toByteArray
    · exact ⟨sealedK, by simp only [twoVectors, if_pos hk], by simp only [twoVectors, if_true, hk]⟩
    · refine ⟨plaintext ++ emptyTag, by simp only [twoVectors, if_neg hk], ?_⟩
      have hextract : (plaintext ++ emptyTag).extract 0 ((plaintext ++ emptyTag).size - 16) =
          plaintext :=
        ByteArray.extract_append_eq_left (by rw [ByteArray.size_append]; exact Nat.add_sub_cancel ..)
      simp only [twoVectors, if_neg (append_emptyTag_ne plaintext), hextract, if_true]
  · simp only [twoVectors]
    split
    · next h => rw [if_pos rfl, h]
    · rw [if_neg (encode_ne bytes), zeroVector_lawful.decode_encode]

theorem length_le_utf8ByteSize (s : String) : s.toList.length ≤ s.utf8ByteSize := by
  have hlist (cs : List Char) : cs.length ≤ (String.ofList cs).utf8ByteSize := by
    rw [String.utf8ByteSize_ofList]
    induction cs with
    | nil => exact Nat.le_refl 0
    | cons c cs ih =>
      have hc := Char.utf8Size_pos c
      rw [List.length_cons, String.utf8Len_cons]
      omega
  have hs := hlist s.toList
  rwa [String.ofList_toList] at hs

theorem twoVectors_shrinks : Shrinks twoVectors := by
  refine ⟨?_, ?_⟩
  · intro encoded bytes h
    simp only [twoVectors, zeroVector] at h
    split at h
    · next hk =>
      rw [hk, ← Except.ok.inj h]
      decide
    · rw [← Except.ok.inj h]
      split
      · next hempty =>
        rw [hempty]
        decide
      · refine Nat.le_trans ?_ (length_le_utf8ByteSize encoded)
        simp [rawDecode, ByteArray.size]
  · intro key nonce ciphertext plaintext h
    simp only [twoVectors] at h
    split at h
    · next hk =>
      rw [hk, ← Except.ok.inj h]
      decide
    · split at h
      · next htag =>
        rw [← Except.ok.inj h]
        have hsize := congrArg ByteArray.size htag
        rw [ByteArray.size_append] at hsize
        exact hsize.symm
      · cases h

end Vectors

end AdkGateway.Startup
