import AdkGateway.Encryption.ConfigEncryption
import AdkGateway.Foundation.JsonPath
import Mathlib

namespace AdkGateway.Encryption

open Foundation

variable {P : Primitives}

section Value

theorem isEncrypted_append (encoded : String) : isEncrypted (encryptedPrefix ++ encoded) = true := by
  rw [isEncrypted, String.toList_append, List.isPrefixOf_iff_prefix]
  exact List.prefix_append _ _

theorem encoded?_append (encoded : String) :
    encoded? (encryptedPrefix ++ encoded) = some encoded := by
  rw [encoded?, isEncrypted_append, if_pos rfl, String.toList_append, List.drop_left,
    String.ofList_toList]

namespace ConfigEncryption

variable {e : ConfigEncryption}

theorem decrypt_append {nonce : Bytes 12} {plaintext : String} {ciphertext : ByteArray}
    (hP : P.Lawful) (h : P.decrypt e.key nonce ciphertext = .ok plaintext.toByteArray) :
    e.decrypt P (encryptedPrefix ++ P.encode (nonce.1 ++ ciphertext)) = .ok plaintext := by
  have hsize : ¬ (nonce.1 ++ ciphertext).size < 12 := by
    rw [ByteArray.size_append, nonce.2]
    omega
  have hnonce : (nonce.1 ++ ciphertext).extract 0 12 = nonce.1 :=
    ByteArray.extract_append_eq_left nonce.2.symm
  have htext : (nonce.1 ++ ciphertext).extract 12 (nonce.1 ++ ciphertext).size = ciphertext := by
    rw [ByteArray.size_append]
    exact ByteArray.extract_append_eq_right nonce.2.symm rfl
  have hutf8 : String.fromUTF8? plaintext.toByteArray = some plaintext := by
    rw [String.fromUTF8?, dif_pos plaintext.isValidUTF8]
    rfl
  simp only [decrypt, encoded?_append, hP.decode_encode, dif_neg hsize, hnonce, htext]
  rw [h]
  simp only [hutf8]

theorem encrypt_spec (hP : P.Lawful) (plaintext : String) (nonce : Bytes 12) :
    ∃ encrypted, e.encrypt P plaintext nonce = .ok encrypted ∧ isEncrypted encrypted = true ∧
      e.decrypt P encrypted = .ok plaintext := by
  obtain ⟨ciphertext, hencrypt, hdecrypt⟩ :=
    hP.decrypt_encrypt e.key nonce plaintext.toByteArray
  refine ⟨encryptedPrefix ++ P.encode (nonce.1 ++ ciphertext), ?_, isEncrypted_append _,
    decrypt_append hP hdecrypt⟩
  rw [encrypt, hencrypt]

end ConfigEncryption

end Value

def isSensitivePlaintext (P : Primitives) (x : Option String × String) : Bool :=
  x.1.any (ConfigEncryption.isSensitiveField P) && !isEncrypted x.2

namespace ConfigEncryption

section Walkers

variable (P) (e : ConfigEncryption) (nonces : ℕ → Bytes 12)

def encryptStep (name : Option String) (s : String) (n : ℕ) : String × ℕ :=
  if isSensitivePlaintext P (name, s) then
    match e.encrypt P s (nonces n) with
    | .ok encrypted => (encrypted, n + 1)
    | .error _ => (s, n + 1)
  else (s, n)

def decryptStep (_name : Option String) (s : String) :
    Option CryptoError → String × Option CryptoError
  | some err => (s, some err)
  | none =>
    if isEncrypted s then
      match e.decrypt P s with
      | .ok decrypted => (decrypted, none)
      | .error err => (s, some err)
    else (s, none)

def outcome : Option CryptoError → Except CryptoError Unit
  | none => .ok ()
  | some err => .error err

theorem walkAndEncrypt_eq_walk (j : Json) (name : Option String) (n : ℕ) :
    walkAndEncrypt P e nonces j name n = j.walk (encryptStep P e nonces) name n := by
  induction j using Json.induct generalizing name n with
  | string s =>
    cases name with
    | none => rfl
    | some name =>
      simp only [walkAndEncrypt, Json.walk, encryptStep, isSensitivePlaintext, Option.any_some]
      by_cases hs : (isSensitiveField P name && !isEncrypted s) = true
      · simp only [hs, ↓reduceIte]
        cases e.encrypt P s (nonces n) <;> rfl
      · simp only [hs, Bool.false_eq_true, ↓reduceIte]
  | array items ih =>
    simp only [walkAndEncrypt, Json.walk]
    suffices h : encryptItems P e nonces items n = Json.walkItems (encryptStep P e nonces) items n by
      rw [h]
    induction items generalizing n with
    | nil => rfl
    | cons item items ihs =>
      obtain ⟨hitem, hitems⟩ := List.forall_mem_cons.mp ih
      simp only [encryptItems, Json.walkItems, hitem, ihs hitems]
  | object fields ih =>
    simp only [walkAndEncrypt, Json.walk]
    suffices h : encryptFields P e nonces fields n =
        Json.walkFields (encryptStep P e nonces) fields n by rw [h]
    induction fields generalizing n with
    | nil => rfl
    | cons field fields ihs =>
      obtain ⟨hfield, hfields⟩ := List.forall_mem_cons.mp ih
      simp only [encryptFields, Json.walkFields, hfield, ihs hfields]
  | _ => rfl

theorem visit_decryptStep_some (xs : List (Option String × String)) (err : CryptoError) :
    Json.visit (decryptStep P e) xs (some err) = (xs, some err) := by
  induction xs with
  | nil => rfl
  | cons x xs ih => simp only [Json.visit, decryptStep, ih]

theorem walk_decryptStep_some (name : Option String) (j : Json) (err : CryptoError) :
    j.walk (decryptStep P e) name (some err) = (j, some err) :=
  Json.walk_eq_of_visit rfl (visit_decryptStep_some P e _ err)

theorem walkAndDecrypt_eq_walk (j : Json) (name : Option String) :
    walkAndDecrypt P e j =
      (outcome (j.walk (decryptStep P e) name none).2, (j.walk (decryptStep P e) name none).1) := by
  induction j using Json.induct generalizing name with
  | string s =>
    simp only [walkAndDecrypt, Json.walk, decryptStep]
    cases isEncrypted s with
    | false => rfl
    | true => cases e.decrypt P s <;> rfl
  | array items ih =>
    simp only [walkAndDecrypt, Json.walk]
    suffices h : decryptItems P e items =
        (outcome (Json.walkItems (decryptStep P e) items none).2,
          (Json.walkItems (decryptStep P e) items none).1) by rw [h]
    induction items with
    | nil => rfl
    | cons item items ihs =>
      obtain ⟨hitem, hitems⟩ := List.forall_mem_cons.mp ih
      simp only [decryptItems, Json.walkItems, hitem none, ihs hitems]
      cases (item.walk (decryptStep P e) none none).2 with
      | none => rfl
      | some err =>
        have hrest := walk_decryptStep_some P e none (.array items) err
        simp only [Json.walk, Prod.mk.injEq, Json.array.injEq] at hrest
        simp only [outcome, hrest.1, hrest.2]
  | object fields ih =>
    simp only [walkAndDecrypt, Json.walk]
    suffices h : decryptFields P e fields =
        (outcome (Json.walkFields (decryptStep P e) fields none).2,
          (Json.walkFields (decryptStep P e) fields none).1) by rw [h]
    induction fields with
    | nil => rfl
    | cons field fields ihs =>
      obtain ⟨hfield, hfields⟩ := List.forall_mem_cons.mp ih
      simp only [decryptFields, Json.walkFields, hfield (some field.1), ihs hfields]
      cases (field.2.walk (decryptStep P e) (some field.1) none).2 with
      | none => rfl
      | some err =>
        have hrest := walk_decryptStep_some P e none (.object fields) err
        simp only [Json.walk, Prod.mk.injEq, Json.object.injEq] at hrest
        simp only [outcome, hrest.1, hrest.2]
  | _ => rfl

theorem countSensitivePlaintextInner_eq (j : Json) (name : Option String) :
    countSensitivePlaintextInner P j name =
      UInt32.ofNat ((j.strings name).countP (isSensitivePlaintext P)) := by
  induction j using Json.induct generalizing name with
  | string s =>
    cases name with
    | none => rfl
    | some name =>
      simp only [countSensitivePlaintextInner, Json.strings, List.countP_singleton,
        isSensitivePlaintext, Option.any_some]
      by_cases hs : (isSensitiveField P name && !isEncrypted s) = true
      · simp only [hs, ↓reduceIte]
        rfl
      · simp only [hs, Bool.false_eq_true, ↓reduceIte]
        rfl
  | array items ih =>
    simp only [countSensitivePlaintextInner, Json.strings]
    induction items with
    | nil => rfl
    | cons item items ihs =>
      obtain ⟨hitem, hitems⟩ := List.forall_mem_cons.mp ih
      rw [countItems, Json.itemStrings, List.countP_append, UInt32.ofNat_add, hitem, ihs hitems]
  | object fields ih =>
    simp only [countSensitivePlaintextInner, Json.strings]
    induction fields with
    | nil => rfl
    | cons field fields ihs =>
      obtain ⟨hfield, hfields⟩ := List.forall_mem_cons.mp ih
      rw [countFields, Json.fieldStrings, List.countP_append, UInt32.ofNat_add, hfield,
        ihs hfields]
  | _ => rfl

end Walkers

section Strings

variable {e : ConfigEncryption} {nonces : ℕ → Bytes 12}

def Sealed (P : Primitives) (e : ConfigEncryption) (x y : Option String × String) : Prop :=
  y.1 = x.1 ∧
    if isSensitivePlaintext P x then isEncrypted y.2 = true ∧ e.decrypt P y.2 = .ok x.2
    else y.2 = x.2

theorem sealed_encryptStep (hP : P.Lawful) (name : Option String) (s : String) (n : ℕ) :
    Sealed P e (name, s) (name, (encryptStep P e nonces name s n).1) := by
  obtain ⟨encrypted, hencrypt, henc, hdecrypt⟩ := encrypt_spec (e := e) hP s (nonces n)
  refine ⟨rfl, ?_⟩
  by_cases hs : isSensitivePlaintext P (name, s) = true
  · simp only [encryptStep, hs, ↓reduceIte, hencrypt]
    exact ⟨henc, hdecrypt⟩
  · simp only [encryptStep, hs, Bool.false_eq_true, ↓reduceIte]

theorem sealed_visit (hP : P.Lawful) (xs : List (Option String × String)) (n : ℕ) :
    List.Forall₂ (Sealed P e) xs (Json.visit (encryptStep P e nonces) xs n).1 := by
  induction xs generalizing n with
  | nil => exact .nil
  | cons x xs ih => exact .cons (sealed_encryptStep hP x.1 x.2 n) (ih _)

variable {x y : Option String × String} {xs ys : List (Option String × String)}

theorem Sealed.not_isSensitivePlaintext (h : Sealed P e x y) :
    isSensitivePlaintext P y = false := by
  obtain ⟨hname, hvalue⟩ := h
  split at hvalue
  · simp only [isSensitivePlaintext, hvalue.1, Bool.not_true, Bool.and_false]
  · next hx =>
    have hxy : y = x := Prod.ext hname hvalue
    rw [hxy, Bool.eq_false_iff]
    exact hx

theorem not_isSensitivePlaintext_of_forall₂ (h : List.Forall₂ (Sealed P e) xs ys) :
    ∀ y ∈ ys, isSensitivePlaintext P y = false := by
  induction h with
  | nil => exact nofun
  | cons hxy _ ih => exact List.forall_mem_cons.mpr ⟨hxy.not_isSensitivePlaintext, ih⟩

theorem countP_zip_of_forall₂ {p : Option String × String → Bool}
    (h : List.Forall₂ (fun x y ↦ y.2 ≠ x.2 ↔ p x = true) xs ys) :
    (xs.zip ys).countP (fun x ↦ decide (x.2.2 ≠ x.1.2)) = xs.countP p := by
  induction h with
  | nil => rfl
  | cons hxy _ ih => simp only [List.zip_cons_cons, List.countP_cons, ih, hxy, Bool.decide_eq_true]

theorem Sealed.ne_iff (h : Sealed P e x y) (hx : isEncrypted x.2 = false) :
    y.2 ≠ x.2 ↔ x.1.any (isSensitiveField P) = true := by
  have hs : isSensitivePlaintext P x = x.1.any (isSensitiveField P) := by
    rw [isSensitivePlaintext, hx, Bool.not_false, Bool.and_true]
  obtain ⟨hname, hvalue⟩ := h
  rw [hs] at hvalue
  split at hvalue
  · next hsens =>
    refine iff_of_true (fun heq ↦ ?_) hsens
    rw [heq, hx] at hvalue
    exact Bool.false_ne_true hvalue.1
  · next hsens => exact iff_of_false (fun hne ↦ hne hvalue) hsens

theorem Sealed.decryptStep_eq (h : Sealed P e x y) (hx : isEncrypted x.2 = false) :
    decryptStep P e y.1 y.2 none = (x.2, none) := by
  obtain ⟨hname, hvalue⟩ := h
  split at hvalue
  · simp only [decryptStep, hvalue.1, hvalue.2, ↓reduceIte]
  · simp only [decryptStep, hvalue, hx, Bool.false_eq_true, ↓reduceIte]

theorem visit_decryptStep (h : List.Forall₂ (Sealed P e) xs ys)
    (hxs : ∀ x ∈ xs, isEncrypted x.2 = false) :
    Json.visit (decryptStep P e) ys none = (xs, none) := by
  induction h with
  | nil => rfl
  | cons hxy _ ih =>
    obtain ⟨hx, hrest⟩ := List.forall_mem_cons.mp hxs
    simp only [Json.visit, hxy.decryptStep_eq hx, ih hrest]
    rw [hxy.1]

theorem visit_encryptStep (h : ∀ x ∈ xs, isSensitivePlaintext P x = false) (n : ℕ) :
    Json.visit (encryptStep P e nonces) xs n = (xs, n) := by
  induction xs with
  | nil => rfl
  | cons x xs ih =>
    obtain ⟨hx, hrest⟩ := List.forall_mem_cons.mp h
    simp only [Json.visit, encryptStep, hx, Bool.false_eq_true, ↓reduceIte, ih hrest]

theorem visit_decryptStep_error (hx : x ∈ xs) (henc : isEncrypted x.2 = true)
    (hbad : ∀ plaintext, e.decrypt P x.2 ≠ .ok plaintext) :
    ∃ err, (Json.visit (decryptStep P e) xs none).2 = some err := by
  induction xs with
  | nil => cases hx
  | cons x' xs ih =>
    simp only [Json.visit]
    cases hstep : decryptStep P e x'.1 x'.2 none with
    | mk s st =>
      cases st with
      | some err => exact ⟨err, by rw [visit_decryptStep_some]⟩
      | none =>
        rcases List.mem_cons.mp hx with rfl | hx
        · simp only [decryptStep, henc, ↓reduceIte] at hstep
          cases hdec : e.decrypt P x.2 with
          | ok plaintext => exact absurd hdec (hbad plaintext)
          | error err =>
            rw [hdec] at hstep
            cases hstep
        · exact ih hx

end Strings

section Documents

variable (P) (e : ConfigEncryption) (nonces : ℕ → Bytes 12) (config : Json) (n : ℕ)

def changes (config config' : Json) : ℕ :=
  ((config.strings none).zip (config'.strings none)).countP fun x ↦ decide (x.2.2 ≠ x.1.2)

structure RoundTrips : Prop where
  restored : decryptConfig P e (encryptConfig P e nonces config n).1 = (.ok (), config)
  shape : (encryptConfig P e nonces config n).1.skeleton = config.skeleton
  changed_iff : List.Forall₂
    (fun x y ↦ y.1 = x.1 ∧ (y.2 ≠ x.2 ↔ x.1.any (isSensitiveField P) = true))
    (config.strings none) ((encryptConfig P e nonces config n).1.strings none)
  again : ∀ m, (encryptConfig P e nonces (encryptConfig P e nonces config n).1 m).1 =
    (encryptConfig P e nonces config n).1
  count_eq : (countSensitivePlaintext P config).toNat =
    changes config (encryptConfig P e nonces config n).1
  count_encrypted : countSensitivePlaintext P (encryptConfig P e nonces config n).1 = 0

def Plain : Prop := ∀ x ∈ config.strings none, isEncrypted x.2 = false

def Undecryptable : Prop :=
  ∃ x ∈ config.strings none, isEncrypted x.2 = true ∧ ∀ plaintext, e.decrypt P x.2 ≠ .ok plaintext

def sensitivePlaintexts : ℕ := (config.strings none).countP (isSensitivePlaintext P)

end Documents

section Documents

variable {e : ConfigEncryption} {nonces : ℕ → Bytes 12} {config : Json} {n : ℕ}

theorem skeleton_encryptConfig :
    (encryptConfig P e nonces config n).1.skeleton = config.skeleton := by
  rw [encryptConfig, walkAndEncrypt_eq_walk, Json.skeleton_walk]

theorem sealed_encryptConfig (hP : P.Lawful) :
    List.Forall₂ (Sealed P e) (config.strings none)
      ((encryptConfig P e nonces config n).1.strings none) := by
  have hsealed : List.Forall₂ (Sealed P e) (config.strings none)
      (Json.visit (encryptStep P e nonces) (config.strings none) n).1 := sealed_visit hP _ n
  rwa [Json.visit_strings, ← walkAndEncrypt_eq_walk] at hsealed

theorem visit_encryptStep_encryptConfig (hP : P.Lawful) (m : ℕ) :
    Json.visit (encryptStep P e nonces) ((encryptConfig P e nonces config n).1.strings none) m =
      ((encryptConfig P e nonces config n).1.strings none, m) :=
  visit_encryptStep (not_isSensitivePlaintext_of_forall₂ (sealed_encryptConfig hP)) m

theorem encryptConfig_encryptConfig (hP : P.Lawful) (m : ℕ) :
    (encryptConfig P e nonces (encryptConfig P e nonces config n).1 m).1 =
      (encryptConfig P e nonces config n).1 := by
  rw [encryptConfig, walkAndEncrypt_eq_walk,
    Json.walk_eq_of_visit rfl (visit_encryptStep_encryptConfig hP m)]

theorem decryptConfig_encryptConfig (hP : P.Lawful) (hconfig : Plain config) :
    decryptConfig P e (encryptConfig P e nonces config n).1 = (.ok (), config) := by
  have hvisit : Json.visit (decryptStep P e)
      ((encryptConfig P e nonces config n).1.strings none) none = (config.strings none, none) :=
    visit_decryptStep (sealed_encryptConfig hP) hconfig
  rw [decryptConfig, walkAndDecrypt_eq_walk P e _ none,
    Json.walk_eq_of_visit skeleton_encryptConfig hvisit]
  rfl

theorem changed_iff (hP : P.Lawful) (hconfig : Plain config) :
    List.Forall₂ (fun x y ↦ y.1 = x.1 ∧ (y.2 ≠ x.2 ↔ x.1.any (isSensitiveField P) = true))
      (config.strings none) ((encryptConfig P e nonces config n).1.strings none) :=
  ((List.forall₂_and_left _ _).mpr ⟨hconfig, sealed_encryptConfig hP⟩).imp
    fun _ _ ⟨hx, hxy⟩ ↦ ⟨hxy.1, hxy.ne_iff hx⟩

theorem changes_encryptConfig (hP : P.Lawful) (hconfig : Plain config) :
    changes config (encryptConfig P e nonces config n).1 = sensitivePlaintexts P config := by
  refine countP_zip_of_forall₂ (((List.forall₂_and_left _ _).mpr
    ⟨hconfig, changed_iff hP hconfig⟩).imp ?_)
  rintro x y ⟨hx, -, hne⟩
  rw [hne, isSensitivePlaintext, hx, Bool.not_false, Bool.and_true]

theorem countSensitivePlaintext_eq :
    countSensitivePlaintext P config = UInt32.ofNat (sensitivePlaintexts P config) :=
  countSensitivePlaintextInner_eq P config none

theorem countSensitivePlaintext_encryptConfig (hP : P.Lawful) :
    countSensitivePlaintext P (encryptConfig P e nonces config n).1 = 0 := by
  have hcount : sensitivePlaintexts P (encryptConfig P e nonces config n).1 = 0 := by
    refine List.countP_eq_zero.mpr fun y hy ↦ Bool.not_eq_true _ ▸ ?_
    exact not_isSensitivePlaintext_of_forall₂ (sealed_encryptConfig hP) y hy
  rw [countSensitivePlaintext_eq, hcount]
  rfl

theorem decryptConfig_error (h : Undecryptable P e config) :
    ∃ err, (decryptConfig P e config).1 = .error err := by
  obtain ⟨x, hx, henc, hbad⟩ := h
  obtain ⟨err, herr⟩ := visit_decryptStep_error hx henc hbad
  rw [Json.visit_strings] at herr
  refine ⟨err, ?_⟩
  rw [decryptConfig, walkAndDecrypt_eq_walk P e _ none, herr]
  rfl

theorem count_eq_iff (hP : P.Lawful) (hconfig : Plain config) :
    (countSensitivePlaintext P config).toNat =
        changes config (encryptConfig P e nonces config n).1 ↔
      sensitivePlaintexts P config < 2 ^ 32 := by
  rw [changes_encryptConfig hP hconfig, countSensitivePlaintext_eq, UInt32.toNat_ofNat']
  omega

/-- The count is of 32 bits. -/
theorem roundTrips_iff_countable (hP : P.Lawful) :
    (Plain config → RoundTrips P e nonces config n) ∧
        (Undecryptable P e config → ∃ err, (decryptConfig P e config).1 = .error err) ↔
      (Plain config → sensitivePlaintexts P config < 2 ^ 32) := by
  constructor
  · rintro ⟨hrounds, -⟩ hconfig
    exact (count_eq_iff hP hconfig).mp (hrounds hconfig).count_eq
  · refine fun hsmall ↦ ⟨fun hconfig ↦ ?_, decryptConfig_error⟩
    exact ⟨decryptConfig_encryptConfig hP hconfig, skeleton_encryptConfig, changed_iff hP hconfig,
      encryptConfig_encryptConfig hP, (count_eq_iff hP hconfig).mpr (hsmall hconfig),
      countSensitivePlaintext_encryptConfig hP⟩

end Documents

section ZeroVector

def zeroKey : ConfigEncryption := ⟨⟨⟨Array.replicate 32 0⟩, Array.size_replicate⟩⟩

def zeroNonce : Bytes 12 := ⟨⟨Array.replicate 12 0⟩, Array.size_replicate⟩

def emptyTag : ByteArray :=
  ⟨#[0x53, 0x0f, 0x8a, 0xfb, 0xc7, 0x45, 0x36, 0xb9, 0xa9, 0x63, 0xb4, 0xf1, 0xc4, 0xcb, 0x73,
    0x8b]⟩

def emptyEncoded : String := "AAAAAAAAAAAAAAAAUw+K+8dFNrmpY7TxxMtziw=="

def rawEncode (bytes : ByteArray) : String :=
  String.ofList ('#' :: bytes.data.toList.map fun byte ↦ Char.ofNat byte.toNat)

def rawDecode (encoded : String) : ByteArray :=
  ⟨(encoded.toList.tail.map fun c ↦ UInt8.ofNat c.toNat).toArray⟩

/-- Faithful on the empty text under the zero key and the zero nonce. -/
def zeroVector : Primitives where
  encrypt _ _ plaintext := .ok (Equiv.swap .empty emptyTag plaintext)
  decrypt _ _ ciphertext := .ok (Equiv.swap .empty emptyTag ciphertext)
  encode bytes := if bytes = zeroNonce.1 ++ emptyTag then emptyEncoded else rawEncode bytes
  decode encoded :=
    .ok (if encoded = emptyEncoded then zeroNonce.1 ++ emptyTag else rawDecode encoded)
  toLowercase s := String.ofList (s.toList.map Char.toLower)
  utf8Error _ := "invalid utf-8 sequence"

theorem rawDecode_rawEncode (bytes : ByteArray) : rawDecode (rawEncode bytes) = bytes := by
  have hbyte (byte : UInt8) : UInt8.ofNat (Char.ofNat byte.toNat).toNat = byte := by
    have hvalid : byte.toNat.isValidChar := .inl (by have := byte.toNat_lt; omega)
    have hchar : (Char.ofNat byte.toNat).toNat = byte.toNat := by
      rw [Char.ofNat, dif_pos hvalid]
      rfl
    rw [hchar, UInt8.ofNat_toNat]
  rw [rawDecode, rawEncode, String.toList_ofList, List.tail_cons, List.map_map]
  simp [Function.comp_def, hbyte]

theorem rawEncode_ne (bytes : ByteArray) : rawEncode bytes ≠ emptyEncoded := by
  intro h
  have hhead := congrArg (fun s ↦ s.toList.head?) h
  simp [rawEncode, emptyEncoded] at hhead

theorem zeroVector_lawful : zeroVector.Lawful := by
  refine ⟨fun _ _ plaintext ↦ ⟨_, rfl, ?_⟩, fun bytes ↦ ?_⟩
  · simp only [zeroVector, Equiv.swap_apply_self]
  · simp only [zeroVector]
    split
    · next h => rw [if_pos rfl, h]
    · rw [if_neg (rawEncode_ne bytes), rawDecode_rawEncode]

def emptyToken : Json := .object [("token", .string "")]

theorem roundTrips_iff_countable_emptyToken :
    Plain emptyToken ∧ RoundTrips zeroVector zeroKey (fun _ ↦ zeroNonce) emptyToken 0 := by
  have hplain : Plain emptyToken := by
    rintro x hx
    cases List.mem_singleton.mp hx
    rfl
  refine ⟨hplain, ((roundTrips_iff_countable zeroVector_lawful).mpr fun _ ↦ ?_).1 hplain⟩
  exact (List.countP_le_length).trans_lt (by decide)

def manyTokens (k : ℕ) : Json := .array (List.replicate k emptyToken)

theorem strings_manyTokens (k : ℕ) :
    (manyTokens k).strings none = List.replicate k (some "token", "") := by
  rw [manyTokens, Json.strings]
  induction k with
  | zero => rfl
  | succ k ih =>
    rw [List.replicate_succ, List.replicate_succ, Json.itemStrings, ih]
    rfl

theorem not_roundTrips :
    ¬ (Plain (manyTokens (2 ^ 32)) →
      RoundTrips zeroVector zeroKey (fun _ ↦ zeroNonce) (manyTokens (2 ^ 32)) 0) := by
  intro hrounds
  have hplain : Plain (manyTokens (2 ^ 32)) := by
    intro x hx
    rw [strings_manyTokens] at hx
    rw [List.eq_of_mem_replicate hx]
    rfl
  refine absurd ((count_eq_iff zeroVector_lawful hplain).mp (hrounds hplain).count_eq) ?_
  rw [sensitivePlaintexts, strings_manyTokens, List.countP_replicate, if_pos (by decide)]
  exact lt_irrefl _

end ZeroVector

end ConfigEncryption

end AdkGateway.Encryption
