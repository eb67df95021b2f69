import SwiyuIssuer.Domain.OAuth2
import SwiyuIssuer.Secrets.VaultEngine

/-! `DevSecretEncryptionEngine` beside `VaultSecretEncryptionEngine`, and what `decrypt` makes of a
blob that `encrypt` has made, whichever of the two is configured. -/

namespace SwiyuIssuer.Secrets

open Library

namespace Dev

def hkdfInfoPrefix : String := "swiyu-issuer/v1/secret-management/"

def devKeyVersion : UInt32 := 1

def masterKeyLen : Nat := 32

abbrev MasterKey := { bytes : List UInt8 // bytes.length = masterKeyLen }

/-- HKDF-SHA256 of a master key and an info, and AES-256-GCM; `gcmEncrypt` fails with the text of its
error. -/
structure Crypto where
  expand : List UInt8 → List UInt8 → List UInt8
  gcmEncrypt : List UInt8 → Nonce → List UInt8 → Except String (List UInt8)
  gcmDecrypt : List UInt8 → Nonce → List UInt8 → Option (List UInt8)

/-- What is encrypted is decrypted under the same key and nonce. -/
def Crypto.Documented (crypto : Crypto) : Prop :=
  ∀ key nonce plaintext ctAndTag, crypto.gcmEncrypt key nonce plaintext = .ok ctAndTag →
    crypto.gcmDecrypt key nonce ctAndTag = some plaintext

variable (crypto : Crypto) (masterKey : MasterKey)

def deriveKey (keyName : String) : List UInt8 :=
  crypto.expand masterKey.val (Text.asBytes hkdfInfoPrefix ++ Text.asBytes keyName)

/-- `nonce` is what `generate_nonce` draws. -/
def encryptSync (nonce : Nonce) (keyName : String) (plaintext : List UInt8) :
    Except SecretEncryptionError (List UInt8) :=
  match crypto.gcmEncrypt (deriveKey crypto masterKey keyName) nonce plaintext with
  | .error e => .error (.backend ("aes-gcm encrypt: " ++ e))
  | .ok ctAndTag => Envelope.encode ⟨keyName, devKeyVersion, nonce, ctAndTag⟩

def openEnvelope (keyName : String) (env : Envelope) :
    Except SecretEncryptionError (List UInt8) :=
  if env.keyName ≠ keyName then .error (.keyNameMismatch env.keyName keyName)
  else if env.keyVersion ≠ devKeyVersion then
    .error (.keyVersionNotFound keyName env.keyVersion.toNat)
  else
    match crypto.gcmDecrypt (deriveKey crypto masterKey keyName) env.nonce env.ctAndTag with
    | some plaintext => .ok plaintext
    | none => .error .tampered

/-- `none` is a panic, of `Envelope::decode`. -/
def decryptSync (keyName : String) (ciphertext : List UInt8) :
    Option (Except SecretEncryptionError (List UInt8)) :=
  (decode ciphertext).map fun answer => answer.bind (openEnvelope crypto masterKey keyName)

end Dev

/-- The ciphertexts that Vault has ever returned: of which plaintext, under which key. -/
abbrev Vault.Issued := String → List UInt8 → String → Prop

/-- Vault at the time of one call. It may be sealed, unreachable or without the key; but what it
decrypts is what was encrypted, and it spells versions without a sign or a leading zero. -/
structure Vault.Transit.Documented (transit : Transit) (issued : Issued) : Prop where
  issues : ∀ keyName plaintext raw, transit.encrypt keyName plaintext = .ok raw →
    issued keyName plaintext raw
  opens : ∀ keyName plaintext raw opened, issued keyName plaintext raw →
    transit.decrypt keyName raw = .ok opened → opened = plaintext
  spelled : ∀ keyName plaintext raw, issued keyName plaintext raw → SpelledPlainly raw

structure Draw where
  nonce : Dev.Nonce
  transit : Vault.Transit

/-- Address, token and mount of Vault are inside the `Transit` that a call reaches. -/
inductive AnySecretEncryptionEngine
  | dev (masterKey : Dev.MasterKey)
  | vault

namespace AnySecretEncryptionEngine

variable (crypto : Dev.Crypto) (issued : Vault.Issued)

def encrypt (engine : AnySecretEncryptionEngine) (draw : Draw) (keyName : String)
    (plaintext : List UInt8) : Except SecretEncryptionError (List UInt8) :=
  match engine with
  | dev masterKey => Dev.encryptSync crypto masterKey draw.nonce keyName plaintext
  | vault => Vault.encrypt draw.transit keyName plaintext

def decrypt (engine : AnySecretEncryptionEngine) (draw : Draw) (keyName : String)
    (ciphertext : List UInt8) : Option (Except SecretEncryptionError (List UInt8)) :=
  match engine with
  | dev masterKey => Dev.decryptSync crypto masterKey keyName ciphertext
  | vault => Vault.decrypt draw.transit keyName ciphertext

def Relies (engine : AnySecretEncryptionEngine) (draw : Draw) : Prop :=
  match engine with
  | dev _ => crypto.Documented
  | vault => draw.transit.Documented issued

/-- The blob holds the plaintext under the key name, for this engine. -/
def Seals (engine : AnySecretEncryptionEngine) (blob : List UInt8) (keyName : String)
    (plaintext : List UInt8) : Prop :=
  match engine with
  | dev masterKey => ∃ env : Dev.Envelope, env.encode = .ok blob ∧ env.keyName = keyName ∧
      Dev.openEnvelope crypto masterKey keyName env = .ok plaintext
  | vault => ∃ env : Vault.Envelope, env.encode = .ok blob ∧ env.keyName = keyName ∧
      issued keyName plaintext env.vaultCiphertext

end AnySecretEncryptionEngine

/-- Nothing outside of the process is asked. -/
def AnySecretEncryptionEngine.inProcess : AnySecretEncryptionEngine → Bool
  | dev _ => true
  | vault => false

def opened {α : Type} (fault : Option SecretEncryptionError) (keyName named : String)
    (plaintext : α) : Except SecretEncryptionError α :=
  match fault with
  | some e => .error e
  | none => if named = keyName then .ok plaintext else .error (.keyNameMismatch named keyName)

section Engines

variable {crypto : Dev.Crypto} {issued : Vault.Issued} {engine : AnySecretEncryptionEngine}
  {draw : Draw} {keyName named : String} {plaintext blob : List UInt8}

theorem Dev.encryptSync_seals {masterKey : MasterKey} {nonce : Nonce}
    (documented : crypto.Documented)
    (sealed : encryptSync crypto masterKey nonce keyName plaintext = .ok blob) :
    ∃ env : Envelope, env.encode = .ok blob ∧ env.keyName = keyName ∧
      openEnvelope crypto masterKey keyName env = .ok plaintext := by
  unfold encryptSync at sealed
  cases made : crypto.gcmEncrypt (deriveKey crypto masterKey keyName) nonce plaintext with
  | error e => simp [made] at sealed
  | ok ctAndTag =>
      rw [made] at sealed
      refine ⟨_, sealed, rfl, ?_⟩
      simp [openEnvelope, documented _ _ _ _ made]

theorem Vault.encrypt_seals {transit : Transit} (documented : transit.Documented issued)
    (sealed : encrypt transit keyName plaintext = .ok blob) :
    ∃ env : Envelope, env.encode = .ok blob ∧ env.keyName = keyName ∧
      issued keyName plaintext env.vaultCiphertext := by
  rcases Answers.bind_ok.mp sealed with ⟨raw, returned, _⟩
  rcases encrypt_ok returned sealed with ⟨env, named, encoded, parsed⟩
  have given := documented.issues _ _ _ returned
  refine ⟨env, encoded, named, ?_⟩
  rw [(vaultCiphertext_eq_iff parsed).mpr (documented.spelled _ _ _ given)]
  exact given

theorem encrypt_seals (relies : engine.Relies crypto issued draw)
    (sealed : engine.encrypt crypto draw keyName plaintext = .ok blob) :
    engine.Seals crypto issued blob keyName plaintext := by
  cases engine with
  | dev masterKey => exact Dev.encryptSync_seals relies sealed
  | vault => exact Vault.encrypt_seals relies sealed

theorem Dev.decryptSync_encode {masterKey : MasterKey} {env : Envelope}
    (encoded : env.encode = .ok blob)
    (opens : openEnvelope crypto masterKey env.keyName env = .ok plaintext) :
    decryptSync crypto masterKey keyName blob =
      some (opened none keyName env.keyName plaintext) := by
  have answer : openEnvelope crypto masterKey keyName env =
      opened none keyName env.keyName plaintext := by
    by_cases same : env.keyName = keyName
    · subst same
      rw [opens]
      simp [opened]
    · simp [openEnvelope, opened, same]
  rw [decryptSync, decode_ok_iff.mpr encoded, Option.map_some]
  exact congrArg some answer

theorem Vault.decrypt_encode {transit : Transit} {env : Envelope}
    (documented : transit.Documented issued) (encoded : env.encode = .ok blob)
    (given : issued env.keyName plaintext env.vaultCiphertext) :
    ∃ fault, decrypt transit keyName blob = some (opened fault keyName env.keyName plaintext) := by
  by_cases same : env.keyName = keyName
  · subst same
    have asked := requested_encode encoded
    cases answer : transit.decrypt env.keyName env.vaultCiphertext with
    | error e =>
        refine ⟨some e, ?_⟩
        rw [decrypt, asked]
        exact congrArg some answer
    | ok found =>
        refine ⟨none, ?_⟩
        have whole : opened none env.keyName env.keyName found = .ok found := by simp [opened]
        rw [decrypt, asked, ← documented.opens _ _ _ _ given answer, whole]
        exact congrArg some answer
  · refine ⟨none, ?_⟩
    rw [decrypt, requested, decode_ok_iff.mpr encoded]
    simp [Except.bind, opened, same]

/-- Under the key name that it was sealed under, a blob gives its plaintext or an error of the call,
and under another one the error that names both. -/
theorem decrypt_seals (relies : engine.Relies crypto issued draw)
    (sealed : engine.Seals crypto issued blob named plaintext) :
    ∃ fault, (engine.inProcess = true → fault = none) ∧
      engine.decrypt crypto draw keyName blob = some (opened fault keyName named plaintext) := by
  cases engine with
  | dev masterKey =>
      rcases sealed with ⟨env, encoded, rfl, opens⟩
      exact ⟨none, fun _ => rfl, Dev.decryptSync_encode encoded opens⟩
  | vault =>
      rcases sealed with ⟨env, encoded, rfl, given⟩
      rcases @Vault.decrypt_encode _ keyName _ _ _ _ relies encoded given with ⟨fault, answer⟩
      exact ⟨fault, fun inside => (Bool.false_ne_true inside).elim, answer⟩

end Engines

end SwiyuIssuer.Secrets
