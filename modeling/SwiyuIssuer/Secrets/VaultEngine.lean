import SwiyuIssuer.Library.Base64Standard
import SwiyuIssuer.Library.Decimal
import SwiyuIssuer.Management.Cursor
import SwiyuIssuer.Secrets.Envelopes

/-! `VaultSecretEncryptionEngine`: the ciphertexts of Vault Transit, taken apart when they are stored
and put together again when they are asked for. -/

namespace SwiyuIssuer.Secrets

open Library Management

namespace Vault

def vaultCiphertextPrefix : String := "vault:v"

/-- The two endpoints of Vault Transit, and how `base64` words the error of a text that it does not
read. -/
structure Transit where
  encrypt : String → List UInt8 → Except SecretEncryptionError String
  decrypt : String → String → Except SecretEncryptionError (List UInt8)
  decodeError : String → String

/-- The text between the prefix and the first colon, and the text behind it. -/
def splitCiphertext (raw : String) : Except SecretEncryptionError (String × String) :=
  match Text.stripPrefix vaultCiphertextPrefix raw with
  | none => .error (.backend ("vault ciphertext missing " ++ "\x60" ++ vaultCiphertextPrefix ++
      "\x60 prefix: " ++ raw))
  | some afterPrefix =>
      match splitOnce afterPrefix ':' with
      | none => .error (.backend ("vault ciphertext missing version/payload separator: " ++ raw))
      | some parts => .ok parts

variable (transit : Transit)

def parseVaultCiphertext (raw : String) : Except SecretEncryptionError (UInt32 × List UInt8) := do
  let (versionStr, payloadB64) ← splitCiphertext raw
  match Decimal.parseUnsigned 32 versionStr with
  | .error e => .error (.backend ("vault ciphertext version parse: " ++ e.toString))
  | .ok keyVersion =>
      match Base64Standard.decode payloadB64 with
      | none => .error (.backend ("vault ciphertext payload base64: " ++
          transit.decodeError payloadB64))
      | some payload => .ok (.ofNat keyVersion, payload)

def encrypt (keyName : String) (plaintext : List UInt8) :
    Except SecretEncryptionError (List UInt8) := do
  let ciphertext ← transit.encrypt keyName plaintext
  let (keyVersion, vaultPayload) ← parseVaultCiphertext transit ciphertext
  Envelope.encode ⟨keyName, keyVersion, vaultPayload⟩

def Envelope.vaultCiphertext (env : Envelope) : String :=
  vaultCiphertextPrefix ++ toString env.keyVersion.toNat ++ ":" ++
    Base64Standard.encode env.vaultPayload

def requested (keyName : String) (ciphertext : List UInt8) :
    Option (Except SecretEncryptionError String) :=
  (decode ciphertext).map fun answer => answer.bind fun env =>
    if env.keyName ≠ keyName then .error (.keyNameMismatch env.keyName keyName)
    else .ok env.vaultCiphertext

def decrypt (keyName : String) (ciphertext : List UInt8) :
    Option (Except SecretEncryptionError (List UInt8)) :=
  (requested keyName ciphertext).map fun answer => answer.bind (transit.decrypt keyName)

/-- The version is spelled without a sign and without a leading zero. -/
def SpelledPlainly (raw : String) : Prop :=
  ∀ version payload, splitCiphertext raw = .ok (version, payload) →
    version.toList.head? ≠ some '+' ∧ Decimal.Plain version.toList

theorem append_of_splitOnce {text front back : String} {separator : Char}
    (cut : splitOnce text separator = some (front, back)) :
    text = front ++ String.singleton separator ++ back := by
  rw [splitOnce] at cut
  split at cut
  · next c rest behind =>
      cases cut
      have found : c = separator := by
        have nonempty : text.toList.dropWhile (fun c => c != separator) ≠ [] := by
          rw [behind]
          exact List.cons_ne_nil _ _
        have head := List.head_dropWhile_not (fun c => c != separator) nonempty
        simpa [behind] using head
      apply String.toList_inj.mp
      calc text.toList = text.toList.takeWhile (· != separator) ++
            text.toList.dropWhile (· != separator) := List.takeWhile_append_dropWhile.symm
        _ = (String.ofList (text.toList.takeWhile (· != separator)) ++
            String.singleton separator ++ String.ofList rest).toList := by simp [behind, found]
  · cases cut

theorem append_of_splitCiphertext {raw version payload : String}
    (split : splitCiphertext raw = .ok (version, payload)) :
    raw = vaultCiphertextPrefix ++ version ++ ":" ++ payload := by
  rw [splitCiphertext] at split
  cases stripped : Text.stripPrefix vaultCiphertextPrefix raw with
  | none => simp [stripped] at split
  | some afterPrefix =>
      cases cut : splitOnce afterPrefix ':' with
      | none => simp [stripped, cut] at split
      | some parts =>
          simp only [stripped, cut] at split
          cases split
          calc raw = vaultCiphertextPrefix ++ afterPrefix := Text.append_of_stripPrefix stripped
            _ = vaultCiphertextPrefix ++ (version ++ ":" ++ payload) := by
                rw [append_of_splitOnce cut]
                rfl
            _ = vaultCiphertextPrefix ++ version ++ ":" ++ payload := by simp [String.append_assoc]

theorem parseVaultCiphertext_ok {transit : Transit} {raw : String} {keyVersion : UInt32}
    {payload : List UInt8} (parsed : parseVaultCiphertext transit raw = .ok (keyVersion, payload)) :
    ∃ version, splitCiphertext raw = .ok (version, Base64Standard.encode payload) ∧
      Decimal.parseUnsigned 32 version = .ok keyVersion.toNat := by
  rw [parseVaultCiphertext] at parsed
  cases split : splitCiphertext raw with
  | error error => simp [split, bind, Except.bind] at parsed
  | ok parts =>
      obtain ⟨version, payloadB64⟩ := parts
      simp only [split, bind, Except.bind] at parsed
      cases read : Decimal.parseUnsigned 32 version with
      | error error => simp [read] at parsed
      | ok number =>
          cases decoded : Base64Standard.decode payloadB64 with
          | none => simp [read, decoded] at parsed
          | some bytes =>
              simp only [read, decoded] at parsed
              cases parsed
              have small : number < 2 ^ 32 := by
                obtain ⟨_, _, _, _, _, small⟩ := Decimal.parseUnsigned_ok read
                exact small
              refine ⟨version, ?_, ?_⟩
              · rw [Base64Standard.decode_iff.mp decoded]
              · rw [UInt32.toNat_ofNat_of_lt' small]
                exact read

/-- The ciphertext is rebuilt as it was exactly when its version was spelled plainly. -/
theorem vaultCiphertext_eq_iff {transit : Transit} {raw : String} {env : Envelope}
    (parsed : parseVaultCiphertext transit raw = .ok (env.keyVersion, env.vaultPayload)) :
    env.vaultCiphertext = raw ↔ SpelledPlainly raw := by
  obtain ⟨version, split, read⟩ := parseVaultCiphertext_ok parsed
  have same : env.vaultCiphertext = raw ↔
      Nat.toDigits 10 env.keyVersion.toNat = version.toList := by
    rw [append_of_splitCiphertext split, Envelope.vaultCiphertext, ← String.toList_inj]
    simp
  rw [same, Decimal.toDigits_parseUnsigned_iff read, SpelledPlainly]
  constructor
  · intro plain other payload found
    rw [split] at found
    cases found
    exact plain
  · intro plain
    exact plain version _ split

theorem requested_encode {env : Envelope} {ciphertext : List UInt8}
    (stored : env.encode = .ok ciphertext) :
    requested env.keyName ciphertext = some (.ok env.vaultCiphertext) := by
  rw [requested, decode_ok_iff.mpr stored]
  simp [Except.bind]

theorem encrypt_ok {transit : Transit} {keyName raw : String} {plaintext ciphertext : List UInt8}
    (returned : transit.encrypt keyName plaintext = .ok raw)
    (stored : encrypt transit keyName plaintext = .ok ciphertext) :
    ∃ env : Envelope, env.keyName = keyName ∧ env.encode = .ok ciphertext ∧
      parseVaultCiphertext transit raw = .ok (env.keyVersion, env.vaultPayload) := by
  rw [encrypt, returned] at stored
  simp only [bind, Except.bind] at stored
  cases parsed : parseVaultCiphertext transit raw with
  | error error => simp [parsed] at stored
  | ok parts =>
      rw [parsed] at stored
      exact ⟨⟨keyName, parts.1, parts.2⟩, rfl, stored, rfl⟩

end Vault

/-- An encoder and a decoder that agree both ways, and a decoder that stays inside every input. -/
structure Exact {E : Type} (keyName : E → String)
    (encode : E → Except SecretEncryptionError (List UInt8))
    (decode : List UInt8 → Option (Except SecretEncryptionError E)) : Prop where
  roundTrip : ∀ env, (Text.asBytes (keyName env)).length ≤ maxKeyNameLen →
    ∃ bytes, encode env = .ok bytes ∧ decode bytes = some (.ok env)
  canonical : ∀ bytes env, decode bytes = some (.ok env) → encode env = .ok bytes
  inside : ∀ bytes, decode bytes ≠ none

theorem Dev.exact_ : Exact Dev.Envelope.keyName Dev.Envelope.encode Dev.decode where
  roundTrip env short := by
    obtain ⟨bytes, encoded⟩ := encodeWith_ok Dev.format env.keyVersion
      (env.nonce.val ++ env.ctAndTag) short
    exact ⟨bytes, encoded, Dev.decode_ok_iff.mpr encoded⟩
  canonical _ _ := Dev.decode_ok_iff.mp
  inside := Dev.decode_ne_none

theorem Vault.exact_ : Exact Vault.Envelope.keyName Vault.Envelope.encode Vault.decode where
  roundTrip env short := by
    obtain ⟨bytes, encoded⟩ := encodeWith_ok Vault.format env.keyVersion env.vaultPayload short
    exact ⟨bytes, encoded, Vault.decode_ok_iff.mpr encoded⟩
  canonical _ _ := Vault.decode_ok_iff.mp
  inside := Vault.decode_ne_none

/-- Both formats are exact and apart; and Vault is asked for the ciphertext that it returned exactly
when that one's version was spelled plainly. -/
theorem stored_secrets_decode_iff (transit : Vault.Transit) :
    Exact Dev.Envelope.keyName Dev.Envelope.encode Dev.decode ∧
    Exact Vault.Envelope.keyName Vault.Envelope.encode Vault.decode ∧
    (∀ bytes dev vault, ¬ (Dev.decode bytes = some (.ok dev) ∧ Vault.decode bytes = some (.ok vault))) ∧
    ∀ keyName plaintext raw ciphertext, transit.encrypt keyName plaintext = .ok raw →
      Vault.encrypt transit keyName plaintext = .ok ciphertext →
      (Vault.requested keyName ciphertext = some (.ok raw) ↔ Vault.SpelledPlainly raw) := by
  refine ⟨Dev.exact_, Vault.exact_, not_both_decode, ?_⟩
  intro keyName plaintext raw ciphertext returned stored
  obtain ⟨env, rfl, encoded, parsed⟩ := Vault.encrypt_ok returned stored
  rw [Vault.requested_encode encoded, ← Vault.vaultCiphertext_eq_iff parsed]
  simp

section Sample

def answers (raw : String) : Vault.Transit := ⟨fun _ _ => .ok raw, fun _ _ => .ok [], fun _ => ""⟩

def sampleBlob : List UInt8 := [2, 1, 107, 0, 0, 0, 1, 0, 0, 0]

theorem stored_secrets_decode_iff_sample :
    Vault.encrypt (answers "vault:v1:AAAA") "k" [] = .ok sampleBlob ∧
      Vault.requested "k" sampleBlob = some (.ok "vault:v1:AAAA") := by
  have stored : Vault.encrypt (answers "vault:v1:AAAA") "k" [] = .ok sampleBlob := by decide +kernel
  have plain : Vault.SpelledPlainly "vault:v1:AAAA" := by
    have split : Vault.splitCiphertext "vault:v1:AAAA" = .ok ("1", "AAAA") := by decide +kernel
    intro version payload found
    rw [split] at found
    cases found
    decide +kernel
  exact ⟨stored, ((stored_secrets_decode_iff _).2.2.2 _ _ _ _ rfl stored).mpr plain⟩

/-- A leading zero: Vault is asked for another text than it returned. -/
theorem leading_zero_is_lost :
    Vault.encrypt (answers "vault:v01:AAAA") "k" [] = .ok sampleBlob ∧
      Vault.requested "k" sampleBlob = some (.ok "vault:v1:AAAA") ∧
      "vault:v1:AAAA" ≠ "vault:v01:AAAA" := by
  decide +kernel

end Sample

end SwiyuIssuer.Secrets
