import SwiyuIssuer.Domain.Errors
import SwiyuIssuer.Library.Bytes
import SwiyuIssuer.Library.Text

/-! The envelopes in which the two secret-encryption backends store a ciphertext. -/

namespace SwiyuIssuer.Secrets

open Library

def maxKeyNameLen : Nat := 255

/-- A tag, the key name behind its length, the version, and the payload. -/
def encodeWith (format : UInt8) (keyName : String) (keyVersion : UInt32) (payload : List UInt8) :
    Except SecretEncryptionError (List UInt8) :=
  let keyNameBytes := Text.asBytes keyName
  if keyNameBytes.length > maxKeyNameLen then
    .error (.backend ("key_name exceeds 255-byte envelope bound: " ++
      toString keyNameBytes.length ++ " bytes"))
  else
    .ok (format :: .ofNat keyNameBytes.length ::
      (keyNameBytes ++ (Bytes.toBeBytes keyVersion ++ payload)))

/-- `none` is a panic, on an index behind the end; `least` is what the payload needs. -/
def decodeWith (format : UInt8) (least : Nat) (bytes : List UInt8) :
    Option (Except SecretEncryptionError (String × UInt32 × List UInt8)) :=
  if bytes.length < 2 then some (.error .malformedCiphertext)
  else do
    let tag ← bytes[0]?
    if tag ≠ format then return .error .malformedCiphertext
    let keyNameLen ← bytes[1]?.map UInt8.toNat
    let headerEnd := 2 + keyNameLen + 4 + least
    if bytes.length < headerEnd then return .error .malformedCiphertext
    match Text.fromUtf8 (← Bytes.slice bytes 2 (2 + keyNameLen)) with
    | none => return .error .malformedCiphertext
    | some keyName =>
        match Bytes.fromBeBytes (← Bytes.slice bytes (2 + keyNameLen) (2 + keyNameLen + 4)) with
        | none => return .error .malformedCiphertext
        | some keyVersion =>
            let payload ← Bytes.slice bytes (2 + keyNameLen + 4) bytes.length
            return .ok (keyName, keyVersion, payload)

/-- The shape that a decoder expects. -/
def frame (format : UInt8) (name : List UInt8) (keyVersion : UInt32) (payload : List UInt8) :
    List UInt8 :=
  format :: .ofNat name.length :: (name ++ (Bytes.toBeBytes keyVersion ++ payload))

section Frame

variable {format : UInt8} {least : Nat}

theorem encodeWith_ok_iff {keyName : String} {keyVersion : UInt32} {payload bytes : List UInt8} :
    encodeWith format keyName keyVersion payload = .ok bytes ↔
      (Text.asBytes keyName).length ≤ maxKeyNameLen ∧
        bytes = frame format (Text.asBytes keyName) keyVersion payload := by
  rw [encodeWith]
  by_cases long : (Text.asBytes keyName).length > maxKeyNameLen
  · simp [long, Nat.not_le.mpr long]
  · simp [long, frame, Nat.le_of_not_lt long, eq_comm]

theorem decodeWith_frame {name payload : List UInt8} (keyVersion : UInt32)
    (short : name.length ≤ maxKeyNameLen) (enough : least ≤ payload.length) :
    decodeWith format least (frame format name keyVersion payload) =
      some (match Text.fromUtf8 name with
        | none => .error .malformedCiphertext
        | some keyName => .ok (keyName, keyVersion, payload)) := by
  have length : (UInt8.ofNat name.length).toNat = name.length :=
    UInt8.toNat_ofNat_of_lt' (Nat.lt_of_le_of_lt short (by decide))
  let ahead : List UInt8 := [format, .ofNat name.length]
  have named : Bytes.slice (frame format name keyVersion payload) 2 (2 + name.length) = some name :=
    @Bytes.slice_parts ahead name 2 _ _ rfl rfl
  have versioned : Bytes.slice (frame format name keyVersion payload) (2 + name.length)
      (2 + name.length + 4) = some (Bytes.toBeBytes keyVersion) := by
    have shape : frame format name keyVersion payload =
        (ahead ++ name) ++ (Bytes.toBeBytes keyVersion ++ payload) := by simp [frame, ahead]
    rw [shape]
    apply Bytes.slice_parts
    · simp [ahead]
      omega
    · rfl
  have behind : Bytes.slice (frame format name keyVersion payload) (2 + name.length + 4)
      (frame format name keyVersion payload).length = some payload := by
    have shape : frame format name keyVersion payload =
        (ahead ++ name ++ Bytes.toBeBytes keyVersion) ++ payload := by simp [frame, ahead]
    rw [shape]
    apply Bytes.slice_end
    simp [ahead]
    omega
  have size : (frame format name keyVersion payload).length =
      2 + name.length + 4 + payload.length := by
    simp [frame]
    omega
  have first : (frame format name keyVersion payload)[0]? = some format := rfl
  have second : (frame format name keyVersion payload)[1]? = some (.ofNat name.length) := rfl
  rw [decodeWith, if_neg (by omega), first, second]
  simp only [Option.bind_eq_bind, Option.bind_some, Option.map_some, length, ne_eq, not_true_eq_false,
    if_false, named, versioned, behind]
  rw [if_neg (by omega)]
  cases Text.fromUtf8 name with
  | none => rfl
  | some keyName => simp [Bytes.fromBeBytes_toBeBytes]

/-- Every byte string is a frame of the format with room for the payload, or malformed. -/
theorem decodeWith_cases (format : UInt8) (least : Nat) (bytes : List UInt8) :
    (∃ name keyVersion payload, name.length ≤ maxKeyNameLen ∧ least ≤ payload.length ∧
      bytes = frame format name keyVersion payload) ∨
      decodeWith format least bytes = some (.error .malformedCiphertext) := by
  match bytes with
  | [] => exact .inr rfl
  | [tag] => exact .inr rfl
  | tag :: keyNameLen :: rest =>
      by_cases tagged : tag = format
      · by_cases enough : keyNameLen.toNat + 4 + least ≤ rest.length
        · left
          obtain ⟨keyVersion, -, version⟩ := Bytes.fromBeBytes_of_length
            (show ((rest.drop keyNameLen.toNat).take 4).length = 4 by
              rw [List.length_take, List.length_drop]
              omega)
          have name : (rest.take keyNameLen.toNat).length = keyNameLen.toNat := by
            rw [List.length_take]
            omega
          refine ⟨rest.take keyNameLen.toNat, keyVersion, (rest.drop keyNameLen.toNat).drop 4, ?_, ?_, ?_⟩
          · have := keyNameLen.toNat_lt
            rw [name, maxKeyNameLen]
            omega
          · rw [List.length_drop, List.length_drop]
            omega
          · rw [frame, name, tagged, ← version, List.take_append_drop, List.take_append_drop,
              UInt8.ofNat_toNat]
        · right
          have few : rest.length + 1 + 1 < 2 + keyNameLen.toNat + 4 + least := by omega
          simp [decodeWith, tagged, few]
      · right
        simp [decodeWith, tagged]

theorem decodeWith_ok_iff {bytes : List UInt8} {keyName : String} {keyVersion : UInt32}
    {payload : List UInt8} :
    decodeWith format least bytes = some (.ok (keyName, keyVersion, payload)) ↔
      encodeWith format keyName keyVersion payload = .ok bytes ∧ least ≤ payload.length := by
  rw [encodeWith_ok_iff]
  constructor
  · intro decoded
    rcases decodeWith_cases format least bytes with framed | malformed
    · obtain ⟨name, version, behind, short, enough, rfl⟩ := framed
      rw [decodeWith_frame version short enough] at decoded
      cases read : Text.fromUtf8 name with
      | none => simp [read] at decoded
      | some text =>
          rw [read] at decoded
          cases decoded
          rw [Text.asBytes_of_fromUtf8 read]
          exact ⟨⟨short, rfl⟩, enough⟩
    · rw [malformed] at decoded
      cases decoded
  · rintro ⟨⟨short, rfl⟩, enough⟩
    rw [decodeWith_frame keyVersion short enough, Text.fromUtf8_asBytes]

theorem decodeWith_ne_none (format : UInt8) (least : Nat) (bytes : List UInt8) :
    decodeWith format least bytes ≠ none := by
  rcases decodeWith_cases format least bytes with framed | malformed
  · obtain ⟨name, version, behind, short, enough, rfl⟩ := framed
    simp [decodeWith_frame version short enough]
  · simp [malformed]

end Frame

namespace Dev

def format : UInt8 := 0x01

def nonceLen : Nat := 12

abbrev Nonce := { bytes : List UInt8 // bytes.length = nonceLen }

structure Envelope where
  keyName : String
  keyVersion : UInt32
  nonce : Nonce
  ctAndTag : List UInt8
deriving DecidableEq

def Envelope.encode (env : Envelope) : Except SecretEncryptionError (List UInt8) :=
  encodeWith format env.keyName env.keyVersion (env.nonce.val ++ env.ctAndTag)

/-- The nonce ahead of the ciphertext and its tag. -/
def decodePayload (keyName : String) (keyVersion : UInt32) (payload : List UInt8) :
    Option (Except SecretEncryptionError Envelope) := do
  let nonce ← Bytes.slice payload 0 nonceLen
  if sized : nonce.length = nonceLen then
    let ctAndTag ← Bytes.slice payload nonceLen payload.length
    return .ok ⟨keyName, keyVersion, ⟨nonce, sized⟩, ctAndTag⟩
  else return .error .malformedCiphertext

def decode (bytes : List UInt8) : Option (Except SecretEncryptionError Envelope) :=
  (decodeWith format nonceLen bytes).bind fun
    | .error error => some (.error error)
    | .ok (keyName, keyVersion, payload) => decodePayload keyName keyVersion payload

theorem decodePayload_append (keyName : String) (keyVersion : UInt32) (nonce : Nonce)
    (ctAndTag : List UInt8) : decodePayload keyName keyVersion (nonce.val ++ ctAndTag) =
      some (.ok ⟨keyName, keyVersion, nonce, ctAndTag⟩) := by
  have first : Bytes.slice (nonce.val ++ ctAndTag) 0 nonceLen = some nonce.val :=
    @Bytes.slice_parts [] nonce.val 0 nonceLen ctAndTag rfl (by rw [nonce.property, Nat.zero_add])
  have second := Bytes.slice_end ctAndTag nonce.property
  rw [decodePayload, first]
  simp only [Option.bind_eq_bind, Option.bind_some, nonce.property, dite_true, second]
  rfl

/-- A payload with room for a nonce is one, and what is behind it. -/
theorem exists_nonce {payload : List UInt8} (enough : nonceLen ≤ payload.length) :
    ∃ (nonce : Nonce) (ctAndTag : List UInt8), payload = nonce.val ++ ctAndTag :=
  ⟨⟨payload.take nonceLen, by rw [List.length_take, Nat.min_eq_left enough]⟩,
    payload.drop nonceLen, (List.take_append_drop _ _).symm⟩

theorem decode_ok_iff {bytes : List UInt8} {env : Envelope} :
    decode bytes = some (.ok env) ↔ env.encode = .ok bytes := by
  constructor
  · intro decoded
    obtain ⟨answer, parts, rest⟩ := Option.bind_eq_some_iff.mp decoded
    cases answer with
    | error error => cases rest
    | ok parsed =>
        obtain ⟨keyName, keyVersion, payload⟩ := parsed
        obtain ⟨encoded, enough⟩ := decodeWith_ok_iff.mp parts
        obtain ⟨nonce, ctAndTag, rfl⟩ := exists_nonce enough
        dsimp only at rest
        rw [decodePayload_append] at rest
        cases rest
        exact encoded
  · intro encoded
    have parts := decodeWith_ok_iff.mpr ⟨encoded, show nonceLen ≤ _ by
      rw [List.length_append, env.nonce.property]
      exact Nat.le_add_right _ _⟩
    rw [decode, parts]
    exact decodePayload_append _ _ _ _

theorem decode_ne_none (bytes : List UInt8) : decode bytes ≠ none := by
  intro panics
  cases parts : decodeWith format nonceLen bytes with
  | none => exact decodeWith_ne_none _ _ _ parts
  | some answer =>
      rw [decode, parts] at panics
      cases answer with
      | error error => cases panics
      | ok parsed =>
          obtain ⟨keyName, keyVersion, payload⟩ := parsed
          obtain ⟨nonce, ctAndTag, rfl⟩ := exists_nonce (decodeWith_ok_iff.mp parts).2
          have answered := decodePayload_append keyName keyVersion nonce ctAndTag
          cases answered.symm.trans panics

end Dev

namespace Vault

def format : UInt8 := 0x02

structure Envelope where
  keyName : String
  keyVersion : UInt32
  vaultPayload : List UInt8
deriving DecidableEq

def Envelope.encode (env : Envelope) : Except SecretEncryptionError (List UInt8) :=
  encodeWith format env.keyName env.keyVersion env.vaultPayload

def decode (bytes : List UInt8) : Option (Except SecretEncryptionError Envelope) :=
  (decodeWith format 0 bytes).map fun answer =>
    answer.map fun (keyName, keyVersion, vaultPayload) => ⟨keyName, keyVersion, vaultPayload⟩

theorem decode_ok_iff {bytes : List UInt8} {env : Envelope} :
    decode bytes = some (.ok env) ↔ env.encode = .ok bytes := by
  constructor
  · intro decoded
    obtain ⟨answer, parts, rest⟩ := Option.map_eq_some_iff.mp decoded
    cases answer with
    | error error => cases rest
    | ok parsed =>
        cases rest
        exact (decodeWith_ok_iff.mp parts).1
  · intro encoded
    rw [decode, decodeWith_ok_iff.mpr ⟨encoded, Nat.zero_le _⟩]
    rfl

theorem decode_ne_none (bytes : List UInt8) : decode bytes ≠ none := by
  rw [decode, ne_eq, Option.map_eq_none_iff]
  exact decodeWith_ne_none _ _ _

end Vault

theorem encodeWith_ok {keyName : String} (format : UInt8) (keyVersion : UInt32)
    (payload : List UInt8) (short : (Text.asBytes keyName).length ≤ maxKeyNameLen) :
    ∃ bytes, encodeWith format keyName keyVersion payload = .ok bytes :=
  ⟨_, encodeWith_ok_iff.mpr ⟨short, rfl⟩⟩

/-- The tags keep the two formats apart. -/
theorem not_both_decode (bytes : List UInt8) (dev : Dev.Envelope) (vault : Vault.Envelope) :
    ¬ (Dev.decode bytes = some (.ok dev) ∧ Vault.decode bytes = some (.ok vault)) := by
  rw [Dev.decode_ok_iff, Vault.decode_ok_iff]
  rintro ⟨one, two⟩
  have devFrame := (encodeWith_ok_iff.mp one).2
  have vaultFrame := (encodeWith_ok_iff.mp two).2
  rw [devFrame] at vaultFrame
  exact absurd (List.cons.inj vaultFrame).1 (by decide)

end SwiyuIssuer.Secrets
