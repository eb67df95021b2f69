import SwiyuIssuer.Worker.CreateIssuer

/-! What a genesis entry is built from, and what a reader finds in it. -/

namespace SwiyuIssuer.Worker

open Library

def Carries (core : SwiyuCore) (read : Json → Option LogEntry) (multikey : String)
    (authentication assertion : P256PublicKey) (line : Json) : Prop :=
  ∃ entry doc, read line = some entry ∧ entry.updateKeys = some [multikey] ∧
    entry.didDocState = .value (.ok doc) ∧
    doc.key core.authenticationFragment = some authentication ∧
    doc.key assertionFragment = some assertion

/-- What the builder relies on: a genesis entry carries the keys that it is made with, and neither
the scid in the place of its placeholder nor the version id nor the proof changes them. A multikey
holds no placeholder. -/
structure GenesisCore.Readable (genesis : GenesisCore) (core : SwiyuCore)
    (read : Json → Option LogEntry) : Prop where
  made : ∀ multikey did authentication assertion now,
    Carries core read multikey authentication assertion
      (genesis.newGenesis multikey did authentication assertion now)
  stripped : ∀ {multikey authentication assertion line},
    Carries core read multikey authentication assertion line →
      Carries core read multikey authentication assertion (genesis.stripProofSlot line)
  replaced : ∀ {bytes authentication assertion line} (scid : String),
    Carries core read (core.multikey bytes) authentication assertion line →
      Carries core read (core.multikey bytes) authentication assertion (genesis.withScid scid line)
  versioned : ∀ {multikey authentication assertion line} (versionId : String),
    Carries core read multikey authentication assertion line →
      Carries core read multikey authentication assertion (genesis.setVersionId line versionId)
  signed : ∀ {multikey authentication assertion line} (keyId : KeyPairId)
    (signer versionId now : String), Carries core read multikey authentication assertion line →
      Carries core read multikey authentication assertion
        (genesis.appendProof line keyId signer versionId now)

section Build

variable {core : SwiyuCore} {genesis : GenesisCore} {engine : Engine} {faults : EngineFaults}
  {state later : CreateIssuerStateData} {now : DateTime} {line : Json}

theorem getPublicKey_faultless {fault : Option SigningEngineError} {id : KeyPairId}
    {pk : RawPublicKey} (answered : engine.getPublicKey fault id = .ok pk) : fault = none := by
  cases fault with
  | none => rfl
  | some error => cases answered

theorem authorizedMultikey_faultless {fault : Option SigningEngineError} {role : String}
    {id : KeyPairId} {multikey : String}
    (answered : authorizedMultikey core engine fault role id = .ok multikey) : fault = none := by
  rcases Answers.bind_ok.mp answered with ⟨pk, found, _⟩
  exact getPublicKey_faultless found

theorem p256Key_faultless {fault : Option SigningEngineError} {role : String} {id : KeyPairId}
    {key : P256PublicKey} (answered : p256Key engine fault role id = .ok key) : fault = none := by
  rcases Answers.bind_ok.mp answered with ⟨pk, found, _⟩
  exact getPublicKey_faultless found

theorem requireState_ok {α : Type} {field : String} {held : Option α} {value : α} :
    requireState field held = .ok value ↔ held = some value := by
  cases held <;> simp [requireState]

/-- A build that succeeds is repeated by every build from the same URL, key ids and time. -/
theorem buildLogEntry_again (built : buildLogEntry core genesis engine faults state now = .ok line)
    (url : ∀ address, state.assignedDidUrl = some address → later.assignedDidUrl = some address)
    (keyIds : ∀ keys, state.keyIds = some keys → later.keyIds = some keys) :
    buildLogEntry core genesis engine {} later now = .ok line := by
  unfold buildLogEntry at built ⊢
  simp only [Answers.bind_ok, Answers.mapError_ok, requireState_ok] at built ⊢
  rcases built with ⟨address, addressed, keys, keyed, place, parsed, multikey, authorized,
    authentication, first, assertion, second, did, named, signed⟩
  have f := authorizedMultikey_faultless authorized
  have g := p256Key_faultless first
  have h := p256Key_faultless second
  rw [f] at authorized
  rw [g] at first
  rw [h] at second
  refine ⟨address, url _ addressed, keys, keyIds _ keyed, place, parsed, multikey, authorized,
    authentication, first, assertion, second, did, named, ?_⟩
  split at signed
  · cases signed
  · exact signed

theorem buildLogEntry_carries {read : Json → Option LogEntry} (readable : genesis.Readable core read)
    (built : buildLogEntry core genesis engine faults state now = .ok line) :
    ∃ keyIds authentication assertion, state.keyIds = some keyIds ∧
      sec1ToP256 "authentication" (engine.publicKey keyIds.authentication) = .ok authentication ∧
      sec1ToP256 "assertion" (engine.publicKey keyIds.assertion) = .ok assertion ∧
      Carries core read (engine.multikey core keyIds.authorized) authentication assertion line := by
  unfold buildLogEntry at built
  simp only [Answers.bind_ok, Answers.mapError_ok, requireState_ok] at built
  rcases built with ⟨address, addressed, keys, keyed, place, parsed, multikey, authorized,
    authentication, first, assertion, second, did, named, signed⟩
  cases authorizedMultikey_ok authorized
  rcases Answers.bind_ok.mp first with ⟨pk, found, shaped⟩
  rcases Answers.bind_ok.mp second with ⟨pk', found', shaped'⟩
  rw [getPublicKey_ok found] at shaped
  rw [getPublicKey_ok found'] at shaped'
  refine ⟨keys, authentication, assertion, keyed, shaped, shaped', ?_⟩
  split at signed
  · cases signed
  · cases signed
    exact readable.signed _ _ _ _ (readable.versioned _ (readable.replaced _
      (readable.stripped (readable.made ..))))

end Build

end SwiyuIssuer.Worker
