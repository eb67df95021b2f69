import SwiyuIssuer.Worker.Outcome
import SwiyuIssuer.Worker.States

/-! DID logs as the worker reads and extends them: the two entry builders, and the steps around
them that the rotation and the deactivation saga share. -/

namespace SwiyuIssuer.Worker

open Library

structure P256PublicKey where
  x : List UInt8
  y : List UInt8
deriving DecidableEq, Repr

/-- A DID document, by the keys under its fragments. -/
structure DidDoc where
  verificationMethods : List (String × P256PublicKey)
deriving DecidableEq, Repr

def DidDoc.key (doc : DidDoc) (fragment : String) : Option P256PublicKey :=
  doc.verificationMethods.lookup fragment

/-- `did_doc_state()`: a full document, with what parsing it answers, or a patch. -/
inductive DidDocState
  | value (parsed : Except String DidDoc)
  | patch
deriving DecidableEq, Repr

/-- A proof, with the key pair of the engine that made its signature. -/
structure DataIntegrityProof where
  verificationMethod : String
  challenge : String
  created : String
  signedBy : KeyPairId
deriving DecidableEq, Repr

structure LogEntry where
  versionId : String
  versionTime : String
  updateKeys : Option (List String)
  deactivated : Option Bool
  didDocState : DidDocState
  proof : Option DataIntegrityProof
deriving DecidableEq, Repr

def assertionFragment : String := "assertion-key-01"

/-- The functions of `swiyu_core` and `chrono` that the worker calls, and what it relies on: an
entry carries the keys, respectively the deactivation marker, that it was made with. -/
structure SwiyuCore where
  authenticationFragment : String
  parseDid : String → Except String (Option String)
  rfc3339 : DateTime → String
  multikey : List UInt8 → String
  newRotation : (prevVersionId did authorizedMultikey : String) →
    (authentication assertion : P256PublicKey) → (now : String) → LogEntry
  newDeactivation : (prevVersionId : String) → DidDoc → (now : String) → LogEntry
  entryHash : LogEntry → String
  multikey_injective : Function.Injective multikey
  rotation_updateKeys : ∀ prev did key authentication assertion now,
    (newRotation prev did key authentication assertion now).updateKeys = some [key]
  rotation_deactivated : ∀ prev did key authentication assertion now,
    (newRotation prev did key authentication assertion now).deactivated ≠ some true
  rotation_document : ∀ prev did key authentication assertion now, ∃ doc,
    (newRotation prev did key authentication assertion now).didDocState = .value (.ok doc) ∧
      doc.key authenticationFragment = some authentication ∧
      doc.key assertionFragment = some assertion
  deactivation_marker : ∀ prev doc now, (newDeactivation prev doc now).deactivated = some true

inductive ChainedBuildError
  | issuerNotActive (state : Option IssuerState)
  | missingIssuerField (field : String)
  | emptyLog
  | previousStateIsPatch
  | invalidPredecessorDoc (details : String)
  | invalidPublicKey (role message : String)
  | engine (error : SigningEngineError)
deriving DecidableEq, Repr

namespace ChainedBuildError

def errorCode (engineFailureCode : String) : ChainedBuildError → String
  | issuerNotActive _ => "issuer_not_active"
  | missingIssuerField _ => "missing_issuer_field"
  | emptyLog => "registry_empty_log"
  | previousStateIsPatch => "predecessor_state_is_patch"
  | invalidPredecessorDoc _ => "invalid_predecessor_doc"
  | invalidPublicKey _ _ => "invalid_public_key"
  | engine _ => engineFailureCode

/-- `{:?}` of `issuer.state.as_ref()`. -/
def debugState : Option IssuerState → String
  | none => "None"
  | some .active => "Some(Active)"
  | some .deactivated => "Some(Deactivated)"

def toString : ChainedBuildError → String
  | issuerNotActive state => "issuer is not in state Active: " ++ debugState state
  | missingIssuerField field => "issuer is missing required field: " ++ field
  | emptyLog => "registry returned an empty DID log — nothing to chain onto"
  | previousStateIsPatch =>
      "registry's tail entry uses a Patch state — chained operations require a full DID document"
  | invalidPredecessorDoc details => "registry's tail DID document is malformed: " ++ details
  | invalidPublicKey role message => "invalid public key for " ++ role ++ ": " ++ message
  | engine error => error.toString

end ChainedBuildError

/-- `BuildError` of either builder; `already` is `AlreadyRotated` or `AlreadyDeactivated`. -/
inductive BuildError
  | chained (error : ChainedBuildError)
  | already
deriving DecidableEq, Repr

/-- What the two sagas call their step and their `already` error. -/
structure SagaTexts where
  alreadyCode : String
  alreadyText : String

def BuildError.errorCode (texts : SagaTexts) (engineFailureCode : String) : BuildError → String
  | chained error => error.errorCode engineFailureCode
  | already => texts.alreadyCode

def BuildError.toString (texts : SagaTexts) : BuildError → String
  | chained error => error.toString
  | already => texts.alreadyText

def KeyAlgorithm.debug : KeyAlgorithm → String
  | .ed25519 => "Ed25519"
  | .ecdsaP256 => "EcdsaP256"

def ed25519Bytes (role : String) (pk : RawPublicKey) : Except BuildError (List UInt8) :=
  if pk.algorithm ≠ .ed25519 ∨ pk.bytes.length ≠ 32 then
    .error (.chained (.invalidPublicKey role ("expected 32-byte Ed25519, got " ++
      toString pk.bytes.length ++ " bytes (" ++ KeyAlgorithm.debug pk.algorithm ++ ")")))
  else .ok pk.bytes

def sec1ToP256 (role : String) (pk : RawPublicKey) : Except BuildError P256PublicKey :=
  if pk.algorithm ≠ .ecdsaP256 then
    .error (.chained (.invalidPublicKey role ("expected ECDSA P-256, got " ++
      KeyAlgorithm.debug pk.algorithm)))
  else if pk.bytes.length ≠ 65 ∨ pk.bytes.head? ≠ some 4 then
    .error (.chained (.invalidPublicKey role
      ("expected 65-byte SEC1 uncompressed (0x04 prefix), got " ++
        toString pk.bytes.length ++ " bytes")))
  else .ok ⟨(pk.bytes.drop 1).take 32, pk.bytes.drop 33⟩

/-- The signing engine: the public key of every key pair, when a call does not fail. -/
structure Engine where
  publicKey : KeyPairId → RawPublicKey

/-- Which of the engine calls of one build fail, and how. -/
structure EngineFaults where
  newAuthorized : Option SigningEngineError := none
  newAuthentication : Option SigningEngineError := none
  newAssertion : Option SigningEngineError := none
  outgoing : Option SigningEngineError := none
  sign : Option SigningEngineError := none

def Engine.getPublicKey (engine : Engine) (fault : Option SigningEngineError) (id : KeyPairId) :
    Except BuildError RawPublicKey :=
  match fault with
  | some error => .error (.chained (.engine error))
  | none => .ok (engine.publicKey id)

def chainedOr {α : Type} (error : ChainedBuildError) : Option α → Except BuildError α
  | some value => .ok value
  | none => .error (.chained error)

/-- `sign_and_append_proof`. -/
def signAndAppendProof (fault : Option SigningEngineError) (entry : LogEntry)
    (signingKeyId : KeyPairId) (signingMultikey versionId now : String) :
    Except BuildError LogEntry :=
  match fault with
  | some error => .error (.chained (.engine error))
  | none => .ok { entry with proof := some {
      verificationMethod := "did:key:" ++ signingMultikey ++ "#" ++ signingMultikey
      challenge := versionId
      created := now
      signedBy := signingKeyId } }

/-- The predecessor's document, when it is a full one that parses. -/
def predecessorDoc (last : LogEntry) : Except BuildError DidDoc :=
  match last.didDocState with
  | .patch => .error (.chained .previousStateIsPatch)
  | .value (.error details) => .error (.chained (.invalidPredecessorDoc details))
  | .value (.ok doc) => .ok doc

/-- `ed25519_bytes` of a key of the engine, as a multikey. -/
def authorizedMultikey (core : SwiyuCore) (engine : Engine) (fault : Option SigningEngineError)
    (role : String) (id : KeyPairId) : Except BuildError String := do
  let pk ← engine.getPublicKey fault id
  let bytes ← ed25519Bytes role pk
  return core.multikey bytes

def p256Key (engine : Engine) (fault : Option SigningEngineError) (role : String)
    (id : KeyPairId) : Except BuildError P256PublicKey := do
  let pk ← engine.getPublicKey fault id
  sec1ToP256 role pk

/-- `log.len() as u32 + 1`, without overflow checks. -/
def nextSeq (length : Nat) : Nat := (length % 2 ^ 32 + 1) % 2 ^ 32

/-- The last part of both builders: version id, proof slot, proof of the outgoing key. -/
def chainEntry (core : SwiyuCore) (engine : Engine) (faults : EngineFaults) (role : String)
    (log : List LogEntry) (template : LogEntry) (signingKeyId : KeyPairId) (now : String) :
    Except BuildError LogEntry := do
  let stripped := { template with proof := none }
  let versionId := toString (nextSeq log.length) ++ "-" ++ core.entryHash stripped
  let multikey ← authorizedMultikey core engine faults.outgoing role signingKeyId
  signAndAppendProof faults.sign { stripped with versionId := versionId } signingKeyId multikey
    versionId now

def requireActive (issuer : Issuer) : Except BuildError Unit :=
  if issuer.state = some .active then .ok ()
  else .error (.chained (.issuerNotActive issuer.state))

def buildRotationEntry (core : SwiyuCore) (engine : Engine) (faults : EngineFaults)
    (issuer : Issuer) (newTriple : KeyTriple) (log : List LogEntry) (now : DateTime) :
    Except BuildError LogEntry := do
  requireActive issuer
  let outgoing ← chainedOr (.missingIssuerField "authorized_key_id") issuer.authorizedKeyId
  let last ← chainedOr .emptyLog log.getLast?
  let _ ← predecessorDoc last
  let multikey ←
    authorizedMultikey core engine faults.newAuthorized "authorized" newTriple.authorized
  let authentication ←
    p256Key engine faults.newAuthentication "authentication" newTriple.authentication
  let assertion ← p256Key engine faults.newAssertion "assertion" newTriple.assertion
  if last.updateKeys.bind List.head? = some multikey then .error .already
  else
    let now := core.rfc3339 now
    let template :=
      core.newRotation last.versionId issuer.did multikey authentication assertion now
    chainEntry core engine faults "outgoing-authorized" log template outgoing now

def buildDeactivationEntry (core : SwiyuCore) (engine : Engine) (faults : EngineFaults)
    (issuer : Issuer) (log : List LogEntry) (now : DateTime) : Except BuildError LogEntry := do
  requireActive issuer
  let authorized ← chainedOr (.missingIssuerField "authorized_key_id") issuer.authorizedKeyId
  let last ← chainedOr .emptyLog log.getLast?
  if last.deactivated = some true then .error .already
  else
    let doc ← predecessorDoc last
    let now := core.rfc3339 now
    let template := core.newDeactivation last.versionId doc now
    chainEntry core engine faults "authorized" log template authorized now

def Engine.multikey (core : SwiyuCore) (engine : Engine) (id : KeyPairId) : String :=
  core.multikey (engine.publicKey id).bytes

theorem getPublicKey_ok {engine : Engine} {fault : Option SigningEngineError} {id : KeyPairId}
    {pk : RawPublicKey} (answered : engine.getPublicKey fault id = .ok pk) :
    pk = engine.publicKey id := by
  unfold Engine.getPublicKey at answered
  split at answered <;> cases answered
  rfl

theorem ed25519Bytes_ok {role : String} {pk : RawPublicKey} {bytes : List UInt8}
    (checked : ed25519Bytes role pk = .ok bytes) : bytes = pk.bytes := by
  unfold ed25519Bytes at checked
  split at checked <;> cases checked
  rfl

theorem authorizedMultikey_ok {core : SwiyuCore} {engine : Engine}
    {fault : Option SigningEngineError} {role : String} {id : KeyPairId} {multikey : String}
    (answered : authorizedMultikey core engine fault role id = .ok multikey) :
    multikey = engine.multikey core id := by
  rcases Answers.bind_ok.mp answered with ⟨pk, found, answered⟩
  rcases Answers.bind_ok.mp answered with ⟨bytes, checked, same⟩
  cases same
  rw [Engine.multikey, ← getPublicKey_ok found, ed25519Bytes_ok checked]

/-- The entry is the template, with a version id and a proof of the signing key. -/
structure Chained (core : SwiyuCore) (engine : Engine) (template entry : LogEntry)
    (signingKeyId : KeyPairId) : Prop where
  versionTime : entry.versionTime = template.versionTime
  updateKeys : entry.updateKeys = template.updateKeys
  deactivated : entry.deactivated = template.deactivated
  didDocState : entry.didDocState = template.didDocState
  proof : ∃ proof, entry.proof = some proof ∧ proof.signedBy = signingKeyId ∧
    proof.verificationMethod = "did:key:" ++ engine.multikey core signingKeyId ++ "#" ++
      engine.multikey core signingKeyId

theorem chainEntry_ok {core : SwiyuCore} {engine : Engine} {faults : EngineFaults} {role : String}
    {log : List LogEntry} {template entry : LogEntry} {signingKeyId : KeyPairId} {now : String}
    (built : chainEntry core engine faults role log template signingKeyId now = .ok entry) :
    Chained core engine template entry signingKeyId := by
  rcases Answers.bind_ok.mp built with ⟨multikey, answered, signed⟩
  rw [authorizedMultikey_ok answered] at signed
  unfold signAndAppendProof at signed
  split at signed <;> cases signed
  exact ⟨rfl, rfl, rfl, rfl, _, rfl, rfl, rfl⟩

theorem requireActive_ok {issuer : Issuer} {answer : Unit}
    (checked : requireActive issuer = .ok answer) : issuer.state = some .active := by
  unfold requireActive at checked
  split at checked
  · next active => exact active
  · cases checked

theorem chainedOr_ok {α : Type} {error : ChainedBuildError} {found : Option α} {value : α} :
    chainedOr error found = .ok value ↔ found = some value := by
  cases found <;> simp [chainedOr]

/-- A rotation entry carries the new keys and is signed by the issuer row's authorized key; the
tail does not advertise the new authorized key yet. -/
theorem buildRotationEntry_ok {core : SwiyuCore} {engine : Engine} {faults : EngineFaults}
    {issuer : Issuer} {triple : KeyTriple} {log : List LogEntry} {now : DateTime}
    {entry : LogEntry}
    (built : buildRotationEntry core engine faults issuer triple log now = .ok entry) :
    issuer.state = some .active ∧ ∃ outgoing last, issuer.authorizedKeyId = some outgoing ∧
      log.getLast? = some last ∧
      last.updateKeys.bind List.head? ≠ some (engine.multikey core triple.authorized) ∧
      entry.updateKeys = some [engine.multikey core triple.authorized] ∧
      entry.deactivated ≠ some true ∧
      (∃ proof, entry.proof = some proof ∧ proof.signedBy = outgoing) ∧
      ∃ doc authentication assertion, entry.didDocState = .value (.ok doc) ∧
        sec1ToP256 "authentication" (engine.publicKey triple.authentication) =
          .ok authentication ∧
        sec1ToP256 "assertion" (engine.publicKey triple.assertion) = .ok assertion ∧
        doc.key core.authenticationFragment = some authentication ∧
        doc.key assertionFragment = some assertion := by
  simp only [buildRotationEntry, Answers.bind_ok, chainedOr_ok] at built
  rcases built with ⟨_, active, outgoing, outgoingFound, last, lastFound, _, _, multikey, answered,
    authentication, authenticationFound, assertion, assertionFound, built⟩
  rw [authorizedMultikey_ok answered] at built
  split at built
  · cases built
  · next unrotated =>
      have chained := chainEntry_ok built
      rcases core.rotation_document last.versionId issuer.did
        (engine.multikey core triple.authorized) authentication assertion (core.rfc3339 now) with
        ⟨doc, state, authenticationKey, assertionKey⟩
      rcases Answers.bind_ok.mp authenticationFound with ⟨_, answeredOne, shapeOne⟩
      rcases Answers.bind_ok.mp assertionFound with ⟨_, answeredTwo, shapeTwo⟩
      rw [getPublicKey_ok answeredOne] at shapeOne
      rw [getPublicKey_ok answeredTwo] at shapeTwo
      refine ⟨requireActive_ok active, outgoing, last, outgoingFound, lastFound, unrotated, ?_, ?_,
        ?_, doc, authentication, assertion, ?_, shapeOne, shapeTwo, authenticationKey,
        assertionKey⟩
      · rw [chained.updateKeys, core.rotation_updateKeys]
      · rw [chained.deactivated]
        exact core.rotation_deactivated _ _ _ _ _ _
      · rcases chained.proof with ⟨proof, made, signedBy, _⟩
        exact ⟨proof, made, signedBy⟩
      · rw [chained.didDocState, state]

theorem buildDeactivationEntry_ok {core : SwiyuCore} {engine : Engine} {faults : EngineFaults}
    {issuer : Issuer} {log : List LogEntry} {now : DateTime} {entry : LogEntry}
    (built : buildDeactivationEntry core engine faults issuer log now = .ok entry) :
    issuer.state = some .active ∧ ∃ authorized last, issuer.authorizedKeyId = some authorized ∧
      log.getLast? = some last ∧ last.deactivated ≠ some true ∧ entry.deactivated = some true ∧
      ∃ proof, entry.proof = some proof ∧ proof.signedBy = authorized := by
  simp only [buildDeactivationEntry, Answers.bind_ok, chainedOr_ok] at built
  rcases built with ⟨_, active, authorized, authorizedFound, last, lastFound, built⟩
  split at built
  · cases built
  · next live =>
      rcases Answers.bind_ok.mp built with ⟨doc, _, built⟩
      have chained := chainEntry_ok built
      refine ⟨requireActive_ok active, authorized, last, authorizedFound, lastFound, live, ?_, ?_⟩
      · rw [chained.deactivated, core.deactivation_marker]
      · rcases chained.proof with ⟨proof, made, signedBy, _⟩
        exact ⟨proof, made, signedBy⟩

theorem buildDeactivationEntry_document {core : SwiyuCore} {engine : Engine} {faults : EngineFaults}
    {issuer : Issuer} {log : List LogEntry} {now : DateTime} {entry : LogEntry}
    (built : buildDeactivationEntry core engine faults issuer log now = .ok entry) :
    ∃ last doc, log.getLast? = some last ∧ last.didDocState = .value (.ok doc) ∧
      entry.didDocState =
        (core.newDeactivation last.versionId doc (core.rfc3339 now)).didDocState := by
  simp only [buildDeactivationEntry, Answers.bind_ok, chainedOr_ok] at built
  rcases built with ⟨_, _, authorized, _, last, lastFound, built⟩
  split at built
  · cases built
  · rcases Answers.bind_ok.mp built with ⟨doc, read, built⟩
    have full : last.didDocState = .value (.ok doc) := by
      unfold predecessorDoc at read
      split at read <;> cases read
      next state => exact state
    exact ⟨last, doc, lastFound, full, (chainEntry_ok built).didDocState⟩

theorem already_of_bind {α β : Type} {first : Except BuildError α} {rest : α → Except BuildError β}
    (chained : first ≠ .error .already) (failed : first >>= rest = .error .already) :
    ∃ middle, first = .ok middle ∧ rest middle = .error .already := by
  rcases Answers.bind_error.mp failed with absurd | reached
  · exact (chained absurd).elim
  · exact reached

theorem authorizedMultikey_chained {core : SwiyuCore} {engine : Engine}
    {fault : Option SigningEngineError} {role : String} {id : KeyPairId} :
    authorizedMultikey core engine fault role id ≠ .error .already := by
  unfold authorizedMultikey Engine.getPublicKey ed25519Bytes
  cases fault with
  | some error => intro absurd; cases absurd
  | none =>
      intro absurd
      rcases Answers.bind_error.mp absurd with absurd | ⟨pk, _, failed⟩
      · cases absurd
      · rcases Answers.bind_error.mp failed with failed | ⟨_, _, absurd⟩
        · split at failed <;> cases failed
        · cases absurd

theorem p256Key_chained {engine : Engine} {fault : Option SigningEngineError} {role : String}
    {id : KeyPairId} : p256Key engine fault role id ≠ .error .already := by
  unfold p256Key Engine.getPublicKey sec1ToP256
  cases fault with
  | some error => intro absurd; cases absurd
  | none =>
      intro absurd
      rcases Answers.bind_error.mp absurd with absurd | ⟨pk, _, failed⟩
      · cases absurd
      · split at failed
        · cases failed
        · split at failed <;> cases failed

theorem chainEntry_chained {core : SwiyuCore} {engine : Engine} {faults : EngineFaults}
    {role : String} {log : List LogEntry} {template : LogEntry} {signingKeyId : KeyPairId}
    {now : String} :
    chainEntry core engine faults role log template signingKeyId now ≠ .error .already := by
  intro absurd
  rcases Answers.bind_error.mp absurd with failed | ⟨multikey, _, failed⟩
  · exact authorizedMultikey_chained failed
  · unfold signAndAppendProof at failed
    split at failed <;> cases failed

theorem requireActive_chained {issuer : Issuer} : requireActive issuer ≠ .error .already := by
  unfold requireActive
  split <;> intro absurd <;> cases absurd

theorem chainedOr_chained {α : Type} {error : ChainedBuildError} {found : Option α} :
    chainedOr error found ≠ .error .already := by
  cases found <;> intro absurd <;> cases absurd

theorem predecessorDoc_chained {last : LogEntry} : predecessorDoc last ≠ .error .already := by
  unfold predecessorDoc
  split <;> intro absurd <;> cases absurd

/-- The builder reports a finished rotation only when the tail's first update key is the new one. -/
theorem buildRotationEntry_already {core : SwiyuCore} {engine : Engine} {faults : EngineFaults}
    {issuer : Issuer} {triple : KeyTriple} {log : List LogEntry} {now : DateTime}
    (built : buildRotationEntry core engine faults issuer triple log now = .error .already) :
    ∃ last, log.getLast? = some last ∧
      last.updateKeys.bind List.head? = some (engine.multikey core triple.authorized) := by
  rcases already_of_bind requireActive_chained built with ⟨_, _, built⟩
  rcases already_of_bind chainedOr_chained built with ⟨outgoing, _, built⟩
  rcases already_of_bind chainedOr_chained built with ⟨last, found, built⟩
  rcases already_of_bind predecessorDoc_chained built with ⟨_, _, built⟩
  rcases already_of_bind authorizedMultikey_chained built with ⟨multikey, answered, built⟩
  rcases already_of_bind p256Key_chained built with ⟨_, _, built⟩
  rcases already_of_bind p256Key_chained built with ⟨_, _, built⟩
  split at built
  · next rotated =>
      rw [authorizedMultikey_ok answered] at rotated
      exact ⟨last, chainedOr_ok.mp found, rotated⟩
  · exact (chainEntry_chained built).elim

theorem buildDeactivationEntry_already {core : SwiyuCore} {engine : Engine}
    {faults : EngineFaults} {issuer : Issuer} {log : List LogEntry} {now : DateTime}
    (built : buildDeactivationEntry core engine faults issuer log now = .error .already) :
    ∃ last, log.getLast? = some last ∧ last.deactivated = some true := by
  rcases already_of_bind requireActive_chained built with ⟨_, _, built⟩
  rcases already_of_bind chainedOr_chained built with ⟨authorized, _, built⟩
  rcases already_of_bind chainedOr_chained built with ⟨last, found, built⟩
  split at built
  · next deactivated => exact ⟨last, chainedOr_ok.mp found, deactivated⟩
  · rcases already_of_bind predecessorDoc_chained built with ⟨_, _, built⟩
    exact (chainEntry_chained built).elim

def lastSegment (path : String) : String :=
  String.ofList (path.toList.foldl (fun segment c => if c = ':' then [] else segment ++ [c]) [])

/-- `registry_identifier`, on the path of the DID. -/
def registryIdentifier (path : Option String) : Option String :=
  (path.map lastSegment).filter fun segment => !segment.isEmpty

def parseIssuerDid (core : SwiyuCore) (issuer : Issuer) : Except StepOutcome (Option String) :=
  (core.parseDid issuer.did).mapError fun e =>
    .terminal "invalid_issuer_did" ("cannot parse issuer did " ++ issuer.did ++ ": " ++ e)

/-- `registry.fetch_log`, with the outcome for its error. -/
def fetchLog (fetched : Except RegistryError (List LogEntry)) : Except StepOutcome (List LogEntry) :=
  fetched.mapError fun e =>
    if e.isRetryable then .retry "registry_unavailable" e.display
    else .terminal "registry_rejected" e.display

/-- The outcome for a builder's error; a failing engine backend is retried. -/
def outcomeForBuildError (texts : SagaTexts) (step : String) (error : BuildError) : StepOutcome :=
  match error with
  | .chained (.engine (.backend _)) => .retry step "signing-engine backend error"
  | error => .terminal (error.errorCode texts step) (error.toString texts)

def stepOutcome : Except StepOutcome StepOutcome → StepOutcome
  | .ok outcome => outcome
  | .error outcome => outcome

/-- The build step of either saga: the entry is built and thrown away. -/
def executeBuildDidlog (core : SwiyuCore) (texts : SagaTexts) (step : String) (issuer : Issuer)
    (fetched : Except RegistryError (List LogEntry))
    (build : List LogEntry → Except BuildError LogEntry) : StepOutcome :=
  stepOutcome do
    let _ ← parseIssuerDid core issuer
    let log ← fetchLog fetched
    let _ ← (build log).mapError (outcomeForBuildError texts step)
    return .done {}

def didlogPublishedPatch : StepResult := { stateDataPatch := [("didlog_published", .bool true)] }

def requireIdentifier (issuer : Issuer) (path : Option String) : Except StepOutcome String :=
  match registryIdentifier path with
  | some identifier => .ok identifier
  | none => .error (.terminal "invalid_issuer_did"
      ("cannot extract registry identifier from did: " ++ issuer.did))

/-- The `match` on the builder's answer in the publish step. -/
def settleBuild (texts : SagaTexts) : Except BuildError LogEntry → Except StepOutcome LogEntry
  | .ok entry => .ok entry
  | .error .already => .error (.done didlogPublishedPatch)
  | .error error => .error (outcomeForBuildError texts "publish_didlog_failed" error)

/-- The publish step of either saga up to the `PUT`: its outcome without one, or the entry that
the `PUT` adds. -/
def preparePublish (core : SwiyuCore) (texts : SagaTexts) (issuer : Issuer)
    (fetched : Except RegistryError (List LogEntry))
    (build : List LogEntry → Except BuildError LogEntry) :
    Except StepOutcome (List LogEntry × LogEntry) := do
  let path ← parseIssuerDid core issuer
  let _ ← requireIdentifier issuer path
  let log ← fetchLog fetched
  let entry ← settleBuild texts (build log)
  return (log, entry)

/-- The end of the publish step, from the answer to the `PUT`. -/
def afterPut : Except TokenAwareError Unit → StepOutcome
  | .ok () => .done didlogPublishedPatch
  | .error e => fromTokenAwareError e "registry_unavailable" "registry_rejected"

/-- What happened to a `PUT`: stored and acknowledged, stored although the caller gets an error, or
not stored. -/
inductive PutResult
  | acknowledged
  | unacknowledged (error : TokenAwareError)
  | refused (error : TokenAwareError)

def PutResult.stored : PutResult → Bool
  | acknowledged | unacknowledged _ => true
  | refused _ => false

def PutResult.answer : PutResult → Except TokenAwareError Unit
  | acknowledged => .ok ()
  | unacknowledged error | refused error => .error error

section Sample

def plainMultikey (bytes : List UInt8) : String := String.ofList ('z' :: bytes.map Char.ofUInt8)

theorem plainMultikey_injective : Function.Injective plainMultikey := by
  intro left right same
  have characters := (List.cons.inj (String.ofList_injective same)).2
  have distinct : ∀ a b : UInt8, Char.ofUInt8 a = Char.ofUInt8 b → a = b :=
    fun _ _ equal => UInt8.toUInt32_inj.mp (congrArg Char.val equal)
  exact (List.map_inj_right distinct).mp characters

def plainCore : SwiyuCore where
  authenticationFragment := "authentication-key-01"
  parseDid did := .ok (some did)
  rfc3339 time := toString time
  multikey := plainMultikey
  newRotation prev _ key authentication assertion now := {
    versionId := prev
    versionTime := now
    updateKeys := some [key]
    deactivated := none
    didDocState := .value (.ok ⟨[("authentication-key-01", authentication),
      (assertionFragment, assertion)]⟩)
    proof := none }
  newDeactivation prev doc now := {
    versionId := prev
    versionTime := now
    updateKeys := some []
    deactivated := some true
    didDocState := .value (.ok doc)
    proof := none }
  entryHash entry := entry.versionId
  multikey_injective := plainMultikey_injective
  rotation_updateKeys _ _ _ _ _ _ := rfl
  rotation_deactivated _ _ _ _ _ _ := by simp
  rotation_document _ _ _ _ _ _ := ⟨_, rfl, rfl, rfl⟩
  deactivation_marker _ _ _ := rfl

def letterEngine : Engine where
  publicKey id :=
    match id.text.toList with
    | ['e', letter] => ⟨.ed25519, List.replicate 32 letter.toUInt8⟩
    | ['p', letter] => ⟨.ecdsaP256, 4 :: List.replicate 64 letter.toUInt8⟩
    | _ => ⟨.ecdsaP256, []⟩

end Sample

end SwiyuIssuer.Worker
