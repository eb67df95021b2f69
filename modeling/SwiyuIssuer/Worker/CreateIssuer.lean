import SwiyuIssuer.Worker.RotateKeys
import SwiyuIssuer.Worker.Runner

/-! The steps of the `create_issuer` saga, and the genesis entry that three of them build. -/

namespace SwiyuIssuer.Worker

open Library

structure Allocation where
  url : String
  identifier : String
deriving DecidableEq, Repr

structure StatusListEntry where
  id : String
  registryUrl : String
deriving DecidableEq, Repr

/-- The row that `issuers::insert` binds. -/
structure IssuerRecord extends issuer : Issuer where
  description : Option String
  displayName : Option String
  logoUri : Option String
  locale : Option String
  createdAt : DateTime
deriving DecidableEq, Repr

/-- The functions of `swiyu_core` that make a genesis entry. `withScid` is the replacement of
`{SCID}` in the text of the entry, `appendProof` signs with a key pair of the engine. -/
structure GenesisCore where
  tryNewTdw : (domain : String) → (path : Option String) → Except String String
  newGenesis : (authorizedMultikey did : String) → (authentication assertion : P256PublicKey) →
    (now : String) → Json
  stripProofSlot : Json → Json
  deriveScid : Json → String
  withScid : (scid : String) → Json → Json
  deriveEntryHash : Json → String
  setVersionId : Json → (versionId : String) → Json
  appendProof : Json → (signingKeyId : KeyPairId) → (multikey versionId now : String) → Json

/-- `BuildError` of this saga. A rejected key and a failing engine have the codes and the texts of
the other two builders. -/
inductive GenesisBuildError
  | missingState (field : String)
  | invalidUrl (details : String)
  | shared (error : BuildError)
deriving DecidableEq, Repr

def GenesisBuildError.errorCode (engineFailureCode : String) : GenesisBuildError → String
  | missingState _ => "missing_state"
  | invalidUrl _ => "invalid_allocation_url"
  | shared error => error.errorCode rotateTexts engineFailureCode

def GenesisBuildError.toString : GenesisBuildError → String
  | missingState field => "state_data missing required field: " ++ field
  | invalidUrl details => "invalid allocation URL: " ++ details
  | shared error => error.toString rotateTexts

/-- The domain and the path of the DID, from the URL of its log. -/
def parseUrl (url : String) : Except GenesisBuildError (String × Option String) :=
  match "https://".toList.isPrefixOf? url.toList with
  | none => .error (.invalidUrl ("URL must use https://: " ++ url))
  | some rest =>
      let host := rest.takeWhile (· != '/')
      let path := (rest.dropWhile (· != '/')).drop 1
      if host.isEmpty then .error (.invalidUrl ("URL missing host: " ++ url))
      else
        let didHost :=
          if host.contains ':' then
            host.takeWhile (· != ':') ++ "%3A".toList ++ (host.dropWhile (· != ':')).drop 1
          else host
        let segments := (path.splitOn '/').filter fun segment => !segment.isEmpty
        let segments :=
          if segments.getLast? == some "did.jsonl".toList then segments.dropLast else segments
        let didPath :=
          if segments.isEmpty || segments == [".well-known".toList] then none
          else some (String.ofList (List.intercalate [':'] segments))
        .ok (String.ofList didHost, didPath)

def requireState {α : Type} (field : String) : Option α → Except GenesisBuildError α
  | some value => .ok value
  | none => .error (.missingState field)

section Build

variable (core : SwiyuCore) (genesis : GenesisCore) (engine : Engine)

def buildLogEntry (faults : EngineFaults) (state : CreateIssuerStateData) (now : DateTime) :
    Except GenesisBuildError Json := do
  let url ← requireState "assigned_did_url" state.assignedDidUrl
  let keyIds ← requireState "key_ids" state.keyIds
  let (domain, path) ← parseUrl url
  let multikey ← (authorizedMultikey core engine faults.newAuthorized "authorized"
    keyIds.authorized).mapError .shared
  let authentication ← (p256Key engine faults.newAuthentication "authentication"
    keyIds.authentication).mapError .shared
  let assertion ← (p256Key engine faults.newAssertion "assertion" keyIds.assertion).mapError .shared
  let did ← (genesis.tryNewTdw domain path).mapError fun e =>
    .invalidUrl ("DID construction failed: " ++ e)
  let now := core.rfc3339 now
  let prelim := genesis.stripProofSlot (genesis.newGenesis multikey did authentication assertion now)
  let entry := genesis.withScid (genesis.deriveScid prelim) prelim
  let versionId := "1-" ++ genesis.deriveEntryHash entry
  match faults.sign with
  | some e => .error (.shared (.chained (.engine e)))
  | none => .ok (genesis.appendProof (genesis.setVersionId entry versionId) keyIds.authorized
      multikey versionId now)

end Build

/-- The outcome for a builder's error; a failing engine backend is retried. -/
def outcomeForGenesisError (step : String) (error : GenesisBuildError) : StepOutcome :=
  match error with
  | .shared (.chained (.engine (.backend _))) => .retry step "signing-engine backend error"
  | error => .terminal (error.errorCode step) error.toString

/-- The calls of a step that leave something behind. -/
inductive SideEffect
  | allocateDid (partnerId : String)
  | generateKeypair (role : KeyRole)
  | publishLogEntry (partnerId identifier : String) (entry : Json)
  | insertIssuer (issuer : IssuerRecord)
  | createStatusListEntry (partnerId : String)
  | provisionForIssuer (issuerId : IssuerId) (entryId registryUrl : String)

structure CreateEffect where
  outcome : StepOutcome
  requested : List SideEffect := []

/-- Answers to the calls of one step; a call that a step does not make is not looked at. -/
structure CreateCalls where
  allocate : Except TokenAwareError Allocation
  generated : KeyRole → Except SigningEngineError KeyPairId
  faults : EngineFaults := {}
  put : Except TokenAwareError Unit
  persistPool : Option String := none
  findIssuer : Except PersistenceError (Option Issuer)
  insert : Except PersistenceError Unit
  createEntry : Except TokenAwareError StatusListEntry
  provisionPool : Option String := none
  current : Except PersistenceError (Option StatusListId)
  provision : Except PersistenceError StatusListId

def Allocation.patch (allocation : Allocation) : JsonMap :=
  [("assigned_did_url", .string allocation.url),
    ("assigned_identifier", .string allocation.identifier)]

def executeAllocateDid (tenant : Tenant) (state : CreateIssuerStateData) (calls : CreateCalls) :
    CreateEffect :=
  if state.assignedDidUrl.isSome then { outcome := .done {} }
  else
    { requested := [.allocateDid tenant.partnerId]
      outcome :=
        match calls.allocate with
        | .ok allocation => .done { stateDataPatch := allocation.patch }
        | .error e => fromTokenAwareError e "registry_unavailable" "registry_rejected" }

def executeGenerateKeys (state : CreateIssuerStateData) (calls : CreateCalls) : CreateEffect :=
  if state.keyIds.isSome then { outcome := .done {} }
  else match calls.generated .authorized with
    | .error e => ⟨outcomeForEngineError "generate_keypair_failed" e,
        [.generateKeypair .authorized]⟩
    | .ok authorized =>
        match calls.generated .authentication with
        | .error e => ⟨outcomeForEngineError "generate_keypair_failed" e,
            [.generateKeypair .authorized, .generateKeypair .authentication]⟩
        | .ok authentication =>
            { requested := [.generateKeypair .authorized, .generateKeypair .authentication,
                .generateKeypair .assertion]
              outcome :=
                match calls.generated .assertion with
                | .error e => outcomeForEngineError "generate_keypair_failed" e
                | .ok assertion => .done { stateDataPatch :=
                    [("key_ids", KeyTriple.toJson ⟨authorized, authentication, assertion⟩)] } }

/-- `value[index]` of `serde_json`: `null` where there is nothing. -/
def jsonItem (index : Nat) : Json → Json
  | .array items => items[index]?.getD .null
  | _ => .null

def jsonField (name : String) : Json → Json
  | .object members => (JsonMap.get members name).getD .null
  | _ => .null

section Steps

variable (core : SwiyuCore) (genesis : GenesisCore) (engine : Engine)

def executeBuildInitialDidlog (state : CreateIssuerStateData) (calls : CreateCalls)
    (now : DateTime) : CreateEffect where
  outcome :=
    match buildLogEntry core genesis engine calls.faults state now with
    | .ok _ => .done {}
    | .error e => outcomeForGenesisError "build_initial_didlog_failed" e

def executePublishDidlog (tenant : Tenant) (state : CreateIssuerStateData) (calls : CreateCalls)
    (now : DateTime) : CreateEffect :=
  if state.didlogPublished then { outcome := .done {} }
  else match state.assignedIdentifier with
    | none =>
        { outcome := .terminal "missing_state" "state_data missing assigned_identifier" }
    | some identifier =>
        match buildLogEntry core genesis engine calls.faults state now with
        | .error e => { outcome := outcomeForGenesisError "publish_didlog_failed" e }
        | .ok entry => ⟨afterPut calls.put,
            [.publishLogEntry tenant.partnerId identifier entry]⟩

/-- `entry[3]["value"]["id"].as_str()`. -/
def documentId (entry : Json) : Except JsonError String :=
  (jsonField "id" (jsonField "value" (jsonItem 3 entry))).asString

def newIssuer (tenantId : TenantId) (issuerId : IssuerId) (input : CreateIssuerInput)
    (keyIds : KeyTriple) (did : String) (now : DateTime) : IssuerRecord where
  id := issuerId
  tenantId := tenantId
  did := did
  state := some .active
  description := some input.description
  authorizedKeyId := some keyIds.authorized
  authenticationKeyId := some keyIds.authentication
  assertionKeyId := some keyIds.assertion
  displayName := some input.displayName
  logoUri := none
  locale := none
  createdAt := now

/-- After the `INSERT`; a row that is already there is the one this task writes. -/
def afterInsert : Except PersistenceError Unit → StepOutcome
  | .ok () => .done {}
  | .error (.uniqueViolation _) => .done {}
  | .error e => outcomeForPersistenceError "persist_issuer_failed" "insert" e

def executePersistIssuer (tenantId : TenantId) (issuerId : IssuerId) (input : CreateIssuerInput)
    (state : CreateIssuerStateData) (calls : CreateCalls) (now : DateTime) : CreateEffect :=
  match calls.persistPool, calls.findIssuer with
  | some message, _ =>
      { outcome := retryOnDb "persist_issuer_failed" "acquire connection" message }
  | none, .error e =>
      { outcome := outcomeForPersistenceError "persist_issuer_failed" "find_by_id" e }
  | none, .ok (some _) => { outcome := .done {} }
  | none, .ok none =>
      match state.keyIds with
      | none => { outcome := .terminal "missing_state" "state_data missing key_ids" }
      | some keyIds =>
          match buildLogEntry core genesis engine calls.faults state now with
          | .error e => { outcome := outcomeForGenesisError "persist_issuer_failed" e }
          | .ok entry =>
              match documentId entry with
              | .error _ =>
                  { outcome := .terminal "missing_did" "constructed entry has no document.id" }
              | .ok did => ⟨afterInsert calls.insert,
                  [.insertIssuer (newIssuer tenantId issuerId input keyIds did now)]⟩

end Steps

def StatusListEntry.patch (entry : StatusListEntry) : JsonMap :=
  [("status_list_registry_entry_id", .string entry.id),
    ("status_list_registry_url", .string entry.registryUrl)]

def executeCreateStatusListEntry (tenant : Tenant) (state : CreateIssuerStateData)
    (calls : CreateCalls) : CreateEffect :=
  if state.statusListRegistryEntryId.isSome then { outcome := .done {} }
  else
    { requested := [.createStatusListEntry tenant.partnerId]
      outcome :=
        match calls.createEntry with
        | .ok entry => .done { stateDataPatch := entry.patch }
        | .error e =>
            fromTokenAwareError e "status_registry_unavailable" "status_registry_rejected" }

def afterProvision : Except PersistenceError StatusListId → StepOutcome
  | .ok _ => .done {}
  | .error e => outcomeForPersistenceError "provision_status_list_failed" "provision_for_issuer" e

def executeProvisionStatusList (issuerId : IssuerId) (state : CreateIssuerStateData)
    (calls : CreateCalls) : CreateEffect :=
  match calls.provisionPool, calls.current with
  | some message, _ =>
      { outcome := retryOnDb "provision_status_list_failed" "acquire connection" message }
  | none, .error e =>
      ⟨outcomeForPersistenceError "provision_status_list_failed" "current_for_issuer" e, []⟩
  | none, .ok (some _) => { outcome := .done {} }
  | none, .ok none =>
      match state.statusListRegistryEntryId, state.statusListRegistryUrl with
      | none, _ =>
          ⟨.terminal "missing_state" "state_data missing status_list_registry_entry_id", []⟩
      | some _, none =>
          ⟨.terminal "missing_state" "state_data missing status_list_registry_url", []⟩
      | some entryId, some registryUrl => ⟨afterProvision calls.provision,
          [.provisionForIssuer issuerId entryId registryUrl]⟩

/-- The outcome of a step whose saga has not accumulated a field that it needs. -/
def missesState : StepOutcome → Bool
  | .terminal errorCode _ => errorCode == "missing_state"
  | _ => false

theorem fromTokenAwareError_supplied {terminalCode : String}
    (other : terminalCode ≠ "missing_state") (error : TokenAwareError) (retryCode : String) :
    missesState (fromTokenAwareError error retryCode terminalCode) = false := by
  unfold fromTokenAwareError
  split
  · split <;> simp [missesState, other]
  · rfl
  · split <;> rfl
  · split <;> rfl

theorem outcomeForEngineError_supplied {code : String} (other : code ≠ "missing_state")
    (error : SigningEngineError) : missesState (outcomeForEngineError code error) = false := by
  cases error <;> simp [outcomeForEngineError, missesState, other]

theorem outcomeForPersistenceError_supplied {code : String} (other : code ≠ "missing_state")
    (operation : String) (error : PersistenceError) :
    missesState (outcomeForPersistenceError code operation error) = false := by
  cases error <;> simp [outcomeForPersistenceError, retryOnDb, missesState, other]

theorem errorCode_supplied {code : String} (other : code ≠ "missing_state") (texts : SagaTexts)
    (known : texts.alreadyCode ≠ "missing_state") (error : BuildError) :
    error.errorCode texts code ≠ "missing_state" := by
  cases error with
  | already => exact known
  | chained error =>
      cases error
      case engine => exact other
      all_goals simp [BuildError.errorCode, ChainedBuildError.errorCode]

theorem outcomeForGenesisError_supplied {step : String} (other : step ≠ "missing_state")
    {error : GenesisBuildError} (present : ∀ field, error ≠ .missingState field) :
    missesState (outcomeForGenesisError step error) = false := by
  cases error with
  | missingState field => exact absurd rfl (present field)
  | invalidUrl details => rfl
  | shared error =>
      have code := errorCode_supplied other rotateTexts (by decide) error
      unfold outcomeForGenesisError
      split
      · rfl
      · simpa [missesState, GenesisBuildError.errorCode] using code

section Steps

variable {core : SwiyuCore} {genesis : GenesisCore} {engine : Engine} {faults : EngineFaults}
  {state : CreateIssuerStateData} {calls : CreateCalls} {now : DateTime}

theorem parseUrl_supplied {url field : String} : parseUrl url ≠ .error (.missingState field) := by
  unfold parseUrl
  split
  · simp
  · dsimp only
    split <;> simp

theorem mapError_supplied {α ε : Type} {change : ε → GenesisBuildError} {field : String}
    (other : ∀ e, change e ≠ .missingState field) (answer : Except ε α) :
    answer.mapError change ≠ .error (.missingState field) := by
  cases answer <;> simp [other]

theorem buildLogEntry_supplied {error : GenesisBuildError}
    (addressed : state.assignedDidUrl.isSome = true) (keyed : state.keyIds.isSome = true)
    (failed : buildLogEntry core genesis engine faults state now = .error error) (field : String) :
    error ≠ .missingState field := by
  rcases Option.isSome_iff_exists.mp addressed with ⟨url, addressed⟩
  rcases Option.isSome_iff_exists.mp keyed with ⟨keyIds, keyed⟩
  rintro rfl
  simp only [buildLogEntry, addressed, keyed, requireState, Answers.bind_error] at failed
  rcases failed with absurd | ⟨_, _, absurd | ⟨_, _, absurd | ⟨_, _, absurd | ⟨_, _, absurd |
    ⟨_, _, absurd | ⟨_, _, absurd | ⟨_, _, failed⟩⟩⟩⟩⟩⟩⟩
  · cases absurd
  · cases absurd
  · exact parseUrl_supplied absurd
  · exact mapError_supplied (by simp) _ absurd
  · exact mapError_supplied (by simp) _ absurd
  · exact mapError_supplied (by simp) _ absurd
  · exact mapError_supplied (by simp) _ absurd
  · split at failed <;> cases failed

theorem executeAllocateDid_supplied (tenant : Tenant) :
    missesState (executeAllocateDid tenant state calls).outcome = false := by
  unfold executeAllocateDid
  split
  · rfl
  · dsimp only
    split
    · rfl
    · exact fromTokenAwareError_supplied (by decide) _ _

theorem executeGenerateKeys_supplied :
    missesState (executeGenerateKeys state calls).outcome = false := by
  have refused := fun e =>
    outcomeForEngineError_supplied (show "generate_keypair_failed" ≠ "missing_state" by decide) e
  unfold executeGenerateKeys
  split
  · rfl
  · split
    · exact refused _
    · split
      · exact refused _
      · dsimp only
        split
        · exact refused _
        · rfl

theorem executeBuildInitialDidlog_supplied (addressed : state.assignedDidUrl.isSome = true)
    (keyed : state.keyIds.isSome = true) :
    missesState (executeBuildInitialDidlog core genesis engine state calls now).outcome = false := by
  unfold executeBuildInitialDidlog
  dsimp only
  split
  · rfl
  · next failed =>
      exact outcomeForGenesisError_supplied (by decide)
        (buildLogEntry_supplied addressed keyed failed)

theorem executePublishDidlog_supplied (tenant : Tenant)
    (addressed : state.assignedDidUrl.isSome = true)
    (identified : state.assignedIdentifier.isSome = true) (keyed : state.keyIds.isSome = true) :
    missesState (executePublishDidlog core genesis engine tenant state calls now).outcome =
      false := by
  unfold executePublishDidlog
  split
  · rfl
  · split
    · next absent =>
        rw [absent] at identified
        cases identified
    · split
      · next failed =>
          exact outcomeForGenesisError_supplied (by decide)
            (buildLogEntry_supplied addressed keyed failed)
      · cases put : calls.put with
        | ok _ => rfl
        | error e => exact fromTokenAwareError_supplied (by decide) e _

theorem executePersistIssuer_supplied {tenantId : TenantId} {issuerId : IssuerId}
    {input : CreateIssuerInput} (addressed : state.assignedDidUrl.isSome = true)
    (keyed : state.keyIds.isSome = true) :
    missesState (executePersistIssuer core genesis engine tenantId issuerId input state calls
      now).outcome = false := by
  have refused := fun operation e => outcomeForPersistenceError_supplied
    (show "persist_issuer_failed" ≠ "missing_state" by decide) operation e
  unfold executePersistIssuer
  split
  · rfl
  · exact refused _ _
  · rfl
  · split
    · next absent =>
        rw [absent] at keyed
        cases keyed
    · split
      · next failed =>
          exact outcomeForGenesisError_supplied (by decide)
            (buildLogEntry_supplied addressed keyed failed)
      · split
        · rfl
        · dsimp only
          unfold afterInsert
          split
          · rfl
          · rfl
          · exact refused _ _

theorem executeCreateStatusListEntry_supplied (tenant : Tenant) :
    missesState (executeCreateStatusListEntry tenant state calls).outcome = false := by
  unfold executeCreateStatusListEntry
  split
  · rfl
  · dsimp only
    split
    · rfl
    · exact fromTokenAwareError_supplied (by decide) _ _

theorem executeProvisionStatusList_supplied {issuerId : IssuerId}
    (registered : state.statusListRegistryEntryId.isSome = true)
    (located : state.statusListRegistryUrl.isSome = true) :
    missesState (executeProvisionStatusList issuerId state calls).outcome = false := by
  have refused := fun operation e => outcomeForPersistenceError_supplied
    (show "provision_status_list_failed" ≠ "missing_state" by decide) operation e
  unfold executeProvisionStatusList
  split
  · rfl
  · exact refused _ _
  · rfl
  · split
    · next absent =>
        rw [absent] at registered
        cases registered
    · next absent =>
        rw [absent] at located
        cases located
    · dsimp only
      unfold afterProvision
      split
      · rfl
      · exact refused _ _

/-- A step that has left its marker is over without a call. -/
theorem executeAllocateDid_marked (tenant : Tenant) (marked : state.assignedDidUrl.isSome = true) :
    executeAllocateDid tenant state calls = { outcome := .done {} } :=
  if_pos marked

theorem executeGenerateKeys_marked (marked : state.keyIds.isSome = true) :
    executeGenerateKeys state calls = { outcome := .done {} } :=
  if_pos marked

theorem executePublishDidlog_marked (tenant : Tenant) (marked : state.didlogPublished = true) :
    executePublishDidlog core genesis engine tenant state calls now = { outcome := .done {} } :=
  if_pos marked

theorem executeCreateStatusListEntry_marked (tenant : Tenant)
    (marked : state.statusListRegistryEntryId.isSome = true) :
    executeCreateStatusListEntry tenant state calls = { outcome := .done {} } :=
  if_pos marked

end Steps

end SwiyuIssuer.Worker
