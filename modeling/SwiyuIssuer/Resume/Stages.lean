import SwiyuIssuer.Saga.Tasks
import SwiyuIssuer.Worker.CreateIssuer

/-! What the accumulated state of a task holds at each step of its saga, and where it comes from. -/

namespace SwiyuIssuer.Resume

open Library Persistence Worker Saga

inductive SagaInput
  | create (input : CreateIssuerInput)
  | deactivate (input : DeactivateIssuerInput)
  | rotate (input : RotateKeysInput)
deriving DecidableEq

inductive SagaData
  | create (state : CreateIssuerStateData)
  | deactivate (state : DeactivateIssuerStateData)
  | rotate (state : RotateKeysStateData)
deriving DecidableEq

/-- The first two lines of the three `execute_*` functions. -/
def decodeInput (taskType : TaskType) (value : Json) : Except JsonError SagaInput :=
  match taskType with
  | .createIssuer => (CreateIssuerInput.decode value).map .create
  | .deactivateIssuer => (DeactivateIssuerInput.decode value).map .deactivate
  | .rotateKeys => (RotateKeysInput.decode value).map .rotate

def decodeData (uuid : UuidFormat) (taskType : TaskType) (value : Json) :
    Except JsonError SagaData :=
  match taskType with
  | .createIssuer => (CreateIssuerStateData.decode uuid value).map .create
  | .deactivateIssuer => (DeactivateIssuerStateData.decode value).map .deactivate
  | .rotateKeys => (RotateKeysStateData.decode uuid value).map .rotate

/-- Every marker is kept with its value. -/
def Extends : SagaData → SagaData → Prop
  | .create old, .create new =>
      (∀ url, old.assignedDidUrl = some url → new.assignedDidUrl = some url) ∧
      (∀ identifier, old.assignedIdentifier = some identifier →
        new.assignedIdentifier = some identifier) ∧
      (∀ keyIds, old.keyIds = some keyIds → new.keyIds = some keyIds) ∧
      (old.didlogPublished = true → new.didlogPublished = true) ∧
      (∀ id, old.statusListRegistryEntryId = some id → new.statusListRegistryEntryId = some id) ∧
      (∀ url, old.statusListRegistryUrl = some url → new.statusListRegistryUrl = some url)
  | .deactivate old, .deactivate new => old.didlogPublished = true → new.didlogPublished = true
  | .rotate old, .rotate new =>
      (∀ triple, old.newKeyTriple = some triple → new.newKeyTriple = some triple) ∧
      (old.didlogPublished = true → new.didlogPublished = true)
  | _, _ => False

theorem Extends.refl (data : SagaData) : Extends data data := by
  cases data with
  | create state => exact ⟨fun _ => id, fun _ => id, fun _ => id, id, fun _ => id, fun _ => id⟩
  | deactivate state => exact fun kept => kept
  | rotate state => exact ⟨fun _ => id, id⟩

theorem Extends.trans {first middle last : SagaData} (early : Extends first middle)
    (late : Extends middle last) : Extends first last := by
  cases first with
  | create =>
      cases middle with
      | create =>
          cases last with
          | create =>
              rcases early with ⟨a, b, c, d, e, f⟩
              rcases late with ⟨a', b', c', d', e', f'⟩
              exact ⟨fun _ set => a' _ (a _ set), fun _ set => b' _ (b _ set),
                fun _ set => c' _ (c _ set), fun set => d' (d set), fun _ set => e' _ (e _ set),
                fun _ set => f' _ (f _ set)⟩
          | deactivate | rotate => exact late.elim
      | deactivate | rotate => exact early.elim
  | deactivate =>
      cases middle with
      | deactivate =>
          cases last with
          | deactivate => exact fun set => late (early set)
          | create | rotate => exact late.elim
      | create | rotate => exact early.elim
  | rotate =>
      cases middle with
      | rotate =>
          cases last with
          | rotate => exact ⟨fun _ set => late.1 _ (early.1 _ set), fun set => late.2 (early.2 set)⟩
          | create | deactivate => exact late.elim
      | create | deactivate => exact early.elim

section Decode

variable {uuid : UuidFormat} {map : JsonMap} {state : CreateIssuerStateData}

/-- The six fields of the accumulated state of a creation, as they are read from an object. -/
structure CreateFields (uuid : UuidFormat) (map : JsonMap) (state : CreateIssuerStateData) :
    Prop where
  assignedDidUrl : map.orDefault "assigned_did_url" none (Json.asOption Json.asString) =
    .ok state.assignedDidUrl
  assignedIdentifier : map.orDefault "assigned_identifier" none (Json.asOption Json.asString) =
    .ok state.assignedIdentifier
  keyIds : map.orDefault "key_ids" none (Json.asOption (KeyTriple.decode uuid)) = .ok state.keyIds
  didlogPublished : map.orDefault "didlog_published" false Json.asBool = .ok state.didlogPublished
  entryId : map.orDefault "status_list_registry_entry_id" none (Json.asOption Json.asString) =
    .ok state.statusListRegistryEntryId
  registryUrl : map.orDefault "status_list_registry_url" none (Json.asOption Json.asString) =
    .ok state.statusListRegistryUrl

theorem decode_fields :
    CreateIssuerStateData.decode uuid (.object map) = .ok state ↔ CreateFields uuid map state := by
  simp only [CreateIssuerStateData.decode, Answers.bind_ok]
  constructor
  · rintro ⟨_, same, url, urlRead, identifier, identifierRead, keyIds, keyIdsRead, flag, flagRead,
      entry, entryRead, registry, registryRead, made⟩
    cases same
    cases made
    exact ⟨urlRead, identifierRead, keyIdsRead, flagRead, entryRead, registryRead⟩
  · intro fields
    exact ⟨map, rfl, _, fields.assignedDidUrl, _, fields.assignedIdentifier, _, fields.keyIds, _,
      fields.didlogPublished, _, fields.entryId, _, fields.registryUrl, rfl⟩

theorem orDefault_insert_self {α : Type} (map : JsonMap) (name : String) (value : Json)
    (default : α) (read : Json → Except JsonError α) :
    (map.insert name value).orDefault name default read = read value := by
  rw [JsonMap.orDefault, JsonMap.get_insert_self]

theorem orDefault_insert_ne {α : Type} (map : JsonMap) {name other : String} (value : Json)
    (default : α) (read : Json → Except JsonError α) (different : other ≠ name) :
    (map.insert name value).orDefault other default read = map.orDefault other default read := by
  rw [JsonMap.orDefault, JsonMap.get_insert_ne map value different, JsonMap.orDefault]

theorem decode_merge_allocation (fields : CreateFields uuid map state) (allocation : Allocation) :
    CreateFields uuid (map.merge allocation.patch) { state with
      assignedDidUrl := some allocation.url
      assignedIdentifier := some allocation.identifier } := by
  rcases fields with ⟨_, _, keyIds, flag, entryId, registryUrl⟩
  have merged : map.merge allocation.patch =
      (map.insert "assigned_did_url" (.string allocation.url)).insert "assigned_identifier"
        (.string allocation.identifier) := rfl
  rw [merged]
  constructor
  all_goals simp [orDefault_insert_ne, orDefault_insert_self, *]
  all_goals rfl

theorem decode_merge_keyIds (fields : CreateFields uuid map state) (keyIds : KeyTriple) :
    CreateFields uuid (map.merge [("key_ids", keyIds.toJson)]) { state with
      keyIds := some keyIds } := by
  rcases fields with ⟨url, identifier, _, flag, entryId, registryUrl⟩
  have merged : map.merge [("key_ids", keyIds.toJson)] = map.insert "key_ids" keyIds.toJson := rfl
  rw [merged]
  constructor
  case keyIds =>
    rw [orDefault_insert_self]
    exact congrArg (Except.map some) (KeyTriple.decode_toJson uuid keyIds)
  all_goals simp [orDefault_insert_ne, *]

theorem decode_merge_didlog (fields : CreateFields uuid map state) :
    CreateFields uuid (map.merge didlogPublishedPatch.stateDataPatch) { state with
      didlogPublished := true } := by
  rcases fields with ⟨url, identifier, keyIds, _, entryId, registryUrl⟩
  have merged : map.merge didlogPublishedPatch.stateDataPatch =
      map.insert "didlog_published" (.bool true) := rfl
  rw [merged]
  constructor
  all_goals simp [orDefault_insert_ne, orDefault_insert_self, *]
  rfl

theorem decode_merge_entry (fields : CreateFields uuid map state) (entry : StatusListEntry) :
    CreateFields uuid (map.merge entry.patch) { state with
      statusListRegistryEntryId := some entry.id
      statusListRegistryUrl := some entry.registryUrl } := by
  rcases fields with ⟨url, identifier, keyIds, flag, _, _⟩
  have merged : map.merge entry.patch =
      (map.insert "status_list_registry_entry_id" (.string entry.id)).insert
        "status_list_registry_url" (.string entry.registryUrl) := rfl
  rw [merged]
  constructor
  all_goals simp [orDefault_insert_ne, orDefault_insert_self, *]
  all_goals rfl

end Decode

/-- What answers the calls of one execution: the reads before the step, the calls of a creation,
and, for a step on an issuer, its calls and the row and the log that they meet. -/
structure Visit where
  loads : Loads
  create : CreateCalls
  world : World
  step : StepCalls

inductive Deed
  | create (effect : CreateEffect)
  | issuer (effect : Effect)

def Deed.outcome : Deed → StepOutcome
  | create effect => effect.outcome
  | issuer effect => effect.outcome

/-- The step is over, and nothing was asked of the engine, of a registry or of the database. -/
def Deed.Skipped : Deed → Prop
  | create effect => effect = { outcome := .done {} }
  | issuer effect => effect = { outcome := .done {} }

section Execute

variable (ext : Externals) (genesis : GenesisCore)

/-- No step of the source: the arms of the two steps that need a `result_issuer_id` check it. -/
def unnamed : CreateEffect where
  outcome := .terminal "missing_state" "task missing result_issuer_id"

def createStep (task : OperationTask) (calls : CreateCalls) (input : CreateIssuerInput)
    (state : CreateIssuerStateData) (tenant : Tenant) : CreateIssuerStep → CreateEffect
  | .allocateDid => executeAllocateDid tenant state calls
  | .generateKeys => executeGenerateKeys state calls
  | .buildInitialDidlog =>
      executeBuildInitialDidlog ext.core genesis ext.engine state calls task.createdAt
  | .publishDidlog =>
      executePublishDidlog ext.core genesis ext.engine tenant state calls task.createdAt
  | .persistIssuer => task.resultIssuerId.elim unnamed fun issuerId =>
      executePersistIssuer ext.core genesis ext.engine task.tenantId issuerId input state calls
        task.createdAt
  | .createStatusListEntry => executeCreateStatusListEntry tenant state calls
  | .provisionStatusList => task.resultIssuerId.elim unnamed fun issuerId =>
      executeProvisionStatusList issuerId state calls

/-- `execute_task` up to the outcome. -/
def executeVisit (task : OperationTask) (visit : Visit) :
    Except WorkerError (Option String × Deed) :=
  match task.taskType with
  | .createIssuer => (createIssuerSaga ext.uuid).execute task visit.loads
      fun input state tenant step =>
        .create (createStep ext genesis task visit.create input state tenant step)
  | .deactivateIssuer => deactivateIssuerSaga.execute task visit.loads
      fun input state subject step =>
        .issuer (deactivateStep ext visit.world task visit.step input state subject step)
  | .rotateKeys => (rotateKeysSaga ext.uuid).execute task visit.loads
      fun input state subject step =>
        .issuer (rotateStep ext visit.world task visit.step input state subject step)

end Execute

def firstStep : TaskType → String
  | .createIssuer => "allocate_did"
  | .deactivateIssuer => "build_deactivation_didlog"
  | .rotateKeys => "generate_new_keys"

def stepName (task : OperationTask) : String := task.step.getD (firstStep task.taskType)

section Stages

-- The answers with which the recorded execution of each step was made.
variable (ran : String → Option Visit)

def Allocated (allocation : Allocation) : Prop :=
  ∃ visit, ran "allocate_did" = some visit ∧ visit.create.allocate = .ok allocation

def Generated (keyIds : KeyTriple) : Prop :=
  ∃ visit, ran "generate_keys" = some visit ∧
    ∀ role, visit.create.generated role = .ok (keyIds.forRole role)

def Registered (entry : StatusListEntry) : Prop :=
  ∃ visit, ran "create_status_list_entry" = some visit ∧ visit.create.createEntry = .ok entry

/-- The rotated roles have the generated keys, the others those of the issuer row. -/
def Frozen (input : RotateKeysInput) (triple : KeyTriple) : Prop :=
  ∃ visit issuer, ran "generate_new_keys" = some visit ∧ visit.loads.issuer = .ok (some issuer) ∧
    ∀ role, (role ∈ input.roles → visit.step.generated role = .ok (triple.forRole role)) ∧
      (role ∉ input.roles → issuer.keyIdForRole role = some (triple.forRole role))

/-- What a creation has accumulated at each of its steps. -/
inductive CreateStage : String → CreateIssuerStateData → Prop
  | allocateDid : CreateStage "allocate_did" ⟨none, none, none, false, none, none⟩
  | generateKeys {a : Allocation} : Allocated ran a →
      CreateStage "generate_keys" ⟨some a.url, some a.identifier, none, false, none, none⟩
  | buildInitialDidlog {a : Allocation} {keyIds : KeyTriple} : Allocated ran a →
      Generated ran keyIds → CreateStage "build_initial_didlog"
        ⟨some a.url, some a.identifier, some keyIds, false, none, none⟩
  | publishDidlog {a : Allocation} {keyIds : KeyTriple} : Allocated ran a →
      Generated ran keyIds → CreateStage "publish_didlog"
        ⟨some a.url, some a.identifier, some keyIds, false, none, none⟩
  | persistIssuer {a : Allocation} {keyIds : KeyTriple} : Allocated ran a →
      Generated ran keyIds → CreateStage "persist_issuer"
        ⟨some a.url, some a.identifier, some keyIds, true, none, none⟩
  | createStatusListEntry {a : Allocation} {keyIds : KeyTriple} : Allocated ran a →
      Generated ran keyIds → CreateStage "create_status_list_entry"
        ⟨some a.url, some a.identifier, some keyIds, true, none, none⟩
  | provisionStatusList {a : Allocation} {keyIds : KeyTriple} {e : StatusListEntry} :
      Allocated ran a → Generated ran keyIds → Registered ran e →
      CreateStage "provision_status_list"
        ⟨some a.url, some a.identifier, some keyIds, true, some e.id, some e.registryUrl⟩

inductive DeactivateStage : String → DeactivateIssuerStateData → Prop
  | buildDeactivationDidlog : DeactivateStage "build_deactivation_didlog" ⟨false⟩
  | publishDidlog : DeactivateStage "publish_didlog" ⟨false⟩
  | markDeactivated : DeactivateStage "mark_deactivated" ⟨true⟩

inductive RotateStage (input : RotateKeysInput) : String → RotateKeysStateData → Prop
  | generateNewKeys : RotateStage input "generate_new_keys" ⟨none, false⟩
  | buildRotationDidlog {triple : KeyTriple} : Frozen ran input triple →
      RotateStage input "build_rotation_didlog" ⟨some triple, false⟩
  | publishDidlog {triple : KeyTriple} : Frozen ran input triple →
      RotateStage input "publish_didlog" ⟨some triple, false⟩
  | swapKeys {triple : KeyTriple} : Frozen ran input triple →
      RotateStage input "swap_keys" ⟨some triple, true⟩

/-- The accumulated state is the one of the step, with the values of the executions before it. -/
def Stage (input : SagaInput) (step : String) (data : SagaData) : Prop :=
  match input, data with
  | .create _, .create state => CreateStage ran step state
  | .deactivate _, .deactivate state => DeactivateStage step state
  | .rotate input, .rotate state => RotateStage ran input step state
  | _, _ => False

end Stages

section Advance

variable {ran : String → Option Visit} {visit : Visit} {step : String}

theorem Allocated.keep {allocation : Allocation} (allocated : Allocated ran allocation)
    (later : step ≠ "allocate_did") :
    Allocated (Function.update ran step (some visit)) allocation := by
  rcases allocated with ⟨found, recorded, answered⟩
  exact ⟨found, by rw [Function.update_of_ne later.symm, recorded], answered⟩

theorem Generated.keep {keyIds : KeyTriple} (generated : Generated ran keyIds)
    (later : step ≠ "generate_keys") :
    Generated (Function.update ran step (some visit)) keyIds := by
  rcases generated with ⟨found, recorded, answered⟩
  exact ⟨found, by rw [Function.update_of_ne later.symm, recorded], answered⟩

theorem Registered.keep {entry : StatusListEntry} (registered : Registered ran entry)
    (later : step ≠ "create_status_list_entry") :
    Registered (Function.update ran step (some visit)) entry := by
  rcases registered with ⟨found, recorded, answered⟩
  exact ⟨found, by rw [Function.update_of_ne later.symm, recorded], answered⟩

theorem Frozen.keep {input : RotateKeysInput} {triple : KeyTriple} (frozen : Frozen ran input triple)
    (later : step ≠ "generate_new_keys") :
    Frozen (Function.update ran step (some visit)) input triple := by
  rcases frozen with ⟨found, issuer, recorded, answered⟩
  exact ⟨found, issuer, by rw [Function.update_of_ne later.symm, recorded], answered⟩

theorem outcomeForGenesisError_fails (step : String) (error : GenesisBuildError) :
    (outcomeForGenesisError step error).isDone = false := by
  unfold outcomeForGenesisError
  split <;> rfl

theorem outcomeForEngineError_fails (code : String) (error : SigningEngineError) :
    (outcomeForEngineError code error).isDone = false := by
  cases error <;> rfl

theorem outcomeForPersistenceError_fails (code operation : String) (error : PersistenceError) :
    (outcomeForPersistenceError code operation error).isDone = false := by
  cases error <;> rfl

section Done

variable {ext : Externals} {genesis : GenesisCore} {state : CreateIssuerStateData}
  {calls : CreateCalls} {result : StepResult}

/-- What a step that finds no marker of its own adds when it succeeds. -/
theorem executeAllocateDid_done {tenant : Tenant} (unmarked : state.assignedDidUrl = none)
    (done : (executeAllocateDid tenant state calls).outcome = .done result) :
    ∃ allocation, calls.allocate = .ok allocation ∧ result.stateDataPatch = allocation.patch := by
  rw [executeAllocateDid, unmarked] at done
  cases answered : calls.allocate with
  | ok allocation =>
      rw [answered] at done
      cases done
      exact ⟨allocation, rfl, rfl⟩
  | error e =>
      rw [answered] at done
      exact absurd done (done_of_fails (fromTokenAwareError_fails ..))

theorem executeGenerateKeys_done (unmarked : state.keyIds = none)
    (done : (executeGenerateKeys state calls).outcome = .done result) :
    ∃ keyIds : KeyTriple, (∀ role, calls.generated role = .ok (keyIds.forRole role)) ∧
      result.stateDataPatch = [("key_ids", keyIds.toJson)] := by
  have refused : ∀ e, outcomeForEngineError "generate_keypair_failed" e ≠ .done result :=
    fun e => done_of_fails (outcomeForEngineError_fails "generate_keypair_failed" e)
  rw [executeGenerateKeys, unmarked] at done
  cases first : calls.generated .authorized with
  | error e =>
      rw [first] at done
      exact absurd done (refused e)
  | ok authorized =>
      rw [first] at done
      cases second : calls.generated .authentication with
      | error e =>
          rw [second] at done
          exact absurd done (refused e)
      | ok authentication =>
          rw [second] at done
          cases third : calls.generated .assertion with
          | error e =>
              rw [third] at done
              exact absurd done (refused e)
          | ok assertion =>
              rw [third] at done
              cases done
              refine ⟨⟨authorized, authentication, assertion⟩, ?_, rfl⟩
              intro role
              cases role with
              | authorized => exact first
              | authentication => exact second
              | assertion => exact third

theorem executeBuildInitialDidlog_done {engine : Engine} {core : SwiyuCore} {now : DateTime}
    (done : (executeBuildInitialDidlog core genesis engine state calls now).outcome =
      .done result) : result.stateDataPatch = [] := by
  unfold executeBuildInitialDidlog at done
  dsimp only at done
  split at done
  · cases done
    rfl
  · exact absurd done (done_of_fails (outcomeForGenesisError_fails ..))

theorem executePublishDidlog_done {engine : Engine} {core : SwiyuCore} {now : DateTime}
    {tenant : Tenant} (unmarked : state.didlogPublished = false)
    (done : (executePublishDidlog core genesis engine tenant state calls now).outcome =
      .done result) : result = didlogPublishedPatch := by
  rw [executePublishDidlog, unmarked, if_neg Bool.false_ne_true] at done
  split at done
  · cases done
  · split at done
    · exact absurd done (done_of_fails (outcomeForGenesisError_fails ..))
    · exact afterPut_done done

theorem executePersistIssuer_done {engine : Engine} {core : SwiyuCore} {now : DateTime}
    {tenantId : TenantId} {issuerId : IssuerId} {input : CreateIssuerInput}
    (done : (executePersistIssuer core genesis engine tenantId issuerId input state calls
      now).outcome = .done result) : result.stateDataPatch = [] := by
  unfold executePersistIssuer at done
  split at done
  · cases done
  · exact absurd done (done_of_fails (outcomeForPersistenceError_fails ..))
  · cases done
    rfl
  · split at done
    · cases done
    · split at done
      · exact absurd done (done_of_fails (outcomeForGenesisError_fails ..))
      · split at done
        · cases done
        · dsimp only [afterInsert] at done
          split at done
          · cases done
            rfl
          · cases done
            rfl
          · exact absurd done (done_of_fails (outcomeForPersistenceError_fails ..))

theorem executeCreateStatusListEntry_done {tenant : Tenant}
    (unmarked : state.statusListRegistryEntryId = none)
    (done : (executeCreateStatusListEntry tenant state calls).outcome = .done result) :
    ∃ entry, calls.createEntry = .ok entry ∧ result.stateDataPatch = entry.patch := by
  rw [executeCreateStatusListEntry, unmarked] at done
  cases answered : calls.createEntry with
  | ok entry =>
      rw [answered] at done
      cases done
      exact ⟨entry, rfl, rfl⟩
  | error e =>
      rw [answered] at done
      exact absurd done (done_of_fails (fromTokenAwareError_fails ..))

end Done

/-- A successful step of a creation leads to the next stage and keeps every marker. -/
theorem CreateStage.advance {ext : Externals} {genesis : GenesisCore} {task : OperationTask}
    {input : CreateIssuerInput} {state : CreateIssuerStateData} {tenant : Tenant} {map : JsonMap}
    {arm : Arm CreateIssuerStep} {next : String} {result : StepResult}
    (stage : CreateStage ran step state) (fields : CreateFields ext.uuid map state)
    (named : task.resultIssuerId.isSome = true) (known : createIssuerArm step = some arm)
    (follows : arm.nextStep = some next)
    (done : (createStep ext genesis task visit.create input state tenant arm.step).outcome =
      .done result) :
    ∃ state', CreateStage (Function.update ran step (some visit)) next state' ∧
      CreateFields ext.uuid (map.merge result.stateDataPatch) state' ∧
      Extends (.create state) (.create state') := by
  cases stage with
  | allocateDid =>
      cases known
      cases follows
      rcases executeAllocateDid_done rfl done with ⟨allocation, answered, patch⟩
      rw [patch]
      refine ⟨_, .generateKeys ⟨visit, Function.update_self .., answered⟩,
        decode_merge_allocation fields allocation, ?_⟩
      simp [Extends]
  | @generateKeys a allocated =>
      cases known
      cases follows
      rcases executeGenerateKeys_done rfl done with ⟨keyIds, answered, patch⟩
      rw [patch]
      refine ⟨_, .buildInitialDidlog (allocated.keep (by decide))
        ⟨visit, Function.update_self .., answered⟩, decode_merge_keyIds fields keyIds, ?_⟩
      simp [Extends]
  | buildInitialDidlog allocated generated =>
      cases known
      cases follows
      rw [executeBuildInitialDidlog_done done]
      exact ⟨_, .publishDidlog (allocated.keep (by decide)) (generated.keep (by decide)), fields,
        Extends.refl _⟩
  | publishDidlog allocated generated =>
      cases known
      cases follows
      rw [executePublishDidlog_done rfl done]
      refine ⟨_, .persistIssuer (allocated.keep (by decide)) (generated.keep (by decide)),
        decode_merge_didlog fields, ?_⟩
      simp [Extends]
  | persistIssuer allocated generated =>
      cases known
      cases follows
      rcases Option.isSome_iff_exists.mp named with ⟨issuerId, named⟩
      simp only [createStep, named, Option.elim_some] at done
      rw [executePersistIssuer_done done]
      exact ⟨_, .createStatusListEntry (allocated.keep (by decide)) (generated.keep (by decide)),
        fields, Extends.refl _⟩
  | createStatusListEntry allocated generated =>
      cases known
      cases follows
      rcases executeCreateStatusListEntry_done rfl done with ⟨entry, answered, patch⟩
      rw [patch]
      refine ⟨_, .provisionStatusList (allocated.keep (by decide)) (generated.keep (by decide))
        ⟨visit, Function.update_self .., answered⟩, decode_merge_entry fields entry, ?_⟩
      simp [Extends]
  | provisionStatusList allocated generated registered =>
      cases known
      cases follows

/-- The published entry of a rotation or a deactivation leaves the one marker. -/
theorem publishRotation_done {ext : Externals} {world : World} {issuer : Issuer}
    {task : OperationTask} {calls : StepCalls} {state : RotateKeysStateData} {result : StepResult}
    (unmarked : state.didlogPublished = false)
    (done : (publishEffect (prepareRotationPublish ext.core ext.engine issuer state
      (fetched world.log calls) calls.faults task.createdAt) calls.put).outcome = .done result) :
    result = didlogPublishedPatch :=
  publish_patch (rotation_publishCase ext { world with issuer := issuer } task calls state)
    unmarked done

theorem publishDeactivation_done {ext : Externals} {world : World} {issuer : Issuer}
    {task : OperationTask} {calls : StepCalls} {state : DeactivateIssuerStateData}
    {result : StepResult} (unmarked : state.didlogPublished = false)
    (done : (publishEffect (prepareDeactivationPublish ext.core ext.engine issuer state
      (fetched world.log calls) calls.faults task.createdAt) calls.put).outcome = .done result) :
    result = didlogPublishedPatch :=
  publish_patch (deactivation_publishCase ext { world with issuer := issuer } task calls state)
    unmarked done

theorem RotateStage.advance {ext : Externals} {task : OperationTask} {input : RotateKeysInput}
    {state : RotateKeysStateData} {subject : Tenant × Issuer} {map : JsonMap}
    {arm : Arm RotateKeysStep} {next : String} {result : StepResult}
    (stage : RotateStage ran input step state)
    (decoded : RotateKeysStateData.decode ext.uuid (.object map) = .ok state)
    (loaded : visit.loads.issuer = .ok (some subject.2)) (known : rotateKeysArm step = some arm)
    (follows : arm.nextStep = some next)
    (done : (rotateStep ext visit.world task visit.step input state subject arm.step).outcome =
      .done result) :
    ∃ state', RotateStage (Function.update ran step (some visit)) input next state' ∧
      RotateKeysStateData.decode ext.uuid (OperationTask.mergeStateData (.object map)
        result.stateDataPatch) = .ok state' ∧
      Extends (.rotate state) (.rotate state') := by
  cases stage with
  | generateNewKeys =>
      cases known
      cases follows
      have done : executeGenerateNewKeys subject.2 input ⟨none, false⟩ visit.step.generated =
          .done result := done
      rcases executeGenerateNewKeys_done done with ⟨absurd, _⟩ | ⟨_, triple, patch, answered⟩
      · cases absurd
      · rw [patch]
        refine ⟨_, .buildRotationDidlog ⟨visit, subject.2, Function.update_self .., loaded,
          answered⟩, decode_merge_triple decoded triple, ?_⟩
        simp [Extends]
  | buildRotationDidlog frozen =>
      cases known
      cases follows
      rw [(executeBuildDidlog_done done).1]
      exact ⟨_, .publishDidlog (frozen.keep (by decide)), decoded, Extends.refl _⟩
  | publishDidlog frozen =>
      cases known
      cases follows
      rw [publishRotation_done rfl done]
      refine ⟨_, .swapKeys (frozen.keep (by decide)), decode_merge_published decoded, ?_⟩
      simp [Extends]
  | swapKeys frozen =>
      cases known
      cases follows

theorem DeactivateStage.advance {ext : Externals} {task : OperationTask}
    {input : DeactivateIssuerInput} {state : DeactivateIssuerStateData} {subject : Tenant × Issuer}
    {map : JsonMap} {arm : Arm DeactivateIssuerStep} {next : String} {result : StepResult}
    (stage : DeactivateStage step state)
    (decoded : DeactivateIssuerStateData.decode (.object map) = .ok state)
    (known : deactivateIssuerArm step = some arm) (follows : arm.nextStep = some next)
    (done : (deactivateStep ext visit.world task visit.step input state subject arm.step).outcome =
      .done result) :
    ∃ state', DeactivateStage next state' ∧
      DeactivateIssuerStateData.decode (OperationTask.mergeStateData (.object map)
        result.stateDataPatch) = .ok state' ∧
      Extends (.deactivate state) (.deactivate state') := by
  cases stage with
  | buildDeactivationDidlog =>
      cases known
      cases follows
      rw [(executeBuildDidlog_done done).1]
      exact ⟨_, .publishDidlog, decoded, Extends.refl _⟩
  | publishDidlog =>
      cases known
      cases follows
      rw [publishDeactivation_done rfl done]
      exact ⟨_, .markDeactivated, decode_merge_deactivated decoded, fun _ => rfl⟩
  | markDeactivated =>
      cases known
      cases follows

end Advance

end SwiyuIssuer.Resume
