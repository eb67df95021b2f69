import SwiyuIssuer.Resume.Stages

/-! With the accumulated state of its stage no step misses a field, and a step that has left its
marker is skipped. -/

namespace SwiyuIssuer.Resume

open Library Persistence Worker Saga

variable {ext : Externals} {genesis : GenesisCore} {ran : String → Option Visit} {step : String}

theorem outcomeForBuildError_supplied {texts : SagaTexts} {code : String}
    (known : texts.alreadyCode ≠ "missing_state") (other : code ≠ "missing_state")
    (error : BuildError) : missesState (outcomeForBuildError texts code error) = false := by
  have codes := errorCode_supplied other texts known error
  unfold outcomeForBuildError
  split
  · rfl
  · simpa [missesState] using codes

theorem parseIssuerDid_supplied {core : SwiyuCore} {issuer : Issuer} {outcome : StepOutcome}
    (failed : parseIssuerDid core issuer = .error outcome) : missesState outcome = false := by
  unfold parseIssuerDid at failed
  cases parsed : core.parseDid issuer.did <;> rw [parsed] at failed <;> cases failed
  rfl

theorem fetchLog_supplied {answer : Except RegistryError (List LogEntry)} {outcome : StepOutcome}
    (failed : fetchLog answer = .error outcome) : missesState outcome = false := by
  cases answer with
  | ok log => cases failed
  | error e =>
      cases failed
      show missesState (if e.isRetryable then _ else _) = false
      split <;> rfl

theorem executeBuildDidlog_supplied {core : SwiyuCore} {texts : SagaTexts} {code : String}
    (known : texts.alreadyCode ≠ "missing_state") (other : code ≠ "missing_state")
    (issuer : Issuer) (answer : Except RegistryError (List LogEntry))
    (build : List LogEntry → Except BuildError LogEntry) :
    missesState (executeBuildDidlog core texts code issuer answer build) = false := by
  unfold executeBuildDidlog stepOutcome
  split
  · next taken =>
      simp only [Answers.bind_ok] at taken
      rcases taken with ⟨_, _, _, _, _, _, same⟩
      cases same
      rfl
  · next taken =>
      simp only [Answers.bind_error] at taken
      rcases taken with unparsed | ⟨_, _, unread | ⟨log, _, unbuilt | ⟨_, _, absurd⟩⟩⟩
      · exact parseIssuerDid_supplied unparsed
      · exact fetchLog_supplied unread
      · cases built : build log with
        | ok entry =>
            rw [built] at unbuilt
            cases unbuilt
        | error e =>
            rw [built] at unbuilt
            cases unbuilt
            exact outcomeForBuildError_supplied known other e
      · cases absurd

theorem preparePublish_supplied {core : SwiyuCore} {texts : SagaTexts}
    (known : texts.alreadyCode ≠ "missing_state") {issuer : Issuer}
    {answer : Except RegistryError (List LogEntry)}
    {build : List LogEntry → Except BuildError LogEntry} {outcome : StepOutcome}
    (prepared : preparePublish core texts issuer answer build = .error outcome) :
    missesState outcome = false := by
  simp only [preparePublish, Answers.bind_error] at prepared
  rcases prepared with unparsed | ⟨path, _, unnamed | ⟨_, _, unread | ⟨log, _, unbuilt | ⟨_, _,
    absurd⟩⟩⟩⟩
  · exact parseIssuerDid_supplied unparsed
  · unfold requireIdentifier at unnamed
    split at unnamed <;> cases unnamed
    rfl
  · exact fetchLog_supplied unread
  · cases built : build log with
    | ok entry =>
        rw [built] at unbuilt
        cases unbuilt
    | error e =>
        rw [built] at unbuilt
        cases e with
        | already =>
            cases unbuilt
            rfl
        | chained error =>
            cases unbuilt
            exact outcomeForBuildError_supplied known (by decide) _
  · cases absurd

theorem publishEffect_supplied {prepared : Except StepOutcome (List LogEntry × LogEntry)}
    (put : PutResult)
    (supplied : ∀ outcome, prepared = .error outcome → missesState outcome = false) :
    missesState (publishEffect prepared put).outcome = false := by
  cases prepared with
  | error outcome => exact supplied outcome rfl
  | ok read =>
      show missesState (afterPut put.answer) = false
      cases put.answer with
      | ok _ => rfl
      | error e => exact fromTokenAwareError_supplied (by decide) e _

theorem executeGenerateNewKeys_supplied (issuer : Issuer) (input : RotateKeysInput)
    (state : RotateKeysStateData) (generated : KeyRole → Except SigningEngineError KeyPairId) :
    missesState (executeGenerateNewKeys issuer input state generated) = false := by
  unfold executeGenerateNewKeys
  split
  · rfl
  · split
    · rfl
    · split
      · exact outcomeForEngineError_supplied (by decide) _
      · rfl

theorem executeSwapKeys_supplied {row : Issuer} {tenantId : TenantId} {issuerId : IssuerId}
    {state : RotateKeysStateData} {calls : SwapCalls} (frozen : state.newKeyTriple.isSome = true) :
    missesState (executeSwapKeys row tenantId issuerId state calls).2 = false := by
  unfold executeSwapKeys
  split
  · next absent =>
      rw [absent] at frozen
      cases frozen
  · split
    · rfl
    · split
      · rfl
      · exact outcomeForPersistenceError_supplied (by decide) _ _

theorem executeMarkDeactivated_supplied (row : Issuer) (tenantId : TenantId) (issuerId : IssuerId)
    (calls : MarkCalls) :
    missesState (executeMarkDeactivated row tenantId issuerId calls).2 = false := by
  unfold executeMarkDeactivated
  split
  · rfl
  · rfl
  · split
    · rfl
    · split
      · rfl
      · rfl
      · split <;> rfl

theorem CreateStage.known {state : CreateIssuerStateData} (stage : CreateStage ran step state) :
    ∃ arm, createIssuerArm step = some arm := by
  cases stage <;> exact ⟨_, rfl⟩

theorem DeactivateStage.known {state : DeactivateIssuerStateData}
    (stage : DeactivateStage step state) :
    ∃ arm, deactivateIssuerArm step = some arm ∧ arm.issuerIdCheck = none := by
  cases stage <;> exact ⟨_, rfl, rfl⟩

theorem RotateStage.known {input : RotateKeysInput} {state : RotateKeysStateData}
    (stage : RotateStage ran input step state) :
    ∃ arm, rotateKeysArm step = some arm ∧ arm.issuerIdCheck = none := by
  cases stage <;> exact ⟨_, rfl, rfl⟩

/-- No step of a creation misses a field at its stage. -/
theorem CreateStage.supplied {task : OperationTask} {calls : CreateCalls}
    {input : CreateIssuerInput} {state : CreateIssuerStateData} {tenant : Tenant}
    {arm : Arm CreateIssuerStep} (stage : CreateStage ran step state)
    (named : task.resultIssuerId.isSome = true) (known : createIssuerArm step = some arm) :
    missesState (createStep ext genesis task calls input state tenant arm.step).outcome = false := by
  rcases Option.isSome_iff_exists.mp named with ⟨issuerId, named⟩
  cases stage with
  | allocateDid =>
      cases known
      exact executeAllocateDid_supplied tenant
  | generateKeys =>
      cases known
      exact executeGenerateKeys_supplied
  | buildInitialDidlog =>
      cases known
      exact executeBuildInitialDidlog_supplied rfl rfl
  | publishDidlog =>
      cases known
      exact executePublishDidlog_supplied tenant rfl rfl rfl
  | persistIssuer =>
      cases known
      simp only [createStep, named, Option.elim_some]
      exact executePersistIssuer_supplied rfl rfl
  | createStatusListEntry =>
      cases known
      exact executeCreateStatusListEntry_supplied tenant
  | provisionStatusList =>
      cases known
      simp only [createStep, named, Option.elim_some]
      exact executeProvisionStatusList_supplied rfl rfl

theorem deactivateStep_supplied {world : World} {task : OperationTask} {calls : StepCalls}
    {input : DeactivateIssuerInput} {state : DeactivateIssuerStateData} {subject : Tenant × Issuer}
    (step : DeactivateIssuerStep) :
    missesState (deactivateStep ext world task calls input state subject step).outcome = false := by
  cases step with
  | buildDeactivationDidlog =>
      exact executeBuildDidlog_supplied (by decide) (by decide) _ _ _
  | publishDidlog =>
      apply publishEffect_supplied
      intro outcome prepared
      unfold prepareDeactivationPublish at prepared
      split at prepared
      · cases prepared
        rfl
      · exact preparePublish_supplied (by decide) prepared
  | markDeactivated => exact executeMarkDeactivated_supplied _ _ _ _

theorem RotateStage.supplied {world : World} {task : OperationTask} {calls : StepCalls}
    {input : RotateKeysInput} {state : RotateKeysStateData} {subject : Tenant × Issuer}
    {arm : Arm RotateKeysStep} (stage : RotateStage ran input step state)
    (known : rotateKeysArm step = some arm) :
    missesState (rotateStep ext world task calls input state subject arm.step).outcome = false := by
  cases stage with
  | generateNewKeys =>
      cases known
      exact executeGenerateNewKeys_supplied subject.2 input ⟨none, false⟩ calls.generated
  | buildRotationDidlog =>
      cases known
      exact executeBuildDidlog_supplied (by decide) (by decide) _ _ _
  | publishDidlog =>
      cases known
      apply publishEffect_supplied
      intro outcome prepared
      unfold prepareRotationPublish at prepared
      exact preparePublish_supplied (by decide) prepared
  | swapKeys =>
      cases known
      exact executeSwapKeys_supplied rfl

/-- The steps that have left their marker in the accumulated state. -/
def createMarked (state : CreateIssuerStateData) : String → Bool
  | "allocate_did" => state.assignedDidUrl.isSome
  | "generate_keys" => state.keyIds.isSome
  | "publish_didlog" => state.didlogPublished
  | "create_status_list_entry" => state.statusListRegistryEntryId.isSome
  | _ => false

def deactivateMarked (state : DeactivateIssuerStateData) : String → Bool
  | "publish_didlog" => state.didlogPublished
  | _ => false

def rotateMarked (state : RotateKeysStateData) : String → Bool
  | "generate_new_keys" => state.newKeyTriple.isSome
  | "publish_didlog" => state.didlogPublished
  | _ => false

def marked : SagaData → String → Bool
  | .create state => createMarked state
  | .deactivate state => deactivateMarked state
  | .rotate state => rotateMarked state

theorem isSome_kept {α : Type} {old new : Option α}
    (kept : ∀ value, old = some value → new = some value) (present : old.isSome = true) :
    new.isSome = true := by
  rcases Option.isSome_iff_exists.mp present with ⟨value, set⟩
  rw [kept value set]
  rfl

/-- A step that has left its marker has left it for good. -/
theorem Extends.marked {old new : SagaData} (kept : Extends old new) {owner : String}
    (left : marked old owner = true) : marked new owner = true := by
  cases old with
  | create state =>
      cases new with
      | create state' =>
          rcases kept with ⟨url, _, keyIds, flag, entry, _⟩
          simp only [Resume.marked, createMarked] at left ⊢
          split at left
          · exact isSome_kept url left
          · exact isSome_kept keyIds left
          · exact flag left
          · exact isSome_kept entry left
          · cases left
      | deactivate | rotate => exact kept.elim
  | deactivate state =>
      cases new with
      | deactivate state' =>
          simp only [Resume.marked, deactivateMarked] at left ⊢
          split at left
          · exact kept left
          · cases left
      | create | rotate => exact kept.elim
  | rotate state =>
      cases new with
      | rotate state' =>
          simp only [Resume.marked, rotateMarked] at left ⊢
          split at left
          · exact isSome_kept kept.1 left
          · exact kept.2 left
          · cases left
      | create | deactivate => exact kept.elim

theorem createStep_skipped {task : OperationTask} {calls : CreateCalls} {input : CreateIssuerInput}
    {state : CreateIssuerStateData} {tenant : Tenant} {arm : Arm CreateIssuerStep} {owner : String}
    (left : createMarked state owner = true) (known : createIssuerArm owner = some arm) :
    createStep ext genesis task calls input state tenant arm.step = { outcome := .done {} } := by
  unfold createMarked at left
  split at left
  · cases known
    exact executeAllocateDid_marked tenant left
  · cases known
    exact executeGenerateKeys_marked left
  · cases known
    exact executePublishDidlog_marked tenant left
  · cases known
    exact executeCreateStatusListEntry_marked tenant left
  · cases left

theorem deactivateStep_skipped {world : World} {task : OperationTask} {calls : StepCalls}
    {input : DeactivateIssuerInput} {state : DeactivateIssuerStateData} {subject : Tenant × Issuer}
    {arm : Arm DeactivateIssuerStep} {owner : String} (left : deactivateMarked state owner = true)
    (known : deactivateIssuerArm owner = some arm) :
    deactivateStep ext world task calls input state subject arm.step = { outcome := .done {} } := by
  unfold deactivateMarked at left
  split at left
  · cases known
    simp only [deactivateStep, prepareDeactivationPublish, left, if_true, publishEffect]
  · cases left

theorem rotateStep_skipped {world : World} {task : OperationTask} {calls : StepCalls}
    {input : RotateKeysInput} {state : RotateKeysStateData} {subject : Tenant × Issuer}
    {arm : Arm RotateKeysStep} {owner : String} (left : rotateMarked state owner = true)
    (known : rotateKeysArm owner = some arm) :
    rotateStep ext world task calls input state subject arm.step = { outcome := .done {} } := by
  unfold rotateMarked at left
  split at left
  · cases known
    simp only [rotateStep, executeGenerateNewKeys, left, if_true]
  · cases known
    simp only [rotateStep, prepareRotationPublish, left, if_true, publishEffect]
  · cases left

/-- A row that stands once more at a step whose marker is recorded. -/
theorem executeVisit_skipped {task : OperationTask} {visit : Visit} {data : SagaData}
    {owner : String} {nextStep : Option String} {deed : Deed}
    (decoded : decodeData ext.uuid task.taskType task.stateData = .ok data)
    (left : marked data owner = true)
    (executed : executeVisit ext genesis { task with step := some owner } visit =
      .ok (nextStep, deed)) : deed.Skipped := by
  unfold executeVisit at executed
  unfold decodeData at decoded
  cases saga : task.taskType with
  | createIssuer =>
      simp only [saga] at executed decoded
      rcases Answers.map_ok.mp decoded with ⟨state, found, rfl⟩
      rcases Saga.execute_ok _ executed with
        ⟨_, read, _, arm, _, stateRead, _, known, _, _, same⟩
      cases found.symm.trans stateRead
      rw [same]
      exact createStep_skipped left known
  | deactivateIssuer =>
      simp only [saga] at executed decoded
      rcases Answers.map_ok.mp decoded with ⟨state, found, rfl⟩
      rcases Saga.execute_ok _ executed with
        ⟨_, read, _, arm, _, stateRead, _, known, _, _, same⟩
      cases found.symm.trans stateRead
      rw [same]
      exact deactivateStep_skipped left known
  | rotateKeys =>
      simp only [saga] at executed decoded
      rcases Answers.map_ok.mp decoded with ⟨state, found, rfl⟩
      rcases Saga.execute_ok _ executed with
        ⟨_, read, _, arm, _, stateRead, _, known, _, _, same⟩
      cases found.symm.trans stateRead
      rw [same]
      exact rotateStep_skipped left known

end SwiyuIssuer.Resume
