import SwiyuIssuer.Resume.Supply

/-! A row that its next step can run on, and what one execution makes of it. -/

namespace SwiyuIssuer.Resume

open Library Persistence Worker Saga

def dispatches : TaskType → String → Bool
  | .createIssuer, name => (createIssuerArm name).isSome
  | .deactivateIssuer, name => (deactivateIssuerArm name).isSome
  | .rotateKeys, name => (rotateKeysArm name).isSome

/-- A row that its next step can run on: input and accumulated state decode, and the state is the
one of the step. -/
structure Ready (ext : Externals) (ran : String → Option Visit) (task : OperationTask)
    (input : SagaInput) (data : SagaData) : Prop where
  named : task.resultIssuerId.isSome = true
  inputRead : decodeInput task.taskType task.input = .ok input
  object : ∃ map, task.stateData = .object map
  dataRead : decodeData ext.uuid task.taskType task.stateData = .ok data
  stage : Stage ran input (stepName task) data

/-- What an execution ends with when the row lacks nothing: a failing query, or an outcome that is
not about a missing field. -/
def Unbroken : Except WorkerError (Option String × Deed) → Prop
  | .error error => ∃ cause, error = .persistence cause
  | .ok (_, deed) => missesState deed.outcome = false

section Rows

variable {ext : Externals} {genesis : GenesisCore} {ran : String → Option Visit}
  {task : OperationTask} {input : SagaInput} {data : SagaData}

theorem Ready.transfer {row : OperationTask} (ready : Ready ext ran task input data)
    (same : SameSaga task row) : Ready ext ran row input data where
  named := same.resultIssuerId ▸ ready.named
  inputRead := by rw [same.taskType, same.input, ready.inputRead]
  object := same.stateData ▸ ready.object
  dataRead := by rw [same.taskType, same.stateData, ready.dataRead]
  stage := by
    have place : stepName row = stepName task := by
      rw [stepName, stepName, same.step, same.taskType]
    rw [place]
    exact ready.stage

/-- The three kinds of rows that are ready, each with the types of its saga. -/
inductive ReadyCase (ext : Externals) (ran : String → Option Visit) (task : OperationTask) :
    SagaInput → SagaData → Prop
  | create (input : CreateIssuerInput) (state : CreateIssuerStateData) :
      task.taskType = .createIssuer → CreateIssuerInput.decode task.input = .ok input →
      CreateIssuerStateData.decode ext.uuid task.stateData = .ok state →
      CreateStage ran (stepName task) state → ReadyCase ext ran task (.create input) (.create state)
  | deactivate (input : DeactivateIssuerInput) (state : DeactivateIssuerStateData) :
      task.taskType = .deactivateIssuer → DeactivateIssuerInput.decode task.input = .ok input →
      DeactivateIssuerStateData.decode task.stateData = .ok state →
      DeactivateStage (stepName task) state →
      ReadyCase ext ran task (.deactivate input) (.deactivate state)
  | rotate (input : RotateKeysInput) (state : RotateKeysStateData) :
      task.taskType = .rotateKeys → RotateKeysInput.decode task.input = .ok input →
      RotateKeysStateData.decode ext.uuid task.stateData = .ok state →
      RotateStage ran input (stepName task) state →
      ReadyCase ext ran task (.rotate input) (.rotate state)

theorem Ready.cases (ready : Ready ext ran task input data) : ReadyCase ext ran task input data := by
  rcases ready with ⟨_, inputRead, _, dataRead, stage⟩
  unfold decodeInput at inputRead
  unfold decodeData at dataRead
  cases saga : task.taskType with
  | createIssuer =>
      simp only [saga] at inputRead dataRead
      rcases Answers.map_ok.mp inputRead with ⟨asked, asks, rfl⟩
      rcases Answers.map_ok.mp dataRead with ⟨state, holds, rfl⟩
      exact .create asked state saga asks holds stage
  | deactivateIssuer =>
      simp only [saga] at inputRead dataRead
      rcases Answers.map_ok.mp inputRead with ⟨asked, asks, rfl⟩
      rcases Answers.map_ok.mp dataRead with ⟨state, holds, rfl⟩
      exact .deactivate asked state saga asks holds stage
  | rotateKeys =>
      simp only [saga] at inputRead dataRead
      rcases Answers.map_ok.mp inputRead with ⟨asked, asks, rfl⟩
      rcases Answers.map_ok.mp dataRead with ⟨state, holds, rfl⟩
      exact .rotate asked state saga asks holds stage

theorem Ready.dispatches (ready : Ready ext ran task input data) :
    dispatches task.taskType (stepName task) = true := by
  cases ready.cases with
  | create _ _ saga _ _ stage =>
      rcases stage.known with ⟨arm, known⟩
      simp only [Resume.dispatches, saga, known, Option.isSome_some]
  | deactivate _ _ saga _ _ stage =>
      rcases stage.known with ⟨arm, known, _⟩
      simp only [Resume.dispatches, saga, known, Option.isSome_some]
  | rotate _ _ saga _ _ stage =>
      rcases stage.known with ⟨arm, known, _⟩
      simp only [Resume.dispatches, saga, known, Option.isSome_some]

theorem Ready.advance (ready : Ready ext ran task input data) {visit : Visit} {next : String}
    {deed : Deed} {result : StepResult}
    (executed : executeVisit ext genesis task visit = .ok (some next, deed))
    (done : deed.outcome = .done result) (now : DateTime) :
    ∃ data', Ready ext (Function.update ran (stepName task) (some visit))
        (task.advanceStep (some next)
          (OperationTask.mergeStateData task.stateData result.stateDataPatch) now) input data' ∧
      Extends data data' := by
  rcases ready.object with ⟨map, object⟩
  have inputRead := ready.inputRead
  unfold executeVisit at executed
  cases ready.cases with
  | create asked state saga inputFound dataRead stage =>
      simp only [saga] at executed
      rcases Saga.execute_ok _ executed with
        ⟨_, read, tenant, arm, _, stateRead, _, known, _, follows, same⟩
      cases dataRead.symm.trans stateRead
      rw [same] at done
      rw [object] at dataRead
      have place : createIssuerArm (stepName task) = some arm := by
        rw [stepName, saga]
        exact known
      rcases stage.advance (decode_fields.mp dataRead) ready.named place follows.symm done with
        ⟨state', stage', fields, kept⟩
      refine ⟨.create state', ⟨ready.named, inputRead, ⟨_, by rw [object]; rfl⟩, ?_, stage'⟩, kept⟩
      simp only [decodeData, OperationTask.advanceStep, saga, object]
      exact congrArg (Except.map SagaData.create) (decode_fields.mpr fields)
  | deactivate asked state saga inputFound dataRead stage =>
      simp only [saga] at executed
      rcases Saga.execute_ok _ executed with
        ⟨_, read, subject, arm, _, stateRead, _, known, _, follows, same⟩
      cases dataRead.symm.trans stateRead
      rw [same] at done
      rw [object] at dataRead
      have place : deactivateIssuerArm (stepName task) = some arm := by
        rw [stepName, saga]
        exact known
      rcases stage.advance dataRead place follows.symm done with ⟨state', stage', merged, kept⟩
      refine ⟨.deactivate state', ⟨ready.named, inputRead, ⟨_, by rw [object]; rfl⟩, ?_, stage'⟩,
        kept⟩
      simp only [decodeData, OperationTask.advanceStep, saga, object]
      exact congrArg (Except.map SagaData.deactivate) merged
  | rotate asked state saga inputFound dataRead stage =>
      simp only [saga] at executed
      rcases Saga.execute_ok _ executed with
        ⟨wanted, read, subject, arm, asks, stateRead, loaded, known, _, follows, same⟩
      cases dataRead.symm.trans stateRead
      cases inputFound.symm.trans asks
      rw [same] at done
      rw [object] at dataRead
      have place : rotateKeysArm (stepName task) = some arm := by
        rw [stepName, saga]
        exact known
      have found := (loadTenantAndIssuer_ok.mp loaded).2.2.2
      rcases stage.advance dataRead found place follows.symm done with
        ⟨state', stage', merged, kept⟩
      refine ⟨.rotate state', ⟨ready.named, inputRead, ⟨_, by rw [object]; rfl⟩, ?_, stage'⟩, kept⟩
      simp only [decodeData, OperationTask.advanceStep, saga, object]
      exact congrArg (Except.map SagaData.rotate) merged

theorem execute_error {Input State Subject Step ρ : Type} (saga : Saga Input State Subject Step)
    {loads : Loads} {executor : Input → State → Subject → Step → ρ} {error : WorkerError}
    {wanted : Input} {state : State} {arm : Arm Step}
    (inputRead : saga.decodeInput task.input = .ok wanted)
    (stateRead : saga.decodeState task.stateData = .ok state)
    (known : saga.arm (saga.stepName task.step) = some arm)
    (named : task.resultIssuerId.isSome = true)
    (failed : saga.execute task loads executor = .error error) :
    saga.load task loads = .error error := by
  unfold Saga.execute at failed
  rw [inputRead, stateRead] at failed
  rcases Answers.bind_error.mp failed with absurd | ⟨_, _, failed⟩
  · cases absurd
  rcases Answers.bind_error.mp failed with absurd | ⟨_, _, failed⟩
  · cases absurd
  rcases Answers.bind_error.mp failed with unloaded | ⟨_, _, failed⟩
  · exact unloaded
  dsimp only at failed
  rw [known] at failed
  rcases Answers.bind_error.mp failed with absurd | ⟨_, _, failed⟩
  · cases absurd
  split at failed
  · next unnamed =>
      rw [unnamed] at named
      cases named
  · cases failed

theorem asWorker_error {α : Type} {answer : Except PersistenceError α} {error : WorkerError}
    (failed : asWorker answer = .error error) : ∃ cause, error = .persistence cause := by
  cases answer with
  | ok value => cases failed
  | error cause =>
      cases failed
      exact ⟨cause, rfl⟩

/-- The rows of the task's tenant and issuer are there for every query that works. -/
structure Standing (task : OperationTask) (loads : Loads) : Prop where
  tenant : ∀ found, loads.tenant = .ok found → found.isSome = true
  issuer : task.taskType ≠ .createIssuer → ∀ found, loads.issuer = .ok found → found.isSome = true

theorem loadTenant_error {loads : Loads} {error : WorkerError}
    (there : ∀ found, loads.tenant = .ok found → found.isSome = true)
    (failed : loadTenant task loads = .error error) : ∃ cause, error = .persistence cause := by
  unfold loadTenant at failed
  rcases Answers.bind_error.mp failed with refused | ⟨_, _, failed⟩
  · exact asWorker_error refused
  rcases Answers.bind_error.mp failed with refused | ⟨found, read, failed⟩
  · exact asWorker_error refused
  rcases Option.isSome_iff_exists.mp (there found (asWorker_ok.mp read)) with ⟨tenant, rfl⟩
  cases failed

theorem loadTenantAndIssuer_error {saga : String} {loads : Loads} {error : WorkerError}
    (named : task.resultIssuerId.isSome = true)
    (tenantThere : ∀ found, loads.tenant = .ok found → found.isSome = true)
    (issuerThere : ∀ found, loads.issuer = .ok found → found.isSome = true)
    (failed : loadTenantAndIssuer saga task loads = .error error) :
    ∃ cause, error = .persistence cause := by
  rcases Option.isSome_iff_exists.mp named with ⟨issuerId, named⟩
  unfold loadTenantAndIssuer at failed
  rw [named] at failed
  rcases Answers.bind_error.mp failed with absurd | ⟨_, _, failed⟩
  · cases absurd
  rcases Answers.bind_error.mp failed with unloaded | ⟨_, _, failed⟩
  · exact loadTenant_error tenantThere unloaded
  rcases Answers.bind_error.mp failed with refused | ⟨found, read, failed⟩
  · exact asWorker_error refused
  rcases Option.isSome_iff_exists.mp (issuerThere found (asWorker_ok.mp read)) with ⟨issuer, rfl⟩
  cases failed

/-- Neither a decode error nor a missing field stops the execution of a ready row. -/
theorem Ready.unbroken (ready : Ready ext ran task input data) {visit : Visit}
    (standing : Standing task visit.loads) : Unbroken (executeVisit ext genesis task visit) := by
  unfold executeVisit
  cases ready.cases with
  | create asked state saga asks holds stage =>
      simp only [saga]
      rcases stage.known with ⟨arm, known⟩
      rw [stepName, saga] at known
      cases executed : (createIssuerSaga ext.uuid).execute task visit.loads _ with
      | error error =>
          exact loadTenant_error standing.tenant
            (execute_error (createIssuerSaga ext.uuid) asks holds known ready.named executed)
      | ok answer =>
          rcases answer with ⟨nextStep, deed⟩
          rcases Saga.execute_ok _ executed with
            ⟨_, read, tenant, arm, _, stateRead, _, found, _, _, rfl⟩
          cases holds.symm.trans stateRead
          exact stage.supplied ready.named (by rw [stepName, saga]; exact found)
  | deactivate asked state saga asks holds stage =>
      have there := standing.issuer (by rw [saga]; decide)
      simp only [saga]
      rcases stage.known with ⟨arm, known, _⟩
      rw [stepName, saga] at known
      cases executed : deactivateIssuerSaga.execute task visit.loads _ with
      | error error =>
          exact loadTenantAndIssuer_error ready.named standing.tenant there
            (execute_error deactivateIssuerSaga asks holds known ready.named executed)
      | ok answer =>
          rcases answer with ⟨nextStep, deed⟩
          rcases Saga.execute_ok _ executed with ⟨_, _, _, arm, _, _, _, _, _, _, rfl⟩
          exact deactivateStep_supplied arm.step
  | rotate asked state saga asks holds stage =>
      have there := standing.issuer (by rw [saga]; decide)
      simp only [saga]
      rcases stage.known with ⟨arm, known, _⟩
      rw [stepName, saga] at known
      cases executed : (rotateKeysSaga ext.uuid).execute task visit.loads _ with
      | error error =>
          exact loadTenantAndIssuer_error ready.named standing.tenant there
            (execute_error (rotateKeysSaga ext.uuid) asks holds known ready.named executed)
      | ok answer =>
          rcases answer with ⟨nextStep, deed⟩
          rcases Saga.execute_ok _ executed with
            ⟨_, _, subject, arm, inputRead, stateRead, _, found, _, _, rfl⟩
          cases asks.symm.trans inputRead
          cases holds.symm.trans stateRead
          exact stage.supplied (by rw [stepName, saga]; exact found)

end Rows

end SwiyuIssuer.Resume
