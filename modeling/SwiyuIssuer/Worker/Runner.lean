import SwiyuIssuer.Worker.Outcome
import SwiyuIssuer.Worker.States

/-! The dispatch of one acquired task: `execute_create_issuer`, `execute_deactivate_issuer` and
`execute_rotate_keys` differ in what they decode, in what they load and in their steps. -/

namespace SwiyuIssuer.Worker

open Library

structure Tenant where
  id : TenantId
  partnerId : String
deriving DecidableEq, Repr

/-- `Decode("input: {e}")` and `Decode("state_data: {e}")` keep the error that `serde` words. -/
inductive WorkerError
  | persistence (error : PersistenceError)
  | input (error : JsonError)
  | stateData (error : JsonError)
  | decode (details : String)
deriving DecidableEq, Repr

/-- Answers to the reads before the step. -/
structure Loads where
  poolAcquire : Except PersistenceError Unit
  tenant : Except PersistenceError (Option Tenant)
  issuer : Except PersistenceError (Option Issuer)

inductive CreateIssuerStep
  | allocateDid
  | generateKeys
  | buildInitialDidlog
  | publishDidlog
  | persistIssuer
  | createStatusListEntry
  | provisionStatusList
deriving DecidableEq, Repr

inductive DeactivateIssuerStep
  | buildDeactivationDidlog
  | publishDidlog
  | markDeactivated
deriving DecidableEq, Repr

inductive RotateKeysStep
  | generateNewKeys
  | buildRotationDidlog
  | publishDidlog
  | swapKeys
deriving DecidableEq, Repr

/-- One arm of `match step_name`: the executor it calls, the text of its `result_issuer_id` check,
when it makes one, and the step that follows. -/
structure Arm (Step : Type) where
  step : Step
  issuerIdCheck : Option String
  nextStep : Option String
deriving DecidableEq, Repr

def asWorker {α : Type} (answer : Except PersistenceError α) : Except WorkerError α :=
  answer.mapError .persistence

def orDecode {α : Type} (details : String) : Option α → Except WorkerError α
  | some value => .ok value
  | none => .error (.decode details)

def loadTenant (task : OperationTask) (loads : Loads) : Except WorkerError Tenant := do
  asWorker loads.poolAcquire
  let tenant ← asWorker loads.tenant
  orDecode ("tenant " ++ task.tenantId.display ++ " not found") tenant

def loadTenantAndIssuer (saga : String) (task : OperationTask) (loads : Loads) :
    Except WorkerError (Tenant × Issuer) := do
  let issuerId ← orDecode ("task.result_issuer_id is None for " ++ saga) task.resultIssuerId
  let tenant ← loadTenant task loads
  let issuer ← asWorker loads.issuer
  let issuer ← orDecode ("issuer " ++ issuerId.display ++ " not found for tenant " ++
    task.tenantId.display) issuer
  return (tenant, issuer)

/-- The pool hands out a connection and the tenant's row is there. -/
structure TenantFound (loads : Loads) : Prop where
  pool : loads.poolAcquire = .ok ()
  tenant : ∃ tenant, loads.tenant = .ok (some tenant)

structure IssuerFound (task : OperationTask) (loads : Loads) : Prop where
  named : task.resultIssuerId.isSome = true
  tenant : TenantFound loads
  issuer : ∃ issuer, loads.issuer = .ok (some issuer)

theorem asWorker_ok {α : Type} {answer : Except PersistenceError α} {value : α} :
    asWorker answer = .ok value ↔ answer = .ok value :=
  Answers.mapError_ok

theorem orDecode_ok {α : Type} {details : String} {found : Option α} {value : α} :
    orDecode details found = .ok value ↔ found = some value := by
  cases found <;> simp [orDecode]

theorem loadTenant_ok {task : OperationTask} {loads : Loads} {tenant : Tenant} :
    loadTenant task loads = .ok tenant ↔
      loads.poolAcquire = .ok () ∧ loads.tenant = .ok (some tenant) := by
  simp only [loadTenant, Answers.bind_ok, asWorker_ok, orDecode_ok]
  constructor
  · rintro ⟨_, pool, _, found, rfl⟩
    exact ⟨pool, found⟩
  · rintro ⟨pool, found⟩
    exact ⟨(), pool, some tenant, found, rfl⟩

theorem loadTenantAndIssuer_ok {saga : String} {task : OperationTask} {loads : Loads}
    {tenant : Tenant} {issuer : Issuer} :
    loadTenantAndIssuer saga task loads = .ok (tenant, issuer) ↔
      task.resultIssuerId.isSome = true ∧ loads.poolAcquire = .ok () ∧
        loads.tenant = .ok (some tenant) ∧ loads.issuer = .ok (some issuer) := by
  simp only [loadTenantAndIssuer, Answers.bind_ok, asWorker_ok, orDecode_ok, loadTenant_ok]
  constructor
  · rintro ⟨issuerId, named, _, ⟨pool, found⟩, _, read, _, rfl, made⟩
    cases made
    exact ⟨by rw [named]; rfl, pool, found, read⟩
  · rintro ⟨named, pool, found, read⟩
    rcases Option.isSome_iff_exists.mp named with ⟨issuerId, named⟩
    exact ⟨issuerId, named, tenant, ⟨pool, found⟩, some issuer, read, issuer, rfl, rfl⟩

/-- What the three `execute_*` functions differ in. `Subject` is what a saga loads; `Loadable` says
on which answers it has it. -/
structure Saga (Input State Subject Step : Type) where
  decodeInput : Json → Except JsonError Input
  decodeState : Json → Except JsonError State
  load : OperationTask → Loads → Except WorkerError Subject
  Loadable : OperationTask → Loads → Prop
  load_ok : ∀ task loads, (∃ subject, load task loads = .ok subject) ↔ Loadable task loads
  firstStep : String
  arm : String → Option (Arm Step)

namespace Saga

variable {Input State Subject Step ρ : Type}

/-- `task.step.as_deref().unwrap_or(…)`. -/
def stepName (saga : Saga Input State Subject Step) (step : Option String) : String :=
  step.getD saga.firstStep

/-- The body up to `match &outcome`: the next step and what the executor did. -/
def execute (saga : Saga Input State Subject Step) (task : OperationTask) (loads : Loads)
    (executor : Input → State → Subject → Step → ρ) : Except WorkerError (Option String × ρ) := do
  let input ← (saga.decodeInput task.input).mapError .input
  let state ← (saga.decodeState task.stateData).mapError .stateData
  let subject ← saga.load task loads
  let stepName := saga.stepName task.step
  let arm ← orDecode ("unknown step: " ++ stepName) (saga.arm stepName)
  match arm.issuerIdCheck, task.resultIssuerId with
  | some details, none => .error (.decode details)
  | _, _ => return (arm.nextStep, executor input state subject arm.step)

/-- The row and the answers with which `execute` reaches the executor of a step. -/
structure Runnable (saga : Saga Input State Subject Step) (task : OperationTask) (loads : Loads) :
    Prop where
  input : ∃ input, saga.decodeInput task.input = .ok input
  stateData : ∃ state, saga.decodeState task.stateData = .ok state
  loaded : saga.Loadable task loads
  known : ∃ arm, saga.arm (saga.stepName task.step) = some arm ∧
    (arm.issuerIdCheck.isSome = true → task.resultIssuerId.isSome = true)

theorem execute_ok (saga : Saga Input State Subject Step) {task : OperationTask} {loads : Loads}
    {executor : Input → State → Subject → Step → ρ} {nextStep : Option String} {effect : ρ}
    (executed : saga.execute task loads executor = .ok (nextStep, effect)) :
    ∃ input state subject arm, saga.decodeInput task.input = .ok input ∧
      saga.decodeState task.stateData = .ok state ∧ saga.load task loads = .ok subject ∧
      saga.arm (saga.stepName task.step) = some arm ∧
      (arm.issuerIdCheck.isSome = true → task.resultIssuerId.isSome = true) ∧
      nextStep = arm.nextStep ∧ effect = executor input state subject arm.step := by
  simp only [execute, Answers.bind_ok, Answers.mapError_ok, orDecode_ok] at executed
  rcases executed with ⟨input, inputRead, state, stateRead, subject, loaded, arm, known, made⟩
  refine ⟨input, state, subject, arm, inputRead, stateRead, loaded, known, ?_⟩
  split at made
  · cases made
  · next missing =>
      cases made
      refine ⟨?_, rfl, rfl⟩
      intro checked
      rcases Option.isSome_iff_exists.mp checked with ⟨details, checks⟩
      cases named : task.resultIssuerId with
      | some issuerId => rfl
      | none => exact absurd named (missing details checks)

theorem execute_runnable (saga : Saga Input State Subject Step) (task : OperationTask) (loads : Loads)
    (executor : Input → State → Subject → Step → ρ) :
    (∃ answer, saga.execute task loads executor = .ok answer) ↔ saga.Runnable task loads := by
  constructor
  · rintro ⟨⟨nextStep, effect⟩, executed⟩
    rcases saga.execute_ok executed with
      ⟨input, state, subject, arm, inputRead, stateRead, loaded, known, named, _, _⟩
    exact ⟨⟨input, inputRead⟩, ⟨state, stateRead⟩, (saga.load_ok task loads).mp ⟨subject, loaded⟩,
      ⟨arm, known, named⟩⟩
  · rintro ⟨⟨input, inputRead⟩, ⟨state, stateRead⟩, loadable, ⟨arm, known, named⟩⟩
    rcases (saga.load_ok task loads).mpr loadable with ⟨subject, loaded⟩
    refine ⟨(arm.nextStep, executor input state subject arm.step), ?_⟩
    simp only [execute, Answers.bind_ok, Answers.mapError_ok, orDecode_ok]
    refine ⟨input, inputRead, state, stateRead, subject, loaded, arm, known, ?_⟩
    split
    · next details checks missing =>
        rw [checks, missing] at named
        cases named rfl
    · rfl

end Saga

def createIssuerArm : String → Option (Arm CreateIssuerStep)
  | "allocate_did" => some ⟨.allocateDid, none, some "generate_keys"⟩
  | "generate_keys" => some ⟨.generateKeys, none, some "build_initial_didlog"⟩
  | "build_initial_didlog" => some ⟨.buildInitialDidlog, none, some "publish_didlog"⟩
  | "publish_didlog" => some ⟨.publishDidlog, none, some "persist_issuer"⟩
  | "persist_issuer" => some ⟨.persistIssuer,
      some "task.result_issuer_id is None at persist_issuer", some "create_status_list_entry"⟩
  | "create_status_list_entry" => some
      ⟨.createStatusListEntry, none, some "provision_status_list"⟩
  | "provision_status_list" => some ⟨.provisionStatusList,
      some "task.result_issuer_id is None at provision_status_list", none⟩
  | _ => none

def deactivateIssuerArm : String → Option (Arm DeactivateIssuerStep)
  | "build_deactivation_didlog" => some
      ⟨.buildDeactivationDidlog, none, some "publish_didlog"⟩
  | "publish_didlog" => some ⟨.publishDidlog, none, some "mark_deactivated"⟩
  | "mark_deactivated" => some ⟨.markDeactivated, none, none⟩
  | _ => none

def rotateKeysArm : String → Option (Arm RotateKeysStep)
  | "generate_new_keys" => some ⟨.generateNewKeys, none, some "build_rotation_didlog"⟩
  | "build_rotation_didlog" => some ⟨.buildRotationDidlog, none, some "publish_didlog"⟩
  | "publish_didlog" => some ⟨.publishDidlog, none, some "swap_keys"⟩
  | "swap_keys" => some ⟨.swapKeys, none, none⟩
  | _ => none

theorem loadTenant_found (task : OperationTask) (loads : Loads) :
    (∃ tenant, loadTenant task loads = .ok tenant) ↔ TenantFound loads := by
  simp only [loadTenant_ok]
  constructor
  · rintro ⟨tenant, pool, found⟩
    exact ⟨pool, tenant, found⟩
  · rintro ⟨pool, tenant, found⟩
    exact ⟨tenant, pool, found⟩

theorem loadTenantAndIssuer_found (saga : String) (task : OperationTask) (loads : Loads) :
    (∃ subject, loadTenantAndIssuer saga task loads = .ok subject) ↔ IssuerFound task loads := by
  constructor
  · rintro ⟨⟨tenant, issuer⟩, loaded⟩
    rcases loadTenantAndIssuer_ok.mp loaded with ⟨named, pool, found, read⟩
    exact ⟨named, ⟨pool, tenant, found⟩, issuer, read⟩
  · rintro ⟨named, ⟨pool, tenant, found⟩, issuer, read⟩
    exact ⟨(tenant, issuer), loadTenantAndIssuer_ok.mpr ⟨named, pool, found, read⟩⟩

section Sagas

variable (uuid : UuidFormat)

def createIssuerSaga :
    Saga CreateIssuerInput CreateIssuerStateData Tenant CreateIssuerStep where
  decodeInput := CreateIssuerInput.decode
  decodeState := CreateIssuerStateData.decode uuid
  load := loadTenant
  Loadable := fun _ loads => TenantFound loads
  load_ok := loadTenant_found
  firstStep := "allocate_did"
  arm := createIssuerArm

def deactivateIssuerSaga : Saga DeactivateIssuerInput DeactivateIssuerStateData (Tenant × Issuer)
    DeactivateIssuerStep where
  decodeInput := DeactivateIssuerInput.decode
  decodeState := DeactivateIssuerStateData.decode
  load := loadTenantAndIssuer "DeactivateIssuer"
  Loadable := IssuerFound
  load_ok := loadTenantAndIssuer_found "DeactivateIssuer"
  firstStep := "build_deactivation_didlog"
  arm := deactivateIssuerArm

def rotateKeysSaga :
    Saga RotateKeysInput RotateKeysStateData (Tenant × Issuer) RotateKeysStep where
  decodeInput := RotateKeysInput.decode
  decodeState := RotateKeysStateData.decode uuid
  load := loadTenantAndIssuer "RotateKeys"
  Loadable := IssuerFound
  load_ok := loadTenantAndIssuer_found "RotateKeys"
  firstStep := "generate_new_keys"
  arm := rotateKeysArm

end Sagas

/-- The step after a task's current one, in the saga of its type. -/
def successor (taskType : TaskType) (step : Option String) : Option String :=
  match taskType with
  | .createIssuer => (createIssuerArm (step.getD "allocate_did")).bind Arm.nextStep
  | .deactivateIssuer =>
      (deactivateIssuerArm (step.getD "build_deactivation_didlog")).bind Arm.nextStep
  | .rotateKeys => (rotateKeysArm (step.getD "generate_new_keys")).bind Arm.nextStep

/-- How many steps of its saga a task still has to finish. -/
def stepsLeft (taskType : TaskType) (step : Option String) : Nat :=
  match taskType with
  | .createIssuer =>
      match step.getD "allocate_did" with
      | "allocate_did" => 7
      | "generate_keys" => 6
      | "build_initial_didlog" => 5
      | "publish_didlog" => 4
      | "persist_issuer" => 3
      | "create_status_list_entry" => 2
      | "provision_status_list" => 1
      | _ => 0
  | .deactivateIssuer =>
      match step.getD "build_deactivation_didlog" with
      | "build_deactivation_didlog" => 3
      | "publish_didlog" => 2
      | "mark_deactivated" => 1
      | _ => 0
  | .rotateKeys =>
      match step.getD "generate_new_keys" with
      | "generate_new_keys" => 4
      | "build_rotation_didlog" => 3
      | "publish_didlog" => 2
      | "swap_keys" => 1
      | _ => 0

/-- Every step but the last leads to the step with one less to finish; no saga loops. -/
theorem stepsLeft_successor {taskType : TaskType} {step : Option String} {next : String}
    (follows : successor taskType step = some next) :
    stepsLeft taskType (some next) + 1 = stepsLeft taskType step := by
  cases taskType
  case createIssuer =>
    simp only [successor, createIssuerArm] at follows
    split at follows <;> cases follows <;> simp_all [stepsLeft]
  case deactivateIssuer =>
    simp only [successor, deactivateIssuerArm] at follows
    split at follows <;> cases follows <;> simp_all [stepsLeft]
  case rotateKeys =>
    simp only [successor, rotateKeysArm] at follows
    split at follows <;> cases follows <;> simp_all [stepsLeft]

theorem stepsLeft_le (taskType : TaskType) (step : Option String) :
    stepsLeft taskType step ≤ 7 := by
  cases taskType
  all_goals
    simp only [stepsLeft]
    split <;> decide

theorem successor_ne (taskType : TaskType) (step : Option String) {next : String}
    (follows : successor taskType step = some next) : step ≠ some next := by
  rintro rfl
  have shorter := stepsLeft_successor follows
  omega

end SwiyuIssuer.Worker
