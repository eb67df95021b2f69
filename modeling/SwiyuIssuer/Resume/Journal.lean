import SwiyuIssuer.Resume.Stages

/-! The tasks that the management API inserts, the one worker that takes them, and the rows of
tenants and issuers that it reads. The table of tasks is a journal: what a step has answered is in
the row before the next step runs. -/

namespace SwiyuIssuer.Resume

open Library Persistence Worker Saga

inductive Dispatch
  | idle
  | acquired (task : OperationTask)
  | stepped (task : OperationTask) (nextStep : Option String) (outcome : StepOutcome)
      (visit : Visit)

def Dispatch.task : Dispatch → Option OperationTask
  | idle => none
  | acquired task | stepped task _ _ _ => some task

/-- `asked` and `ran` are for the reader: the input of each task's request, and the answers with
which the execution was made that a step's recording statement records. -/
structure Journal where
  tenants : TenantId → Option Tenant
  issuers : IssuerId → Option Issuer
  tasks : TaskId → Option OperationTask
  worker : Dispatch
  asked : TaskId → Option SagaInput
  ran : TaskId → String → Option Visit

/-- `putTenant` and `putIssuer` stand for every statement that writes a row of these tables, those
of the steps included; no statement removes one. `crash` stands for every way in which a dispatch
ends without its recording statement. -/
inductive Event
  | putTenant (tenant : Tenant)
  | putIssuer (issuer : Issuer)
  | createIssuer (id : TaskId) (tenantId : TenantId) (issuerId : IssuerId)
      (description displayName : String) (now : DateTime)
  | deactivateIssuer (id : TaskId) (tenantId : TenantId) (issuerId : IssuerId) (now : DateTime)
  | rotateKeys (id : TaskId) (tenantId : TenantId) (issuerId : IssuerId) (body : Json)
      (now : DateTime)
  | acquire (id : TaskId) (now : DateTime)
  | perform (visit : Visit)
  | record (now : DateTime) (word : UInt64)
  | crash

/-- The task that `POST …/issuers` inserts. -/
def newCreateTask (id : TaskId) (tenantId : TenantId) (issuerId : IssuerId)
    (description displayName : String) (now : DateTime) : OperationTask where
  id := id
  tenantId := tenantId
  taskType := .createIssuer
  state := .pending
  step := none
  attempts := 0
  nextAttemptAt := none
  errorCode := none
  errorMessage := none
  input := .object [("description", .string description), ("display_name", .string displayName)]
  stateData := .object []
  resultIssuerId := some issuerId
  createdAt := now
  updatedAt := now
  completedAt := none

namespace Journal

def findIssuer (journal : Journal) (tenantId : TenantId) (issuerId : IssuerId) : Option Issuer :=
  (journal.issuers issuerId).filter fun issuer => issuer.tenantId == tenantId

/-- A query that works answers with what the tables hold. -/
def answers (journal : Journal) (task : OperationTask) (loads : Loads) : Bool :=
  (match loads.tenant with
    | .ok found => found == journal.tenants task.tenantId
    | .error _ => true) &&
  match loads.issuer with
    | .ok found => found == task.resultIssuerId.bind (journal.findIssuer task.tenantId)
    | .error _ => true

def submit (journal : Journal) (task : OperationTask) (input : SagaInput) : Journal :=
  { journal with
    tasks := Function.update journal.tasks task.id (some task)
    asked := Function.update journal.asked task.id (some input)
    ran := Function.update journal.ran task.id fun _ => none }

/-- A request of a tenant that exists, under a new task id. -/
def accepts (journal : Journal) (id : TaskId) (tenantId : TenantId) : Bool :=
  (journal.tasks id).isNone && (journal.tenants tenantId).isSome

def putTask (journal : Journal) (task : OperationTask) (worker : Dispatch) : Journal :=
  { journal with tasks := Function.update journal.tasks task.id (some task), worker := worker }

def release (journal : Journal) : Journal := { journal with worker := .idle }

def note (journal : Journal) (task : OperationTask) (outcome : StepOutcome) (visit : Visit) :
    Journal :=
  let noted := Function.update (journal.ran task.id) (stepName task) (some visit)
  if outcome.isDone then { journal with ran := Function.update journal.ran task.id noted }
  else journal

def step (ext : Externals) (genesis : GenesisCore) (journal : Journal) : Event → Option Journal
  | .putTenant tenant => some
      { journal with tenants := Function.update journal.tenants tenant.id (some tenant) }
  | .putIssuer issuer =>
      if (journal.issuers issuer.id).all fun row => row.tenantId == issuer.tenantId then some
        { journal with issuers := Function.update journal.issuers issuer.id (some issuer) }
      else none
  | .createIssuer id tenantId issuerId description displayName now =>
      if journal.accepts id tenantId then some (journal.submit
        (newCreateTask id tenantId issuerId description displayName now)
        (.create ⟨description, displayName⟩))
      else none
  | .deactivateIssuer id tenantId issuerId now =>
      if journal.accepts id tenantId && (journal.findIssuer tenantId issuerId).isSome then some
        (journal.submit (newTask ⟨tenantId, issuerId, .deactivate⟩ id now) (.deactivate {}))
      else none
  | .rotateKeys id tenantId issuerId body now =>
      match RotateKeysInput.decode body with
      | .ok input =>
          if journal.accepts id tenantId && (journal.findIssuer tenantId issuerId).isSome then some
            (journal.submit (newTask ⟨tenantId, issuerId, .rotate input⟩ id now) (.rotate input))
          else none
      | .error _ => none
  | .acquire id now =>
      match journal.worker, journal.tasks id with
      | .idle, some task =>
          if task.acquirable now then
            match task.tryAcquire now with
            | .ok acquired =>
                some (journal.putTask (task.setAcquired acquired) (.acquired acquired))
            | .error _ => some journal
          else none
      | _, _ => none
  | .perform visit =>
      match journal.worker with
      | .acquired task =>
          if journal.answers task visit.loads then
            match executeVisit ext genesis task visit with
            | .error _ => some journal.release
            | .ok (nextStep, deed) =>
                some { journal with worker := .stepped task nextStep deed.outcome visit }
          else none
      | _ => none
  | .record now word =>
      match journal.worker with
      | .stepped task nextStep outcome visit =>
          match finish task nextStep outcome now word, journal.tasks task.id with
          | .ok write, some row =>
              some ((journal.putTask (write.perform row) .idle).note task outcome visit)
          | _, _ => some journal.release
      | _ => none
  | .crash => some journal.release

structure Initial (journal : Journal) : Prop where
  idle : journal.worker = .idle
  empty : ∀ id, journal.tasks id = none

end Journal

end SwiyuIssuer.Resume
