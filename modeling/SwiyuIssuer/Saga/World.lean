import SwiyuIssuer.Library.Run
import SwiyuIssuer.Worker.DeactivateIssuer
import SwiyuIssuer.Worker.Runner

/-! One issuer with its DID log at the registry, the tasks queued on it, the worker that executes
them and the requests that submit them. -/

namespace SwiyuIssuer.Saga

open Library Persistence Worker

structure Externals where
  core : SwiyuCore
  uuid : UuidFormat
  engine : Engine

/-- An entry at the registry; the author is the task whose step sent it. -/
structure Published where
  author : Option TaskId
  entry : LogEntry
deriving DecidableEq

inductive RequestKind
  | deactivate
  | rotate (input : RotateKeysInput)
deriving DecidableEq

def RequestKind.taskType : RequestKind → TaskType
  | deactivate => .deactivateIssuer
  | rotate _ => .rotateKeys

structure Submission where
  tenantId : TenantId
  issuerId : IssuerId
  kind : RequestKind
deriving DecidableEq

/-- Where a `POST …/deactivate` or `POST …/rotate-keys` stands between its statements. -/
inductive Request
  | idle
  | checked (submission : Submission) (state : IssuerState)
  | inserting (submission : Submission)
  | answered (response : Except ApiError (Option TaskId))

inductive Phase
  | idle
  | acquired (task : OperationTask)
  | stepped (task : OperationTask) (nextStep : Option String) (outcome : StepOutcome)

def Phase.task : Phase → Option OperationTask
  | idle => none
  | acquired task | stepped task _ _ => some task

/-- `keys` and `recorded` are for the reader: the key pairs that exist so far, and the tasks whose
last step has written the issuer row. -/
structure World where
  issuer : Issuer
  log : List Published
  tasks : TaskId → Option OperationTask
  ids : List TaskId
  worker : Phase
  requests : Nat → Request
  keys : List KeyPairId
  recorded : TaskId → Bool

/-- Answers to the calls of one step; a call that a step does not make is not looked at. -/
structure StepCalls where
  loads : Loads
  fetch : Option RegistryError := none
  faults : EngineFaults := {}
  put : PutResult := .acknowledged
  generated : KeyRole → Except SigningEngineError KeyPairId := fun _ => .error (.backend "")
  swap : SwapCalls := {}
  mark : MarkCalls := {}

/-- What a step does: its outcome, the entry that the registry stores, the issuer row it leaves
when it writes it, the key pairs it creates. -/
structure Effect where
  outcome : StepOutcome
  stored : Option LogEntry := none
  row : Option Issuer := none
  generated : List KeyPairId := []

def entries (log : List Published) : List LogEntry := log.map Published.entry

/-- `fetch_log` answers with the current log. -/
def fetched (log : List Published) (calls : StepCalls) : Except RegistryError (List LogEntry) :=
  match calls.fetch with
  | some error => .error error
  | none => .ok (entries log)

/-- The `PUT` replaces the log by what was fetched and the new entry: nobody else writes it. -/
def publishEffect (prepared : Except StepOutcome (List LogEntry × LogEntry)) (put : PutResult) :
    Effect :=
  match prepared with
  | .error outcome => { outcome := outcome }
  | .ok (_, entry) =>
      { outcome := afterPut put.answer, stored := if put.stored then some entry else none }

def rowEffect (result : Issuer × StepOutcome) : Effect where
  outcome := result.2
  row := some result.1

def created (generated : KeyRole → Except SigningEngineError KeyPairId) (roles : List KeyRole) :
    List KeyPairId :=
  roles.filterMap fun role => (generated role).toOption

section Step

variable (ext : Externals)

def rotateStep (world : World) (task : OperationTask) (calls : StepCalls)
    (input : RotateKeysInput) (state : RotateKeysStateData) (subject : Tenant × Issuer) :
    RotateKeysStep → Effect
  | .generateNewKeys =>
      { outcome := executeGenerateNewKeys subject.2 input state calls.generated
        generated :=
          if state.newKeyTriple.isSome then [] else created calls.generated input.roles }
  | .buildRotationDidlog =>
      { outcome := executeBuildRotationDidlog ext.core ext.engine subject.2 state
          (fetched world.log calls) calls.faults task.createdAt }
  | .publishDidlog =>
      publishEffect (prepareRotationPublish ext.core ext.engine subject.2 state
        (fetched world.log calls) calls.faults task.createdAt) calls.put
  | .swapKeys =>
      rowEffect (executeSwapKeys world.issuer task.tenantId subject.2.id state calls.swap)

def deactivateStep (world : World) (task : OperationTask) (calls : StepCalls)
    (_ : DeactivateIssuerInput) (state : DeactivateIssuerStateData) (subject : Tenant × Issuer) :
    DeactivateIssuerStep → Effect
  | .buildDeactivationDidlog =>
      { outcome := executeBuildDeactivationDidlog ext.core ext.engine subject.2
          (fetched world.log calls) calls.faults task.createdAt }
  | .publishDidlog =>
      publishEffect (prepareDeactivationPublish ext.core ext.engine subject.2 state
        (fetched world.log calls) calls.faults task.createdAt) calls.put
  | .markDeactivated =>
      rowEffect (executeMarkDeactivated world.issuer task.tenantId subject.2.id calls.mark)

def answersFromRow (world : World) (task : OperationTask) (loads : Loads) : Bool :=
  match loads.issuer with
  | .ok (some issuer) => issuer == world.issuer && task.tenantId == issuer.tenantId &&
      task.resultIssuerId == some issuer.id
  | _ => true

/-- The body of `execute_task` up to the outcome; a `create_issuer` task is no step of this
system. -/
def executeStep (world : World) (task : OperationTask) (calls : StepCalls) :
    Option (Except WorkerError (Option String × Effect)) :=
  match task.taskType with
  | .rotateKeys => some ((rotateKeysSaga ext.uuid).execute task calls.loads
      (rotateStep ext world task calls))
  | .deactivateIssuer => some (deactivateIssuerSaga.execute task calls.loads
      (deactivateStep ext world task calls))
  | .createIssuer => none

def fresh (world : World) (generated : List KeyPairId) : Bool :=
  generated.all fun id => world.keys.all fun key =>
    (ext.engine.publicKey id).bytes != (ext.engine.publicKey key).bytes

end Step

/-- The last step has written the row, or has found that it need not. -/
def Effect.records (effect : Effect) (issuer : Issuer) : Bool :=
  match effect.row with
  | some row => row != issuer || effect.outcome.isDone
  | none => false

namespace World

def takes (world : World) (task : OperationTask) (nextStep : Option String) (effect : Effect) :
    World :=
  { world with
    issuer := effect.row.getD world.issuer
    log := world.log ++ (effect.stored.map fun entry => ⟨some task.id, entry⟩).toList
    worker := .stepped task nextStep effect.outcome
    keys := world.keys ++ effect.generated
    recorded := fun id => world.recorded id || (id == task.id && effect.records world.issuer) }

def release (world : World) : World := { world with worker := .idle }

def setTask (world : World) (id : TaskId) (task : OperationTask) (worker : Phase) : World :=
  { world with tasks := Function.update world.tasks id (some task), worker := worker }

def first (world : World) (task : OperationTask) (now : DateTime) : Bool :=
  world.ids.all fun id =>
    match world.tasks id with
    | some other => !(other.acquirable now && decide (other.key < task.key))
    | none => true

def answer (world : World) (r : Nat) (request : Request) : World :=
  { world with requests := Function.update world.requests r request }

def concerns (submission : Submission) (task : OperationTask) : Bool :=
  task.tenantId == submission.tenantId && task.resultIssuerId == some submission.issuerId &&
    task.taskType == submission.kind.taskType

/-- `find_latest_by_type_and_issuer`: `ORDER BY created_at DESC LIMIT 1`. -/
def isLatest (world : World) (submission : Submission) : Option TaskId → Bool
  | none => world.ids.all fun id => (world.tasks id).all fun task => !concerns submission task
  | some id =>
      match world.tasks id with
      | some task => concerns submission task && world.ids.all fun other =>
          (world.tasks other).all fun later =>
            !concerns submission later || decide (later.createdAt ≤ task.createdAt)
      | none => false

end World

/-- What a handler does with the latest task, after the issuer's state. -/
def decideSubmission (submission : Submission) (state : IssuerState)
    (latest : Option OperationTask) : Request :=
  match submission.kind, state, latest with
  | .deactivate, .deactivated, latest => .answered (.ok (latest.map (·.id)))
  | _, _, some task =>
      if task.state.isTerminal then .inserting submission else .answered (.ok (some task.id))
  | _, _, none => .inserting submission

def roleName : KeyRole → String
  | .authorized => "authorized"
  | .authentication => "authentication"
  | .assertion => "assertion"

/-- `serde_json::to_value(&input)`, respectively `json!({})`. -/
def RequestKind.input : RequestKind → Json
  | deactivate => .object []
  | rotate input => .object [("roles", .array (input.roles.map fun role => .string (roleName role)))]

def newTask (submission : Submission) (id : TaskId) (now : DateTime) : OperationTask where
  id := id
  tenantId := submission.tenantId
  taskType := submission.kind.taskType
  state := .pending
  step := none
  attempts := 0
  nextAttemptAt := none
  errorCode := none
  errorMessage := none
  input := submission.kind.input
  stateData := .object []
  resultIssuerId := some submission.issuerId
  createdAt := now
  updatedAt := now
  completedAt := none

/-- `checkIssuer`, `lookup` and `insert` are the statements of a handler; `fail` is one that errors,
or a dropped request. `crash` stands for every way in which a dispatch ends without its recording
statement. -/
inductive Event
  | acquire (id : TaskId) (now : DateTime)
  | perform (calls : StepCalls)
  | record (now : DateTime) (word : UInt64)
  | crash
  | checkIssuer (r : Nat) (submission : Submission)
  | lookup (r : Nat) (latest : Option TaskId)
  | insert (r : Nat) (id : TaskId) (now : DateTime)
  | fail (r : Nat) (details : String)

def issuerState (issuer : Issuer) (submission : Submission) : Except ApiError IssuerState :=
  if isRow issuer submission.tenantId submission.issuerId then
    match issuer.state, submission.kind with
    | none, _ => .error .notFound
    | some .deactivated, .rotate _ =>
        .error (.conflict "rotation is not permitted on a deactivated issuer")
    | some state, _ => .ok state
  else .error .notFound

def World.step (ext : Externals) (world : World) : Event → Option World
  | .acquire id now =>
      match world.worker, world.tasks id with
      | .idle, some task =>
          if task.acquirable now && world.first task now then
            match task.tryAcquire now with
            | .ok acquired =>
                some (world.setTask id (task.setAcquired acquired) (.acquired acquired))
            | .error _ => some world
          else none
      | _, _ => none
  | .perform calls =>
      match world.worker with
      | .acquired task =>
          if answersFromRow world task calls.loads then
            match executeStep ext world task calls with
            | none => none
            | some (.error _) => some world.release
            | some (.ok (nextStep, effect)) =>
                if fresh ext world effect.generated then some (world.takes task nextStep effect)
                else none
          else none
      | _ => none
  | .record now word =>
      match world.worker with
      | .stepped task nextStep outcome =>
          match finish task nextStep outcome now word, world.tasks task.id with
          | .ok write, some row => some (world.setTask task.id (write.perform row) .idle)
          | _, _ => some world.release
      | _ => none
  | .crash => some world.release
  | .checkIssuer r submission =>
      match world.requests r with
      | .idle =>
          match issuerState world.issuer submission with
          | .ok state => some (world.answer r (.checked submission state))
          | .error error => some (world.answer r (.answered (.error error)))
      | _ => none
  | .lookup r latest =>
      match world.requests r with
      | .checked submission state =>
          if world.isLatest submission latest then
            some (world.answer r (decideSubmission submission state (latest.bind world.tasks)))
          else none
      | _ => none
  | .insert r id now =>
      match world.requests r, world.tasks id with
      | .inserting submission, none =>
          some { world.answer r (.answered (.ok (some id))) with
            tasks := Function.update world.tasks id (some (newTask submission id now))
            ids := id :: world.ids }
      | _, _ => none
  | .fail r details =>
      match world.requests r with
      | .checked _ _ | .inserting _ => some (world.answer r (.answered (.error (.internal details))))
      | _ => none

end SwiyuIssuer.Saga
