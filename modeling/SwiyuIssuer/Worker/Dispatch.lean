import SwiyuIssuer.Library.Run
import SwiyuIssuer.Worker.Runner

/-! One iteration of `Worker::run` on one row: what it leaves in the row for every answer to the
calls it makes, and how long a row can keep the queue from the rows behind it. -/

namespace SwiyuIssuer.Worker

open Library Persistence

/-- Answers to the calls of one iteration. Only the statement that records is taken to succeed. -/
structure Calls where
  acquiredAt : DateTime
  loads : Loads
  outcome : StepOutcome
  now : DateTime
  recordPool : Except PersistenceError Unit
  stateDataRead : Except PersistenceError Unit
  word : UInt64

def executeTask (uuid : UuidFormat) (task : OperationTask) (loads : Loads)
    (outcome : StepOutcome) : Except WorkerError (Option String × StepOutcome) :=
  match task.taskType with
  | .createIssuer => (createIssuerSaga uuid).execute task loads fun _ _ _ _ => outcome
  | .deactivateIssuer => deactivateIssuerSaga.execute task loads fun _ _ _ _ => outcome
  | .rotateKeys => (rotateKeysSaga uuid).execute task loads fun _ _ _ _ => outcome

/-- Only `advance_step` reads before it writes. -/
def readFor (write : TaskWrite) (calls : Calls) : Except WorkerError Unit :=
  match write with
  | .advanceStep .. => asWorker calls.stateDataRead
  | .scheduleRetry .. | .setTerminalState _ => .ok ()

/-- After the step: a connection, the aggregate's transition, the reads of the recording. -/
def record (task : OperationTask) (nextStep : Option String) (outcome : StepOutcome)
    (calls : Calls) : Except WorkerError TaskWrite := do
  asWorker calls.recordPool
  let write ← asWorker (finish task nextStep outcome calls.now calls.word)
  readFor write calls
  return write

def dispatchAcquired (uuid : UuidFormat) (task : OperationTask) (calls : Calls) :
    Except WorkerError TaskWrite := do
  let (nextStep, outcome) ← executeTask uuid task calls.loads calls.outcome
  record task nextStep outcome calls

/-- The row after an iteration that picked it. A `WorkerError` is logged, and the loop polls. -/
def dispatch (bs58Length : String → Except String Nat) (uuid : UuidFormat) (row : TaskRow)
    (calls : Calls) : TaskRow :=
  match row.decode bs58Length with
  | .error _ => row
  | .ok task =>
      match task.tryAcquire calls.acquiredAt with
      | .error _ => row
      | .ok acquired =>
          let claimed := task.setAcquired acquired
          match dispatchAcquired uuid acquired calls with
          | .ok write => encode (write.perform claimed)
          | .error _ => encode claimed

def Runnable (uuid : UuidFormat) (task : OperationTask) (loads : Loads) : Prop :=
  match task.taskType with
  | .createIssuer => (createIssuerSaga uuid).Runnable task loads
  | .deactivateIssuer => deactivateIssuerSaga.Runnable task loads
  | .rotateKeys => (rotateKeysSaga uuid).Runnable task loads

/-- Nothing on the way to the recording statement fails: the row decodes, its input, its state and
its step are known, tenant and issuer are read and found, and both connections are handed out. -/
def Handled (bs58Length : String → Except String Nat) (uuid : UuidFormat) (row : TaskRow)
    (calls : Calls) : Prop :=
  ∃ task, row.decode bs58Length = .ok task ∧ Runnable uuid task calls.loads ∧
    calls.recordPool = .ok () ∧
    (calls.outcome.isDone = true → (successor task.taskType task.step).isSome = true →
      calls.stateDataRead = .ok ())

def Terminal (row : TaskRow) : Prop := row.state = "completed" ∨ row.state = "failed"

def Advanced (row after : TaskRow) : Prop :=
  ∃ taskType next, TaskType.parse row.taskType = .ok taskType ∧
    successor taskType row.step = some next ∧ after.step = some next

def Progress (row after : TaskRow) (now : DateTime) : Prop :=
  Terminal after ∨ Advanced row after ∨ ∃ time, after.nextAttemptAt = some time ∧ now ≤ time

def Overdue (row : TaskRow) (now : DateTime) : Prop := hours maxTaskAgeHours < now - row.createdAt

def Succeeded (row after : TaskRow) (calls : Calls) : Prop :=
  calls.outcome.isDone = true ∧ (after.state = "completed" ∨ Advanced row after)

/-- An overdue task whose dispatch does not succeed ends `Failed`. -/
def OnBudget (row after : TaskRow) (calls : Calls) : Prop :=
  Overdue row calls.now → ¬ Succeeded row after calls → after.state = "failed"

/-- The retry time that the row was picked by has not passed when the iteration ends. -/
def StillDelayed (row : TaskRow) (calls : Calls) : Prop :=
  (∃ time, row.nextAttemptAt = some time ∧ calls.now ≤ time) ∧ ¬ Overdue row calls.now

/-- The iteration picks the row and not `waiting`, which is due before the outcome is recorded. -/
def Overtakes (bs58Length : String → Except String Nat) (uuid : UuidFormat) (waiting : TaskRow)
    (row : TaskRow) (calls : Calls) (after : TaskRow) : Prop :=
  row.acquirable calls.acquiredAt = true ∧ ¬ waiting.key < row.key ∧
    (∀ time, waiting.nextAttemptAt = some time → time < calls.now) ∧
    after = dispatch bs58Length uuid row calls

theorem executeTask_ok {uuid : UuidFormat} {task : OperationTask} {loads : Loads}
    {outcome recorded : StepOutcome} {nextStep : Option String}
    (executed : executeTask uuid task loads outcome = .ok (nextStep, recorded)) :
    nextStep = successor task.taskType task.step ∧ recorded = outcome ∧
      0 < stepsLeft task.taskType task.step := by
  unfold executeTask at executed
  split at executed
  all_goals
    next saga =>
      rcases Saga.execute_ok _ executed with ⟨_, _, _, arm, _, _, _, known, _, follows, same⟩
      refine ⟨?_, same, ?_⟩
      · rw [saga, follows]
        simp only [successor]
        exact (congrArg (Option.bind · Arm.nextStep) known).symm
      · rw [saga]
        simp only [Saga.stepName, createIssuerSaga, deactivateIssuerSaga, rotateKeysSaga,
          createIssuerArm, deactivateIssuerArm, rotateKeysArm] at known
        simp only [stepsLeft]
        split at known <;> simp_all

theorem executeTask_runnable (uuid : UuidFormat) (task : OperationTask) (loads : Loads)
    (outcome : StepOutcome) :
    (∃ answer, executeTask uuid task loads outcome = .ok answer) ↔ Runnable uuid task loads := by
  unfold executeTask Runnable
  split <;> exact Saga.execute_runnable ..

theorem runnable_claimed {uuid : UuidFormat} {task : OperationTask} {loads : Loads}
    (attempts : Nat) (now : DateTime) :
    Runnable uuid (task.claimed attempts now) loads ↔ Runnable uuid task loads := by
  have same : (task.claimed attempts now).taskType = task.taskType := rfl
  unfold Runnable
  rw [same]
  cases task.taskType
  case createIssuer =>
    constructor
    · rintro ⟨input, stateData, loaded, known⟩
      exact ⟨input, stateData, loaded, known⟩
    · rintro ⟨input, stateData, loaded, known⟩
      exact ⟨input, stateData, loaded, known⟩
  all_goals
    constructor
    · rintro ⟨input, stateData, loaded, known⟩
      exact ⟨input, stateData, ⟨loaded.named, loaded.tenant, loaded.issuer⟩, known⟩
    · rintro ⟨input, stateData, loaded, known⟩
      exact ⟨input, stateData, ⟨loaded.named, loaded.tenant, loaded.issuer⟩, known⟩

theorem record_ok {task : OperationTask} (running : task.state = .inProgress)
    {nextStep : Option String} {outcome : StepOutcome} {calls : Calls} {write : TaskWrite}
    (recorded : record task nextStep outcome calls = .ok write) :
    calls.recordPool = .ok () ∧
      (outcome.isDone = true → nextStep.isSome = true → calls.stateDataRead = .ok ()) ∧
      Recorded task nextStep outcome calls.now write := by
  simp only [record, Answers.bind_ok, asWorker_ok] at recorded
  rcases recorded with ⟨_, pool, made, finished, _, read, same⟩
  cases same
  have stated := finish_ok running finished
  refine ⟨pool, ?_, stated⟩
  intro done follows
  cases stated with
  | completed _ _ last _ => simp [last] at follows
  | advanced => exact asWorker_ok.mp read
  | scheduled _ _ _ retried => simp [retried, StepOutcome.isDone] at done
  | failed _ _ _ why =>
      rcases why with ended | ⟨ended, _⟩ <;> simp [ended, StepOutcome.isDone] at done

theorem record_total {task : OperationTask} (running : task.state = .inProgress)
    {nextStep : Option String} {outcome : StepOutcome} {calls : Calls}
    (pool : calls.recordPool = .ok ())
    (read : outcome.isDone = true → nextStep.isSome = true → calls.stateDataRead = .ok ()) :
    ∃ write, record task nextStep outcome calls = .ok write := by
  rcases finish_recorded running nextStep outcome calls.now calls.word with
    ⟨write, finished, stated⟩
  refine ⟨write, ?_⟩
  simp only [record, Answers.bind_ok, asWorker_ok]
  refine ⟨(), pool, write, finished, (), ?_, rfl⟩
  cases stated with
  | advanced result step done follows =>
      apply asWorker_ok.mpr
      exact read (by rw [done]; rfl) (by rw [follows]; rfl)
  | completed | scheduled | failed => rfl

theorem dispatchAcquired_ok {uuid : UuidFormat} {task : OperationTask} {calls : Calls}
    {write : TaskWrite} (running : task.state = .inProgress)
    (dispatched : dispatchAcquired uuid task calls = .ok write) :
    Runnable uuid task calls.loads ∧ calls.recordPool = .ok () ∧
      (calls.outcome.isDone = true → (successor task.taskType task.step).isSome = true →
        calls.stateDataRead = .ok ()) ∧
      0 < stepsLeft task.taskType task.step ∧
      Recorded task (successor task.taskType task.step) calls.outcome calls.now write := by
  rcases Answers.bind_ok.mp dispatched with ⟨⟨nextStep, outcome⟩, executed, recorded⟩
  rcases executeTask_ok executed with ⟨follows, same, known⟩
  subst follows same
  rcases record_ok running recorded with ⟨pool, read, stated⟩
  exact ⟨(executeTask_runnable ..).mp ⟨_, executed⟩, pool, read, known, stated⟩

theorem dispatchAcquired_total {uuid : UuidFormat} {task : OperationTask} {calls : Calls}
    (running : task.state = .inProgress) (runnable : Runnable uuid task calls.loads)
    (pool : calls.recordPool = .ok ())
    (read : calls.outcome.isDone = true → (successor task.taskType task.step).isSome = true →
      calls.stateDataRead = .ok ()) :
    ∃ write, dispatchAcquired uuid task calls = .ok write := by
  rcases (executeTask_runnable uuid task calls.loads calls.outcome).mpr runnable with
    ⟨⟨nextStep, outcome⟩, executed⟩
  rcases executeTask_ok executed with ⟨follows, same, _⟩
  subst follows same
  rcases record_total running pool read with ⟨write, recorded⟩
  exact ⟨write, Answers.bind_ok.mpr ⟨_, executed, recorded⟩⟩

/-- Both ends of an iteration: it records, or it leaves every column of the row but `state`,
`attempts` and `updated_at`. -/
theorem dispatch_cases (bs58Length : String → Except String Nat) (uuid : UuidFormat)
    {row : TaskRow} {calls : Calls} (picked : row.acquirable calls.acquiredAt = true) :
    (Handled bs58Length uuid row calls ∧
      ∃ task attempts write, row = encode task ∧ 0 < stepsLeft task.taskType task.step ∧
        Recorded (task.claimed attempts calls.acquiredAt)
          (successor task.taskType task.step) calls.outcome calls.now write ∧
        dispatch bs58Length uuid row calls =
          encode (write.perform (task.claimed attempts calls.acquiredAt))) ∨
    (¬ Handled bs58Length uuid row calls ∧
      (dispatch bs58Length uuid row calls = row ∨
        ∃ task attempts, row = encode task ∧ dispatch bs58Length uuid row calls =
          encode (task.claimed attempts calls.acquiredAt))) := by
  rcases Answers.ok_or_error (row.decode bs58Length) with ⟨task, decoded⟩ | ⟨error, undecoded⟩
  · have same := encode_of_decode decoded
    have runnable : task.state.isTerminal = false := by
      rw [← same, acquirable_encode] at picked
      simpa [OperationTask.acquirable] using And.left (Bool.and_eq_true_iff.mp picked)
    rcases OperationTask.tryAcquire_runnable runnable calls.acquiredAt with ⟨acquired, claimed⟩
    have written := OperationTask.setAcquired_tryAcquire claimed
    rcases OperationTask.tryAcquire_ok claimed with ⟨_, attempts, shape⟩
    have unfolded : dispatch bs58Length uuid row calls =
        match dispatchAcquired uuid acquired calls with
        | .ok write => encode (write.perform acquired)
        | .error _ => encode acquired := by
      simp only [dispatch, decoded, claimed, written]
    rcases Answers.ok_or_error (dispatchAcquired uuid acquired calls) with
      ⟨write, dispatched⟩ | ⟨error, failed⟩
    · left
      rw [dispatched] at unfolded
      subst shape
      rcases dispatchAcquired_ok rfl dispatched with ⟨ready, pool, read, known, stated⟩
      have ready := (runnable_claimed attempts calls.acquiredAt).mp ready
      exact ⟨⟨task, decoded, ready, pool, read⟩, task, attempts, write, same.symm, known, stated,
        unfolded⟩
    · right
      rw [failed] at unfolded
      subst shape
      refine ⟨?_, .inr ⟨task, attempts, same.symm, unfolded⟩⟩
      rintro ⟨other, otherDecoded, ready, pool, read⟩
      rw [decoded] at otherDecoded
      cases otherDecoded
      have ready := (runnable_claimed attempts calls.acquiredAt).mpr ready
      rcases dispatchAcquired_total rfl ready pool read with ⟨write, dispatched⟩
      rw [failed] at dispatched
      cases dispatched
  · right
    refine ⟨?_, .inl (by simp only [dispatch, undecoded])⟩
    rintro ⟨task, decoded, _⟩
    rw [undecoded] at decoded
    cases decoded

end SwiyuIssuer.Worker
