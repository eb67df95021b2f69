import SwiyuIssuer.Domain.OperationTask
import SwiyuIssuer.Library.Answers
import Mathlib.Data.Int.ConditionallyCompleteOrder
import Mathlib.Data.Prod.Lex
import Mathlib.Order.ConditionallyCompleteLattice.Basic
import Mathlib.Order.WithBot

/-! The `operation_tasks` table: its raw columns, the aggregate that a row decodes to, the order of
the queue and the four statements that write a row. -/

namespace SwiyuIssuer.Persistence

open Library

/-- A row of `operation_tasks`: any value that the column types of the migration admit. -/
structure TaskRow where
  id : String
  tenantId : String
  taskType : String
  state : String
  step : Option String
  attempts : Int32
  nextAttemptAt : Option DateTime
  errorCode : Option String
  errorMessage : Option String
  input : Json
  stateData : Json
  resultIssuerId : Option String
  createdAt : DateTime
  updatedAt : DateTime
  completedAt : Option DateTime

/-- `sqlx::Error::ColumnDecode`: the column, and the error of its `Decode` or `TryFrom`. -/
inductive ColumnDecodeError
  | domain (column : String) (error : DomainError)
  | outOfRange (column : String)
deriving DecidableEq, Repr

def idBytes : Nat := 10

def isBase58Char (c : Char) : Bool :=
  ('1' ≤ c && c ≤ '9') || ('A' ≤ c && c ≤ 'H') || ('J' ≤ c && c ≤ 'N') || ('P' ≤ c && c ≤ 'Z') ||
    ('a' ≤ c && c ≤ 'k') || ('m' ≤ c && c ≤ 'z')

/-- `bs58Length` is the length of `bs58::decode(s).into_vec()`, or the text of its error. -/
def validateBare (bs58Length : String → Except String Nat) (s : String) : Except DomainError Unit :=
  if s.toList.any fun c => !isBase58Char c then
    .error (.invalidInput ("identifier contains non-base58 character: " ++ s))
  else match bs58Length s with
    | .error text => .error (.invalidInput ("identifier is not valid base58: " ++ text))
    | .ok length =>
        if length = idBytes then .ok ()
        else .error (.invalidInput ("identifier must decode to " ++ toString idBytes ++
          " bytes, got " ++ toString length))

def fromBare {label : String} (bs58Length : String → Except String Nat) (s : String) :
    Except DomainError (Id label) :=
  (validateBare bs58Length s).map fun _ => ⟨s⟩

def column {α : Type} (name : String) (read : Except DomainError α) : Except ColumnDecodeError α :=
  read.mapError (.domain name)

/-- `#[sqlx(try_from = "i32")]`. -/
def tryFromI32 (name : String) (value : Int32) : Except ColumnDecodeError Nat :=
  if 0 ≤ value.toInt then .ok value.toInt.toNat else .error (.outOfRange name)

/-- `as i32` on a `u32`. -/
def asI32 (value : Nat) : Int32 := .ofInt value

section Decode

variable (bs58Length : String → Except String Nat)

def optionalId {label : String} : Option String → Except DomainError (Option (Id label))
  | none => .ok none
  | some text => (fromBare bs58Length text).map some

def TaskRow.decode (row : TaskRow) : Except ColumnDecodeError OperationTask := do
  let id ← column "id" (fromBare bs58Length row.id)
  let tenantId ← column "tenant_id" (fromBare bs58Length row.tenantId)
  let taskType ← column "task_type" (TaskType.parse row.taskType)
  let state ← column "state" (TaskState.parse row.state)
  let attempts ← tryFromI32 "attempts" row.attempts
  let resultIssuerId ← column "result_issuer_id" (optionalId bs58Length row.resultIssuerId)
  return {
    id := id
    tenantId := tenantId
    taskType := taskType
    state := state
    step := row.step
    attempts := attempts
    nextAttemptAt := row.nextAttemptAt
    errorCode := row.errorCode
    errorMessage := row.errorMessage
    input := row.input
    stateData := row.stateData
    resultIssuerId := resultIssuerId
    createdAt := row.createdAt
    updatedAt := row.updatedAt
    completedAt := row.completedAt }

/-- The columns as the statements of this module bind them. -/
def encode (task : OperationTask) : TaskRow where
  id := task.id.bare
  tenantId := task.tenantId.bare
  taskType := task.taskType.asStr
  state := task.state.asStr
  step := task.step
  attempts := asI32 task.attempts
  nextAttemptAt := task.nextAttemptAt
  errorCode := task.errorCode
  errorMessage := task.errorMessage
  input := task.input
  stateData := task.stateData
  resultIssuerId := task.resultIssuerId.map Id.bare
  createdAt := task.createdAt
  updatedAt := task.updatedAt
  completedAt := task.completedAt

end Decode

/-- `ORDER BY next_attempt_at NULLS FIRST, created_at`. -/
abbrev QueueKey := WithBot DateTime ×ₗ DateTime

def queueKey (nextAttemptAt : Option DateTime) (createdAt : DateTime) : QueueKey :=
  toLex ((nextAttemptAt : WithBot DateTime), createdAt)

def TaskRow.key (row : TaskRow) : QueueKey := queueKey row.nextAttemptAt row.createdAt

/-- `next_attempt_at IS NULL OR next_attempt_at <= $1`. -/
def due (nextAttemptAt : Option DateTime) (now : DateTime) : Bool :=
  match nextAttemptAt with
  | none => true
  | some time => time ≤ now

/-- The `WHERE` clause of `find_next_acquirable_for_update`. -/
def TaskRow.acquirable (row : TaskRow) (now : DateTime) : Bool :=
  (row.state == "pending" || row.state == "in_progress") && due row.nextAttemptAt now

end SwiyuIssuer.Persistence

namespace SwiyuIssuer.OperationTask

open Persistence

def key (task : OperationTask) : QueueKey := queueKey task.nextAttemptAt task.createdAt

def acquirable (task : OperationTask) (now : DateTime) : Bool :=
  !task.state.isTerminal && due task.nextAttemptAt now

def setAcquired (row task : OperationTask) : OperationTask :=
  { row with state := task.state, attempts := task.attempts, updatedAt := task.updatedAt }

/-- The merge between the `SELECT` and the `UPDATE` of `advance_step`. -/
def mergeStateData (current : Json) (patch : JsonMap) : Json :=
  match current with
  | .object map => .object (JsonMap.merge map patch)
  | _ => .object (JsonMap.merge [] patch)

def advanceStep (row : OperationTask) (nextStep : Option String) (merged : Json) (now : DateTime) :
    OperationTask :=
  { row with
    step := nextStep
    attempts := 0
    nextAttemptAt := none
    errorCode := none
    errorMessage := none
    stateData := merged
    updatedAt := now }

def scheduleRetry (row : OperationTask) (nextAttemptAt : DateTime)
    (errorCode errorMessage : String) (now : DateTime) : OperationTask :=
  { row with
    nextAttemptAt := some nextAttemptAt
    errorCode := some errorCode
    errorMessage := some errorMessage
    updatedAt := now }

def setTerminalState (row task : OperationTask) : OperationTask :=
  { row with
    state := task.state
    nextAttemptAt := task.nextAttemptAt
    errorCode := task.errorCode
    errorMessage := task.errorMessage
    resultIssuerId := task.resultIssuerId
    updatedAt := task.updatedAt
    completedAt := task.completedAt }

theorem setAcquired_tryAcquire {task acquired : OperationTask} {now : DateTime}
    (claimed : task.tryAcquire now = .ok acquired) : task.setAcquired acquired = acquired := by
  rcases tryAcquire_ok claimed with ⟨_, attempts, rfl⟩
  rfl

end SwiyuIssuer.OperationTask

namespace SwiyuIssuer.Persistence

open Library

theorem queueKey_none_lt (createdAt other : DateTime) (time : DateTime) :
    queueKey none createdAt < queueKey (some time) other := by
  apply Prod.Lex.toLex_lt_toLex.mpr
  exact .inl (WithBot.bot_lt_coe time)

theorem queueKey_some_lt {early late : DateTime} (before : early < late)
    (createdAt other : DateTime) :
    queueKey (some early) createdAt < queueKey (some late) other := by
  apply Prod.Lex.toLex_lt_toLex.mpr
  exact .inl (WithBot.coe_lt_coe.mpr before)

theorem acquirable_encode (task : OperationTask) (now : DateTime) :
    (encode task).acquirable now = task.acquirable now := by
  unfold TaskRow.acquirable OperationTask.acquirable
  cases state : task.state <;> simp [encode, state, TaskState.asStr, TaskState.isTerminal]

theorem fromBare_ok {label : String} {bs58Length : String → Except String Nat} {text : String}
    {id : Id label} (decoded : fromBare bs58Length text = .ok id) : id.bare = text := by
  rcases Answers.map_ok.mp decoded with ⟨_, _, rfl⟩
  rfl

theorem optionalId_ok {label : String} {bs58Length : String → Except String Nat}
    {text : Option String} {id : Option (Id label)}
    (decoded : optionalId bs58Length text = .ok id) : id.map Id.bare = text := by
  cases text with
  | none =>
      cases decoded
      rfl
  | some text =>
      rcases Answers.map_ok.mp decoded with ⟨found, read, rfl⟩
      simp [fromBare_ok read]

theorem tryFromI32_ok {name : String} {value : Int32} {attempts : Nat}
    (decoded : tryFromI32 name value = .ok attempts) : asI32 attempts = value := by
  unfold tryFromI32 at decoded
  split at decoded
  · next nonneg =>
      cases decoded
      rw [asI32, Int.toNat_of_nonneg nonneg, Int32.ofInt_toInt]
  · cases decoded

/-- A row that decodes is the encoding of its aggregate: decoding loses no column. -/
theorem encode_of_decode {bs58Length : String → Except String Nat} {row : TaskRow}
    {task : OperationTask} (decoded : row.decode bs58Length = .ok task) : encode task = row := by
  simp only [TaskRow.decode, Answers.bind_ok, column, Answers.mapError_ok] at decoded
  rcases decoded with ⟨id, idRead, tenantId, tenantRead, taskType, typeRead, state, stateRead,
    attempts, attemptsRead, resultIssuerId, issuerRead, made⟩
  cases made
  cases row
  simp_all [encode, fromBare_ok idRead, fromBare_ok tenantRead, optionalId_ok issuerRead,
    tryFromI32_ok attemptsRead, ← TaskType.asStr_of_parse typeRead,
    ← TaskState.asStr_of_parse stateRead]

end SwiyuIssuer.Persistence
