import SwiyuIssuer.Domain.Issuer
import SwiyuIssuer.Domain.Json
import SwiyuIssuer.Worker.Backoff

/-! The operation-task aggregate. -/

namespace SwiyuIssuer

inductive TaskState
  | pending
  | inProgress
  | completed
  | failed
deriving DecidableEq, Repr

namespace TaskState

def asStr : TaskState → String
  | pending => "pending"
  | inProgress => "in_progress"
  | completed => "completed"
  | failed => "failed"

def parse : String → Except DomainError TaskState
  | "pending" => .ok pending
  | "in_progress" => .ok inProgress
  | "completed" => .ok completed
  | "failed" => .ok failed
  | other => .error (.invalidInput ("unknown task state: " ++ other))

def isTerminal (state : TaskState) : Bool := state == completed || state == failed

theorem parse_asStr (state : TaskState) : parse state.asStr = .ok state := by
  cases state <;> rfl

theorem asStr_of_parse {text : String} {state : TaskState} (parsed : parse text = .ok state) :
    text = state.asStr := by
  unfold parse at parsed
  split at parsed <;> cases parsed <;> rfl

end TaskState

inductive TaskType
  | createIssuer
  | deactivateIssuer
  | rotateKeys
deriving DecidableEq, Repr

namespace TaskType

def asStr : TaskType → String
  | createIssuer => "create_issuer"
  | deactivateIssuer => "deactivate_issuer"
  | rotateKeys => "rotate_keys"

def parse : String → Except DomainError TaskType
  | "create_issuer" => .ok createIssuer
  | "deactivate_issuer" => .ok deactivateIssuer
  | "rotate_keys" => .ok rotateKeys
  | other => .error (.invalidInput ("unknown task type: " ++ other))

theorem parse_asStr (taskType : TaskType) : parse taskType.asStr = .ok taskType := by
  cases taskType <;> rfl

theorem asStr_of_parse {text : String} {taskType : TaskType}
    (parsed : parse text = .ok taskType) : text = taskType.asStr := by
  unfold parse at parsed
  split at parsed <;> cases parsed <;> rfl

end TaskType

structure StepResult where
  stateDataPatch : JsonMap := []

inductive StepOutcome
  | done (result : StepResult)
  | retry (errorCode errorMessage : String)
  | terminal (errorCode errorMessage : String)

def StepOutcome.isDone : StepOutcome → Bool
  | done _ => true
  | _ => false

structure OperationTask where
  id : TaskId
  tenantId : TenantId
  taskType : TaskType
  state : TaskState
  step : Option String
  attempts : Nat
  nextAttemptAt : Option DateTime
  errorCode : Option String
  errorMessage : Option String
  input : Json
  stateData : Json
  resultIssuerId : Option IssuerId
  createdAt : DateTime
  updatedAt : DateTime
  completedAt : Option DateTime

namespace OperationTask

def tryComplete (task : OperationTask) (now : DateTime) : Except DomainError OperationTask :=
  match task.state with
  | .inProgress => .ok { task with
      state := .completed
      nextAttemptAt := none
      errorCode := none
      errorMessage := none
      updatedAt := now
      completedAt := some now }
  | _ => .error .stateTransitionNotAllowed

def tryFail (task : OperationTask) (errorCode errorMessage : String) (now : DateTime) :
    Except DomainError OperationTask :=
  match task.state with
  | .inProgress => .ok { task with
      state := .failed
      nextAttemptAt := none
      errorCode := some errorCode
      errorMessage := some errorMessage
      updatedAt := now
      completedAt := some now }
  | _ => .error .stateTransitionNotAllowed

def tryAcquire (task : OperationTask) (now : DateTime) : Except DomainError OperationTask :=
  match task.state with
  | .pending => .ok { task with state := .inProgress, updatedAt := now }
  | .inProgress =>
      .ok { task with attempts := Worker.saturatingAdd task.attempts 1, updatedAt := now }
  | .completed | .failed => .error .stateTransitionNotAllowed

/-- The aggregate after a claim, which keeps all that the steps read. -/
def claimed (task : OperationTask) (attempts : Nat) (now : DateTime) : OperationTask :=
  { task with state := .inProgress, attempts := attempts, updatedAt := now }

theorem tryAcquire_ok {task acquired : OperationTask} {now : DateTime}
    (taken : task.tryAcquire now = .ok acquired) :
    task.state.isTerminal = false ∧ ∃ attempts, acquired = task.claimed attempts now := by
  unfold tryAcquire at taken
  split at taken
  case h_1 state =>
    cases taken
    exact ⟨by rw [state]; rfl, task.attempts, rfl⟩
  case h_2 state =>
    cases taken
    exact ⟨by rw [state]; rfl, Worker.saturatingAdd task.attempts 1, by rw [claimed, ← state]⟩
  all_goals cases taken

theorem tryAcquire_runnable {task : OperationTask} (runnable : task.state.isTerminal = false)
    (now : DateTime) : ∃ acquired, task.tryAcquire now = .ok acquired := by
  unfold tryAcquire
  cases state : task.state with
  | pending | inProgress => exact ⟨_, rfl⟩
  | completed | failed => simp [state, TaskState.isTerminal] at runnable

end OperationTask

end SwiyuIssuer
