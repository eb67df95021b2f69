import SwiyuIssuer.Persistence.OperationTasks

/-! From the outcome of a step to the statement that records it. -/

namespace SwiyuIssuer.Worker

def fromTokenAwareError (error : TokenAwareError) (registryRetryCode registryTerminalCode : String) :
    StepOutcome :=
  match error with
  | .registry e =>
      if e.isRetryable then .retry registryRetryCode e.display
      else .terminal registryTerminalCode e.display
  | .token (.missingCredentials msg) => .terminal "tenant_missing_oauth_credentials" msg
  | .token (.persistence (.encryption e)) =>
      if e.isRetryable then
        .retry "token_unavailable" (TokenProviderError.persistence (.encryption e)).toString
      else .terminal "credential_decryption_failed" e.toString
  | .token e =>
      if e.isRetryable then .retry "token_unavailable" e.toString
      else .terminal "token_rejected" e.toString

/-- The statement on the task's row that a dispatch ends with. -/
inductive TaskWrite
  | advanceStep (nextStep : Option String) (stateDataPatch : JsonMap) (now : DateTime)
  | scheduleRetry (nextAttemptAt : DateTime) (errorCode errorMessage : String) (now : DateTime)
  | setTerminalState (task : OperationTask)

/-- The row after the statement; `advance_step` merges into the `state_data` that it has read. -/
def TaskWrite.perform (write : TaskWrite) (row : OperationTask) : OperationTask :=
  match write with
  | advanceStep nextStep patch now =>
      row.advanceStep nextStep (OperationTask.mergeStateData row.stateData patch) now
  | scheduleRetry nextAttemptAt errorCode errorMessage now =>
      row.scheduleRetry nextAttemptAt errorCode errorMessage now
  | setTerminalState task => row.setTerminalState task

def failThroughAggregate (task : OperationTask) (errorCode errorMessage : String) (now : DateTime) :
    Except PersistenceError TaskWrite :=
  match task.tryFail errorCode errorMessage now with
  | .ok failed => .ok (.setTerminalState failed)
  | .error e => .error (.dataIntegrity ("try_fail: " ++ e.toString))

/-- `now - task.created_at >= ChronoDuration::hours(MAX_TASK_AGE_HOURS)`. -/
def pastCap (task : OperationTask) (now : DateTime) : Bool :=
  hours maxTaskAgeHours ≤ now - task.createdAt

def apply (task : OperationTask) (nextStep : Option String) (outcome : StepOutcome)
    (now : DateTime) (word : UInt64) : Except PersistenceError TaskWrite :=
  match outcome with
  | .done result => .ok (.advanceStep nextStep result.stateDataPatch now)
  | .retry errorCode errorMessage =>
      if pastCap task now then failThroughAggregate task errorCode errorMessage now
      else
        let attemptJustFailed := saturatingAdd task.attempts 1
        let nextAttemptAt := now + milliseconds (backoffDelay attemptJustFailed word)
        .ok (.scheduleRetry nextAttemptAt errorCode errorMessage now)
  | .terminal errorCode errorMessage => failThroughAggregate task errorCode errorMessage now

/-- The last `match` of the three `execute_*` functions. -/
def finish (task : OperationTask) (nextStep : Option String) (outcome : StepOutcome)
    (now : DateTime) (word : UInt64) : Except PersistenceError TaskWrite :=
  match outcome, nextStep with
  | .done _, none =>
      match task.tryComplete now with
      | .ok completed => .ok (.setTerminalState completed)
      | .error e => .error (.dataIntegrity ("try_complete: " ++ e.toString))
  | outcome, nextStep => apply task nextStep outcome now word

theorem failThroughAggregate_inProgress {task : OperationTask} (running : task.state = .inProgress)
    (errorCode errorMessage : String) (now : DateTime) :
    ∃ failed, task.tryFail errorCode errorMessage now = .ok failed ∧ failed.state = .failed ∧
      failThroughAggregate task errorCode errorMessage now = .ok (.setTerminalState failed) := by
  unfold failThroughAggregate OperationTask.tryFail
  rw [running]
  exact ⟨_, rfl, rfl, rfl⟩

inductive Recorded (task : OperationTask) (nextStep : Option String) (outcome : StepOutcome)
    (now : DateTime) : TaskWrite → Prop
  | completed (task' : OperationTask) : outcome.isDone = true → nextStep = none →
      task.tryComplete now = .ok task' → Recorded task nextStep outcome now (.setTerminalState task')
  | advanced (result : StepResult) (step : String) : outcome = .done result → nextStep = some step →
      Recorded task nextStep outcome now (.advanceStep (some step) result.stateDataPatch now)
  | scheduled (errorCode errorMessage : String) (delay : Nat) :
      outcome = .retry errorCode errorMessage → pastCap task now = false →
      Recorded task nextStep outcome now
        (.scheduleRetry (now + milliseconds delay) errorCode errorMessage now)
  | failed (errorCode errorMessage : String) (task' : OperationTask) :
      (outcome = .terminal errorCode errorMessage ∨
        outcome = .retry errorCode errorMessage ∧ pastCap task now = true) →
      task.tryFail errorCode errorMessage now = .ok task' →
      Recorded task nextStep outcome now (.setTerminalState task')

theorem finish_recorded {task : OperationTask} (running : task.state = .inProgress)
    (nextStep : Option String) (outcome : StepOutcome) (now : DateTime) (word : UInt64) :
    ∃ write, finish task nextStep outcome now word = .ok write ∧
      Recorded task nextStep outcome now write := by
  cases outcome with
  | done result =>
      cases nextStep with
      | none =>
          have completes : ∃ completed, task.tryComplete now = .ok completed := by
            unfold OperationTask.tryComplete
            rw [running]
            exact ⟨_, rfl⟩
          rcases completes with ⟨completed, completes⟩
          refine ⟨.setTerminalState completed, ?_, .completed completed rfl rfl completes⟩
          simp only [finish, completes]
      | some step => exact ⟨_, rfl, .advanced result step rfl rfl⟩
  | retry errorCode errorMessage =>
      cases capped : pastCap task now with
      | true =>
          rcases failThroughAggregate_inProgress running errorCode errorMessage now with
            ⟨failed, fails, _, written⟩
          refine ⟨_, ?_, .failed errorCode errorMessage failed (.inr ⟨rfl, capped⟩) fails⟩
          simp only [finish, apply, capped, if_true, written]
      | false =>
          refine ⟨_, ?_, .scheduled errorCode errorMessage
            (backoffDelay (saturatingAdd task.attempts 1) word) rfl capped⟩
          simp [finish, apply, capped]
  | terminal errorCode errorMessage =>
      rcases failThroughAggregate_inProgress running errorCode errorMessage now with
        ⟨failed, fails, _, written⟩
      refine ⟨_, ?_, .failed errorCode errorMessage failed (.inl rfl) fails⟩
      simp only [finish, apply, written]

theorem finish_ok {task : OperationTask} (running : task.state = .inProgress)
    {nextStep : Option String} {outcome : StepOutcome} {now : DateTime} {word : UInt64}
    {write : TaskWrite} (finished : finish task nextStep outcome now word = .ok write) :
    Recorded task nextStep outcome now write := by
  rcases finish_recorded running nextStep outcome now word with ⟨made, written, recorded⟩
  rw [written] at finished
  cases finished
  exact recorded

end SwiyuIssuer.Worker
