import SwiyuIssuer.Worker.RotateKeys

/-! The steps of the `deactivate_issuer` saga. -/

namespace SwiyuIssuer.Worker

open Library Persistence

def deactivateTexts : SagaTexts where
  alreadyCode := "already_deactivated"
  alreadyText := "registry's tail entry is already deactivated — " ++
    "saga should not have reached build_deactivation_didlog"

section Steps

variable (core : SwiyuCore) (engine : Engine)

def executeBuildDeactivationDidlog (issuer : Issuer)
    (fetched : Except RegistryError (List LogEntry)) (faults : EngineFaults) (now : DateTime) :
    StepOutcome :=
  executeBuildDidlog core deactivateTexts "build_deactivation_didlog_failed" issuer fetched
    fun log => buildDeactivationEntry core engine faults issuer log now

/-- `publish_didlog` of the deactivation saga up to the `PUT`. -/
def prepareDeactivationPublish (issuer : Issuer) (state : DeactivateIssuerStateData)
    (fetched : Except RegistryError (List LogEntry)) (faults : EngineFaults) (now : DateTime) :
    Except StepOutcome (List LogEntry × LogEntry) :=
  if state.didlogPublished then .error (.done {})
  else preparePublish core deactivateTexts issuer fetched fun log =>
    buildDeactivationEntry core engine faults issuer log now

end Steps

/-- Answers to the statements of the transaction in `mark_deactivated`. -/
structure MarkCalls where
  begin_ : Option String := none
  find : Option String := none
  setState : Option String := none
  cancelPending : Option String := none
  commit : DbAnswer := .ok

def markFailed : String := "mark_deactivated_failed"

/-- The issuer row after the step, and its outcome: only a commit changes the row. -/
def executeMarkDeactivated (row : Issuer) (tenantId : TenantId) (issuerId : IssuerId)
    (calls : MarkCalls) : Issuer × StepOutcome :=
  match calls.begin_, calls.find with
  | some message, _ => (row, retryOnDb markFailed "begin" message)
  | none, some message => (row, retryOnDb markFailed "find_by_id_for_update_for_tenant" message)
  | none, none =>
      if !isRow row tenantId issuerId then
        (row, .terminal markFailed "find_by_id_for_update_for_tenant: not found")
      else match row.tryDeactivate with
        | .error .stateTransitionNotAllowed => (row, .terminal markFailed
            "try_deactivate: state transition not allowed (legacy state=NULL row?)")
        | .error e => (row, .terminal markFailed ("try_deactivate: " ++ e.toString))
        | .ok _ =>
            let marked := { row with state := some .deactivated }
            match calls.setState, calls.cancelPending, calls.commit with
            | some message, _, _ => (row, retryOnDb markFailed "set_state" message)
            | none, some message, _ =>
                (row, retryOnDb markFailed "cancel_all_pending_for_issuer" message)
            | none, none, .failed message => (row, retryOnDb markFailed "commit" message)
            | none, none, .lost message => (marked, retryOnDb markFailed "commit" message)
            | none, none, .ok => (marked, .done {})

theorem executeMarkDeactivated_cases {row after : Issuer} {tenantId : TenantId}
    {issuerId : IssuerId} {calls : MarkCalls} {outcome : StepOutcome}
    (executed : executeMarkDeactivated row tenantId issuerId calls = (after, outcome)) :
    (after = row ∨ after = { row with state := some .deactivated }) ∧
    (∀ result, outcome = .done result → result.stateDataPatch = [] ∧
      after = { row with state := some .deactivated }) := by
  unfold executeMarkDeactivated at executed
  split at executed
  · cases executed
    exact ⟨.inl rfl, fun _ absurd => by cases absurd⟩
  · cases executed
    exact ⟨.inl rfl, fun _ absurd => by cases absurd⟩
  · split at executed
    · cases executed
      exact ⟨.inl rfl, fun _ absurd => by cases absurd⟩
    · split at executed
      · cases executed
        exact ⟨.inl rfl, fun _ absurd => by cases absurd⟩
      · cases executed
        exact ⟨.inl rfl, fun _ absurd => by cases absurd⟩
      · split at executed
        all_goals cases executed
        · exact ⟨.inl rfl, fun _ absurd => by cases absurd⟩
        · exact ⟨.inl rfl, fun _ absurd => by cases absurd⟩
        · exact ⟨.inl rfl, fun _ absurd => by cases absurd⟩
        · exact ⟨.inr rfl, fun _ absurd => by cases absurd⟩
        · exact ⟨.inr rfl, fun _ done => by cases done; exact ⟨rfl, rfl⟩⟩

end SwiyuIssuer.Worker
