import SwiyuIssuer.Domain.Issuer

/-! The statements of the worker on one row of `issuers`. -/

namespace SwiyuIssuer.Persistence

/-- What becomes of a statement: executed, not executed, or executed with its answer lost. -/
inductive DbAnswer
  | ok
  | failed (details : String)
  | lost (details : String)
deriving DecidableEq, Repr

inductive SwapOutcome
  | already
  | nowSwapped
deriving DecidableEq, Repr

/-- `WHERE id = $1 AND tenant_id = $2`. -/
def isRow (row : Issuer) (tenantId : TenantId) (issuerId : IssuerId) : Bool :=
  row.id == issuerId && row.tenantId == tenantId

def carries (row : Issuer) (authorized authentication assertion : KeyPairId) : Bool :=
  row.authorizedKeyId == some authorized && row.authenticationKeyId == some authentication &&
    row.assertionKeyId == some assertion

def withKeys (row : Issuer) (authorized authentication assertion : KeyPairId) : Issuer :=
  { row with
    authorizedKeyId := some authorized
    authenticationKeyId := some authentication
    assertionKeyId := some assertion }

def swapUpdates (row : Issuer) (tenantId : TenantId) (issuerId : IssuerId)
    (authorized authentication assertion : KeyPairId) : Bool :=
  isRow row tenantId issuerId && row.state == some .active &&
    !carries row authorized authentication assertion

/-- `already_matches`, on the row that the second query finds. -/
def swapMatches (row : Issuer) (tenantId : TenantId) (issuerId : IssuerId)
    (authorized authentication assertion : KeyPairId) : Bool :=
  isRow row tenantId issuerId && row.state == some .active &&
    carries row authorized authentication assertion

/-- The row after the call, and its answer; `reread` fails the `SELECT` after a zero-row update. -/
def swapKeyTriple (row : Issuer) (tenantId : TenantId) (issuerId : IssuerId)
    (authorized authentication assertion : KeyPairId) (update : DbAnswer)
    (reread : Option String) : Issuer × Except PersistenceError SwapOutcome :=
  let updates := swapUpdates row tenantId issuerId authorized authentication assertion
  let updated := if updates then withKeys row authorized authentication assertion else row
  match update, updates with
  | .failed details, _ => (row, .error (.db details))
  | .lost details, _ => (updated, .error (.db details))
  | .ok, true => (updated, .ok .nowSwapped)
  | .ok, false =>
      match reread with
      | some details => (row, .error (.db details))
      | none =>
          if swapMatches row tenantId issuerId authorized authentication assertion then
            (row, .ok .already)
          else (row, .error .notFound)

theorem carries_iff {row : Issuer} {authorized authentication assertion : KeyPairId} :
    carries row authorized authentication assertion = true ↔
      row = withKeys row authorized authentication assertion := by
  cases row
  simp [carries, withKeys, and_assoc]

theorem swapKeyTriple_cases {row after : Issuer} {tenantId : TenantId} {issuerId : IssuerId}
    {authorized authentication assertion : KeyPairId} {update : DbAnswer}
    {reread : Option String} {answer : Except PersistenceError SwapOutcome}
    (called : swapKeyTriple row tenantId issuerId authorized authentication assertion update reread =
      (after, answer)) :
    (after = row ∨ row.state = some .active ∧
      after = withKeys row authorized authentication assertion) ∧
    (∀ outcome, answer = .ok outcome → row.state = some .active ∧
      after = withKeys row authorized authentication assertion) := by
  have updating : swapUpdates row tenantId issuerId authorized authentication assertion = true →
      row.state = some .active := by
    simp only [swapUpdates, Bool.and_eq_true, beq_iff_eq]
    exact fun updates => updates.1.2
  have matching : swapMatches row tenantId issuerId authorized authentication assertion = true →
      row.state = some .active ∧ row = withKeys row authorized authentication assertion := by
    simp only [swapMatches, Bool.and_eq_true, beq_iff_eq, carries_iff]
    exact fun found => ⟨found.1.2, found.2⟩
  unfold swapKeyTriple at called
  generalize swapUpdates row tenantId issuerId authorized authentication assertion = updates
    at called updating
  generalize swapMatches row tenantId issuerId authorized authentication assertion = found
    at called matching
  cases update with
  | failed details =>
      cases called
      exact ⟨.inl rfl, fun _ absurd => by cases absurd⟩
  | lost details =>
      cases updates <;> cases called
      · exact ⟨.inl rfl, fun _ absurd => by cases absurd⟩
      · exact ⟨.inr ⟨updating rfl, rfl⟩, fun _ absurd => by cases absurd⟩
  | ok =>
      cases updates with
      | true =>
          cases called
          exact ⟨.inr ⟨updating rfl, rfl⟩, fun _ _ => ⟨updating rfl, rfl⟩⟩
      | false =>
          cases reread with
          | some details =>
              cases called
              exact ⟨.inl rfl, fun _ absurd => by cases absurd⟩
          | none =>
              cases found <;> cases called
              · exact ⟨.inl rfl, fun _ absurd => by cases absurd⟩
              · exact ⟨.inl rfl, fun _ _ => matching rfl⟩

/-- On an active row under its own ids only a database error makes the call fail: a row that the
update skips has the three keys. -/
theorem swapKeyTriple_own {row : Issuer} {tenantId : TenantId} {issuerId : IssuerId}
    (own : isRow row tenantId issuerId = true) (active : row.state = some .active)
    (authorized authentication assertion : KeyPairId) (update : DbAnswer)
    (reread : Option String) :
    (∃ outcome, (swapKeyTriple row tenantId issuerId authorized authentication assertion update
      reread).2 = .ok outcome) ∨
    ∃ details, (swapKeyTriple row tenantId issuerId authorized authentication assertion update
      reread).2 = .error (.db details) := by
  have matched : swapUpdates row tenantId issuerId authorized authentication assertion = false →
      swapMatches row tenantId issuerId authorized authentication assertion = true := by
    simp [swapUpdates, swapMatches, own, active]
  unfold swapKeyTriple
  generalize swapUpdates row tenantId issuerId authorized authentication assertion = updates
    at matched
  cases update with
  | failed details | lost details => exact .inr ⟨details, rfl⟩
  | ok =>
      cases updates with
      | true => exact .inl ⟨_, rfl⟩
      | false =>
          rw [matched rfl]
          cases reread with
          | some details => exact .inr ⟨details, rfl⟩
          | none => exact .inl ⟨_, rfl⟩

end SwiyuIssuer.Persistence
