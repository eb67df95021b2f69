import SwiyuIssuer.Domain.CredentialOffer
import SwiyuIssuer.Library.RowLock

/-! The statements of `persistence::credential_offers` and `persistence::oidc::credential_offers`.

`none` is a statement that waits for a row lock. -/

namespace SwiyuIssuer.Persistence.CredentialOffers

open Library

/-- `WHERE … tenant_id = … AND issuer_id = …`. -/
def inScope (offer : CredentialOffer) (tenantId : TenantId) (issuerId : IssuerId) : Bool :=
  offer.tenantId == tenantId && offer.issuerId == issuerId

/-- The `WHERE` clause of `find_by_pre_auth_code`. -/
def carriesCode (tenantId : TenantId) (issuerId : IssuerId) (code : PreAuthCode) :
    Option CredentialOffer → Bool
  | some offer => offer.preAuthCode == some code && inScope offer tenantId issuerId
  | none => false

/-- The `WHERE` clause of `cancel_all_pending_for_issuer`. -/
def isPending (tenantId : TenantId) (issuerId : IssuerId) : Option CredentialOffer → Bool
  | some offer => inScope offer tenantId issuerId && offer.state == .pending
  | none => false

theorem inScope_iff {offer : CredentialOffer} {tenantId : TenantId} {issuerId : IssuerId} :
    inScope offer tenantId issuerId = true ↔
      offer.tenantId = tenantId ∧ offer.issuerId = issuerId := by
  simp [inScope]

theorem isPending_some {tenantId : TenantId} {issuerId : IssuerId} {offer : CredentialOffer} :
    isPending tenantId issuerId (some offer) = true ↔
      (offer.tenantId = tenantId ∧ offer.issuerId = issuerId) ∧ offer.state = .pending := by
  simp [isPending, inScope]

theorem isPending_settled {tenantId : TenantId} {issuerId : IssuerId}
    {row : Option CredentialOffer} (settled : ∀ offer, row = some offer → offer.state ≠ .pending) :
    isPending tenantId issuerId row = false := by
  cases row with
  | none => rfl
  | some offer => simp [isPending, settled offer rfl]

/-- The columns that `set_issued_state` writes. -/
def writeIssued (issued row : CredentialOffer) : CredentialOffer :=
  { row with state := issued.state, issuedAt := issued.issuedAt, preAuthCode := none }

theorem writeIssued_asIssued (offer : CredentialOffer) (now : DateTime) :
    writeIssued (offer.asIssued now) offer = offer.asIssued now := rfl

section Statements

variable {τ : Type} [DecidableEq τ]
  (table : Table τ CredentialOfferId (Option CredentialOffer)) (t : τ)
  (tenantId : TenantId) (issuerId : IssuerId) (offerId : CredentialOfferId)

def findById : Except PersistenceError CredentialOffer :=
  match (table offerId).read t with
  | some offer => if inScope offer tenantId issuerId then .ok offer else .error .notFound
  | none => .error .notFound

/-- `ids` are the rows of the table, `found` the one that the query answers with; `none` also when
that is not an answer it can give. -/
def findByPreAuthCode (ids : List CredentialOfferId) (code : PreAuthCode)
    (found : Option CredentialOfferId) : Option (Option CredentialOffer) :=
  match found with
  | some id =>
      if carriesCode tenantId issuerId code ((table id).read t) then some ((table id).read t)
      else none
  | none =>
      if ids.all fun id => !carriesCode tenantId issuerId code ((table id).read t) then some none
      else none

def findByIdForUpdate : Option (Except PersistenceError
    (Table τ CredentialOfferId (Option CredentialOffer) × CredentialOffer)) :=
  if (table offerId).free t then
    some ((findById table t tenantId issuerId offerId).map fun offer =>
      (table.update t offerId fun row => row, offer))
  else none

def setIssuedState (offer : CredentialOffer) : Option (Except PersistenceError
    (Table τ CredentialOfferId (Option CredentialOffer))) :=
  match findById table t offer.tenantId offer.issuerId offer.id with
  | .error error => some (.error error)
  | .ok _ =>
      if (table offer.id).free t then
        some (.ok (table.update t offer.id (Option.map (writeIssued offer))))
      else none

/-- Outside any transaction. -/
def cancel (cancelledAt : DateTime) : Option (Except PersistenceError
    (Table τ CredentialOfferId (Option CredentialOffer))) :=
  match findById table t tenantId issuerId offerId with
  | .error error => some (.error error)
  | .ok offer =>
      if offer.state = .pending then
        match (table offerId).writer with
        | none => some (.ok (Function.update table offerId
            ((table offerId).autocommit (Option.map fun row => row.asCancelled cancelledAt))))
        | some _ => none
      else some (.error .notFound)

/-- Taken when the last row that the statement has to wait for is free. -/
def cancelAllPendingForIssuer (ids : List CredentialOfferId) (cancelledAt : DateTime) :
    Option (Table τ CredentialOfferId (Option CredentialOffer)) :=
  if ids.all fun id => !isPending tenantId issuerId ((table id).read t) || (table id).free t then
    some fun id =>
      if isPending tenantId issuerId ((table id).read t) then
        (table id).update t (Option.map fun row => row.asCancelled cancelledAt)
      else table id
  else none

/-- Outside any transaction. -/
def insert (offer : CredentialOffer) : Option (Except PersistenceError
    (Table τ CredentialOfferId (Option CredentialOffer))) :=
  match (table offer.id).writer, (table offer.id).committed with
  | some _, _ => none
  | none, some _ => some (.error (.uniqueViolation "credential_offers_pkey"))
  | none, none => some (.ok (Function.update table offer.id
      ((table offer.id).autocommit fun _ => some offer)))

end Statements

variable {τ : Type} [DecidableEq τ]
  {table after : Table τ CredentialOfferId (Option CredentialOffer)} {t : τ}
  {tenantId : TenantId} {issuerId : IssuerId} {offerId : CredentialOfferId}
  {offer : CredentialOffer}

theorem findById_ok (found : findById table t tenantId issuerId offerId = .ok offer) :
    (table offerId).read t = some offer ∧ offer.tenantId = tenantId ∧
      offer.issuerId = issuerId := by
  unfold findById at found
  split at found
  · next seen =>
      split at found
      · next scope =>
          cases found
          exact ⟨seen, inScope_iff.mp scope⟩
      · cases found
  · cases found

theorem findById_of_read (seen : (table offerId).read t = some offer)
    (tenant : offer.tenantId = tenantId) (issuer : offer.issuerId = issuerId) :
    findById table t tenantId issuerId offerId = .ok offer := by
  have scope : inScope offer tenantId issuerId = true := inScope_iff.mpr ⟨tenant, issuer⟩
  simp only [findById, seen, scope, if_true]

theorem findByPreAuthCode_some {ids : List CredentialOfferId} {code : PreAuthCode}
    {found : Option CredentialOfferId}
    (answered : findByPreAuthCode table t tenantId issuerId ids code found = some (some offer)) :
    ∃ id, (table id).read t = some offer ∧ offer.preAuthCode = some code ∧
      offer.tenantId = tenantId ∧ offer.issuerId = issuerId := by
  unfold findByPreAuthCode at answered
  cases found with
  | none =>
      dsimp only at answered
      split at answered <;> cases answered
  | some id =>
      dsimp only at answered
      split at answered
      · next carries =>
          have seen := Option.some.inj answered
          rw [seen, carriesCode, Bool.and_eq_true, beq_iff_eq] at carries
          exact ⟨id, seen, carries.1, inScope_iff.mp carries.2⟩
      · cases answered

theorem findByIdForUpdate_ok
    (locked : findByIdForUpdate table t tenantId issuerId offerId = some (.ok (after, offer))) :
    (table offerId).free t = true ∧ findById table t tenantId issuerId offerId = .ok offer ∧
      after = table.update t offerId fun row => row := by
  unfold findByIdForUpdate at locked
  split at locked
  · next free =>
      cases found : findById table t tenantId issuerId offerId with
      | error error =>
          rw [found] at locked
          cases locked
      | ok row =>
          rw [found] at locked
          cases locked
          exact ⟨free, rfl, rfl⟩
  · cases locked

theorem setIssuedState_ok (written : setIssuedState table t offer = some (.ok after)) :
    (table offer.id).free t = true ∧
      after = table.update t offer.id (Option.map (writeIssued offer)) := by
  unfold setIssuedState at written
  split at written
  · cases written
  · split at written
    · next free =>
        cases written
        exact ⟨free, rfl⟩
    · cases written

theorem cancel_ok {cancelledAt : DateTime}
    (cancelled : cancel table t tenantId issuerId offerId cancelledAt = some (.ok after)) :
    ∃ row, (table offerId).writer = none ∧ (table offerId).committed = some row ∧
      row.state = .pending ∧ after = Function.update table offerId
        ((table offerId).autocommit (Option.map fun row => row.asCancelled cancelledAt)) := by
  unfold cancel at cancelled
  split at cancelled
  · cases cancelled
  · next row found =>
      split at cancelled
      · next pending =>
          split at cancelled
          · next unlocked =>
              cases cancelled
              have committed : (table offerId).read t = (table offerId).committed := by
                apply Cell.read_unheld
                intro version held
                rw [unlocked] at held
                cases held
              exact ⟨row, unlocked, committed ▸ (findById_ok found).1, pending, rfl⟩
          · cases cancelled
      · cases cancelled

theorem cancelAllPendingForIssuer_some {ids : List CredentialOfferId} {cancelledAt : DateTime}
    (cancelled : cancelAllPendingForIssuer table t tenantId issuerId ids cancelledAt =
      some after) :
    (∀ id ∈ ids, isPending tenantId issuerId ((table id).read t) = true →
      (table id).free t = true) ∧
    after = fun id =>
      if isPending tenantId issuerId ((table id).read t) then
        (table id).update t (Option.map fun row => row.asCancelled cancelledAt)
      else table id := by
  unfold cancelAllPendingForIssuer at cancelled
  split at cancelled
  · next all =>
      cases cancelled
      refine ⟨?_, rfl⟩
      intro id present pending
      have either := List.all_eq_true.mp all id present
      rw [pending] at either
      simpa using either
  · cases cancelled

omit [DecidableEq τ] in
theorem insert_ok (inserted : insert table offer = some (.ok after)) :
    (table offer.id).writer = none ∧ (table offer.id).committed = none ∧
      after = Function.update table offer.id
        ((table offer.id).autocommit fun _ => some offer) := by
  unfold insert at inserted
  split at inserted
  · cases inserted
  · cases inserted
  · next unlocked absent =>
      cases inserted
      exact ⟨unlocked, absent, rfl⟩

end SwiyuIssuer.Persistence.CredentialOffers
