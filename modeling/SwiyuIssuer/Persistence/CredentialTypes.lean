import SwiyuIssuer.Domain.CredentialType
import SwiyuIssuer.Library.UniqueIndex

/-! The statements of `persistence::credential_types` and `persistence::issuer_credential_types`.

`none` is a statement that waits. `ids` and `keys` are the rows of the tables. -/

namespace SwiyuIssuer.Persistence

open Library

/-- `None` keeps the value. -/
structure StructuredUpdate where
  vct : Option String := none
  internalDescription : Option String := none
  claimSchemaSourceUrl : Option String := none
  defaultValidityDuration : Option Int := none
  revocationMode : Option RevocationMode := none

/-- The document that one of the three blob updaters writes. -/
inductive Blob
  | schema (document : Json)
  | display (document : Json)
  | claims (document : Json)

inductive UpdateOutcome
  | updated
  | notFound
deriving DecidableEq, Repr

inductive AssignOutcome
  | alreadyAssigned
  | nowAssigned
deriving DecidableEq, Repr

inductive UnassignOutcome
  | notAssigned
  | nowUnassigned
deriving DecidableEq, Repr

namespace CredentialTypes

/-- `UNIQUE (tenant_id, vct)`. -/
def vctKey : Option CredentialType → Option (TenantId × String)
  | some row => some (row.tenantId, row.vct)
  | none => none

def StructuredUpdate.apply (update : StructuredUpdate) (now : DateTime) (row : CredentialType) :
    CredentialType :=
  { row with
    vct := update.vct.getD row.vct
    internalDescription := update.internalDescription.or row.internalDescription
    claimSchemaSourceUrl := update.claimSchemaSourceUrl.or row.claimSchemaSourceUrl
    defaultValidityDuration :=
      update.defaultValidityDuration.getD row.defaultValidityDuration
    revocationMode := update.revocationMode.getD row.revocationMode
    updatedAt := now }

def Blob.apply (blob : Blob) (now : DateTime) (row : CredentialType) : CredentialType :=
  match blob with
  | .schema document =>
      { row with claimSchema := document, claimSchemaFetchedAt := some now, updatedAt := now }
  | .display document => { row with display := document, updatedAt := now }
  | .claims document => { row with claims := document, updatedAt := now }

def asRetired (now : DateTime) (row : CredentialType) : CredentialType :=
  { row with retiredAt := some now, updatedAt := now }

section Statements

variable {τ : Type} [DecidableEq τ] (table : Table τ CredentialTypeId (Option CredentialType))
  (ids : List CredentialTypeId) (t : τ) (tenantId : TenantId) (id : CredentialTypeId)

def findByIdForTenant : Option CredentialType :=
  ((table id).read t).filter fun row => row.tenantId == tenantId

/-- Outside any transaction. -/
def insert (row : CredentialType) : Option (Except PersistenceError
    (Table τ CredentialTypeId (Option CredentialType))) :=
  match (table row.id).writer, (table row.id).committed with
  | some _, _ => none
  | none, some _ => some (.error (.uniqueViolation "credential_types_pkey"))
  | none, none =>
      match UniqueIndex.probe vctKey table ids t row.id (vctKey (some row)) with
      | .waits => none
      | .taken => some (.error (.uniqueViolation "credential_types_tenant_id_vct_key"))
      | .clear => some (.ok (Function.update table row.id
          ((table row.id).autocommit fun _ => some row)))

/-- An `UPDATE` of one row of the tenant, outside any transaction. -/
def change (write : CredentialType → CredentialType) : Option (Except PersistenceError
    (Table τ CredentialTypeId (Option CredentialType) × UpdateOutcome)) :=
  match findByIdForTenant table t tenantId id, (table id).writer with
  | none, _ => some (.ok (table, .notFound))
  | some _, some _ => none
  | some row, none =>
      match UniqueIndex.probe vctKey table ids t id (vctKey (some (write row))) with
      | .waits => none
      | .taken => some (.error (.uniqueViolation "credential_types_tenant_id_vct_key"))
      | .clear => some (.ok (Function.update table id
          ((table id).autocommit (Option.map write)), .updated))

def updateStructured (update : StructuredUpdate) (now : DateTime) : Option
    (Except PersistenceError
      (Table τ CredentialTypeId (Option CredentialType) × UpdateOutcome)) :=
  change table ids t tenantId id (StructuredUpdate.apply update now)

/-- `update_blob_schema`, `update_blob_display` and `update_blob_claims`. -/
def updateBlob (blob : Blob) (now : DateTime) : Option (Except PersistenceError
    (Table τ CredentialTypeId (Option CredentialType) × UpdateOutcome)) :=
  change table ids t tenantId id (Blob.apply blob now)

/-- The first statement of `retire`. -/
def stampRetired (now : DateTime) :
    Option (Table τ CredentialTypeId (Option CredentialType) × UpdateOutcome) :=
  match findByIdForTenant table t tenantId id with
  | none => some (table, .notFound)
  | some _ =>
      if (table id).free t then some (table.update t id (Option.map (asRetired now)), .updated)
      else none

end Statements

variable {τ : Type} [DecidableEq τ] {table after : Table τ CredentialTypeId (Option CredentialType)}
  {ids : List CredentialTypeId} {t : τ} {tenantId : TenantId} {id : CredentialTypeId}
  {row : CredentialType}

theorem findByIdForTenant_some (found : findByIdForTenant table t tenantId id = some row) :
    (table id).read t = some row ∧ row.tenantId = tenantId := by
  rcases Option.filter_eq_some_iff.mp found with ⟨seen, scope⟩
  exact ⟨seen, beq_iff_eq.mp scope⟩

theorem insert_ok (inserted : insert table ids t row = some (.ok after)) :
    (table row.id).writer = none ∧ (table row.id).committed = none ∧
      after = Function.update table row.id ((table row.id).autocommit fun _ => some row) := by
  unfold insert at inserted
  split at inserted
  · cases inserted
  · cases inserted
  · next unlocked absent =>
      split at inserted
      · cases inserted
      · cases inserted
      · cases inserted
        exact ⟨unlocked, absent, rfl⟩

theorem change_ok {write : CredentialType → CredentialType} {outcome : UpdateOutcome}
    (written : change table ids t tenantId id write = some (.ok (after, outcome))) :
    (after = table ∧ outcome = .notFound) ∨ ((table id).writer = none ∧ outcome = .updated ∧
      after = Function.update table id ((table id).autocommit (Option.map write))) := by
  unfold change at written
  split at written
  · cases written
    exact .inl ⟨rfl, rfl⟩
  · cases written
  · next unlocked =>
      split at written
      · cases written
      · cases written
      · cases written
        exact .inr ⟨unlocked, rfl, rfl⟩

theorem stampRetired_updated {now : DateTime}
    (stamped : stampRetired table t tenantId id now = some (after, .updated)) :
    ∃ row, (table id).read t = some row ∧ (table id).free t = true ∧
      after = table.update t id (Option.map (asRetired now)) := by
  unfold stampRetired at stamped
  split at stamped
  · cases stamped
  · next row found =>
      split at stamped
      · next free =>
          cases stamped
          exact ⟨row, (findByIdForTenant_some found).1, free, rfl⟩
      · cases stamped

end CredentialTypes

/-- The primary key of `issuer_credential_types`. -/
abbrev AssignmentKey := IssuerId × CredentialTypeId

instance : LawfulBEq AssignmentKey := inferInstance

namespace IssuerCredentialTypes

section Statements

variable {τ : Type} [DecidableEq τ]
  (table : Table τ AssignmentKey (Option IssuerCredentialTypeAssignment))
  (keys : List AssignmentKey) (t : τ) (key : AssignmentKey)

/-- `INSERT … ON CONFLICT DO NOTHING`, outside any transaction; it waits for the transaction that is
deleting the row. -/
def assign (row : IssuerCredentialTypeAssignment) :
    Option (Table τ AssignmentKey (Option IssuerCredentialTypeAssignment) × AssignOutcome) :=
  match (table key).writer, (table key).committed with
  | some _, _ => none
  | none, some _ => some (table, .alreadyAssigned)
  | none, none => some (Function.update table key
      ((table key).autocommit fun _ => some row), .nowAssigned)

/-- Outside any transaction. -/
def unassign :
    Option (Table τ AssignmentKey (Option IssuerCredentialTypeAssignment) × UnassignOutcome) :=
  match (table key).committed, (table key).writer with
  | none, _ => some (table, .notAssigned)
  | some _, some _ => none
  | some _, none => some (Function.update table key
      ((table key).autocommit fun _ => none), .nowUnassigned)

def isAssigned : Bool := ((table key).read t).isSome

/-- The second statement of `retire`; also the rows that it deletes. -/
def deleteByType (id : CredentialTypeId) : Option
    (Table τ AssignmentKey (Option IssuerCredentialTypeAssignment) × List AssignmentKey) :=
  let assigned := keys.filter fun key => key.2 == id && ((table key).read t).isSome
  if assigned.all fun key => (table key).free t then
    some (fun key => if key ∈ assigned then (table key).update t fun _ => none else table key,
      assigned)
  else none

end Statements

variable {τ : Type} [DecidableEq τ]
  {table after : Table τ AssignmentKey (Option IssuerCredentialTypeAssignment)}
  {keys : List AssignmentKey} {t : τ} {key : AssignmentKey}

theorem deleteByType_some {id : CredentialTypeId} {deleted : List AssignmentKey}
    (done : deleteByType table keys t id = some (after, deleted)) :
    (∀ key ∈ deleted, key.2 = id ∧ (table key).free t = true) ∧
      after = fun key => if key ∈ deleted then (table key).update t fun _ => none else table key := by
  unfold deleteByType at done
  dsimp only at done
  split at done
  · next all =>
      cases done
      refine ⟨?_, rfl⟩
      intro key member
      have listed := (List.mem_filter.mp member).2
      rw [Bool.and_eq_true, beq_iff_eq] at listed
      exact ⟨listed.1, List.all_eq_true.mp all key member⟩
  · cases done

end IssuerCredentialTypes

end SwiyuIssuer.Persistence
