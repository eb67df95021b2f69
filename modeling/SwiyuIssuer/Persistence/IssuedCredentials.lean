import SwiyuIssuer.Domain.IssuedCredential
import SwiyuIssuer.Library.RowLock

/-! The statements of `persistence::issued_credentials`. -/

namespace SwiyuIssuer.Persistence.IssuedCredentials

open Library

variable {τ : Type} [DecidableEq τ]

/-- A plain `SELECT`: it neither waits for a row lock nor takes one. -/
def find (table : Table τ IssuedCredentialId (Option IssuedCredential)) (t : τ)
    (tenantId : TenantId) (credentialId : IssuedCredentialId) : Option IssuedCredential :=
  match (table credentialId).read t with
  | some row => if row.tenantId = tenantId then some row else none
  | none => none

/-- `none` while another transaction holds the row. The `WHERE` clause names the key and the
tenant, not the state that the caller read. -/
def setState (table : Table τ IssuedCredentialId (Option IssuedCredential)) (t : τ)
    (tenantId : TenantId) (credentialId : IssuedCredentialId) (state : IssuedCredentialState) :
    Option (Except PersistenceError (Table τ IssuedCredentialId (Option IssuedCredential))) :=
  match find table t tenantId credentialId with
  | none => some (.error .notFound)
  | some _ =>
      if (table credentialId).free t then
        some (.ok (table.update t credentialId (Option.map fun row => { row with state := state })))
      else none

/-- `none` while another transaction holds a row of the same key. -/
def insert (table : Table τ IssuedCredentialId (Option IssuedCredential)) (t : τ)
    (credential : IssuedCredential) :
    Option (Except PersistenceError (Table τ IssuedCredentialId (Option IssuedCredential))) :=
  if (table credential.id).free t then
    match (table credential.id).read t with
    | some _ => some (.error (.uniqueViolation "issued_credentials_pkey"))
    | none => some (.ok (table.update t credential.id fun _ => some credential))
  else none

theorem find_some {table : Table τ IssuedCredentialId (Option IssuedCredential)} {t : τ}
    {tenantId : TenantId} {credentialId : IssuedCredentialId} {row : IssuedCredential}
    (found : find table t tenantId credentialId = some row) :
    (table credentialId).read t = some row ∧ row.tenantId = tenantId := by
  unfold find at found
  split at found
  · next seen =>
      split at found
      · next owned =>
          cases found
          exact ⟨seen, owned⟩
      · cases found
  · cases found

theorem setState_ok {table after : Table τ IssuedCredentialId (Option IssuedCredential)} {t : τ}
    {tenantId : TenantId} {credentialId : IssuedCredentialId} {state : IssuedCredentialState}
    (written : setState table t tenantId credentialId state = some (.ok after)) :
    (table credentialId).free t = true ∧
      (∃ row, (table credentialId).read t = some row ∧ row.tenantId = tenantId) ∧
      after = table.update t credentialId (Option.map fun row => { row with state := state }) := by
  unfold setState at written
  split at written
  · cases written
  · next row found =>
      split at written
      · next free =>
          cases written
          exact ⟨free, ⟨row, find_some found⟩, rfl⟩
      · cases written

theorem insert_ok {table after : Table τ IssuedCredentialId (Option IssuedCredential)} {t : τ}
    {credential : IssuedCredential} (written : insert table t credential = some (.ok after)) :
    (table credential.id).free t = true ∧ (table credential.id).read t = none ∧
      after = table.update t credential.id fun _ => some credential := by
  unfold insert at written
  split at written
  · next free =>
      split at written
      · cases written
      · next absent =>
          cases written
          exact ⟨free, absent, rfl⟩
  · cases written

end SwiyuIssuer.Persistence.IssuedCredentials
