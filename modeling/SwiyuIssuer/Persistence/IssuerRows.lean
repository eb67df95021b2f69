import SwiyuIssuer.Library.RowLock
import SwiyuIssuer.Persistence.Issuers

/-! The statements of `persistence::issuers` on the table of all issuers. `none` is a statement that
waits for a row lock. -/

namespace SwiyuIssuer.Persistence.IssuerRows

open Library

variable {τ : Type} [DecidableEq τ]

section Statements

variable (table : Table τ IssuerId (Option Issuer)) (t : τ) (tenantId : TenantId)
  (issuerId : IssuerId)

def findById : Option Issuer := (table issuerId).read t

def findByIdForTenant : Option Issuer :=
  ((table issuerId).read t).filter fun issuer => isRow issuer tenantId issuerId

def existsForTenant : Bool := (findByIdForTenant table t tenantId issuerId).isSome

/-- The outer `none` waits. -/
def findByIdForUpdateForTenant :
    Option (Option (Table τ IssuerId (Option Issuer) × Issuer)) :=
  if (table issuerId).free t then
    some ((findByIdForTenant table t tenantId issuerId).map fun issuer =>
      (table.update t issuerId fun row => row, issuer))
  else none

def setState (state : IssuerState) :
    Option (Except PersistenceError (Table τ IssuerId (Option Issuer))) :=
  match findByIdForTenant table t tenantId issuerId with
  | none => some (.error .notFound)
  | some _ =>
      if (table issuerId).free t then
        some (.ok (table.update t issuerId (Option.map fun row => { row with state := some state })))
      else none

end Statements

variable {table after : Table τ IssuerId (Option Issuer)} {t : τ} {tenantId : TenantId}
  {issuerId : IssuerId} {issuer : Issuer}

theorem findByIdForTenant_some
    (found : findByIdForTenant table t tenantId issuerId = some issuer) :
    (table issuerId).read t = some issuer ∧ issuer.id = issuerId ∧ issuer.tenantId = tenantId := by
  rcases Option.filter_eq_some_iff.mp found with ⟨seen, own⟩
  rw [isRow, Bool.and_eq_true, beq_iff_eq, beq_iff_eq] at own
  exact ⟨seen, own⟩

theorem findByIdForUpdateForTenant_some
    (locked : findByIdForUpdateForTenant table t tenantId issuerId = some (some (after, issuer))) :
    (table issuerId).free t = true ∧ findByIdForTenant table t tenantId issuerId = some issuer ∧
      after = table.update t issuerId fun row => row := by
  unfold findByIdForUpdateForTenant at locked
  split at locked
  · next free =>
      rcases Option.map_eq_some_iff.mp (Option.some.inj locked) with ⟨row, found, pair⟩
      cases pair
      exact ⟨free, found, rfl⟩
  · cases locked

theorem setState_ok {state : IssuerState}
    (written : setState table t tenantId issuerId state = some (.ok after)) :
    (table issuerId).free t = true ∧
      after = table.update t issuerId (Option.map fun row => { row with state := some state }) := by
  unfold setState at written
  split at written
  · cases written
  · split at written
    · next free =>
        cases written
        exact ⟨free, rfl⟩
    · cases written

end SwiyuIssuer.Persistence.IssuerRows
