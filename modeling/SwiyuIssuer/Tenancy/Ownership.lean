import SwiyuIssuer.Management.Listings
import SwiyuIssuer.Tenancy.Store

/-! What a tenant can read and write with each function of the store, as long as no row belongs with
one of another tenant. -/

namespace SwiyuIssuer.Tenancy

open Library Persistence Catalogue.Validators

variable {db : Database} {tenantId : TenantId}

namespace Database.Sound

variable (sound : db.Sound)
include sound

theorem assignment {row : IssuerCredentialTypeAssignment} (there : row ∈ db.assignments) :
    Reference.issuer row.issuerId row.tenantId ∈ db.references ∧
      Reference.credentialType row.credentialTypeId row.tenantId ∈ db.references :=
  sound.belongs _ (Tenancy.assignments.rows_references there (List.mem_singleton.mpr rfl))

end Database.Sound

namespace TenantTable

variable {α κ : Type} [DecidableEq κ] {table : TenantTable α κ} {clause : α → Bool}

end TenantTable

section Queries

end Queries

section Writes

open TenantTable

theorem TenantStatement.refuse {β : Type} {run : Database → Except PersistenceError (β × Database)}
    (error : PersistenceError) (whole : run db = .error error)
    (part : run (db.own tenantId) = .error error) : TenantStatement tenantId run db := by
  refine ⟨?_, ?_, ?_⟩
  · rw [whole, part]
    rfl
  · intro x after wrote
    cases whole.symm.trans wrote
  · intro x after wrote
    cases whole.symm.trans wrote

section StatusLists

variable {clause : StatusList → Bool} {change : StatusList → StatusList}

end StatusLists

section WriteBit

variable {credential : IssuedCredential} {codec : StatusListCodec} {index : StatusListIndex}
  {value : StatusValue} (sound : db.Sound) (there : credential ∈ db.credentials)
  (own : credential.tenantId = tenantId)
include sound there own

end WriteBit

end Writes

end SwiyuIssuer.Tenancy
