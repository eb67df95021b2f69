import SwiyuIssuer.Tenancy.Confinement

/-! Each handler needs and touches the rows of its tenant only. -/

namespace SwiyuIssuer.Tenancy.Api

open Library Persistence Catalogue.Validators Linking.PatchAccounts

variable {V α : Type} {env : Environment V} {draws : Draws} {tenantId : TenantId}
  {before : Server V → Prop}

/-- What a request starts from. -/
def Ready (env : Environment V) (draws : Draws) (tenantId : TenantId) (server : Server V) : Prop :=
  draws.Fresh env server.toDatabase ∧ server.Current env.compiler tenantId

abbrev Isolated (env : Environment V) (tenantId : TenantId) (before : Server V → Prop)
    (handler : Handler V α) : Prop :=
  Confines env.compiler tenantId before handler fun _ _ => True

theorem done {x : α} : Isolated env tenantId before (pure x) := Confined.pure fun _ _ => trivial

theorem failed {error : ApiError} :
    Isolated env tenantId before (Program.fail error : Handler V α) := Confined.fail

theorem committed {β : Type} {program : Handler V α} {next : α → Handler V β}
    (isolated : Isolated env tenantId before program)
    (following : ∀ x, Isolated env tenantId (fun _ => True) (next x)) :
    Isolated env tenantId before (Program.transaction program >>= next) :=
  isolated.transaction.bind following

namespace Issuers

end Issuers

namespace CredentialOffers

end CredentialOffers

namespace IssuedCredentials

end IssuedCredentials

namespace CredentialTypes

end CredentialTypes

namespace UserAccounts

end UserAccounts

namespace Invitations

end Invitations

end SwiyuIssuer.Tenancy.Api
