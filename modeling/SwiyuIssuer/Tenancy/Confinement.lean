import SwiyuIssuer.Tenancy.Handlers

/-! The statements of a handler, one after the other, on what a single tenant and what the others
see of the server. -/

namespace SwiyuIssuer.Tenancy

open Library Persistence Catalogue.Validators

variable {V α β : Type}

/-- What a tenant owns, what the others own, and that each change is one of some binary. -/
def tenantView (compiler : Compiler V) (tenantId : TenantId) : View (Server V) Database where
  own server := server.own tenantId
  others server := server.others tenantId
  sound server := server.toDatabase.Sound
  reaches server after := ∀ past, ∃ later,
    Relation.ReflTransGen (Site.Step compiler) ⟨server, past⟩ ⟨after, later⟩
  refl _ past := ⟨past, .refl⟩
  trans := by
    intro server after last first second past
    rcases first past with ⟨between, begun⟩
    rcases second between with ⟨later, ended⟩
    exact ⟨later, begun.trans ended⟩
  kept := by
    intro server after sound reached
    rcases reached [] with ⟨later, run⟩
    exact (Site.past_run ⟨server, []⟩ sound.alone run).present

abbrev Confines (compiler : Compiler V) (tenantId : TenantId) (before : Server V → Prop)
    (handler : Handler V α) (result : α → Server V → Prop) : Prop :=
  Confined (tenantView compiler tenantId) before handler result

section Rules

variable {compiler : Compiler V} {tenantId : TenantId} {before : Server V → Prop}
  {final : β → Server V → Prop}

end Rules

end SwiyuIssuer.Tenancy
