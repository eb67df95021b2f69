import SwiyuIssuer.Tenancy.Isolated
import SwiyuIssuer.Tenancy.Writers

/-! What two servers answer to the same request of a tenant, when they hold the same rows of it. -/

namespace SwiyuIssuer.Tenancy

open Library Persistence Linking Catalogue.Validators

variable {V : Type} {env : Environment V} {draws : Draws} {tenantId : TenantId}
  {server one two : Server V} {request : Request} {caller : Caller}

/-- What a request writes is a run of statements. -/
theorem Reachable.serve (before : TenantId → Server V → Prop)
    (reached : Reachable env.compiler server)
    (isolated : ∀ tenantId, Api.Isolated env tenantId (before tenantId)
      (handle env draws tenantId request))
    (holds : ∀ tenantId, tenantContext caller server.toDatabase = .ok tenantId →
      before tenantId server) :
    Reachable env.compiler (Tenancy.serve env draws caller request server).2 := by
  unfold Tenancy.serve
  split
  · exact reached
  · next tenantId granted =>
      rcases reached with ⟨past, run⟩
      have sound := Reachable.sound ⟨past, run⟩
      rcases (isolated tenantId).reaches sound (holds tenantId granted) past with ⟨later, served⟩
      exact ⟨later, run.trans served⟩

section Sample

def sampleDraws (typeId : String) (now : DateTime) : Draws where
  taskId := ⟨"7kTzYh2WcE"⟩
  issuerId := ⟨"3Vn8xQpLmZ"⟩
  offerId := ⟨"7kTzYh2WcE"⟩
  preAuthCode := ⟨"4Mk7yK5pQR7sN3"⟩
  typeId := ⟨typeId⟩
  accountId := ⟨"7kTzYh2WcE"⟩
  invitationId := ⟨"7kTzYh2WcE"⟩
  invitationCode := "4Mk7yK5pQR7sN3"
  now := now
  later := now
  databaseNow := now

def createType : Request :=
  .createType ⟨"urn:residence", .bool true, none, none, none, none, 86400, "none"⟩

def putSchema (accepts : Bool) : Request := .putSchema "4VVEmxe6yBAYwi" (.bool accepts)

def createOffer : Request := .createOffer "CP9y68WEMD7oiH" ⟨"4VVEmxe6yBAYwi", .object [], none⟩

end Sample

end SwiyuIssuer.Tenancy
