import SwiyuIssuer.Domain.Json

/-! Credential types, and their assignment to issuers. -/

namespace SwiyuIssuer

inductive RevocationMode
  | revocable
  | suspendable
  | revocableAndSuspendable
  | none
deriving DecidableEq, Repr

namespace RevocationMode

def asStr : RevocationMode → String
  | revocable => "revocable"
  | suspendable => "suspendable"
  | revocableAndSuspendable => "revocable_and_suspendable"
  | none => "none"

def parse : String → Except DomainError RevocationMode
  | "revocable" => .ok revocable
  | "suspendable" => .ok suspendable
  | "revocable_and_suspendable" => .ok revocableAndSuspendable
  | "none" => .ok none
  | other => .error (.invalidInput ("unknown revocation mode: " ++ other))

theorem parse_asStr (mode : RevocationMode) : parse mode.asStr = .ok mode := by
  cases mode <;> rfl

end RevocationMode

structure CredentialType where
  id : CredentialTypeId
  tenantId : TenantId
  vct : String
  display : Json
  internalDescription : Option String
  claimSchema : Json
  claimSchemaSourceUrl : Option String
  claimSchemaFetchedAt : Option DateTime
  claims : Json
  defaultValidityDuration : Int
  revocationMode : RevocationMode
  createdAt : DateTime
  updatedAt : DateTime
  retiredAt : Option DateTime

structure IssuerCredentialTypeAssignment where
  issuerId : IssuerId
  credentialTypeId : CredentialTypeId
  tenantId : TenantId
  assignedAt : DateTime
deriving DecidableEq, Repr

/-- The text of an id names it. -/
theorem Id.display_injective {label : String} : Function.Injective (@Id.display label) := by
  intro one two same
  rcases one with ⟨one⟩
  rcases two with ⟨two⟩
  unfold Id.display at same
  have texts := congrArg String.toList same
  simp only [String.toList_append, List.append_cancel_left_eq] at texts
  rw [String.toList_inj.mp texts]

end SwiyuIssuer
