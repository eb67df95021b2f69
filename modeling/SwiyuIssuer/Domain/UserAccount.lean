import SwiyuIssuer.Domain.Errors

/-! User accounts, and the invitations that link an identity to one.

An invitation code is known here by the hash that the database keeps of it. -/

namespace SwiyuIssuer

abbrev UserAccountId := Id "account"
abbrev InvitationId := Id "invite"

structure UserIdentity where
  iss : String
  sub : String
deriving DecidableEq, Repr

inductive UserAccountState
  | active
  | deactivated
deriving DecidableEq, Repr

structure UserAccount where
  id : UserAccountId
  tenantId : TenantId
  provisioningFirstName : Option String
  provisioningLastName : Option String
  provisioningHomeOrganization : Option String
  state : UserAccountState
  identity : Option UserIdentity
  idpFirstName : Option String
  idpLastName : Option String
  linkedAt : Option DateTime
  createdAt : DateTime
deriving DecidableEq, Repr

/-- The columns that a tenant gives an account; as a patch, those that it names. -/
structure Provisioning where
  firstName : Option String
  lastName : Option String
  homeOrganization : Option String
deriving DecidableEq, Repr

def UserAccount.provisioning (account : UserAccount) : Provisioning :=
  ⟨account.provisioningFirstName, account.provisioningLastName,
    account.provisioningHomeOrganization⟩

def UserAccountState.asStr : UserAccountState → String
  | active => "active"
  | deactivated => "deactivated"

inductive InvitationState
  | pending
  | accepted
  | revoked
  | expired
deriving DecidableEq, Repr

def InvitationState.asStr : InvitationState → String
  | pending => "pending"
  | accepted => "accepted"
  | revoked => "revoked"
  | expired => "expired"

structure InvitationCodeHash where
  text : String
deriving DecidableEq, Repr

structure Invitation where
  id : InvitationId
  userAccountId : UserAccountId
  tenantId : TenantId
  state : InvitationState
  expiresAt : DateTime
  createdAt : DateTime
  acceptedAt : Option DateTime
  revokedAt : Option DateTime
deriving DecidableEq, Repr

/-- `invitations::observed_state`. -/
def Invitation.observedState (invitation : Invitation) (now : DateTime) : InvitationState :=
  if invitation.state = .pending ∧ invitation.expiresAt ≤ now then .expired else invitation.state

theorem Invitation.observedState_expired {invitation : Invitation} {now : DateTime}
    (pending : invitation.state = .pending) :
    invitation.observedState now = .expired ↔ invitation.expiresAt ≤ now := by
  simp [observedState, pending]

theorem Invitation.observedState_pending_iff {invitation : Invitation} {now : DateTime} :
    invitation.observedState now = .pending ↔
      invitation.state = .pending ∧ now < invitation.expiresAt := by
  by_cases pending : invitation.state = .pending
  · simp [observedState, pending]
  · simp [observedState, pending]

theorem Invitation.observedState_pending {invitation : Invitation} {now : DateTime}
    (observed : invitation.observedState now = .pending) : invitation.state = .pending :=
  (observedState_pending_iff.mp observed).1

end SwiyuIssuer
