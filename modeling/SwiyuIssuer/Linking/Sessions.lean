import SwiyuIssuer.Library.Claims
import SwiyuIssuer.Library.Run
import SwiyuIssuer.Persistence.UserAccounts

/-! The requests that touch an invitation or the state of an account, and where each can stand
between two statements: `linking::accept`, `invitations::create` and `revoke`, `user_accounts::create`,
`activate` and `deactivate`. -/

namespace SwiyuIssuer.Linking

open Library Persistence

abbrev TxId := Nat

/-- An accept request after the checks of its fields; `now` is the handler's clock reading. -/
structure AcceptRequest where
  invitationId : InvitationId
  codeHash : InvitationCodeHash
  user : AssertedUser
  now : DateTime

structure CreateRequest where
  tenantId : TenantId
  accountId : UserAccountId
  expiresInSeconds : Option Nat
  now : DateTime

structure RevokeRequest where
  tenantId : TenantId
  invitationId : InvitationId
  now : DateTime

structure StateRequest where
  tenantId : TenantId
  accountId : UserAccountId
  state : UserAccountState

def defaultInvitationExpiresInSeconds : Nat := 604800

def minInvitationExpiresInSeconds : Nat := 3600

def maxInvitationExpiresInSeconds : Nat := 2592000

def resolveInvitationExpiresIn (requested : Option Nat) : Except ApiError Int :=
  let asked := requested.getD defaultInvitationExpiresInSeconds
  if minInvitationExpiresInSeconds ≤ asked ∧ asked ≤ maxInvitationExpiresInSeconds then
    .ok (seconds asked)
  else .error (.invalidInput ("expires_in_seconds must be between " ++
    toString minInvitationExpiresInSeconds ++ " and " ++ toString maxInvitationExpiresInSeconds ++
    ", got " ++ toString asked))

/-- What an accept request has read before it writes. -/
structure Acceptance where
  request : AcceptRequest
  invitation : Invitation
  account : UserAccount

/-- `expired` are the rows that `expire_pending_if_due` has flipped. -/
structure Creation where
  request : CreateRequest
  expiresAt : DateTime
  expired : List InvitationId

/-- Where a request stands. A terminal session keeps what the handler answers with. -/
inductive Session
  | idle
  | invitationFound (request : AcceptRequest) (invitation : Invitation)
  | accountRead (acceptance : Acceptance)
  | identityLinked (acceptance : Acceptance)
  | invitationAccepted (acceptance : Acceptance)
  | accountReread (acceptance : Acceptance) (linked : UserAccount)
  | accepted (acceptance : Acceptance) (linked : UserAccount)
  | acceptRefused (error : ApiError)
  | accountProbed (request : CreateRequest) (expiresAt : DateTime)
  | dueExpired (creation : Creation)
  | invitationInserted (creation : Creation) (row : InvitationRow)
  | created (row : InvitationRow)
  | createRefused (error : ApiError)
  | invitationLoaded (request : RevokeRequest) (invitation : Invitation)
  | invitationRevoked (request : RevokeRequest) (invitation : Invitation)
  | revokeAnswered (response : Except ApiError Invitation)
  | stateSet (request : StateRequest)
  | stateAnswered (response : Except ApiError UserAccount)
  | accountCreated (response : Except ApiError UserAccountId)

namespace Session

def isAccepted : Session → Bool
  | accepted .. => true
  | _ => false

/-- The version of an account that a session has pending, given the committed one. -/
def accountClaim : Session → UserAccountId → Option UserAccount → Option (Option UserAccount)
  | identityLinked acceptance, id, committed | invitationAccepted acceptance, id, committed
  | accountReread acceptance _, id, committed =>
      if id = acceptance.account.id then
        some (committed.map (UserAccounts.link acceptance.request.user acceptance.request.now))
      else none
  | _, _, _ => none

def invitationClaim : Session → InvitationId → Option InvitationRow →
    Option (Option InvitationRow)
  | invitationAccepted acceptance, id, committed | accountReread acceptance _, id, committed =>
      if id = acceptance.invitation.id then
        some (committed.map (UserAccountInvitations.asAccepted acceptance.request.now))
      else none
  | invitationRevoked request _, id, committed =>
      if id = request.invitationId then
        some (committed.map (UserAccountInvitations.asRevoked request.now))
      else none
  | dueExpired creation, id, committed =>
      if id ∈ creation.expired then some (committed.map UserAccountInvitations.asExpired) else none
  | invitationInserted creation row, id, committed =>
      if id = row.id then some (some row)
      else if id ∈ creation.expired then some (committed.map UserAccountInvitations.asExpired)
      else none
  | _, _, _ => none

structure Unclaiming (session : Session) : Prop where
  accounts : ∀ id committed, session.accountClaim id committed = none
  invitations : ∀ id committed, session.invitationClaim id committed = none

/-- Which rows a session claims does not depend on the rows. -/
theorem accountClaim_none {session : Session} {id : UserAccountId} {committed : Option UserAccount}
    (unclaimed : session.accountClaim id committed = none) (other : Option UserAccount) :
    session.accountClaim id other = none := by
  cases session <;> simp_all [accountClaim]

theorem invitationClaim_none {session : Session} {id : InvitationId}
    {committed : Option InvitationRow} (unclaimed : session.invitationClaim id committed = none)
    (other : Option InvitationRow) : session.invitationClaim id other = none := by
  cases session with
  | invitationInserted creation row =>
      simp only [invitationClaim] at unclaimed ⊢
      by_cases own : id = row.id
      · rw [if_pos own] at unclaimed
        cases unclaimed
      · rw [if_neg own] at unclaimed ⊢
        simpa using unclaimed
  | _ => simp_all [invitationClaim]

end Session

end SwiyuIssuer.Linking
