import SwiyuIssuer.Domain.Json

/-! Credential offers, and the two secrets that redeem one.

An access token or a nonce is known here by the hash that the database keeps of it. -/

namespace SwiyuIssuer

inductive CredentialOfferState
  | pending
  | issued
  | cancelled
  | expired
deriving DecidableEq, Repr

namespace CredentialOfferState

def asStr : CredentialOfferState → String
  | pending => "pending"
  | issued => "issued"
  | cancelled => "cancelled"
  | expired => "expired"

def parse : String → Except DomainError CredentialOfferState
  | "pending" => .ok pending
  | "issued" => .ok issued
  | "cancelled" => .ok cancelled
  | "expired" => .ok expired
  | other => .error (.invalidInput ("unknown credential offer state: " ++ other))

theorem parse_asStr (state : CredentialOfferState) : parse state.asStr = .ok state := by
  cases state <;> rfl

end CredentialOfferState

structure PreAuthCode where
  text : String
deriving DecidableEq, Repr

structure AccessTokenHash where
  text : String
deriving DecidableEq, Repr

structure NonceHash where
  text : String
deriving DecidableEq, Repr

/-- A row of `oidc_access_tokens`. -/
structure AccessToken where
  tokenHash : AccessTokenHash
  tenantId : TenantId
  issuerId : IssuerId
  offerId : CredentialOfferId
  expiresAt : DateTime
deriving DecidableEq, Repr

/-- A row of `oidc_nonces`. -/
structure Nonce where
  nonceHash : NonceHash
  tenantId : TenantId
  issuerId : IssuerId
  offerId : CredentialOfferId
  expiresAt : DateTime
deriving DecidableEq, Repr

structure CredentialOffer where
  id : CredentialOfferId
  tenantId : TenantId
  issuerId : IssuerId
  vct : String
  credentialTypeId : Option CredentialTypeId
  claims : Json
  state : CredentialOfferState
  preAuthCode : Option PreAuthCode
  expiresAt : DateTime
  createdAt : DateTime
  issuedAt : Option DateTime
  cancelledAt : Option DateTime

namespace CredentialOffer

/-- `CredentialOffer::new`, under the id it generates and the clock reading it takes. -/
def new (id : CredentialOfferId) (tenantId : TenantId) (issuerId : IssuerId)
    (credentialTypeId : Option CredentialTypeId) (vct : String) (claims : Json)
    (preAuthCode : PreAuthCode) (expiresAt createdAt : DateTime) : CredentialOffer where
  id := id
  tenantId := tenantId
  issuerId := issuerId
  vct := vct
  credentialTypeId := credentialTypeId
  claims := claims
  state := .pending
  preAuthCode := some preAuthCode
  expiresAt := expiresAt
  createdAt := createdAt
  issuedAt := none
  cancelledAt := none

def isExpiredAt (offer : CredentialOffer) (now : DateTime) : Bool := decide (offer.expiresAt ≤ now)

def observedState (offer : CredentialOffer) (now : DateTime) : CredentialOfferState :=
  if offer.state = .pending ∧ offer.isExpiredAt now then .expired else offer.state

def asIssued (offer : CredentialOffer) (now : DateTime) : CredentialOffer :=
  { offer with state := .issued, issuedAt := some now, preAuthCode := none }

def asCancelled (offer : CredentialOffer) (now : DateTime) : CredentialOffer :=
  { offer with state := .cancelled, cancelledAt := some now, preAuthCode := none }

def tryIssue (offer : CredentialOffer) (now : DateTime) : Except DomainError CredentialOffer :=
  match offer.state with
  | .pending =>
      if offer.isExpiredAt now then .error .stateTransitionNotAllowed else .ok (offer.asIssued now)
  | _ => .error .stateTransitionNotAllowed

def tryCancel (offer : CredentialOffer) (now : DateTime) : Except DomainError CredentialOffer :=
  match offer.state with
  | .pending => .ok (offer.asCancelled now)
  | _ => .error .stateTransitionNotAllowed

theorem observedState_pending {offer : CredentialOffer} {now : DateTime} :
    offer.observedState now = .pending ↔ offer.state = .pending ∧ now < offer.expiresAt := by
  unfold observedState isExpiredAt
  split
  · next expired =>
      have late : offer.expiresAt ≤ now := of_decide_eq_true expired.2
      constructor
      · intro absurd_
        cases absurd_
      · intro fresh
        exact absurd late (Int.not_le.mpr fresh.2)
  · next unexpired =>
      constructor
      · intro pending
        have early : ¬ offer.expiresAt ≤ now := fun late =>
          unexpired ⟨pending, decide_eq_true late⟩
        exact ⟨pending, Int.not_le.mp early⟩
      · exact fun fresh => fresh.1

theorem tryIssue_ok {offer issued : CredentialOffer} {now : DateTime} :
    offer.tryIssue now = .ok issued ↔
      offer.state = .pending ∧ now < offer.expiresAt ∧ issued = offer.asIssued now := by
  unfold tryIssue isExpiredAt
  split
  · next pending =>
      split
      · next late =>
          have expired : offer.expiresAt ≤ now := of_decide_eq_true late
          constructor
          · intro absurd_
            cases absurd_
          · intro fresh
            exact absurd expired (Int.not_le.mpr fresh.2.1)
      · next early =>
          have fresh : ¬ offer.expiresAt ≤ now := fun late => early (decide_eq_true late)
          constructor
          · intro issues
            cases issues
            exact ⟨pending, Int.not_le.mp fresh, rfl⟩
          · rintro ⟨_, _, rfl⟩
            rfl
  · next settled =>
      constructor
      · intro absurd_
        cases absurd_
      · intro fresh
        exact absurd fresh.1 settled

theorem tryCancel_ok {offer cancelled : CredentialOffer} {now : DateTime} :
    offer.tryCancel now = .ok cancelled ↔
      offer.state = .pending ∧ cancelled = offer.asCancelled now := by
  unfold tryCancel
  split
  · next pending =>
      constructor
      · intro cancels
        cases cancels
        exact ⟨pending, rfl⟩
      · rintro ⟨_, rfl⟩
        rfl
  · next settled =>
      constructor
      · intro absurd_
        cases absurd_
      · intro fresh
        exact absurd fresh.1 settled

end CredentialOffer

end SwiyuIssuer
