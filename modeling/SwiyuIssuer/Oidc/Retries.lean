import Mathlib.Data.Fintype.EquivFin
import SwiyuIssuer.Oidc.Lifecycle
import SwiyuIssuer.Oidc.Refusals

/-! Retrying an offer: as long as no request is cut off after its first write, a pending offer can
still be redeemed. -/

namespace SwiyuIssuer.Oidc

open Library Persistence StatusStore Worker

instance : Infinite AccessTokenHash :=
  Infinite.of_injective AccessTokenHash.mk fun _ _ same => (AccessTokenHash.mk.inj same)

instance : Infinite NonceHash :=
  Infinite.of_injective NonceHash.mk fun _ _ same => (NonceHash.mk.inj same)

instance (label : String) : Infinite (Id label) :=
  Infinite.of_injective Id.mk fun _ _ same => (Id.mk.inj same)

variable {config : Config} {state after : State} {t : TxId} {now : DateTime}

/-- Only finitely many requests have been made and rows written. -/
structure Reached (state : State) : Prop where
  known : Known state
  sessions : {t | state.sessions t ≠ .idle}.Finite
  credentials : {id | state.credentials id ≠ Cell.clean none}.Finite

/-- The nonce that a `/credential` request has consumed. -/
def Session.spent : Session → Option Nonce
  | .nonceConsumed consumption => some consumption.nonce
  | .offerLocked grant => some grant.nonce
  | .credentialInserted draft | .offerIssued draft | .tokenDeleted draft
  | .credentialIssued draft => some draft.nonce
  | _ => none

section Carried

variable {action : Action}

end Carried

def Session.redemption : Session → Option Redemption
  | .tokenInserted redemption _ | .tokenIssued redemption _ _ => some redemption
  | _ => none

/-- What was minted for the offer, if anything, has not expired. -/
def Unexpired (config : Config) (state : State) (id : CredentialOfferId) (now : DateTime) : Prop :=
  ∀ q redemption, (state.sessions q).redemption = some redemption → redemption.offer.id = id →
    now < redemption.now + config.accessTokenTtl ∧ now < redemption.now + config.cNonceTtl

end SwiyuIssuer.Oidc
