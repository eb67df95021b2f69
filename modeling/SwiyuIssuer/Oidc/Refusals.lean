import SwiyuIssuer.Oidc.Progress

/-! When an error response of `token` or `credential` leaves no trace in the database. -/

namespace SwiyuIssuer.Oidc

open Library Persistence StatusStore

namespace Session

/-- Before the first own write of `token` or `credential`, or refused. -/
def untouched : Session → Bool
  | .idle | .tokenIssuerRead .. | .offerFound _ | .tokenRefused _ | .bearerFound _ | .offerRead _
  | .typeRead .. | .proofVerified _ | .credentialRefused _ => true
  | _ => false

/-- Between the first own write of `token` or `credential` and its response. -/
def touched : Session → Bool
  | .tokenInserted .. | .nonceConsumed _ | .offerLocked _ | .credentialInserted _ | .offerIssued _
  | .tokenDeleted _ => true
  | _ => false

def refused : Session → Bool
  | .tokenRefused _ | .credentialRefused _ => true
  | _ => false

end Session

/-- No statement of a request fails, refuses it or loses its answer once the request has written,
and the nonce that a request consumes is one of its offer. -/
def carried (state : State) (event : Event) : Bool :=
  match event.action, state.sessions event.t with
  | .fail _, session => !session.touched
  | .commit acknowledged, .tokenDeleted _ => acknowledged
  | .consumeByHash, .proofVerified issuance =>
      (Nonces.consumeByHash state.nonces issuance.proof.nonce issuance.now).2.all fun nonce =>
        nonce.offerId == issuance.offer.id
  | .findByIdForUpdate, .nonceConsumed consumption =>
      ((state.offers consumption.token.offerId).read event.t).any fun offer =>
        offer.observedState consumption.now == .pending
  | .insertCredential sealing, .offerLocked _ =>
      ((state.credentials sealing.credentialId).read event.t).isNone
  | _, _ => true

variable {config : Config} {state after : State} {t : TxId}

section Touched

variable {nonceHash : NonceHash} {sealing : Sealing}

end Touched

/-- A step of the run, and one of `t` only if it leaves the database as it is. -/
def Harmless (config : Config) (t : TxId) (state : State) (event : Event) (after : State) : Prop :=
  state.step config event = some after ∧ (event.t = t → after.database = state.database)

end SwiyuIssuer.Oidc
