import SwiyuIssuer.Library.Claims
import SwiyuIssuer.Oidc.Effects
import SwiyuIssuer.Oidc.Moves

/-! What the local variables of a request are known to say about the database, in every
interleaving. -/

namespace SwiyuIssuer.Oidc

open Library Persistence StatusStore

/-- The request presented the code of the offer it found. -/
def Redemption.Presents (redemption : Redemption) : Prop :=
  redemption.offer.preAuthCode = some redemption.request.preAuthorizedCode

def Minted (sessions : TxId → Session) (nonce : Nonce) : Prop :=
  ∃ q redemption token, sessions q = .tokenIssued redemption token nonce

/-- One `/token` request returned both secrets that the grant rests on. -/
def Redeemed (sessions : TxId → Session) (grant : Grant) : Prop :=
  ∃ q redemption, sessions q = .tokenIssued redemption grant.token grant.nonce

structure Bearer.Checked (db : Database) (bearer : Bearer) : Prop where
  presented : bearer.request.bearer = .ok bearer.token.tokenHash
  live : bearer.checkedAt < bearer.token.expiresAt
  issuer : bearer.token.issuerId = bearer.issuerId
  stands : db.Stands bearer.token

structure Reading.Checked (db : Database) (reading : Reading) : Prop
    extends bearer : Bearer.Checked db reading.toBearer where
  same : reading.offer.id = reading.token.offerId

structure Issuance.Checked (db : Database) (issuance : Issuance) : Prop
    extends reading : Reading.Checked db issuance.toReading where
  signer : issuance.issuer.id = issuance.issuerId

structure Consumption.Checked (state : State) (t : TxId) (consumption : Consumption) : Prop
    extends issuance : Issuance.Checked state.database consumption.toIssuance where
  hash : consumption.nonce.nonceHash = consumption.proof.nonce
  unexpired : consumption.now < consumption.nonce.expiresAt
  accepted : (t, consumption.nonce) ∈ state.accepted
  minted : Minted state.sessions consumption.nonce

/-- The row lock is held on an offer that is still pending. -/
structure Grant.Checked (state : State) (t : TxId) (grant : Grant) : Prop
    extends consumption : Consumption.Checked state t grant.toConsumption where
  offer : ∃ offer, state.database.offers grant.issued.id = some offer ∧ offer.state = .pending ∧
    grant.issued = offer.asIssued grant.now
  key : grant.issued.id = grant.token.offerId
  owner : grant.issued.issuerId = grant.token.issuerId
  redeemed : Redeemed state.sessions grant

structure Draft.Checked (state : State) (t : TxId) (draft : Draft) : Prop
    extends grant : Grant.Checked state t draft.toGrant where
  rowOffer : draft.row.credentialOfferId = draft.issued.id
  rowIssuer : draft.row.issuerId = draft.issued.issuerId
  absent : state.database.credentials draft.row.id = none

structure Draft.Delivered (state : State) (t : TxId) (draft : Draft) : Prop
    extends consumption : Consumption.Checked state t draft.toConsumption where
  offer : state.database.offers draft.issued.id = some draft.issued
  issued : draft.issued.state = .issued
  key : draft.issued.id = draft.token.offerId
  redeemed : Redeemed state.sessions draft.toGrant

def OwnIssuer (db : Database) (tenantId : TenantId) (issuerId : IssuerId) : Prop :=
  ∃ issuer, db.issuers issuerId = some issuer ∧ issuer.tenantId = tenantId

def Facts (state : State) (t : TxId) : Session → Prop
  | .offerFound redemption => redemption.Presents
  | .tokenInserted redemption token =>
      redemption.Presents ∧ token.offerId = redemption.offer.id ∧ state.database.Stands token
  | .tokenIssued redemption token nonce =>
      redemption.Presents ∧ token.offerId = redemption.offer.id ∧ state.database.Stands token ∧
        nonce.offerId = redemption.offer.id
  | .bearerFound bearer => bearer.Checked state.database
  | .offerRead reading | .typeRead reading _ => reading.Checked state.database
  | .proofVerified issuance => issuance.Checked state.database
  | .nonceConsumed consumption => consumption.Checked state t
  | .offerLocked grant => grant.Checked state t
  | .credentialInserted draft | .offerIssued draft | .tokenDeleted draft => draft.Checked state t
  | .credentialIssued draft => draft.Delivered state t
  | .offerProbed request _ | .typeProbed request _ _ =>
      OwnIssuer state.database request.tenantId request.issuerId
  | .issuerLocked request | .issuerMarked request | .offersCancelled request =>
      OwnIssuer state.database request.tenantId request.issuerId
  | _ => True

structure Sound (state : State) : Prop where
  issuers : Held state.issuers state.sessions Session.issuerClaim
  offers : Held state.offers state.sessions Session.offerClaim
  accessTokens : Held state.accessTokens state.sessions Session.tokenClaim
  credentials : Held state.credentials state.sessions Session.credentialClaim
  coherent : state.database.Coherent
  issuersKeyed : ∀ id issuer, state.database.issuers id = some issuer → issuer.id = id
  tokensKeyed : ∀ id token, state.database.accessTokens id = some token → token.offerId = id
  listed : ∀ id offer, state.database.offers id = some offer → id ∈ state.offerIds
  nonces : ∀ hash nonce, state.nonces hash = some nonce →
    nonce.nonceHash = hash ∧ hash ∈ state.drawnNonces ∧ Minted state.sessions nonce
  accepted : ∀ t nonce, (t, nonce) ∈ state.accepted →
    nonce.nonceHash ∈ state.drawnNonces ∧ state.nonces nonce.nonceHash = none
  acceptedOnce : ∀ t nonce other rival, (t, nonce) ∈ state.accepted →
    (other, rival) ∈ state.accepted → nonce.nonceHash = rival.nonceHash → other = t
  holding : ∀ t, Facts state t (state.sessions t)

theorem sound_initial {state : State} (initial : state.Initial) : Sound state := by
  have idle : ∀ t, state.sessions t = .idle := initial.sessions
  have noOffer : ∀ id, state.database.offers id = none := by
    intro id
    exact congrArg Cell.committed (initial.offers id)
  have noToken : ∀ id, state.database.accessTokens id = none := by
    intro id
    exact congrArg Cell.committed (initial.accessTokens id)
  have noCredential : ∀ id, state.database.credentials id = none := by
    intro id
    exact congrArg Cell.committed (initial.credentials id)
  refine ⟨?_, ?_, ?_, ?_, ?_, initial.keyed, ?_, ?_, ?_, ?_, ?_, ?_⟩
  · intro key t version
    simp [initial.issuers key, idle t, Session.issuerClaim]
  · intro key t version
    simp [initial.offers key, idle t, Session.offerClaim]
  · intro key t version
    simp [initial.accessTokens key, idle t, Session.tokenClaim]
  · intro key t version
    simp [initial.credentials key, idle t, Session.credentialClaim]
  · constructor <;> simp [noOffer, noCredential]
  · simp [noToken]
  · simp [noOffer]
  · simp [initial.nonces]
  · simp [initial.accepted]
  · simp [initial.accepted]
  · intro t
    rw [idle t]
    trivial

section Move

variable {config : Config} {state after : State} {t : TxId} {action : Action}

@[simp] theorem database_rollback (state : State) (t : TxId) (session : Session) :
    (state.rollback t session).database = state.database := by
  simp [State.database, State.rollback]

@[simp] theorem sessions_goto (state : State) (t : TxId) (session : Session) :
    (state.goto t session).sessions t = session := Function.update_self ..

@[simp] theorem sessions_rollback (state : State) (t : TxId) (session : Session) :
    (state.rollback t session).sessions t = session := Function.update_self ..

@[simp] theorem sessions_commit (state : State) (t : TxId) (session : Session) :
    (state.commit t session).sessions t = session := Function.update_self ..

@[simp] theorem sessions_withToken (state : State) (t : TxId) (redemption : Redemption)
    (token : AccessToken) : (state.withToken t redemption token).sessions t =
      .tokenInserted redemption token := Function.update_self ..

@[simp] theorem sessions_withNonce (state : State) (t : TxId) (redemption : Redemption)
    (token : AccessToken) (nonce : Nonce) :
    (state.withNonce t redemption token nonce).sessions t = .tokenIssued redemption token nonce :=
  Function.update_self ..

@[simp] theorem sessions_withoutNonce (state : State) (t : TxId) (consumption : Consumption) :
    (state.withoutNonce t consumption).sessions t = .nonceConsumed consumption :=
  Function.update_self ..

@[simp] theorem sessions_withOffer (state : State) (t : TxId) (offer : CredentialOffer) :
    (state.withOffer t offer).sessions t = .offerCreated (.ok offer) := Function.update_self ..

@[simp] theorem sessions_withCancelled (state : State) (t : TxId) (request : CancelRequest)
    (moved : CredentialOffer) (now : DateTime) :
    (state.withCancelled t request moved now).sessions t = .cancelAnswered (.ok moved) :=
  Function.update_self ..

@[simp] theorem sessions_withPendingCancelled (state : State) (t : TxId) (request : MarkRequest) :
    (state.withPendingCancelled t request).sessions t = .offersCancelled request :=
  Function.update_self ..

@[simp] theorem database_withToken (state : State) (t : TxId) (redemption : Redemption)
    (token : AccessToken) : (state.withToken t redemption token).database =
      { state.database with
        accessTokens := Function.update state.database.accessTokens token.offerId
          (some token) } := by
  simp [State.database, State.withToken, State.goto, Table.snapshot_autocommit]

@[simp] theorem database_withOffer (state : State) (t : TxId) (offer : CredentialOffer) :
    (state.withOffer t offer).database =
      { state.database with
        offers := Function.update state.database.offers offer.id (some offer) } := by
  simp [State.database, State.withOffer, State.goto, Table.snapshot_autocommit]

theorem database_withCancelled (state : State) (t : TxId) (request : CancelRequest)
    (moved : CredentialOffer) (now : DateTime) {row : CredentialOffer}
    (present : (state.offers request.offerId).committed = some row) :
    (state.withCancelled t request moved now).database =
      { state.database with
        offers := Function.update state.database.offers request.offerId
          (some (row.asCancelled now)) } := by
  simp [State.database, State.withCancelled, State.goto, Table.snapshot_autocommit, present]

@[simp] theorem database_withPendingCancelled (state : State) (t : TxId) (request : MarkRequest) :
    (state.withPendingCancelled t request).database = state.database := by
  simp only [State.database, State.withPendingCancelled, State.goto, Database.mk.injEq, true_and,
    and_true]
  funext id
  simp only [Table.snapshot]
  split <;> rfl

theorem commitIssuance_database (sound : Sound state) (next : Session) {draft : Draft}
    (at_ : state.sessions t = .tokenDeleted draft) :
    (state.commit t next).database = { state.database with
      offers := Function.update state.database.offers draft.issued.id (some draft.issued)
      accessTokens := Function.update state.database.accessTokens draft.issued.id none
      credentials := Function.update state.database.credentials draft.row.id
        (some draft.row) } := by
  have facts := sound.holding t
  rw [at_] at facts
  rcases facts.offer with ⟨offer, stored, _, same⟩
  have issuers : (state.issuers.commit t).snapshot = state.issuers.snapshot := by
    apply sound.issuers.snapshot_unclaimed
    intro id committed
    rw [at_]
    rfl
  have offers : (state.offers.commit t).snapshot =
      Function.update state.offers.snapshot draft.issued.id (some draft.issued) := by
    apply sound.offers.snapshot_claimed
    · have committed : (state.offers draft.issued.id).committed = some offer := stored
      rw [at_, committed, Session.offerClaim, if_pos rfl, Option.map_some, same,
        CredentialOffers.writeIssued_asIssued]
    · intro other different
      rw [at_]
      exact if_neg different
  have accessTokens : (state.accessTokens.commit t).snapshot =
      Function.update state.accessTokens.snapshot draft.issued.id none := by
    apply sound.accessTokens.snapshot_claimed
    · rw [at_]
      exact if_pos facts.key
    · intro other different
      rw [at_]
      exact if_neg (facts.key ▸ different)
  have credentials : (state.credentials.commit t).snapshot =
      Function.update state.credentials.snapshot draft.row.id (some draft.row) := by
    apply sound.credentials.snapshot_claimed
    · rw [at_]
      exact if_pos rfl
    · intro other different
      rw [at_]
      exact if_neg different
  simp only [State.database, State.commit, issuers, offers, accessTokens, credentials]

theorem commitMark_database (sound : Sound state) (next : Session) {request : MarkRequest}
    (at_ : state.sessions t = .offersCancelled request) :
    ∃ issuer, state.database.issuers request.issuerId = some issuer ∧
      issuer.tenantId = request.tenantId ∧
      (state.commit t next).database = { state.database with
        issuers := Function.update state.database.issuers request.issuerId
          (some { issuer with state := some .deactivated })
        offers := state.database.cancelPending request } := by
  have facts := sound.holding t
  rw [at_] at facts
  rcases facts with ⟨issuer, present, tenant⟩
  refine ⟨issuer, present, tenant, ?_⟩
  have issuers : (state.issuers.commit t).snapshot = Function.update state.issuers.snapshot
      request.issuerId (some { issuer with state := some .deactivated }) := by
    apply sound.issuers.snapshot_claimed
    · have committed : (state.issuers request.issuerId).committed = some issuer := present
      rw [at_, committed]
      exact if_pos rfl
    · intro other different
      rw [at_]
      exact if_neg different
  have offers : (state.offers.commit t).snapshot = state.database.cancelPending request := by
    funext id
    have here : (state.offers id).committed = state.database.offers id := rfl
    rw [Table.snapshot, sound.offers.committed_commit id, at_, here]
    by_cases pending : CredentialOffers.isPending request.tenantId request.issuerId
      (state.database.offers id) = true
    · simp only [Session.offerClaim, Database.cancelPending, pending, if_true, Option.getD_some]
    · simp only [Session.offerClaim, Database.cancelPending, pending, if_false, Option.getD_none,
        Bool.false_eq_true]
  have accessTokens : (state.accessTokens.commit t).snapshot = state.accessTokens.snapshot := by
    apply sound.accessTokens.snapshot_unclaimed
    intro id committed
    rw [at_]
    rfl
  have credentials : (state.credentials.commit t).snapshot = state.credentials.snapshot := by
    apply sound.credentials.snapshot_unclaimed
    intro id committed
    rw [at_]
    rfl
  simp only [State.database, State.commit, issuers, offers, accessTokens, credentials]

/-- Each statement has one of the effects on the committed database. -/
theorem move_effect (sound : Sound state) (move : Move config state t action after) :
    state.database.Effect after.database := by
  cases move with
  | advance action next reads => exact .unchanged
  | refuse action handler next from_ to_ =>
      rw [database_rollback]
      exact .unchanged
  | insertToken redemption tokenHash at_ unlocked absent =>
      rw [database_withToken]
      exact .token (redemption.token config tokenHash) absent
  | insertNonce redemption token nonceHash at_ fresh absent => exact .nonces _
  | consumeNonce issuance nonce at_ present live => exact .nonces _
  | lockOffer consumption offer at_ minted free seen tenant issuer pending =>
      simp [State.database, State.goto, Database.Effect.unchanged]
  | insertCredential grant sealing at_ free absent =>
      simp [State.database, State.goto, Database.Effect.unchanged]
  | setIssued draft at_ free =>
      simp [State.database, State.goto, Database.Effect.unchanged]
  | deleteToken draft accessTokens at_ deleted =>
      simp [State.database, State.goto, AccessTokens.deleteByHash_snapshot deleted,
        Database.Effect.unchanged]
  | insertOffer request expiresIn vct id code now at_ unheld unlocked absent =>
      generalize made : CredentialOffer.new id request.tenantId request.issuerId
        (some request.credentialTypeId) vct request.claims code (now + expiresIn) now = offer
      have key : offer.id = id := by rw [← made]; rfl
      rw [database_withOffer]
      exact .offer offer (by rw [key]; exact absent) (by rw [← made]; rfl)
  | cancel request moved row now at_ unlocked present pending =>
      have key : row.id = request.offerId := sound.coherent.keyed _ _ present
      rw [database_withCancelled state t request moved now present, ← key]
      exact .cancel row now (by rw [key]; exact present) pending
  | lockIssuer request issuer at_ free seen tenant =>
      simp [State.database, State.goto, Database.Effect.unchanged]
  | setState request at_ free =>
      simp [State.database, State.goto, Database.Effect.unchanged]
  | cancelAllPending request at_ free =>
      rw [database_withPendingCancelled]
      exact .unchanged
  | commit acknowledged next commits =>
      cases at_ : state.sessions t with
      | tokenDeleted draft =>
          have facts := sound.holding t
          rw [at_] at facts
          rcases facts.offer with ⟨offer, stored, pending, same⟩
          have key : offer.id = draft.issued.id := sound.coherent.keyed _ _ stored
          rw [commitIssuance_database sound next at_, ← key]
          have owner : draft.row.issuerId = offer.issuerId := by rw [facts.rowIssuer, same]; rfl
          have effect := Database.Effect.issue offer draft.now draft.row (key ▸ stored) pending
            facts.absent (facts.rowOffer.trans key.symm) owner
          rwa [← same] at effect
      | offersCancelled request =>
          rcases commitMark_database sound next at_ with ⟨issuer, present, tenant, written⟩
          rw [written]
          exact .deactivate request issuer present tenant
      | _ =>
          rw [at_] at commits
          cases commits

end Move

end SwiyuIssuer.Oidc
