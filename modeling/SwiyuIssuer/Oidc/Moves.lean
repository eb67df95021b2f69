import SwiyuIssuer.Oidc.Store

/-! Everything one statement can do. -/

namespace SwiyuIssuer.Oidc

open Library Persistence StatusStore Worker

inductive Handler
  | token
  | credential
  | create
  | cancel
  | mark
deriving DecidableEq

/-- The handler that an open session belongs to. -/
def Session.handler : Session → Option Handler
  | .tokenIssuerRead .. | .offerFound _ | .tokenInserted .. => some .token
  | .bearerFound _ | .offerRead _ | .typeRead .. | .proofVerified _ | .nonceConsumed _
  | .offerLocked _ | .credentialInserted _ | .offerIssued _ | .tokenDeleted _ => some .credential
  | .offerProbed .. | .typeProbed .. => some .create
  | .cancelProbed _ | .cancelLoaded .. => some .cancel
  | .issuerLocked _ | .issuerMarked _ | .offersCancelled _ => some .mark
  | _ => none

/-- How a handler can return without having committed anything in its last statement. -/
inductive Refusal : Handler → Session → Prop
  | token (error : OAuthError) : Refusal .token (.tokenRefused error)
  | credential (error : OAuthError) : Refusal .credential (.credentialRefused error)
  | create (error : ApiError) : Refusal .create (.offerCreated (.error error))
  | cancel (response : Except ApiError CredentialOffer) : Refusal .cancel (.cancelAnswered response)
  | mark (outcome : StepOutcome) : Refusal .mark (.markEnded outcome)

/-- The statements that only read. -/
inductive Advance (state : State) (t : TxId) : Session → Session → Prop
  | tokenIssuer (request : TokenRequest) (issuerId : IssuerId) (issuer : Issuer) :
      Advance state t .idle (.tokenIssuerRead request issuerId issuer)
  | offer (request : TokenRequest) (issuerId : IssuerId) (issuer : Issuer)
      (offer : CredentialOffer) (now : DateTime) (id : CredentialOfferId)
      (seen : (state.offers id).read t = some offer)
      (code : offer.preAuthCode = some request.preAuthorizedCode) (pending : offer.state = .pending)
      (fresh : now < offer.expiresAt) (tenant : offer.tenantId = issuer.tenantId)
      (scope : offer.issuerId = issuerId) :
      Advance state t (.tokenIssuerRead request issuerId issuer)
        (.offerFound ⟨request, issuer.tenantId, issuerId, offer, now⟩)
  | bearer (request : CredentialRequest) (token : AccessToken) (now : DateTime)
      (id : CredentialOfferId) (seen : (state.accessTokens id).read t = some token)
      (presented : request.bearer = .ok token.tokenHash) (live : now < token.expiresAt) :
      Advance state t .idle (.bearerFound ⟨request, token.issuerId, token, now⟩)
  | reading (bearer : Bearer) (offer : CredentialOffer) (now : DateTime)
      (seen : (state.offers bearer.token.offerId).read t = some offer)
      (pending : offer.state = .pending) (fresh : now < offer.expiresAt) :
      Advance state t (.bearerFound bearer)
        (.offerRead { bearer with offer := offer, now := now })
  | type (reading : Reading) (validity : Int) :
      Advance state t (.offerRead reading) (.typeRead reading validity)
  | proof (reading : Reading) (validity : Int) (issuer : Issuer) (assertionKeyId : KeyPairId)
      (proof : ProofClaims) (seen : (state.issuers reading.issuerId).read t = some issuer) :
      Advance state t (.typeRead reading validity)
        (.proofVerified { reading with
          validity := validity, issuer := issuer, assertionKeyId := assertionKeyId,
          proof := proof })
  | probe (request : CreateRequest) (expiresIn : Int) (issuer : Issuer)
      (seen : (state.issuers request.issuerId).read t = some issuer)
      (tenant : issuer.tenantId = request.tenantId) :
      Advance state t .idle (.offerProbed request expiresIn)
  | probeType (request : CreateRequest) (expiresIn : Int) (vct : String) :
      Advance state t (.offerProbed request expiresIn) (.typeProbed request expiresIn vct)
  | probeCancel (request : CancelRequest) : Advance state t .idle (.cancelProbed request)
  | readCancel (request : CancelRequest) (moved : CredentialOffer) (now : DateTime) :
      Advance state t (.cancelProbed request) (.cancelLoaded request moved now)

namespace State

variable (config : Config) (state : State) (t : TxId)

def withToken (redemption : Redemption) (token : AccessToken) : State :=
  { state with
    accessTokens := Function.update state.accessTokens token.offerId
      ((state.accessTokens token.offerId).autocommit fun _ => some token)
    drawnTokens := token.tokenHash :: state.drawnTokens }.goto t (.tokenInserted redemption token)

def withNonce (redemption : Redemption) (token : AccessToken) (nonce : Nonce) : State :=
  { state with
    nonces := Function.update state.nonces nonce.nonceHash (some nonce)
    drawnNonces := nonce.nonceHash :: state.drawnNonces }.goto t
      (.tokenIssued redemption token nonce)

def withoutNonce (consumption : Consumption) : State :=
  { state with
    nonces := Function.update state.nonces consumption.proof.nonce none
    accepted := (t, consumption.nonce) :: state.accepted }.goto t (.nonceConsumed consumption)

def withOffer (offer : CredentialOffer) : State :=
  { state with
    offers := Function.update state.offers offer.id
      ((state.offers offer.id).autocommit fun _ => some offer)
    offerIds := offer.id :: state.offerIds }.goto t (.offerCreated (.ok offer))

def withCancelled (request : CancelRequest) (moved : CredentialOffer) (now : DateTime) : State :=
  { state with
    offers := Function.update state.offers request.offerId
      ((state.offers request.offerId).autocommit (Option.map fun row => row.asCancelled now))
    }.goto t (.cancelAnswered (.ok moved))

def withPendingCancelled (request : MarkRequest) : State :=
  { state with
    offers := fun id =>
      if CredentialOffers.isPending request.tenantId request.issuerId
          ((state.offers id).read t) then
        (state.offers id).update t (Option.map fun row => row.asCancelled request.now)
      else state.offers id }.goto t (.offersCancelled request)

end State

/-- The token of a redemption, under the hash drawn for it. -/
def Redemption.token (config : Config) (redemption : Redemption) (tokenHash : AccessTokenHash) :
    AccessToken :=
  ⟨tokenHash, redemption.tenantId, redemption.issuerId, redemption.offer.id,
    redemption.now + config.accessTokenTtl⟩

def Redemption.nonce (config : Config) (redemption : Redemption) (nonceHash : NonceHash) : Nonce :=
  ⟨nonceHash, redemption.tenantId, redemption.issuerId, redemption.offer.id,
    redemption.now + config.cNonceTtl⟩

/-- What a session commits. -/
inductive Commits : Session → Session → Prop
  | issuance (draft : Draft) : Commits (.tokenDeleted draft) (.credentialIssued draft)
  | unacknowledged (draft : Draft) (error : OAuthError) :
      Commits (.tokenDeleted draft) (.credentialRefused error)
  | deactivation (request : MarkRequest) (outcome : StepOutcome) :
      Commits (.offersCancelled request) (.markEnded outcome)

inductive Move (config : Config) (state : State) (t : TxId) : Action → State → Prop
  | advance (action : Action) (next : Session) (reads : Advance state t (state.sessions t) next) :
      Move config state t action (state.goto t next)
  | refuse (action : Action) (handler : Handler) (next : Session)
      (from_ : state.sessions t = .idle ∨ (state.sessions t).handler = some handler)
      (to_ : Refusal handler next) : Move config state t action (state.rollback t next)
  | insertToken (redemption : Redemption) (tokenHash : AccessTokenHash)
      (at_ : state.sessions t = .offerFound redemption)
      (unlocked : (state.accessTokens redemption.offer.id).writer = none)
      (absent : (state.accessTokens redemption.offer.id).committed = none) :
      Move config state t (.insertAccessToken tokenHash)
        (state.withToken t redemption (redemption.token config tokenHash))
  | insertNonce (redemption : Redemption) (token : AccessToken) (nonceHash : NonceHash)
      (at_ : state.sessions t = .tokenInserted redemption token)
      (fresh : nonceHash ∉ state.drawnNonces) (absent : state.nonces nonceHash = none) :
      Move config state t (.insertNonce nonceHash)
        (state.withNonce t redemption token (redemption.nonce config nonceHash))
  | consumeNonce (issuance : Issuance) (nonce : Nonce)
      (at_ : state.sessions t = .proofVerified issuance)
      (present : state.nonces issuance.proof.nonce = some nonce)
      (live : issuance.now < nonce.expiresAt) :
      Move config state t .consumeByHash
        (state.withoutNonce t { issuance with nonce := nonce })
  | lockOffer (consumption : Consumption) (offer : CredentialOffer)
      (at_ : state.sessions t = .nonceConsumed consumption)
      (minted : consumption.nonce.offerId = consumption.offer.id)
      (free : (state.offers consumption.token.offerId).free t = true)
      (seen : (state.offers consumption.token.offerId).read t = some offer)
      (tenant : offer.tenantId = consumption.token.tenantId)
      (issuer : offer.issuerId = consumption.token.issuerId)
      (pending : offer.state = .pending) :
      Move config state t .findByIdForUpdate
        ({ state with
          offers := state.offers.update t consumption.token.offerId fun row => row }.goto t
            (.offerLocked { consumption with issued := offer.asIssued consumption.now }))
  | insertCredential (grant : Grant) (sealing : Sealing)
      (at_ : state.sessions t = .offerLocked grant)
      (free : (state.credentials sealing.credentialId).free t = true)
      (absent : (state.credentials sealing.credentialId).read t = none) :
      Move config state t (.insertCredential sealing)
        ({ state with
          credentials := state.credentials.update t sealing.credentialId fun _ =>
            some (grant.draft sealing).row }.goto t (.credentialInserted (grant.draft sealing)))
  | setIssued (draft : Draft) (at_ : state.sessions t = .credentialInserted draft)
      (free : (state.offers draft.issued.id).free t = true) :
      Move config state t .setIssuedState
        ({ state with
          offers := state.offers.update t draft.issued.id
            (Option.map (CredentialOffers.writeIssued draft.issued)) }.goto t (.offerIssued draft))
  | deleteToken (draft : Draft) (accessTokens : Table TxId CredentialOfferId (Option AccessToken))
      (at_ : state.sessions t = .offerIssued draft)
      (deleted : AccessTokens.deleteByHash state.accessTokens t draft.token = some accessTokens) :
      Move config state t .deleteByHash
        ({ state with accessTokens := accessTokens }.goto t (.tokenDeleted draft))
  | insertOffer (request : CreateRequest) (expiresIn : Int) (vct : String)
      (id : CredentialOfferId) (code : PreAuthCode) (now : DateTime)
      (at_ : state.sessions t = .typeProbed request expiresIn vct)
      (unheld : (state.issuers request.issuerId).writer = none)
      (unlocked : (state.offers id).writer = none) (absent : (state.offers id).committed = none) :
      Move config state t (.insertOffer id code now)
        (state.withOffer t (CredentialOffer.new id request.tenantId request.issuerId
          (some request.credentialTypeId) vct request.claims code (now + expiresIn) now))
  | cancel (request : CancelRequest) (moved row : CredentialOffer) (now : DateTime)
      (at_ : state.sessions t = .cancelLoaded request moved now)
      (unlocked : (state.offers request.offerId).writer = none)
      (present : (state.offers request.offerId).committed = some row)
      (pending : row.state = .pending) :
      Move config state t .cancel (state.withCancelled t request moved now)
  | lockIssuer (request : MarkRequest) (issuer : Issuer) (at_ : state.sessions t = .idle)
      (free : (state.issuers request.issuerId).free t = true)
      (seen : (state.issuers request.issuerId).read t = some issuer)
      (tenant : issuer.tenantId = request.tenantId) :
      Move config state t (.lockIssuer request)
        ({ state with issuers := state.issuers.update t request.issuerId fun row => row }.goto t
          (.issuerLocked request))
  | setState (request : MarkRequest) (at_ : state.sessions t = .issuerLocked request)
      (free : (state.issuers request.issuerId).free t = true) :
      Move config state t .setState
        ({ state with
          issuers := state.issuers.update t request.issuerId
            (Option.map fun row => { row with state := some .deactivated }) }.goto t
              (.issuerMarked request))
  | cancelAllPending (request : MarkRequest) (at_ : state.sessions t = .issuerMarked request)
      (free : ∀ id ∈ state.offerIds,
        CredentialOffers.isPending request.tenantId request.issuerId
          ((state.offers id).read t) = true → (state.offers id).free t = true) :
      Move config state t .cancelAllPending (state.withPendingCancelled t request)
  | commit (acknowledged : Bool) (next : Session) (commits : Commits (state.sessions t) next) :
      Move config state t (.commit acknowledged) (state.commit t next)

section Inversion

variable {config : Config} {state after : State} {t : TxId}

private theorem readTokenIssuer_move {request : TokenRequest}
    (taken : state.readTokenIssuerStep t request = some after) :
    Move config state t (.readTokenIssuer request) after := by
  unfold State.readTokenIssuerStep at taken
  split at taken
  · next at_ =>
      split at taken
      · cases taken
        exact .refuse _ _ _ (.inl at_) (.token _)
      · split at taken
        · cases taken
          exact .refuse _ _ _ (.inl at_) (.token _)
        · cases taken
          exact .advance _ _ (at_ ▸ .tokenIssuer ..)
  · cases taken

private theorem findByPreAuthCode_move {found : Option CredentialOfferId} {now : DateTime}
    (taken : state.findByPreAuthCodeStep t found now = some after) :
    Move config state t (.findByPreAuthCode found now) after := by
  unfold State.findByPreAuthCodeStep at taken
  split at taken
  · next request issuerId issuer at_ =>
      have open_ : (state.sessions t).handler = some .token := by rw [at_]; rfl
      split at taken
      · cases taken
      · cases taken
        exact .refuse _ _ _ (.inr open_) (.token _)
      · next offer answered =>
          split at taken
          · cases taken
            exact .refuse _ _ _ (.inr open_) (.token _)
          · next observed =>
              cases taken
              have fresh := CredentialOffer.observedState_pending.mp (not_not.mp observed)
              rcases CredentialOffers.findByPreAuthCode_some answered with
                ⟨id, seen, code, tenant, scope⟩
              exact .advance _ _ (at_ ▸ .offer request issuerId issuer offer now id seen code
                fresh.1 fresh.2 tenant scope)
  · cases taken

private theorem insertAccessToken_move {tokenHash : AccessTokenHash}
    (taken : state.insertAccessTokenStep config t tokenHash = some after) :
    Move config state t (.insertAccessToken tokenHash) after := by
  unfold State.insertAccessTokenStep at taken
  split at taken
  · next redemption at_ =>
      have open_ : (state.sessions t).handler = some .token := by rw [at_]; rfl
      dsimp only at taken
      split at taken
      · cases taken
      · split at taken
        · cases taken
        · cases taken
          exact .refuse _ _ _ (.inr open_) (.token _)
        · next inserted =>
            cases taken
            rcases AccessTokens.insert_ok inserted with ⟨unlocked, absent, rfl⟩
            exact .insertToken redemption tokenHash at_ unlocked absent
  · cases taken

private theorem insertNonce_move {nonceHash : NonceHash}
    (taken : state.insertNonceStep config t nonceHash = some after) :
    Move config state t (.insertNonce nonceHash) after := by
  unfold State.insertNonceStep at taken
  split at taken
  · next redemption token at_ =>
      have open_ : (state.sessions t).handler = some .token := by rw [at_]; rfl
      dsimp only at taken
      split at taken
      · cases taken
      · next fresh =>
          split at taken
          · cases taken
            exact .refuse _ _ _ (.inr open_) (.token _)
          · next inserted =>
              cases taken
              rcases Nonces.insert_ok inserted with ⟨absent, rfl⟩
              exact .insertNonce redemption token nonceHash at_ fresh absent
  · cases taken

private theorem findValidByHash_move {request : CredentialRequest}
    {found : Option CredentialOfferId} {now : DateTime}
    (taken : state.findValidByHashStep t request found now = some after) :
    Move config state t (.findValidByHash request found now) after := by
  unfold State.findValidByHashStep at taken
  split at taken
  · next at_ =>
      split at taken
      · cases taken
        exact .refuse _ _ _ (.inl at_) (.credential _)
      · next issuerId tokenHash checked =>
          split at taken
          · cases taken
          · cases taken
            exact .refuse _ _ _ (.inl at_) (.credential _)
          · next token answered =>
              split at taken
              · cases taken
                exact .refuse _ _ _ (.inl at_) (.credential _)
              · next same =>
                  cases taken
                  rcases AccessTokens.findValidByHash_some answered with ⟨id, seen, rfl, live⟩
                  obtain rfl := not_not.mp same
                  exact .advance _ _ (at_ ▸ .bearer request token now id seen
                    (CredentialRequest.check_ok checked) live)
  · cases taken

private theorem readOffer_move {now : DateTime} (taken : state.readOfferStep t now = some after) :
    Move config state t (.readOffer now) after := by
  unfold State.readOfferStep at taken
  split at taken
  · next bearer at_ =>
      have open_ : (state.sessions t).handler = some .credential := by rw [at_]; rfl
      split at taken
      · cases taken
        exact .refuse _ _ _ (.inr open_) (.credential _)
      · next offer found =>
          split at taken
          · cases taken
            exact .refuse _ _ _ (.inr open_) (.credential _)
          · next observed =>
              split at taken
              · cases taken
                exact .refuse _ _ _ (.inr open_) (.credential _)
              · cases taken
                have fresh := CredentialOffer.observedState_pending.mp (not_not.mp observed)
                exact .advance _ _ (at_ ▸ .reading bearer offer now
                  (CredentialOffers.findById_ok found).1 fresh.1 fresh.2)
  · cases taken

private theorem readType_move {validity : Option Int}
    (taken : state.readTypeStep t validity = some after) :
    Move config state t (.readType validity) after := by
  unfold State.readTypeStep at taken
  split at taken
  · next reading at_ =>
      have open_ : (state.sessions t).handler = some .credential := by rw [at_]; rfl
      split at taken
      · cases taken
        exact .refuse _ _ _ (.inr open_) (.credential _)
      · cases taken
        exact .refuse _ _ _ (.inr open_) (.credential _)
      · cases taken
        exact .advance _ _ (at_ ▸ .type ..)
  · cases taken

private theorem readIssuer_move {proof : Except OAuthError ProofClaims}
    (taken : state.readIssuerStep t proof = some after) :
    Move config state t (.readIssuer proof) after := by
  unfold State.readIssuerStep at taken
  split at taken
  · next reading validity at_ =>
      have open_ : (state.sessions t).handler = some .credential := by rw [at_]; rfl
      split at taken
      · cases taken
        exact .refuse _ _ _ (.inr open_) (.credential _)
      · cases taken
        exact .refuse _ _ _ (.inr open_) (.credential _)
      · next issuer assertionKeyId claims keyed =>
          cases taken
          exact .advance _ _ (at_ ▸ .proof reading validity issuer assertionKeyId claims
            (signingKey_ok keyed).1)
  · cases taken

private theorem consumeByHash_move (taken : state.consumeByHashStep t = some after) :
    Move config state t .consumeByHash after := by
  unfold State.consumeByHashStep at taken
  split at taken
  · next issuance at_ =>
      have open_ : (state.sessions t).handler = some .credential := by rw [at_]; rfl
      split at taken
      · cases taken
        exact .refuse _ _ _ (.inr open_) (.credential _)
      · next nonces nonce consumed =>
          cases taken
          rcases Nonces.consumeByHash_some consumed with ⟨present, live, rfl⟩
          exact .consumeNonce issuance nonce at_ present live
  · cases taken

private theorem findByIdForUpdate_move (taken : state.findByIdForUpdateStep t = some after) :
    Move config state t .findByIdForUpdate after := by
  unfold State.findByIdForUpdateStep at taken
  split at taken
  · next consumption at_ =>
      have open_ : (state.sessions t).handler = some .credential := by rw [at_]; rfl
      split at taken
      · cases taken
        exact .refuse _ _ _ (.inr open_) (.credential _)
      · next minted =>
          split at taken
          · cases taken
          · cases taken
            exact .refuse _ _ _ (.inr open_) (.credential _)
          · cases taken
            exact .refuse _ _ _ (.inr open_) (.credential _)
          · next offers offer locked =>
              rcases CredentialOffers.findByIdForUpdate_ok locked with ⟨free, found, rfl⟩
              rcases CredentialOffers.findById_ok found with ⟨seen, tenant, issuer⟩
              split at taken
              · cases taken
                exact .refuse _ _ _ (.inr open_) (.credential _)
              · cases taken
                exact .refuse _ _ _ (.inr open_) (.credential _)
              · next issued issues =>
                  cases taken
                  rcases CredentialOffer.tryIssue_ok.mp issues with ⟨pending, _, rfl⟩
                  exact .lockOffer consumption offer at_ (not_not.mp minted) free seen tenant issuer
                    pending
  · cases taken

private theorem insertCredential_move {sealing : Sealing}
    (taken : state.insertCredentialStep t sealing = some after) :
    Move config state t (.insertCredential sealing) after := by
  unfold State.insertCredentialStep at taken
  split at taken
  · next grant at_ =>
      have open_ : (state.sessions t).handler = some .credential := by rw [at_]; rfl
      dsimp only at taken
      split at taken
      · cases taken
      · cases taken
        exact .refuse _ _ _ (.inr open_) (.credential _)
      · next inserted =>
          cases taken
          rcases IssuedCredentials.insert_ok inserted with ⟨free, absent, rfl⟩
          exact .insertCredential grant sealing at_ free absent
  · cases taken

private theorem setIssuedState_move (taken : state.setIssuedStateStep t = some after) :
    Move config state t .setIssuedState after := by
  unfold State.setIssuedStateStep at taken
  split at taken
  · next draft at_ =>
      have open_ : (state.sessions t).handler = some .credential := by rw [at_]; rfl
      split at taken
      · cases taken
      · cases taken
        exact .refuse _ _ _ (.inr open_) (.credential _)
      · next written =>
          cases taken
          rcases CredentialOffers.setIssuedState_ok written with ⟨free, rfl⟩
          exact .setIssued draft at_ free
  · cases taken

private theorem deleteByHash_move (taken : state.deleteByHashStep t = some after) :
    Move config state t .deleteByHash after := by
  unfold State.deleteByHashStep at taken
  split at taken
  · next draft at_ =>
      split at taken
      · cases taken
      · next accessTokens deleted =>
          cases taken
          exact .deleteToken draft accessTokens at_ deleted
  · cases taken

private theorem probeIssuer_move {request : CreateRequest}
    (taken : state.probeIssuerStep t request = some after) :
    Move config state t (.probeIssuer request) after := by
  unfold State.probeIssuerStep at taken
  split at taken
  · next at_ =>
      split at taken
      · cases taken
        exact .refuse _ _ _ (.inl at_) (.create _)
      · split at taken
        · next owned =>
            cases taken
            rcases Option.isSome_iff_exists.mp owned with ⟨issuer, found⟩
            rcases IssuerRows.findByIdForTenant_some found with ⟨seen, _, tenant⟩
            exact .advance _ _ (at_ ▸ .probe request _ issuer seen tenant)
        · cases taken
          exact .refuse _ _ _ (.inl at_) (.create _)
  · cases taken

private theorem probeType_move {vct : Except ApiError String}
    (taken : state.probeTypeStep t vct = some after) :
    Move config state t (.probeType vct) after := by
  unfold State.probeTypeStep at taken
  split at taken
  · next request expiresIn at_ =>
      have open_ : (state.sessions t).handler = some .create := by rw [at_]; rfl
      split at taken
      · cases taken
        exact .refuse _ _ _ (.inr open_) (.create _)
      · cases taken
        exact .advance _ _ (at_ ▸ .probeType ..)
  · cases taken

private theorem insertOffer_move {id : CredentialOfferId} {code : PreAuthCode} {now : DateTime}
    (taken : state.insertOfferStep t id code now = some after) :
    Move config state t (.insertOffer id code now) after := by
  unfold State.insertOfferStep at taken
  split at taken
  · next request expiresIn vct at_ =>
      have open_ : (state.sessions t).handler = some .create := by rw [at_]; rfl
      dsimp only at taken
      split at taken
      · cases taken
      · cases taken
      · cases taken
        exact .refuse _ _ _ (.inr open_) (.create _)
      · next unheld inserted =>
          cases taken
          rcases CredentialOffers.insert_ok inserted with ⟨unlocked, absent, rfl⟩
          exact .insertOffer request expiresIn vct id code now at_ unheld unlocked absent
  · cases taken

private theorem probeCancel_move {request : CancelRequest}
    (taken : state.probeCancelStep t request = some after) :
    Move config state t (.probeCancel request) after := by
  unfold State.probeCancelStep at taken
  split at taken
  · next at_ =>
      split at taken
      · cases taken
        exact .advance _ _ (at_ ▸ .probeCancel ..)
      · cases taken
        exact .refuse _ _ _ (.inl at_) (.cancel _)
  · cases taken

private theorem readCancel_move {now : DateTime} (taken : state.readCancelStep t now = some after) :
    Move config state t (.readCancel now) after := by
  unfold State.readCancelStep at taken
  split at taken
  · next request at_ =>
      have open_ : (state.sessions t).handler = some .cancel := by rw [at_]; rfl
      split at taken
      · cases taken
        exact .refuse _ _ _ (.inr open_) (.cancel _)
      · split at taken
        · cases taken
          exact .refuse _ _ _ (.inr open_) (.cancel _)
        · split at taken
          · cases taken
            exact .refuse _ _ _ (.inr open_) (.cancel _)
          · cases taken
            exact .advance _ _ (at_ ▸ .readCancel ..)
        all_goals
          cases taken
          exact .refuse _ _ _ (.inr open_) (.cancel _)
  · cases taken

private theorem cancel_move (taken : state.cancelStep t = some after) :
    Move config state t .cancel after := by
  unfold State.cancelStep at taken
  split at taken
  · next request moved now at_ =>
      have open_ : (state.sessions t).handler = some .cancel := by rw [at_]; rfl
      split at taken
      · cases taken
      · cases taken
        exact .refuse _ _ _ (.inr open_) (.cancel _)
      · next cancelled =>
          cases taken
          rcases CredentialOffers.cancel_ok cancelled with ⟨row, unlocked, present, pending, rfl⟩
          exact .cancel request moved row now at_ unlocked present pending
  · cases taken

private theorem lockIssuer_move {request : MarkRequest}
    (taken : state.lockIssuerStep t request = some after) :
    Move config state t (.lockIssuer request) after := by
  unfold State.lockIssuerStep at taken
  split at taken
  · next at_ =>
      split at taken
      · cases taken
      · cases taken
        exact .refuse _ _ _ (.inl at_) (.mark _)
      · next issuers issuer locked =>
          rcases IssuerRows.findByIdForUpdateForTenant_some locked with ⟨free, found, rfl⟩
          rcases IssuerRows.findByIdForTenant_some found with ⟨seen, _, tenant⟩
          split at taken
          · cases taken
            exact .refuse _ _ _ (.inl at_) (.mark _)
          · cases taken
            exact .refuse _ _ _ (.inl at_) (.mark _)
          · cases taken
            exact .lockIssuer request issuer at_ free seen tenant
  · cases taken

private theorem setState_move (taken : state.setStateStep t = some after) :
    Move config state t .setState after := by
  unfold State.setStateStep at taken
  split at taken
  · next request at_ =>
      have open_ : (state.sessions t).handler = some .mark := by rw [at_]; rfl
      split at taken
      · cases taken
      · cases taken
        exact .refuse _ _ _ (.inr open_) (.mark _)
      · next written =>
          cases taken
          rcases IssuerRows.setState_ok written with ⟨free, rfl⟩
          exact .setState request at_ free
  · cases taken

private theorem cancelAllPending_move (taken : state.cancelAllPendingStep t = some after) :
    Move config state t .cancelAllPending after := by
  unfold State.cancelAllPendingStep at taken
  split at taken
  · next request at_ =>
      split at taken
      · cases taken
      · next cancelled =>
          cases taken
          rcases CredentialOffers.cancelAllPendingForIssuer_some cancelled with ⟨free, rfl⟩
          exact .cancelAllPending request at_ free
  · cases taken

private theorem commit_move {acknowledged : Bool}
    (taken : state.commitStep t acknowledged = some after) :
    Move config state t (.commit acknowledged) after := by
  unfold State.commitStep at taken
  split at taken
  · next draft at_ =>
      cases taken
      apply Move.commit
      rw [at_]
      cases acknowledged
      · exact .unacknowledged ..
      · exact .issuance ..
  · next request at_ =>
      cases taken
      exact .commit _ _ (at_ ▸ .deactivation ..)
  · cases taken

private theorem fail_move {details : String} (taken : state.failStep t details = some after) :
    Move config state t (.fail details) after := by
  unfold State.failStep at taken
  split at taken <;> first
    | cases taken; done
    | next at_ =>
        cases taken
        exact .refuse _ _ _ (.inr (by rw [at_]; rfl)) (by constructor)

end Inversion

theorem step_move {config : Config} {state after : State} {event : Event}
    (taken : state.step config event = some after) :
    Move config state event.t event.action after := by
  unfold State.step at taken
  split at taken <;> rename_i act <;> rw [act]
  · exact readTokenIssuer_move taken
  · exact findByPreAuthCode_move taken
  · exact insertAccessToken_move taken
  · exact insertNonce_move taken
  · exact findValidByHash_move taken
  · exact readOffer_move taken
  · exact readType_move taken
  · exact readIssuer_move taken
  · exact consumeByHash_move taken
  · exact findByIdForUpdate_move taken
  · exact insertCredential_move taken
  · exact setIssuedState_move taken
  · exact deleteByHash_move taken
  · exact probeIssuer_move taken
  · exact probeType_move taken
  · exact insertOffer_move taken
  · exact probeCancel_move taken
  · exact readCancel_move taken
  · exact cancel_move taken
  · exact lockIssuer_move taken
  · exact setState_move taken
  · exact cancelAllPending_move taken
  · exact commit_move taken
  · exact fail_move taken

end SwiyuIssuer.Oidc
