import SwiyuIssuer.Oidc.Sessions
import SwiyuIssuer.Persistence.IssuerRows

/-! The database of the OIDC endpoints and one statement of a request. -/

namespace SwiyuIssuer.Oidc

open Library Persistence StatusStore Worker

/-- The two lifetimes of the configuration. -/
structure Config where
  accessTokenTtl : Int
  cNonceTtl : Int

/-- `offerIds` are the rows of `credential_offers`. `drawnTokens` and `drawnNonces` are the secrets
that `generate` has drawn so far, `accepted` the nonces that requests have consumed. -/
structure State where
  issuers : Table TxId IssuerId (Option Issuer)
  offers : Table TxId CredentialOfferId (Option CredentialOffer)
  accessTokens : Table TxId CredentialOfferId (Option AccessToken)
  nonces : Nonces.Rows
  credentials : Table TxId IssuedCredentialId (Option IssuedCredential)
  offerIds : List CredentialOfferId
  sessions : TxId → Session
  drawnTokens : List AccessTokenHash
  drawnNonces : List NonceHash
  accepted : List (TxId × Nonce)

/-- What a new transaction reads. -/
structure Database where
  issuers : IssuerId → Option Issuer
  offers : CredentialOfferId → Option CredentialOffer
  accessTokens : CredentialOfferId → Option AccessToken
  nonces : Nonces.Rows
  credentials : IssuedCredentialId → Option IssuedCredential

/-- What the calls between the row lock and the `INSERT` answer: the status slot, the holder key's
thumbprint, the hash of the signed credential and the id generated for its row. -/
structure Sealing where
  statusListId : StatusListId
  statusListIndex : StatusListIndex
  registryUrl : String
  holderKeyJkt : String
  integrityHash : Vector UInt8 integrityHashLen
  credentialId : IssuedCredentialId

/-- The next statement of a request. Answers that come from outside these tables, and the row that
a query by code or by hash finds, come with the action; `fail` is any statement that errors, any
other failing call, or a dropped request. -/
inductive Action
  | readTokenIssuer (request : TokenRequest)
  | findByPreAuthCode (found : Option CredentialOfferId) (now : DateTime)
  | insertAccessToken (tokenHash : AccessTokenHash)
  | insertNonce (nonceHash : NonceHash)
  | findValidByHash (request : CredentialRequest) (found : Option CredentialOfferId)
      (now : DateTime)
  | readOffer (now : DateTime)
  | readType (validity : Option Int)
  | readIssuer (proof : Except OAuthError ProofClaims)
  | consumeByHash
  | findByIdForUpdate
  | insertCredential (sealing : Sealing)
  | setIssuedState
  | deleteByHash
  | probeIssuer (request : CreateRequest)
  | probeType (vct : Except ApiError String)
  | insertOffer (id : CredentialOfferId) (code : PreAuthCode) (now : DateTime)
  | probeCancel (request : CancelRequest)
  | readCancel (now : DateTime)
  | cancel
  | lockIssuer (request : MarkRequest)
  | setState
  | cancelAllPending
  | commit (acknowledged : Bool)
  | fail (details : String)

def noMatchingOffer : OAuthError :=
  .invalidGrant "no offer matches the presented pre-authorised code"

def noLongerRedeemable : String := "the offer is no longer redeemable"

def Issuance.expiresAt (issuance : Issuance) : DateTime := issuance.now + issuance.validity

/-- The transaction's inputs as the status store names them. -/
def Grant.issueRequest (grant : Grant) (holderKeyJkt : String) : IssueRequest where
  tenantId := grant.token.tenantId
  issuerId := grant.issuer.id
  offerId := grant.issued.id
  vct := grant.issued.vct
  cnfJwk := grant.proof.cnfJwk
  holderKeyJkt := holderKeyJkt
  now := grant.now
  expiresAt := grant.expiresAt

def Grant.draft (grant : Grant) (sealing : Sealing) : Draft where
  toGrant := grant
  jwt := buildSdJwtVc grant.assertionKeyId grant.issuer grant.issued.vct grant.proof.cnfJwk
    (buildStatusClaim sealing.registryUrl sealing.statusListIndex) grant.now grant.expiresAt
  row := newCredential sealing.credentialId (grant.issueRequest sealing.holderKeyJkt) grant.issuer
    sealing.statusListId sealing.statusListIndex sealing.integrityHash

def markError (operation : String) (error : PersistenceError) : StepOutcome :=
  outcomeForPersistenceError markFailed operation error

namespace State

def database (state : State) : Database where
  issuers := state.issuers.snapshot
  offers := state.offers.snapshot
  accessTokens := state.accessTokens.snapshot
  nonces := state.nonces
  credentials := state.credentials.snapshot

def goto (state : State) (t : TxId) (session : Session) : State :=
  { state with sessions := Function.update state.sessions t session }

/-- Dropping the transaction, if there is one. -/
def rollback (state : State) (t : TxId) (session : Session) : State :=
  { state with
    issuers := state.issuers.rollback t
    offers := state.offers.rollback t
    accessTokens := state.accessTokens.rollback t
    credentials := state.credentials.rollback t
    sessions := Function.update state.sessions t session }

def commit (state : State) (t : TxId) (session : Session) : State :=
  { state with
    issuers := state.issuers.commit t
    offers := state.offers.commit t
    accessTokens := state.accessTokens.commit t
    credentials := state.credentials.commit t
    sessions := Function.update state.sessions t session }

variable (config : Config) (state : State) (t : TxId)

def readTokenIssuerStep (request : TokenRequest) : Option State :=
  match state.sessions t with
  | .idle =>
      match request.check with
      | .error error => some (state.rollback t (.tokenRefused error))
      | .ok issuerId =>
          match IssuerRows.findById state.issuers t issuerId with
          | none => some (state.rollback t (.tokenRefused noMatchingOffer))
          | some issuer => some (state.goto t (.tokenIssuerRead request issuerId issuer))
  | _ => none

def findByPreAuthCodeStep (found : Option CredentialOfferId) (now : DateTime) : Option State :=
  match state.sessions t with
  | .tokenIssuerRead request issuerId issuer =>
      match CredentialOffers.findByPreAuthCode state.offers t issuer.tenantId issuerId
          state.offerIds request.preAuthorizedCode found with
      | none => none
      | some none => some (state.rollback t (.tokenRefused noMatchingOffer))
      | some (some offer) =>
          if offer.observedState now ≠ .pending then
            some (state.rollback t (.tokenRefused (.invalidGrant noLongerRedeemable)))
          else some (state.goto t (.offerFound ⟨request, issuer.tenantId, issuerId, offer, now⟩))
  | _ => none

/-- The operating system's generator never draws a secret twice. -/
def insertAccessTokenStep (tokenHash : AccessTokenHash) : Option State :=
  match state.sessions t with
  | .offerFound redemption =>
      if tokenHash ∈ state.drawnTokens then none
      else
        let token : AccessToken :=
          ⟨tokenHash, redemption.tenantId, redemption.issuerId, redemption.offer.id,
            redemption.now + config.accessTokenTtl⟩
        match AccessTokens.insert state.accessTokens token with
        | none => none
        | some (.error error) =>
            some (state.rollback t (.tokenRefused (.ofPersistence error)))
        | some (.ok accessTokens) =>
            some ({ state with
              accessTokens := accessTokens
              drawnTokens := tokenHash :: state.drawnTokens }.goto t
                (.tokenInserted redemption token))
  | _ => none

def insertNonceStep (nonceHash : NonceHash) : Option State :=
  match state.sessions t with
  | .tokenInserted redemption token =>
      if nonceHash ∈ state.drawnNonces then none
      else
        let nonce : Nonce :=
          ⟨nonceHash, redemption.tenantId, redemption.issuerId, redemption.offer.id,
            redemption.now + config.cNonceTtl⟩
        match Nonces.insert state.nonces nonce with
        | .error error => some (state.rollback t (.tokenRefused (.ofPersistence error)))
        | .ok nonces =>
            some ({ state with
              nonces := nonces
              drawnNonces := nonceHash :: state.drawnNonces }.goto t
                (.tokenIssued redemption token nonce))
  | _ => none

def findValidByHashStep (request : CredentialRequest) (found : Option CredentialOfferId)
    (now : DateTime) : Option State :=
  match state.sessions t with
  | .idle =>
      match request.check with
      | .error error => some (state.rollback t (.credentialRefused error))
      | .ok (issuerId, tokenHash) =>
          match AccessTokens.findValidByHash state.accessTokens t state.offerIds tokenHash now
              found with
          | none => none
          | some none => some (state.rollback t (.credentialRefused
              (.invalidToken "no valid access token matches the presented bearer")))
          | some (some token) =>
              if token.issuerId ≠ issuerId then
                some (state.rollback t (.credentialRefused
                  (.invalidToken "access token does not authorise this issuer")))
              else some (state.goto t (.bearerFound ⟨request, issuerId, token, now⟩))
  | _ => none

def readOfferStep (now : DateTime) : Option State :=
  match state.sessions t with
  | .bearerFound bearer =>
      match CredentialOffers.findById state.offers t bearer.token.tenantId bearer.token.issuerId
          bearer.token.offerId with
      | .error error => some (state.rollback t (.credentialRefused (.ofPersistence error)))
      | .ok offer =>
          if offer.observedState now ≠ .pending then
            some (state.rollback t (.credentialRefused (.invalidToken noLongerRedeemable)))
          else if bearer.request.vct ≠ offer.vct then
            some (state.rollback t (.credentialRefused (.invalidCredentialRequest
              ("vct " ++ bearer.request.vct.quote ++ " does not match the offer"))))
          else some (state.goto t (.offerRead { bearer with offer := offer, now := now }))
  | _ => none

def readTypeStep (validity : Option Int) : Option State :=
  match state.sessions t with
  | .offerRead reading =>
      match reading.offer.credentialTypeId, validity with
      | none, _ => some (state.rollback t (.credentialRefused (.internal
          "offer lacks credential_type_id; legacy rows cannot be issued")))
      | some _, none => some (state.rollback t (.credentialRefused (.internal
          "credential type referenced by offer no longer exists")))
      | some _, some validity => some (state.goto t (.typeRead reading validity))
  | _ => none

def readIssuerStep (proof : Except OAuthError ProofClaims) : Option State :=
  match state.sessions t with
  | .typeRead reading validity =>
      match signingKey (IssuerRows.findById state.issuers t reading.issuerId), proof with
      | .error error, _ => some (state.rollback t (.credentialRefused error))
      | .ok _, .error error => some (state.rollback t (.credentialRefused error))
      | .ok (issuer, assertionKeyId), .ok proof =>
          some (state.goto t (.proofVerified { reading with
            validity := validity, issuer := issuer, assertionKeyId := assertionKeyId,
            proof := proof }))
  | _ => none

def consumeByHashStep : Option State :=
  match state.sessions t with
  | .proofVerified issuance =>
      match Nonces.consumeByHash state.nonces issuance.proof.nonce issuance.now with
      | (_, none) => some (state.rollback t (.credentialRefused
          (.invalidProof "nonce is unknown, expired, or already consumed")))
      | (nonces, some nonce) =>
          some ({ state with
            nonces := nonces
            accepted := (t, nonce) :: state.accepted }.goto t
              (.nonceConsumed { issuance with nonce := nonce }))
  | _ => none

def findByIdForUpdateStep : Option State :=
  match state.sessions t with
  | .nonceConsumed consumption =>
      if consumption.nonce.offerId ≠ consumption.offer.id then
        some (state.rollback t (.credentialRefused
          (.invalidProof "nonce was minted for a different offer")))
      else
        match CredentialOffers.findByIdForUpdate state.offers t consumption.token.tenantId
            consumption.token.issuerId consumption.token.offerId with
        | none => none
        | some (.error .notFound) =>
            some (state.rollback t (.credentialRefused (.invalidToken noLongerRedeemable)))
        | some (.error error) =>
            some (state.rollback t (.credentialRefused (.internal error.toString)))
        | some (.ok (offers, offer)) =>
            match offer.tryIssue consumption.now with
            | .error .stateTransitionNotAllowed =>
                some (state.rollback t (.credentialRefused (.invalidToken noLongerRedeemable)))
            | .error error =>
                some (state.rollback t (.credentialRefused (.internal error.toString)))
            | .ok issued =>
                some ({ state with offers := offers }.goto t
                  (.offerLocked { consumption with issued := issued }))
  | _ => none

def insertCredentialStep (sealing : Sealing) : Option State :=
  match state.sessions t with
  | .offerLocked grant =>
      let draft := grant.draft sealing
      match IssuedCredentials.insert state.credentials t draft.row with
      | none => none
      | some (.error error) =>
          some (state.rollback t (.credentialRefused (.ofPersistence error)))
      | some (.ok credentials) =>
          some ({ state with credentials := credentials }.goto t (.credentialInserted draft))
  | _ => none

def setIssuedStateStep : Option State :=
  match state.sessions t with
  | .credentialInserted draft =>
      match CredentialOffers.setIssuedState state.offers t draft.issued with
      | none => none
      | some (.error error) =>
          some (state.rollback t (.credentialRefused (.ofPersistence error)))
      | some (.ok offers) => some ({ state with offers := offers }.goto t (.offerIssued draft))
  | _ => none

def deleteByHashStep : Option State :=
  match state.sessions t with
  | .offerIssued draft =>
      match AccessTokens.deleteByHash state.accessTokens t draft.token with
      | none => none
      | some accessTokens =>
          some ({ state with accessTokens := accessTokens }.goto t (.tokenDeleted draft))
  | _ => none

def probeIssuerStep (request : CreateRequest) : Option State :=
  match state.sessions t with
  | .idle =>
      match resolveExpiresIn request.expiresInSeconds with
      | .error error => some (state.rollback t (.offerCreated (.error error)))
      | .ok expiresIn =>
          if IssuerRows.existsForTenant state.issuers t request.tenantId request.issuerId then
            some (state.goto t (.offerProbed request expiresIn))
          else some (state.rollback t (.offerCreated (.error .notFound)))
  | _ => none

def probeTypeStep (vct : Except ApiError String) : Option State :=
  match state.sessions t with
  | .offerProbed request expiresIn =>
      match vct with
      | .error error => some (state.rollback t (.offerCreated (.error error)))
      | .ok vct => some (state.goto t (.typeProbed request expiresIn vct))
  | _ => none

/-- The foreign key on `issuers` makes the `INSERT` wait for a transaction that holds the issuer
row `FOR UPDATE`. -/
def insertOfferStep (id : CredentialOfferId) (code : PreAuthCode) (now : DateTime) :
    Option State :=
  match state.sessions t with
  | .typeProbed request expiresIn vct =>
      let offer := CredentialOffer.new id request.tenantId request.issuerId
        (some request.credentialTypeId) vct request.claims code (now + expiresIn) now
      match (state.issuers request.issuerId).writer,
          CredentialOffers.insert state.offers offer with
      | some _, _ => none
      | none, none => none
      | none, some (.error error) =>
          some (state.rollback t (.offerCreated (.error (.ofPersistence error))))
      | none, some (.ok offers) =>
          some ({ state with offers := offers, offerIds := id :: state.offerIds }.goto t
            (.offerCreated (.ok offer)))
  | _ => none

def probeCancelStep (request : CancelRequest) : Option State :=
  match state.sessions t with
  | .idle =>
      if IssuerRows.existsForTenant state.issuers t request.tenantId request.issuerId then
        some (state.goto t (.cancelProbed request))
      else some (state.rollback t (.cancelAnswered (.error .notFound)))
  | _ => none

def readCancelStep (now : DateTime) : Option State :=
  match state.sessions t with
  | .cancelProbed request =>
      match CredentialOffers.findById state.offers t request.tenantId request.issuerId
          request.offerId with
      | .error error => some (state.rollback t (.cancelAnswered (.error (.ofPersistence error))))
      | .ok offer =>
          match offer.state with
          | .cancelled => some (state.rollback t (.cancelAnswered (.ok offer)))
          | .pending =>
              match offer.tryCancel now with
              | .error error =>
                  some (state.rollback t (.cancelAnswered (.error (.ofDomain error))))
              | .ok moved => some (state.goto t (.cancelLoaded request moved now))
          | .issued | .expired => some (state.rollback t (.cancelAnswered (.error
              (.conflict ("cannot cancel offer in state " ++ offer.state.asStr)))))
  | _ => none

def cancelStep : Option State :=
  match state.sessions t with
  | .cancelLoaded request moved now =>
      match CredentialOffers.cancel state.offers t request.tenantId request.issuerId
          request.offerId now with
      | none => none
      | some (.error error) =>
          some (state.rollback t (.cancelAnswered (.error (.ofPersistence error))))
      | some (.ok offers) =>
          some ({ state with offers := offers }.goto t (.cancelAnswered (.ok moved)))
  | _ => none

def lockIssuerStep (request : MarkRequest) : Option State :=
  match state.sessions t with
  | .idle =>
      match IssuerRows.findByIdForUpdateForTenant state.issuers t request.tenantId
          request.issuerId with
      | none => none
      | some none => some (state.rollback t (.markEnded
          (.terminal markFailed "find_by_id_for_update_for_tenant: not found")))
      | some (some (issuers, issuer)) =>
          match issuer.tryDeactivate with
          | .error .stateTransitionNotAllowed =>
              some (state.rollback t (.markEnded (.terminal markFailed
                "try_deactivate: state transition not allowed (legacy state=NULL row?)")))
          | .error error => some (state.rollback t (.markEnded
              (.terminal markFailed ("try_deactivate: " ++ error.toString))))
          | .ok _ => some ({ state with issuers := issuers }.goto t (.issuerLocked request))
  | _ => none

def setStateStep : Option State :=
  match state.sessions t with
  | .issuerLocked request =>
      match IssuerRows.setState state.issuers t request.tenantId request.issuerId
          .deactivated with
      | none => none
      | some (.error error) =>
          some (state.rollback t (.markEnded (markError "set_state" error)))
      | some (.ok issuers) =>
          some ({ state with issuers := issuers }.goto t (.issuerMarked request))
  | _ => none

def cancelAllPendingStep : Option State :=
  match state.sessions t with
  | .issuerMarked request =>
      match CredentialOffers.cancelAllPendingForIssuer state.offers t request.tenantId
          request.issuerId state.offerIds request.now with
      | none => none
      | some offers =>
          some ({ state with offers := offers }.goto t (.offersCancelled request))
  | _ => none

/-- A commit may take effect and its answer still be lost. -/
def commitStep (acknowledged : Bool) : Option State :=
  match state.sessions t with
  | .tokenDeleted draft =>
      some (state.commit t (if acknowledged then .credentialIssued draft
        else .credentialRefused (.internal "commit")))
  | .offersCancelled _ =>
      some (state.commit t (.markEnded (if acknowledged then .done {}
        else retryOnDb markFailed "commit" "")))
  | _ => none

def failStep (details : String) : Option State :=
  match state.sessions t with
  | .tokenIssuerRead .. | .offerFound _ | .tokenInserted .. =>
      some (state.rollback t (.tokenRefused (.internal details)))
  | .bearerFound _ | .offerRead _ | .typeRead .. | .proofVerified _ | .nonceConsumed _
  | .offerLocked _ | .credentialInserted _ | .offerIssued _ | .tokenDeleted _ =>
      some (state.rollback t (.credentialRefused (.internal details)))
  | .offerProbed .. | .typeProbed .. =>
      some (state.rollback t (.offerCreated (.error (.internal details))))
  | .cancelProbed _ | .cancelLoaded .. =>
      some (state.rollback t (.cancelAnswered (.error (.internal details))))
  | .issuerLocked _ => some (state.rollback t (.markEnded (markError "set_state" (.db details))))
  | .issuerMarked _ => some (state.rollback t
      (.markEnded (markError "cancel_all_pending_for_issuer" (.db details))))
  | .offersCancelled _ =>
      some (state.rollback t (.markEnded (retryOnDb markFailed "commit" details)))
  | .idle | .tokenIssued .. | .tokenRefused _ | .credentialIssued _ | .credentialRefused _
  | .offerCreated _ | .cancelAnswered _ | .markEnded _ => none

end State

structure Event where
  t : TxId
  action : Action

def State.step (config : Config) (state : State) (event : Event) : Option State :=
  match event.action with
  | .readTokenIssuer request => state.readTokenIssuerStep event.t request
  | .findByPreAuthCode found now => state.findByPreAuthCodeStep event.t found now
  | .insertAccessToken tokenHash => state.insertAccessTokenStep config event.t tokenHash
  | .insertNonce nonceHash => state.insertNonceStep config event.t nonceHash
  | .findValidByHash request found now => state.findValidByHashStep event.t request found now
  | .readOffer now => state.readOfferStep event.t now
  | .readType validity => state.readTypeStep event.t validity
  | .readIssuer proof => state.readIssuerStep event.t proof
  | .consumeByHash => state.consumeByHashStep event.t
  | .findByIdForUpdate => state.findByIdForUpdateStep event.t
  | .insertCredential sealing => state.insertCredentialStep event.t sealing
  | .setIssuedState => state.setIssuedStateStep event.t
  | .deleteByHash => state.deleteByHashStep event.t
  | .probeIssuer request => state.probeIssuerStep event.t request
  | .probeType vct => state.probeTypeStep event.t vct
  | .insertOffer id code now => state.insertOfferStep event.t id code now
  | .probeCancel request => state.probeCancelStep event.t request
  | .readCancel now => state.readCancelStep event.t now
  | .cancel => state.cancelStep event.t
  | .lockIssuer request => state.lockIssuerStep event.t request
  | .setState => state.setStateStep event.t
  | .cancelAllPending => state.cancelAllPendingStep event.t
  | .commit acknowledged => state.commitStep event.t acknowledged
  | .fail details => state.failStep event.t details

/-- No offer yet and no request under way; any issuers. -/
structure State.Initial (state : State) : Prop where
  issuers : ∀ id, (state.issuers id).writer = none
  keyed : ∀ id issuer, state.database.issuers id = some issuer → issuer.id = id
  offers : ∀ id, state.offers id = Cell.clean none
  accessTokens : ∀ id, state.accessTokens id = Cell.clean none
  nonces : ∀ hash, state.nonces hash = none
  credentials : ∀ id, state.credentials id = Cell.clean none
  sessions : ∀ t, state.sessions t = .idle
  accepted : state.accepted = []

end SwiyuIssuer.Oidc
