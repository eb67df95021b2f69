import SwiyuIssuer.Persistence.CredentialOffers
import SwiyuIssuer.Persistence.OidcSecrets
import SwiyuIssuer.StatusStore.Sessions
import SwiyuIssuer.Worker.DeactivateIssuer

/-! The requests that touch a credential offer, and where each can stand between two statements:
`token`, `credential`, the creation and the cancellation of an offer, and the transaction of
`mark_deactivated`. -/

namespace SwiyuIssuer.Oidc

open Library Persistence StatusStore Worker

def preAuthorizedGrantType : String := "urn:ietf:params:oauth:grant-type:pre-authorized_code"

def supportedFormat : String := "vc+sd-jwt"

def supportedProofType : String := "jwt"

/-- `issuerId` is the path parameter as `IssuerId::from_bare` reads it. -/
structure TokenRequest where
  grantType : String
  issuerId : Except DomainError IssuerId
  preAuthorizedCode : PreAuthCode

/-- `bearer` is the answer of `extract_bearer_hash`. -/
structure CredentialRequest where
  format : String
  vct : String
  proofType : String
  issuerId : Except DomainError IssuerId
  bearer : Except OAuthError AccessTokenHash

/-- What `parse_wallet_proof` and `verify_signature` have accepted. -/
structure ProofClaims where
  nonce : NonceHash
  cnfJwk : String

structure CreateRequest where
  tenantId : TenantId
  issuerId : IssuerId
  expiresInSeconds : Option Nat
  credentialTypeId : CredentialTypeId
  claims : Json

structure CancelRequest where
  tenantId : TenantId
  issuerId : IssuerId
  offerId : CredentialOfferId

structure MarkRequest where
  tenantId : TenantId
  issuerId : IssuerId
  now : DateTime

def parseIssuerId (param : Except DomainError IssuerId) : Except OAuthError IssuerId :=
  param.mapError fun error => .invalidRequest ("issuer_id path parameter: " ++ error.toString)

/-- The checks of `token` before its first statement. -/
def TokenRequest.check (request : TokenRequest) : Except OAuthError IssuerId :=
  if request.grantType ≠ preAuthorizedGrantType then .error (.unsupportedGrantType request.grantType)
  else parseIssuerId request.issuerId

/-- The checks of `credential` before its first statement. -/
def CredentialRequest.check (request : CredentialRequest) :
    Except OAuthError (IssuerId × AccessTokenHash) :=
  if request.format ≠ supportedFormat then .error (.unsupportedCredentialFormat request.format)
  else if request.proofType ≠ supportedProofType then
    .error (.invalidProof ("proof_type " ++ request.proofType.quote ++ " is not supported; only " ++
      supportedProofType.quote))
  else match parseIssuerId request.issuerId, request.bearer with
    | .error error, _ => .error error
    | .ok _, .error error => .error error
    | .ok issuerId, .ok tokenHash => .ok (issuerId, tokenHash)

theorem CredentialRequest.check_ok {request : CredentialRequest} {issuerId : IssuerId}
    {tokenHash : AccessTokenHash} (checked : request.check = .ok (issuerId, tokenHash)) :
    request.bearer = .ok tokenHash := by
  unfold check at checked
  split at checked
  · cases checked
  · split at checked
    · cases checked
    · split at checked
      · cases checked
      · cases checked
      · next presented =>
          cases checked
          exact presented

def defaultExpiresInSeconds : Nat := 600

def minExpiresInSeconds : Nat := 60

def maxExpiresInSeconds : Nat := 3600

def resolveExpiresIn (requested : Option Nat) : Except ApiError Int :=
  let seconds_ := requested.getD defaultExpiresInSeconds
  if minExpiresInSeconds ≤ seconds_ ∧ seconds_ ≤ maxExpiresInSeconds then .ok (seconds seconds_)
  else .error (.invalidInput ("expires_in_seconds must be between " ++ toString minExpiresInSeconds ++
    " and " ++ toString maxExpiresInSeconds ++ ", got " ++ toString seconds_))

structure Redemption where
  request : TokenRequest
  tenantId : TenantId
  issuerId : IssuerId
  offer : CredentialOffer
  now : DateTime

/-- `checkedAt` is the clock reading that `find_valid_by_hash` was given. -/
structure Bearer where
  request : CredentialRequest
  issuerId : IssuerId
  token : AccessToken
  checkedAt : DateTime

structure Reading extends Bearer where
  offer : CredentialOffer
  now : DateTime

structure Issuance extends Reading where
  validity : Int
  issuer : Issuer
  assertionKeyId : KeyPairId
  proof : ProofClaims

structure Consumption extends Issuance where
  nonce : Nonce

/-- `issued` is the offer as re-read under its row lock, after `try_issue`. -/
structure Grant extends Consumption where
  issued : CredentialOffer

structure Draft extends Grant where
  jwt : SdJwtVc
  row : IssuedCredential

/-- Where a request stands. A terminal session keeps the local variables of a handler that has
returned a secret or a credential: the response carries nothing else. -/
inductive Session
  | idle
  | tokenIssuerRead (request : TokenRequest) (issuerId : IssuerId) (issuer : Issuer)
  | offerFound (redemption : Redemption)
  | tokenInserted (redemption : Redemption) (token : AccessToken)
  | tokenIssued (redemption : Redemption) (token : AccessToken) (nonce : Nonce)
  | tokenRefused (error : OAuthError)
  | bearerFound (bearer : Bearer)
  | offerRead (reading : Reading)
  | typeRead (reading : Reading) (validity : Int)
  | proofVerified (issuance : Issuance)
  | nonceConsumed (consumption : Consumption)
  | offerLocked (grant : Grant)
  | credentialInserted (draft : Draft)
  | offerIssued (draft : Draft)
  | tokenDeleted (draft : Draft)
  | credentialIssued (draft : Draft)
  | credentialRefused (error : OAuthError)
  | offerProbed (request : CreateRequest) (expiresIn : Int)
  | typeProbed (request : CreateRequest) (expiresIn : Int) (vct : String)
  | offerCreated (response : Except ApiError CredentialOffer)
  | cancelProbed (request : CancelRequest)
  | cancelLoaded (request : CancelRequest) (moved : CredentialOffer) (now : DateTime)
  | cancelAnswered (response : Except ApiError CredentialOffer)
  | issuerLocked (request : MarkRequest)
  | issuerMarked (request : MarkRequest)
  | offersCancelled (request : MarkRequest)
  | markEnded (outcome : StepOutcome)

namespace Session

/-- The version of an offer that a session has pending, given the committed one. -/
def offerClaim : Session → CredentialOfferId → Option CredentialOffer →
    Option (Option CredentialOffer)
  | offerLocked grant, id, committed => if id = grant.issued.id then some committed else none
  | credentialInserted draft, id, committed =>
      if id = draft.issued.id then some committed else none
  | offerIssued draft, id, committed | tokenDeleted draft, id, committed =>
      if id = draft.issued.id then
        some (committed.map (CredentialOffers.writeIssued draft.issued))
      else none
  | offersCancelled request, _, committed =>
      if CredentialOffers.isPending request.tenantId request.issuerId committed then
        some (committed.map fun row => row.asCancelled request.now)
      else none
  | _, _, _ => none

def tokenClaim : Session → CredentialOfferId → Option AccessToken → Option (Option AccessToken)
  | tokenDeleted draft, id, _ => if id = draft.token.offerId then some none else none
  | _, _, _ => none

def credentialClaim : Session → IssuedCredentialId → Option IssuedCredential →
    Option (Option IssuedCredential)
  | credentialInserted draft, id, _ | offerIssued draft, id, _ | tokenDeleted draft, id, _ =>
      if id = draft.row.id then some (some draft.row) else none
  | _, _, _ => none

def issuerClaim : Session → IssuerId → Option Issuer → Option (Option Issuer)
  | issuerLocked request, id, committed => if id = request.issuerId then some committed else none
  | issuerMarked request, id, committed | offersCancelled request, id, committed =>
      if id = request.issuerId then
        some (committed.map fun row => { row with state := some .deactivated })
      else none
  | _, _, _ => none

/-- No row version is pending, whatever the committed rows are. -/
structure Unclaiming (session : Session) : Prop where
  offers : ∀ id committed, session.offerClaim id committed = none
  tokens : ∀ id committed, session.tokenClaim id committed = none
  credentials : ∀ id committed, session.credentialClaim id committed = none
  issuers : ∀ id committed, session.issuerClaim id committed = none

theorem tokenClaim_none {session : Session} {id : CredentialOfferId}
    {committed : Option AccessToken} (unclaimed : session.tokenClaim id committed = none)
    (other : Option AccessToken) : session.tokenClaim id other = none := by
  cases session <;> exact unclaimed

theorem credentialClaim_none {session : Session} {id : IssuedCredentialId}
    {committed : Option IssuedCredential} (unclaimed : session.credentialClaim id committed = none)
    (other : Option IssuedCredential) : session.credentialClaim id other = none := by
  cases session <;> exact unclaimed

theorem issuerClaim_none {session : Session} {id : IssuerId} {committed : Option Issuer}
    (unclaimed : session.issuerClaim id committed = none) (other : Option Issuer) :
    session.issuerClaim id other = none := by
  cases session <;> simp_all [issuerClaim]

/-- Only the bulk cancel looks at the row to decide whether it claims it. -/
theorem offerClaim_none {session : Session} {id : CredentialOfferId}
    {committed : Option CredentialOffer} (unclaimed : session.offerClaim id committed = none)
    {other : Option CredentialOffer} (idle : ∀ request, session = .offersCancelled request →
      CredentialOffers.isPending request.tenantId request.issuerId other = false) :
    session.offerClaim id other = none := by
  cases session with
  | offersCancelled request => simp [offerClaim, idle request rfl]
  | _ => simp_all [offerClaim]

end Session

end SwiyuIssuer.Oidc
