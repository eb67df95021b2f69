import SwiyuIssuer.Tenancy.Requests

/-! The handlers of the management API that act for a tenant. -/

namespace SwiyuIssuer.Tenancy.Api

open Library Persistence Catalogue.Validators Linking Linking.PatchAccounts
open Program (lift ensure require fail transaction)

variable {V : Type} (env : Environment V) (draws : Draws) (tenantId : TenantId)

def fromBare {label : String} (field raw : String) : Except ApiError (Id label) :=
  (Persistence.fromBare (fun s => (env.crates.bs58Decode s).map ByteArray.size) raw).mapError
    fun err => .invalidInput (field ++ ": " ++ err.toString)

def parseIssuerId (raw : String) : Except ApiError IssuerId :=
  fromBare env "issuer_id path parameter" raw

def parseCredentialTypeId (raw : String) : Except ApiError CredentialTypeId :=
  fromBare env "credential_type_id path parameter" raw

def parseUserAccountId (raw : String) : Except ApiError UserAccountId :=
  fromBare env "user_account_id path parameter" raw

/-- A query parameter that has to name a state. -/
def parseStateFilter {α : Type} (parse : String → Except DomainError α) :
    Option String → Except ApiError (Option α)
  | none => .ok none
  | some raw => ((parse raw).map some).mapError fun err =>
      .invalidInput ("state query parameter: " ++ err.toString)

def requireIssuerOwnedByTenant (issuerId : IssuerId) : Handler V Unit := do
  let owned ← select (Issuers.existsForTenant tenantId issuerId)
  ensure owned .notFound

def requireUserAccountOwnedByTenant (accountId : UserAccountId) : Handler V Unit := do
  let account ← select (UserAccounts.get tenantId accountId)
  ensure account.isSome .notFound

/-- The `SELECT` of a list endpoint. -/
def page {α : Type} {label : String} (listing : Management.Listing α label)
    (rows : Database → List α) (cursor : Option (DateTime × Id label)) (limit : Nat) :
    Handler V (Management.ListPage α) :=
  select fun db =>
    letI := env.collation label
    listing.list (rows db) cursor limit

def presented {α β : Type} {label : String} (listing : Management.Listing α label)
    (page : Management.ListPage α) (present : α → β) : Page β where
  items := page.items.map present
  nextCursor := listing.nextCursor env.crates page

namespace Issuers

def maxFieldLength : Nat := 255

def create (payload : CreateIssuerSubmission) : Handler V Response := do
  let description ← lift (normaliseOptional "description" payload.description maxFieldLength)
  let supplied ← lift (normaliseOptional "display_name" payload.displayName maxFieldLength)
  let displayName := supplied.getD ("Issuer " ++ draws.issuerId.bare)
  execute (OperationTasks.insert (Resume.newCreateTask draws.taskId tenantId draws.issuerId
    (description.getD "") displayName draws.now))
  return ⟨201, .issuerCreated ⟨draws.taskId.bare, draws.issuerId.bare⟩⟩

def get (issuerIdStr : String) : Handler V Response := do
  let issuerId ← lift (parseIssuerId env issuerIdStr)
  let issuer ← select (Issuers.findByIdForTenant tenantId issuerId)
  let issuer ← require .notFound issuer
  let response ← lift (issuerToResponse issuer.toIssuerRecord)
  return ⟨200, .issuer response⟩

/-- The common part of `deactivate` and `rotate_keys`: a task in flight is handed out again. -/
def submit (submission : Saga.Submission) : Handler V Response := do
  let issuer ← select (Issuers.findByIdForTenant submission.tenantId submission.issuerId)
  let issuer ← require .notFound issuer
  let state ← lift (Saga.issuerState issuer.toIssuerRecord.issuer submission)
  let existing ← select (OperationTasks.findLatestByTypeAndIssuer submission.tenantId
    submission.issuerId submission.kind.taskType)
  match Saga.decideSubmission submission state existing with
  | .answered answer =>
      let taskId ← lift answer
      return ⟨200, .submitted ⟨taskId.map (·.bare), submission.issuerId.bare⟩⟩
  | _ =>
      execute (OperationTasks.insert (Saga.newTask submission draws.taskId draws.now))
      return ⟨201, .submitted ⟨some draws.taskId.bare, submission.issuerId.bare⟩⟩

def deactivate (issuerIdStr : String) : Handler V Response := do
  let issuerId ← lift (parseIssuerId env issuerIdStr)
  submit draws ⟨tenantId, issuerId, .deactivate⟩

def rotateKeys (issuerIdStr : String) (body : Json) : Handler V Response := do
  let input ← lift ((Worker.RotateKeysInput.decode body).mapError fun err =>
    .invalidInput (env.describe err))
  let issuerId ← lift (parseIssuerId env issuerIdStr)
  submit draws ⟨tenantId, issuerId, .rotate input⟩

def list (query : PageQuery) : Handler V Response := do
  let limit ← lift (Management.resolveListLimit query.limit)
  let cursor ← lift (Management.Listing.decodeCursor "issuer" env.crates query.cursor)
  let listing := Management.listIssuers tenantId
  let page ← page env listing (fun db => db.issuers.map IssuerRow.toIssuerRecord) cursor limit
  let items ← lift (page.items.mapM issuerToResponse)
  return ⟨200, .issuers ⟨items, listing.nextCursor env.crates page⟩⟩

end Issuers

namespace OperationTasks

def get (taskIdStr : String) : Handler V Response := do
  let taskId ← lift (fromBare env "task_id path parameter" taskIdStr)
  let task ← select (OperationTasks.findById tenantId taskId)
  let task ← require .notFound task
  return ⟨200, .task (taskToResponse task)⟩

end OperationTasks

namespace CredentialOffers

def parseOfferId (raw : String) : Except ApiError CredentialOfferId :=
  fromBare env "offer_id path parameter" raw

/-- `ValidatorCache::get_or_compile`. -/
def getOrCompile (credentialType : CredentialType) : Handler V V :=
  Program.statement fun server =>
    match StampedCache.lookup server.validators credentialType.id credentialType.updatedAt with
    | some validator => .ok (validator, server)
    | none =>
        match env.compiler.validatorFor credentialType.claimSchema with
        | .error message => .error (.internal ("failed to compile JSON Schema: " ++ message))
        | .ok validator => .ok (validator, { server with
            validators := StampedCache.store server.validators credentialType.id
              credentialType.updatedAt validator })

def create (issuerIdStr : String) (payload : CreateCredentialOfferRequest) :
    Handler V Response := do
  let issuerId ← lift (parseIssuerId env issuerIdStr)
  let credentialTypeId ← lift (fromBare env "credential_type_id" payload.credentialTypeId)
  let expiresIn ← lift (Oidc.resolveExpiresIn payload.expiresInSeconds)
  requireIssuerOwnedByTenant tenantId issuerId
  let found ← select (CredentialTypes.findByIdForTenant tenantId credentialTypeId)
  let credentialType ← require .notFound (found.filter fun row => row.retiredAt.isNone)
  let assigned ← select (IssuerCredentialTypes.isAssigned issuerId credentialType.id)
  ensure assigned (.conflict ("credential type " ++ credentialType.id.display ++
    " is not assigned to issuer " ++ issuerId.display))
  let validator ← getOrCompile env credentialType
  let errors := env.compiler.iterErrors validator payload.claims
  ensure errors.isEmpty (.claimsValidationFailed errors)
  let offer := CredentialOffer.new draws.offerId tenantId issuerId (some credentialType.id)
    credentialType.vct payload.claims draws.preAuthCode (draws.now + expiresIn) draws.later
  execute (CredentialOffers.insert offer)
  return ⟨201, .offerCreated
    (Catalogue.createResponse env.urlencode env.issuerBaseUrl offer draws.preAuthCode)⟩

/-- The path and the ownership check of the three requests on one offer, and its `SELECT`. -/
def load (issuerIdStr offerIdStr : String) : Handler V CredentialOffer := do
  let issuerId ← lift (parseIssuerId env issuerIdStr)
  let offerId ← lift (parseOfferId env offerIdStr)
  requireIssuerOwnedByTenant tenantId issuerId
  let offer ← select (CredentialOffers.findById tenantId issuerId offerId)
  require .notFound offer

def getOffer (issuerIdStr offerIdStr : String) : Handler V Response := do
  let offer ← load env tenantId issuerIdStr offerIdStr
  return ⟨200, .offer (Oidc.offerToResponse offer draws.now)⟩

def cancelOffer (issuerIdStr offerIdStr : String) : Handler V Response := do
  let offer ← load env tenantId issuerIdStr offerIdStr
  match offer.state with
  | .cancelled => return ⟨200, .offer (Oidc.offerToResponse offer draws.now)⟩
  | .pending =>
      let cancelled ← lift ((offer.tryCancel draws.now).mapError ApiError.ofDomain)
      execute (CredentialOffers.cancel tenantId offer.issuerId offer.id draws.now)
      return ⟨200, .offer (Oidc.offerToResponse cancelled draws.now)⟩
  | .issued | .expired =>
      fail (.conflict ("cannot cancel offer in state " ++ offer.state.asStr))

def getOfferStatus (issuerIdStr offerIdStr : String) : Handler V Response := do
  let offer ← load env tenantId issuerIdStr offerIdStr
  return ⟨200, .offerStatus (offerToStatusResponse offer draws.now)⟩

def listOffers (issuerIdStr : String) (query : ListCredentialOffersQuery) :
    Handler V Response := do
  let issuerId ← lift (parseIssuerId env issuerIdStr)
  let limit ← lift (Management.resolveListLimit query.limit)
  let stateFilter ← lift (parseStateFilter CredentialOfferState.parse query.state)
  let cursor ← lift (Management.Listing.decodeCursor "offer" env.crates query.cursor)
  requireIssuerOwnedByTenant tenantId issuerId
  let listing := Management.listOffers tenantId issuerId stateFilter draws.now
  let page ← page env listing Database.offers cursor limit
  return ⟨200, .offers (presented env listing page fun offer =>
    Oidc.offerToResponse offer draws.now)⟩

end CredentialOffers

namespace IssuedCredentials

def parseCredentialId (raw : String) : Except ApiError IssuedCredentialId :=
  fromBare env "credential_id path parameter" raw

def get (issuerIdStr credentialIdStr : String) : Handler V Response := do
  let issuerId ← lift (parseIssuerId env issuerIdStr)
  let credentialId ← lift (parseCredentialId env credentialIdStr)
  requireIssuerOwnedByTenant tenantId issuerId
  let credential ← select (IssuedCredentials.find tenantId credentialId)
  let credential ← require .notFound credential
  ensure (credential.issuerId == issuerId) .notFound
  return ⟨200, .credential (credentialToResponse credential draws.now)⟩

def list (issuerIdStr : String) (query : ListIssuedCredentialsQuery) : Handler V Response := do
  let issuerId ← lift (parseIssuerId env issuerIdStr)
  let limit ← lift (Management.resolveListLimit query.limit)
  let stateFilter ← lift (parseStateFilter IssuedCredentialState.parse query.state)
  let cursor ← lift (Management.Listing.decodeCursor "credential" env.crates query.cursor)
  requireIssuerOwnedByTenant tenantId issuerId
  let listing := Management.listIssuedCredentials tenantId issuerId stateFilter query.vct
  let page ← page env listing Database.credentials cursor limit
  return ⟨200, .credentials (presented env listing page fun credential =>
    credentialToResponse credential draws.now)⟩

def runLifecycleOp (issuerId : IssuerId) (credentialId : IssuedCredentialId)
    (operation : LifecycleOperation) : Handler V IssuedCredential :=
  transaction do
    requireIssuerOwnedByTenant tenantId issuerId
    let credential ← select (IssuedCredentials.find tenantId credentialId)
    let credential ← require .notFound credential
    ensure (credential.issuerId == issuerId) .notFound
    let moved ← lift ((operation.applyTransition credential).mapError ApiError.ofDomain)
    execute (IssuedCredentials.setState tenantId moved.id moved.state)
    execute (StatusLists.writeBit env.codec moved.statusListId moved.statusListIndex
      operation.bitValue)
    return moved

/-- `suspend`, `unsuspend` and `revoke`. -/
def change (operation : LifecycleOperation) (issuerIdStr credentialIdStr : String) :
    Handler V Response := do
  let issuerId ← lift (parseIssuerId env issuerIdStr)
  let credentialId ← lift (parseCredentialId env credentialIdStr)
  let updated ← runLifecycleOp env tenantId issuerId credentialId operation
  return ⟨200, .credential (credentialToResponse updated draws.now)⟩

end IssuedCredentials

namespace CredentialTypes

def maxFieldLength : Nat := 1024

def parseMode (raw : String) : Except ApiError RevocationMode :=
  (RevocationMode.parse raw).mapError fun err => .invalidInput ("revocation_mode: " ++ err.toString)

def validateDisplay : Json → Except ApiError Json
  | .array items => .ok (.array items)
  | _ => .error (.invalidInput "display must be a JSON array")

def validateClaims : Json → Except ApiError Json
  | .object fields => .ok (.object fields)
  | _ => .error (.invalidInput "claims must be a JSON object")

def validatorFor (schema : Json) : Except ApiError V :=
  (env.compiler.validatorFor schema).mapError fun err =>
    .invalidInput ("claim_schema does not compile: " ++ err)

/-- The columns that a request gives a new type. -/
def newType (payload : CreateCredentialTypeRequest) : Except ApiError Catalogue.NewType := do
  let vct ← normaliseRequired "vct" payload.vct maxFieldLength
  let internalDescription ← normaliseOptional "internal_description" payload.internalDescription
    maxFieldLength
  let claimSchemaSourceUrl ← normaliseOptional "claim_schema_source_url"
    payload.claimSchemaSourceUrl maxFieldLength
  let validity ← Catalogue.validateSeconds payload.defaultValiditySeconds
  let revocationMode ← parseMode payload.revocationMode
  let display ← validateDisplay (payload.display.getD (.array []))
  let claims ← validateClaims (payload.claims.getD (.object []))
  let _ ← validatorFor env payload.claimSchema
  return ⟨tenantId, vct, display, internalDescription, payload.claimSchema, claimSchemaSourceUrl,
    claims, validity.nanoseconds / 1000, revocationMode⟩

def create (payload : CreateCredentialTypeRequest) : Handler V Response := do
  let request ← lift (newType env tenantId payload)
  execute (CredentialTypes.insert env.bindInterval (request.create draws.typeId draws.now))
  return ⟨201, .typeCreated draws.typeId.bare⟩

def find (id : CredentialTypeId) : Handler V CredentialType := do
  let row ← select (CredentialTypes.findByIdForTenant tenantId id)
  require .notFound row

def get (idStr : String) : Handler V Response := do
  let id ← lift (parseCredentialTypeId env idStr)
  let row ← find tenantId id
  return ⟨200, .type (typeToResponse row)⟩

/-- `get_schema`, `get_display` and `get_claims`. -/
def getDocument (body : CredentialType → Body) (idStr : String) : Handler V Response := do
  let id ← lift (parseCredentialTypeId env idStr)
  let row ← find tenantId id
  return ⟨200, body row⟩

def list (query : ListCredentialTypesQuery) : Handler V Response := do
  let limit ← lift (Management.resolveListLimit query.limit)
  let cursor ← lift (Management.Listing.decodeCursor "ctype" env.crates query.cursor)
  let listing := Management.listCredentialTypes tenantId query.retired
  let page ← page env listing Database.types cursor limit
  return ⟨200, .types (presented env listing page typeToResponse)⟩

/-- The columns that a patch writes. -/
def structuredUpdate (payload : PatchCredentialTypeRequest) : Except ApiError StructuredUpdate := do
  let vct ← payload.vct.mapM fun raw => normaliseRequired "vct" raw maxFieldLength
  let internalDescription ← payload.internalDescription.mapM fun raw =>
    normaliseRequired "internal_description" raw maxFieldLength
  let claimSchemaSourceUrl ← payload.claimSchemaSourceUrl.mapM fun raw =>
    normaliseRequired "claim_schema_source_url" raw maxFieldLength
  let validity ← Catalogue.validatePatch payload.defaultValiditySeconds
  let revocationMode ← payload.revocationMode.mapM parseMode
  return ⟨vct, internalDescription, claimSchemaSourceUrl,
    validity.map fun validity => validity.nanoseconds / 1000, revocationMode⟩

def patch (idStr : String) (payload : PatchCredentialTypeRequest) : Handler V Response := do
  let id ← lift (parseCredentialTypeId env idStr)
  let update ← lift (structuredUpdate payload)
  let updated ← execute (CredentialTypes.updateStructured env.bindInterval tenantId id update
    draws.databaseNow)
  ensure updated .notFound
  let row ← find tenantId id
  return ⟨200, .type (typeToResponse row)⟩

/-- `put_schema`, `put_display` and `put_claims` on a document that has passed its check. -/
def putDocument (check : Json → Except ApiError Blob) (idStr : String) (body : Json) :
    Handler V Response := do
  let id ← lift (parseCredentialTypeId env idStr)
  let blob ← lift (check body)
  let updated ← execute (CredentialTypes.updateBlob tenantId id blob draws.databaseNow)
  ensure updated .notFound
  let row ← find tenantId id
  return ⟨200, .type (typeToResponse row)⟩

def checkSchema (body : Json) : Except ApiError Blob :=
  (validatorFor env body).map fun _ => .schema body

def checkDisplay (body : Json) : Except ApiError Blob := (validateDisplay body).map .display

def checkClaims (body : Json) : Except ApiError Blob := (validateClaims body).map .claims

def retire (idStr : String) : Handler V Response := do
  let id ← lift (parseCredentialTypeId env idStr)
  transaction do
    let updated ← execute (CredentialTypes.stampRetired tenantId id draws.now)
    ensure updated .notFound
    let _ ← execute (CredentialTypes.deleteAssignments id)
  return ⟨200, .typeRetired ⟨id.bare, draws.now⟩⟩

def assign (issuerIdStr credentialTypeIdStr : String) : Handler V Response := do
  let issuerId ← lift (parseIssuerId env issuerIdStr)
  let credentialTypeId ← lift (parseCredentialTypeId env credentialTypeIdStr)
  let owned ← select (IssuerCredentialTypes.tenantOwnsPair tenantId issuerId credentialTypeId)
  ensure owned .notFound
  let isNew ← execute (IssuerCredentialTypes.assign
    ⟨issuerId, credentialTypeId, tenantId, draws.now⟩)
  return ⟨if isNew then 201 else 200, .assignment ⟨issuerId.bare, credentialTypeId.bare⟩⟩

def unassign (issuerIdStr credentialTypeIdStr : String) : Handler V Response := do
  let issuerId ← lift (parseIssuerId env issuerIdStr)
  let credentialTypeId ← lift (parseCredentialTypeId env credentialTypeIdStr)
  let owned ← select (IssuerCredentialTypes.tenantOwnsPair tenantId issuerId credentialTypeId)
  ensure owned .notFound
  let _ ← execute (IssuerCredentialTypes.unassign issuerId credentialTypeId)
  return ⟨204, .empty⟩

def listAssignments (issuerIdStr : String) : Handler V Response := do
  let issuerId ← lift (parseIssuerId env issuerIdStr)
  requireIssuerOwnedByTenant tenantId issuerId
  let rows ← select fun db =>
    letI := env.collation "ctype"
    CredentialTypes.listAssignedToIssuer tenantId issuerId db
  return ⟨200, .assigned (rows.map typeToResponse)⟩

end CredentialTypes

namespace UserAccounts

def create (payload : PatchUserAccountRequest) : Handler V Response := do
  let provisioning ← lift (normalise payload)
  execute (UserAccounts.insert {
    id := draws.accountId
    tenantId := tenantId
    provisioningFirstName := provisioning.firstName
    provisioningLastName := provisioning.lastName
    provisioningHomeOrganization := provisioning.homeOrganization
    state := .active
    identity := none
    idpFirstName := none
    idpLastName := none
    linkedAt := none
    createdAt := draws.now })
  return ⟨201, .accountCreated draws.accountId.bare⟩

def list (query : PageQuery) : Handler V Response := do
  let limit ← lift (Management.resolveListLimit query.limit)
  let cursor ← lift (Management.Listing.decodeCursor "account" env.crates query.cursor)
  let listing := Management.listUserAccounts tenantId
  let page ← page env listing Database.accounts cursor limit
  let displayName ← select (Tenants.findDisplayName tenantId)
  return ⟨200, .accounts (presented env listing page fun account =>
    userAccountToResponse account displayName)⟩

def find (id : UserAccountId) : Handler V UserAccount := do
  let account ← select (Tenancy.UserAccounts.get tenantId id)
  require .notFound account

def respond (account : UserAccount) : Handler V Response := do
  let displayName ← select (Tenants.findDisplayName tenantId)
  return ⟨200, .account (userAccountToResponse account displayName)⟩

def get (idStr : String) : Handler V Response := do
  let id ← lift (parseUserAccountId env idStr)
  let account ← find tenantId id
  respond tenantId account

def patch (idStr : String) (payload : PatchUserAccountRequest) : Handler V Response := do
  let id ← lift (parseUserAccountId env idStr)
  let named ← lift (normalise payload)
  let account ← find tenantId id
  let merged := mergeProvisioning named account.provisioning
  execute (UserAccounts.updateProvisioning tenantId id merged)
  respond tenantId (UserAccounts.withProvisioning merged account)

/-- `activate` and `deactivate`. -/
def setAccountState (state : UserAccountState) (idStr : String) : Handler V Response := do
  let id ← lift (parseUserAccountId env idStr)
  execute (UserAccounts.setState tenantId id state)
  let account ← find tenantId id
  respond tenantId account

end UserAccounts

namespace Invitations

def invitationAcceptPath : String := "/invitations/accept"

def buildInvitationLink (invitationId : InvitationId) (code : String) : String :=
  Catalogue.trimEndSlashes env.webBaseUrl ++ invitationAcceptPath ++ "?invitation=" ++
    invitationId.bare ++ "&code=" ++ code

/-- The row that `create` inserts. -/
def newInvitation (accountId : UserAccountId) (expiresAt : DateTime) : InvitationRow where
  id := draws.invitationId
  userAccountId := accountId
  tenantId := tenantId
  state := .pending
  expiresAt := expiresAt
  createdAt := draws.now
  acceptedAt := none
  revokedAt := none
  codeHash := some (env.codeHash draws.invitationCode)

def create (accountIdStr : String) (expiresInSeconds : Option Nat) : Handler V Response := do
  let accountId ← lift (parseUserAccountId env accountIdStr)
  let expiresIn ← lift (resolveInvitationExpiresIn expiresInSeconds)
  let expiresAt := draws.now + expiresIn
  transaction do
    let account ← select (Tenancy.UserAccounts.get tenantId accountId)
    let account ← require .notFound account
    ensure account.identity.isNone alreadyLinked
    let _ ← execute (UserAccountInvitations.expirePendingIfDue accountId draws.now)
    execute (UserAccountInvitations.insert
      (newInvitation env draws tenantId accountId expiresAt))
  return ⟨201, .invitationCreated ⟨draws.invitationId.bare,
    buildInvitationLink env draws.invitationId draws.invitationCode, expiresAt⟩⟩

def list (accountIdStr : String) (query : PageQuery) : Handler V Response := do
  let accountId ← lift (parseUserAccountId env accountIdStr)
  let limit ← lift (Management.resolveListLimit query.limit)
  let cursor ← lift (Management.Listing.decodeCursor "invite" env.crates query.cursor)
  requireUserAccountOwnedByTenant tenantId accountId
  let listing := Management.listInvitations tenantId accountId
  let page ← page env listing (fun db => db.invitations.map InvitationRow.toInvitation) cursor limit
  return ⟨200, .invitations (presented env listing page fun invitation =>
    invitationToResponse invitation draws.now)⟩

def revoke (invitationIdStr : String) : Handler V Response := do
  let invitationId ← lift (Linking.parseInvitationId
    (fun s => (env.crates.bs58Decode s).map ByteArray.size) invitationIdStr)
  let revoked ← transaction do
    let invitation ← select fun db =>
      (UserAccountInvitations.findById invitationId db).filter fun row => row.tenantId == tenantId
    let invitation ← require .notFound invitation
    let observed := invitation.observedState draws.now
    ensure (observed == .pending)
      (.conflict ("invitation is " ++ observed.asStr ++ " and cannot be revoked"))
    execute (UserAccountInvitations.markRevoked invitationId draws.now)
    return { invitation with state := .revoked, revokedAt := some draws.now }
  return ⟨200, .invitation (invitationToResponse revoked draws.now)⟩

end Invitations

end SwiyuIssuer.Tenancy.Api

namespace SwiyuIssuer.Tenancy

open Persistence Linking.PatchAccounts

/-- The routes under a `TenantContext`, with what the extractors have taken from the request. -/
inductive Request
  | createIssuer (payload : CreateIssuerSubmission)
  | listIssuers (query : PageQuery)
  | getIssuer (issuerId : String)
  | deactivateIssuer (issuerId : String)
  | rotateKeys (issuerId : String) (body : Json)
  | getTask (taskId : String)
  | createOffer (issuerId : String) (payload : CreateCredentialOfferRequest)
  | listOffers (issuerId : String) (query : ListCredentialOffersQuery)
  | getOffer (issuerId offerId : String)
  | cancelOffer (issuerId offerId : String)
  | getOfferStatus (issuerId offerId : String)
  | listCredentials (issuerId : String) (query : ListIssuedCredentialsQuery)
  | getCredential (issuerId credentialId : String)
  | suspend (issuerId credentialId : String)
  | unsuspend (issuerId credentialId : String)
  | revoke (issuerId credentialId : String)
  | createType (payload : CreateCredentialTypeRequest)
  | listTypes (query : ListCredentialTypesQuery)
  | getType (credentialTypeId : String)
  | patchType (credentialTypeId : String) (payload : PatchCredentialTypeRequest)
  | retireType (credentialTypeId : String)
  | getSchema (credentialTypeId : String)
  | putSchema (credentialTypeId : String) (body : Json)
  | getDisplay (credentialTypeId : String)
  | putDisplay (credentialTypeId : String) (body : Json)
  | getClaims (credentialTypeId : String)
  | putClaims (credentialTypeId : String) (body : Json)
  | listAssignments (issuerId : String)
  | assign (issuerId credentialTypeId : String)
  | unassign (issuerId credentialTypeId : String)
  | createAccount (payload : PatchUserAccountRequest)
  | listAccounts (query : PageQuery)
  | getAccount (userAccountId : String)
  | patchAccount (userAccountId : String) (payload : PatchUserAccountRequest)
  | activateAccount (userAccountId : String)
  | deactivateAccount (userAccountId : String)
  | createInvitation (userAccountId : String) (expiresInSeconds : Option Nat)
  | listInvitations (userAccountId : String) (query : PageQuery)
  | revokeInvitation (invitationId : String)

variable {V : Type}

/-- The router. -/
def handle (env : Environment V) (draws : Draws) (tenantId : TenantId) :
    Request → Handler V Response
  | .createIssuer payload => Api.Issuers.create draws tenantId payload
  | .listIssuers query => Api.Issuers.list env tenantId query
  | .getIssuer issuerId => Api.Issuers.get env tenantId issuerId
  | .deactivateIssuer issuerId => Api.Issuers.deactivate env draws tenantId issuerId
  | .rotateKeys issuerId body => Api.Issuers.rotateKeys env draws tenantId issuerId body
  | .getTask taskId => Api.OperationTasks.get env tenantId taskId
  | .createOffer issuerId payload => Api.CredentialOffers.create env draws tenantId issuerId payload
  | .listOffers issuerId query => Api.CredentialOffers.listOffers env draws tenantId issuerId query
  | .getOffer issuerId offerId => Api.CredentialOffers.getOffer env draws tenantId issuerId offerId
  | .cancelOffer issuerId offerId =>
      Api.CredentialOffers.cancelOffer env draws tenantId issuerId offerId
  | .getOfferStatus issuerId offerId =>
      Api.CredentialOffers.getOfferStatus env draws tenantId issuerId offerId
  | .listCredentials issuerId query =>
      Api.IssuedCredentials.list env draws tenantId issuerId query
  | .getCredential issuerId credentialId =>
      Api.IssuedCredentials.get env draws tenantId issuerId credentialId
  | .suspend issuerId credentialId =>
      Api.IssuedCredentials.change env draws tenantId .suspend issuerId credentialId
  | .unsuspend issuerId credentialId =>
      Api.IssuedCredentials.change env draws tenantId .unsuspend issuerId credentialId
  | .revoke issuerId credentialId =>
      Api.IssuedCredentials.change env draws tenantId .revoke issuerId credentialId
  | .createType payload => Api.CredentialTypes.create env draws tenantId payload
  | .listTypes query => Api.CredentialTypes.list env tenantId query
  | .getType id => Api.CredentialTypes.get env tenantId id
  | .patchType id payload => Api.CredentialTypes.patch env draws tenantId id payload
  | .retireType id => Api.CredentialTypes.retire env draws tenantId id
  | .getSchema id =>
      Api.CredentialTypes.getDocument env tenantId (fun row => .schema row.claimSchema) id
  | .putSchema id body =>
      Api.CredentialTypes.putDocument env draws tenantId (Api.CredentialTypes.checkSchema env) id
        body
  | .getDisplay id =>
      Api.CredentialTypes.getDocument env tenantId (fun row => .document row.display) id
  | .putDisplay id body =>
      Api.CredentialTypes.putDocument env draws tenantId Api.CredentialTypes.checkDisplay id body
  | .getClaims id =>
      Api.CredentialTypes.getDocument env tenantId (fun row => .document row.claims) id
  | .putClaims id body =>
      Api.CredentialTypes.putDocument env draws tenantId Api.CredentialTypes.checkClaims id body
  | .listAssignments issuerId => Api.CredentialTypes.listAssignments env tenantId issuerId
  | .assign issuerId id => Api.CredentialTypes.assign env draws tenantId issuerId id
  | .unassign issuerId id => Api.CredentialTypes.unassign env tenantId issuerId id
  | .createAccount payload => Api.UserAccounts.create draws tenantId payload
  | .listAccounts query => Api.UserAccounts.list env tenantId query
  | .getAccount id => Api.UserAccounts.get env tenantId id
  | .patchAccount id payload => Api.UserAccounts.patch env tenantId id payload
  | .activateAccount id => Api.UserAccounts.setAccountState env tenantId .active id
  | .deactivateAccount id => Api.UserAccounts.setAccountState env tenantId .deactivated id
  | .createInvitation id expiresInSeconds =>
      Api.Invitations.create env draws tenantId id expiresInSeconds
  | .listInvitations id query => Api.Invitations.list env draws tenantId id query
  | .revokeInvitation id => Api.Invitations.revoke env draws tenantId id

/-- A request, from the extractor to the response. -/
def serve (env : Environment V) (draws : Draws) (caller : Caller) (request : Request)
    (server : Server V) : Except Linking.AuthError (Except ApiError Response) × Server V :=
  match tenantContext caller server.toDatabase with
  | .error error => (.error error, server)
  | .ok tenantId =>
      let served := handle env draws tenantId request server
      (.ok served.1, served.2)

end SwiyuIssuer.Tenancy
