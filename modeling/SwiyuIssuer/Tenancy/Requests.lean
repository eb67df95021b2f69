import SwiyuIssuer.Catalogue.Deeplinks
import SwiyuIssuer.Catalogue.Validity
import SwiyuIssuer.Linking.PatchAccounts
import SwiyuIssuer.Oidc.Cancellation
import SwiyuIssuer.Resume.Journal
import SwiyuIssuer.Saga.World
import SwiyuIssuer.Tenancy.Ownership

/-! The requests and responses of the management API, and how a request comes to act for a
tenant. -/

namespace SwiyuIssuer.Tenancy

open Library Persistence Catalogue.Validators Linking Linking.PatchAccounts

/-- A tenant's request answers or fails with the server in some state. -/
abbrev Handler (V α : Type) := Program (Server V) ApiError α

variable {V α : Type}

def select (query : Database → α) : Handler V α :=
  Program.read fun server => query server.toDatabase

def execute (run : Database → Except PersistenceError (α × Database)) : Handler V α :=
  Program.statement fun server =>
    ((run server.toDatabase).mapError ApiError.ofPersistence).map fun result =>
      (result.1, { server with toDatabase := result.2 })

/-- The configuration, and the crates with the texts of their errors. `bindInterval` is the
conversion of a duration that `sqlx` makes, `collation` the order of the ids of a table. -/
structure Environment (V : Type) where
  compiler : Compiler V
  crates : Management.Crates
  codec : StatusListCodec
  bindInterval : Int → Except PersistenceError Unit
  collation : ∀ label, LinearOrder (Id label)
  urlencode : String → String
  describe : JsonError → String
  codeHash : String → InvitationCodeHash
  issuerBaseUrl : String
  webBaseUrl : String

/-- The ids, the codes and the clock readings that a request takes; `later` is a second reading of
the application's clock, `databaseNow` is `NOW()`. -/
structure Draws where
  taskId : TaskId
  issuerId : IssuerId
  offerId : CredentialOfferId
  preAuthCode : PreAuthCode
  typeId : CredentialTypeId
  accountId : UserAccountId
  invitationId : InvitationId
  invitationCode : String
  now : DateTime
  later : DateTime
  databaseNow : DateTime

/-- The drawn ids are of no row, and no invitation has the drawn code. -/
structure Draws.Fresh (env : Environment V) (draws : Draws) (db : Database) : Prop where
  task : ∀ row ∈ db.tasks, row.id ≠ draws.taskId
  offer : ∀ row ∈ db.offers, row.id ≠ draws.offerId
  type : ∀ row ∈ db.types, row.id ≠ draws.typeId
  account : ∀ row ∈ db.accounts, row.id ≠ draws.accountId
  invitation : ∀ row ∈ db.invitations, row.id ≠ draws.invitationId
  code : ∀ row ∈ db.invitations, row.codeHash ≠ some (env.codeHash draws.invitationCode)

section Context

/-- A request behind the checks of its token, with the headers that `TenantContext` reads. -/
structure Caller where
  principal : Except Management.TokenError Management.Principal
  headers : TenantHeaders

/-- The rows that are found by their primary key. -/
def Database.linking (db : Database) : Linking.Database where
  accounts id := db.accounts.find? fun row => row.id == id
  invitations id := db.invitations.find? fun row => row.id == id

/-- The extractor. -/
def tenantContext (caller : Caller) (db : Database) : Except AuthError TenantId :=
  match caller.principal with
  | .error .invalid => .error .unauthorised
  | .error .keysUnavailable => .error .serviceUnavailable
  | .ok (.tenant tenantId) =>
      if Tenants.rowExists tenantId db then .ok tenantId else .error .unauthorised
  | .ok (.firstParty .administrative) =>
      match caller.headers.xTenant with
      | .error details => .error (.invalidInput details)
      | .ok tenantId => if Tenants.rowExists tenantId db then .ok tenantId else .error .notFound
  | .ok (.firstParty (.actingAsUser identity)) =>
      Linking.deriveTenantForActingUser db.linking caller.headers.xUserAccount identity

theorem tenantContext_claims {bs58Length : String → Except String Nat} {payload : Json}
    {headers : TenantHeaders} {db : Database} :
    tenantContext ⟨Management.classifyPrincipal bs58Length payload, headers⟩ db =
      Linking.tenantContext bs58Length (fun id => Tenants.rowExists id db) db.linking payload
        headers := by
  unfold tenantContext Linking.tenantContext
  generalize Management.classifyPrincipal bs58Length payload = principal
  rcases principal with (_ | _) | (_ | (_ | _)) <;> rfl

end Context

structure Page (α : Type) where
  items : List α
  nextCursor : Option String

structure PageQuery where
  limit : Option Nat
  cursor : Option String

structure CreateIssuerSubmission where
  description : Option String
  displayName : Option String

structure CreateIssuerResponse where
  taskId : String
  issuerId : String

/-- `DeactivateIssuerResponse` and `RotateKeysResponse`; the latter always has a task. -/
structure SubmissionResponse where
  taskId : Option String
  issuerId : String

structure GetIssuerResponse where
  id : String
  did : String
  state : String
  description : String
  displayName : String

structure GetOperationTaskResponse where
  id : String
  taskType : String
  state : String
  step : Option String
  attempts : Nat
  nextAttemptAt : Option DateTime
  errorCode : Option String
  errorMessage : Option String
  createdAt : DateTime
  updatedAt : DateTime
  completedAt : Option DateTime

structure CreateCredentialOfferRequest where
  credentialTypeId : String
  claims : Json
  expiresInSeconds : Option Nat

structure OfferStatusResponse where
  id : String
  state : String
  expiresAt : DateTime
  issuedAt : Option DateTime
  cancelledAt : Option DateTime

structure ListCredentialOffersQuery extends PageQuery where
  state : Option String

structure ListIssuedCredentialsQuery extends PageQuery where
  state : Option String
  vct : Option String

structure GetIssuedCredentialResponse where
  id : String
  issuerId : String
  credentialOfferId : String
  vct : String
  holderKeyJkt : String
  statusListId : String
  statusListIndex : Nat
  state : String
  expired : Bool
  issuedAt : DateTime
  expiresAt : DateTime

structure CreateCredentialTypeRequest where
  vct : String
  claimSchema : Json
  claims : Option Json
  display : Option Json
  internalDescription : Option String
  claimSchemaSourceUrl : Option String
  defaultValiditySeconds : UInt64
  revocationMode : String

structure GetCredentialTypeResponse where
  credentialTypeId : String
  vct : String
  internalDescription : Option String
  claimSchemaSourceUrl : Option String
  claimSchemaFetchedAt : Option DateTime
  defaultValiditySeconds : Nat
  revocationMode : String
  createdAt : DateTime
  updatedAt : DateTime
  retiredAt : Option DateTime

structure ListCredentialTypesQuery extends PageQuery where
  retired : Bool

structure PatchCredentialTypeRequest where
  vct : Option String
  internalDescription : Option String
  claimSchemaSourceUrl : Option String
  defaultValiditySeconds : Option UInt64
  revocationMode : Option String

structure RetireCredentialTypeResponse where
  credentialTypeId : String
  retiredAt : DateTime

structure AssignmentResponse where
  issuerId : String
  credentialTypeId : String

structure CreateInvitationResponse where
  invitationId : String
  invitationLink : String
  expiresAt : DateTime

structure InvitationResponse where
  id : String
  state : String
  expiresAt : DateTime
  createdAt : DateTime
  acceptedAt : Option DateTime
  revokedAt : Option DateTime

inductive Body
  | issuerCreated (response : CreateIssuerResponse)
  | submitted (response : SubmissionResponse)
  | issuer (response : GetIssuerResponse)
  | issuers (page : Page GetIssuerResponse)
  | task (response : GetOperationTaskResponse)
  | offerCreated (response : Catalogue.CreateCredentialOfferResponse)
  | offer (response : Oidc.GetCredentialOfferResponse)
  | offers (page : Page Oidc.GetCredentialOfferResponse)
  | offerStatus (response : OfferStatusResponse)
  | credential (response : GetIssuedCredentialResponse)
  | credentials (page : Page GetIssuedCredentialResponse)
  | typeCreated (credentialTypeId : String)
  | type (response : GetCredentialTypeResponse)
  | types (page : Page GetCredentialTypeResponse)
  | typeRetired (response : RetireCredentialTypeResponse)
  | schema (document : Json)
  | document (document : Json)
  | assignment (response : AssignmentResponse)
  | assigned (items : List GetCredentialTypeResponse)
  | accountCreated (userAccountId : String)
  | account (response : UserAccountResponse)
  | accounts (page : Page UserAccountResponse)
  | invitationCreated (response : CreateInvitationResponse)
  | invitation (response : InvitationResponse)
  | invitations (page : Page InvitationResponse)
  | empty

structure Response where
  status : Nat
  body : Body

section Projections

def issuerToResponse (issuer : Worker.IssuerRecord) : Except ApiError GetIssuerResponse := do
  let missing (field : String) : ApiError :=
    .internal ("issuer row missing BA-facing field `" ++ field ++ "`")
  let state ← Answers.okOr issuer.state .notFound
  let description ← Answers.okOr issuer.description (missing "description")
  let displayName ← Answers.okOr issuer.displayName (missing "display_name")
  return ⟨issuer.id.bare, issuer.did, state.asStr, description, displayName⟩

def taskToResponse (task : OperationTask) : GetOperationTaskResponse where
  id := task.id.bare
  taskType := task.taskType.asStr
  state := task.state.asStr
  step := task.step
  attempts := task.attempts
  nextAttemptAt := task.nextAttemptAt
  errorCode := task.errorCode
  errorMessage := task.errorMessage
  createdAt := task.createdAt
  updatedAt := task.updatedAt
  completedAt := task.completedAt

def offerToStatusResponse (offer : CredentialOffer) (now : DateTime) : OfferStatusResponse where
  id := offer.id.bare
  state := (offer.observedState now).asStr
  expiresAt := offer.expiresAt
  issuedAt := offer.issuedAt
  cancelledAt := offer.cancelledAt

def credentialToResponse (credential : IssuedCredential) (now : DateTime) :
    GetIssuedCredentialResponse where
  id := credential.id.bare
  issuerId := credential.issuerId.bare
  credentialOfferId := credential.credentialOfferId.bare
  vct := credential.vct
  holderKeyJkt := credential.holderKeyJkt
  statusListId := credential.statusListId.bare
  statusListIndex := credential.statusListIndex
  state := credential.state.asStr
  expired := credential.isExpiredAt now
  issuedAt := credential.issuedAt
  expiresAt := credential.expiresAt

/-- `num_seconds`, no less than zero. -/
def typeToResponse (row : CredentialType) : GetCredentialTypeResponse where
  credentialTypeId := row.id.bare
  vct := row.vct
  internalDescription := row.internalDescription
  claimSchemaSourceUrl := row.claimSchemaSourceUrl
  claimSchemaFetchedAt := row.claimSchemaFetchedAt
  defaultValiditySeconds := (row.defaultValidityDuration / 1000000).toNat
  revocationMode := row.revocationMode.asStr
  createdAt := row.createdAt
  updatedAt := row.updatedAt
  retiredAt := row.retiredAt

def invitationToResponse (invitation : Invitation) (now : DateTime) : InvitationResponse where
  id := invitation.id.bare
  state := (invitation.observedState now).asStr
  expiresAt := invitation.expiresAt
  createdAt := invitation.createdAt
  acceptedAt := invitation.acceptedAt
  revokedAt := invitation.revokedAt

end Projections

end SwiyuIssuer.Tenancy
