import SwiyuIssuer.Library.Claims
import SwiyuIssuer.Library.Run
import SwiyuIssuer.Oidc.Sessions
import SwiyuIssuer.Persistence.CredentialTypes
import SwiyuIssuer.Worker.CreateIssuer

/-! The requests on credential types and their assignments, and the creation of an offer of one. -/

namespace SwiyuIssuer.Catalogue

open Library Persistence StatusStore

structure RetireRequest where
  tenantId : TenantId
  id : CredentialTypeId
  now : DateTime

/-- The path of an assign or unassign request. -/
structure PairRequest where
  tenantId : TenantId
  issuerId : IssuerId
  credentialTypeId : CredentialTypeId

def PairRequest.key (request : PairRequest) : AssignmentKey :=
  (request.issuerId, request.credentialTypeId)

/-- The columns of a new type that come from the request. -/
structure NewType where
  tenantId : TenantId
  vct : String
  display : Json
  internalDescription : Option String
  claimSchema : Json
  claimSchemaSourceUrl : Option String
  claims : Json
  defaultValidity : Int
  revocationMode : RevocationMode

/-- `CredentialType::new`, under the id it generates and the clock reading it takes. -/
def NewType.create (request : NewType) (id : CredentialTypeId) (now : DateTime) :
    CredentialType where
  id := id
  tenantId := request.tenantId
  vct := request.vct
  display := request.display
  internalDescription := request.internalDescription
  claimSchema := request.claimSchema
  claimSchemaSourceUrl := request.claimSchemaSourceUrl
  claimSchemaFetchedAt := none
  claims := request.claims
  defaultValidityDuration := request.defaultValidity
  revocationMode := request.revocationMode
  createdAt := now
  updatedAt := now
  retiredAt := none

inductive Session
  | idle
  | typeRetired (request : RetireRequest)
  | assignmentsDeleted (request : RetireRequest) (deleted : List AssignmentKey)
  | retireAnswered (response : Except ApiError DateTime)
  | pairOwned (request : PairRequest)
  | assignAnswered (response : Except ApiError AssignOutcome)
  | pairToUnassign (request : PairRequest)
  | unassignAnswered (response : Except ApiError Unit)
  | issuerProbed (request : Oidc.CreateRequest) (expiresIn : Int)
  | typeProbed (request : Oidc.CreateRequest) (expiresIn : Int) (found : CredentialType)
  | claimsValidated (request : Oidc.CreateRequest) (expiresIn : Int) (found : CredentialType)
  | offerCreated (response : Except ApiError CredentialOffer)
  | typeAnswered (response : Except ApiError Unit)

namespace Session

def typeClaim : Session → CredentialTypeId → Option CredentialType →
    Option (Option CredentialType)
  | typeRetired request, id, committed | assignmentsDeleted request _, id, committed =>
      if id = request.id then some (committed.map (CredentialTypes.asRetired request.now)) else none
  | _, _, _ => none

def assignmentClaim : Session → AssignmentKey → Option IssuerCredentialTypeAssignment →
    Option (Option IssuerCredentialTypeAssignment)
  | assignmentsDeleted _ deleted, key, _ => if key ∈ deleted then some none else none
  | _, _, _ => none

theorem typeClaim_none {session : Session} {id : CredentialTypeId}
    {committed : Option CredentialType} (unclaimed : session.typeClaim id committed = none)
    (other : Option CredentialType) : session.typeClaim id other = none := by
  cases session <;> simp_all [typeClaim]

theorem assignmentClaim_none {session : Session} {key : AssignmentKey}
    {committed : Option IssuerCredentialTypeAssignment}
    (unclaimed : session.assignmentClaim key committed = none)
    (other : Option IssuerCredentialTypeAssignment) :
    session.assignmentClaim key other = none := by
  cases session <;> exact unclaimed

end Session

/-- `typeIds` and `assignmentKeys` are the rows of the tables. Issuers and offers are rewritten by
single statements outside any transaction of this store. -/
structure State where
  types : Table TxId CredentialTypeId (Option CredentialType)
  assignments : Table TxId AssignmentKey (Option IssuerCredentialTypeAssignment)
  typeIds : List CredentialTypeId
  assignmentKeys : List AssignmentKey
  issuers : IssuerId → Option Worker.IssuerRecord
  offers : CredentialOfferId → Option CredentialOffer
  sessions : TxId → Session

structure Database where
  types : CredentialTypeId → Option CredentialType
  assignments : AssignmentKey → Option IssuerCredentialTypeAssignment
  issuers : IssuerId → Option Worker.IssuerRecord
  offers : CredentialOfferId → Option CredentialOffer

/-- The next statement of a request. `putIssuer` stands for the statements of the worker and of the
issuer handlers, which never move a row to another tenant; `endOffer` for those that issue or cancel
an offer. -/
inductive Action
  | insertType (request : NewType) (id : CredentialTypeId) (now : DateTime)
  | updateStructured (tenantId : TenantId) (id : CredentialTypeId) (update : StructuredUpdate)
      (now : DateTime)
  | updateBlob (tenantId : TenantId) (id : CredentialTypeId) (blob : Blob) (now : DateTime)
  | stampRetired (request : RetireRequest)
  | deleteByType
  | commit
  | probePair (request : PairRequest)
  | assign (now : DateTime)
  | probeUnassign (request : PairRequest)
  | unassign
  | probeIssuer (request : Oidc.CreateRequest)
  | probeType
  | probeAssignment (validated : Except ApiError Unit)
  | insertOffer (id : CredentialOfferId) (code : PreAuthCode) (now : DateTime)
  | putIssuer (issuer : Worker.IssuerRecord)
  | endOffer (id : CredentialOfferId) (issued : Bool) (now : DateTime)
  | fail (details : String)

namespace State

def database (state : State) : Database where
  types := state.types.snapshot
  assignments := state.assignments.snapshot
  issuers := state.issuers
  offers := state.offers

def goto (state : State) (t : TxId) (session : Session) : State :=
  { state with sessions := Function.update state.sessions t session }

def rollback (state : State) (t : TxId) (session : Session) : State :=
  { state with
    types := state.types.rollback t
    assignments := state.assignments.rollback t
    sessions := Function.update state.sessions t session }

def commitTo (state : State) (t : TxId) (session : Session) : State :=
  { state with
    types := state.types.commit t
    assignments := state.assignments.commit t
    sessions := Function.update state.sessions t session }

def withTypes (state : State) (types : Table TxId CredentialTypeId (Option CredentialType))
    (ids : List CredentialTypeId) (t : TxId) (session : Session) : State :=
  { state with
    types := types
    typeIds := ids
    sessions := Function.update state.sessions t session }

def withAssignments (state : State)
    (assignments : Table TxId AssignmentKey (Option IssuerCredentialTypeAssignment))
    (keys : List AssignmentKey) (t : TxId) (session : Session) : State :=
  { state with
    assignments := assignments
    assignmentKeys := keys
    sessions := Function.update state.sessions t session }

def withOffer (state : State) (offer : CredentialOffer) (t : TxId) (session : Session) : State :=
  { state with
    offers := Function.update state.offers offer.id (some offer)
    sessions := Function.update state.sessions t session }

variable (state : State) (t : TxId)

/-- `tenant_owns_pair`, both halves. -/
def tenantOwnsPair (request : PairRequest) : Bool :=
  (state.issuers request.issuerId).any (fun issuer => issuer.tenantId == request.tenantId) &&
    (CredentialTypes.findByIdForTenant state.types t request.tenantId
      request.credentialTypeId).isSome

def insertTypeStep (request : NewType) (id : CredentialTypeId) (now : DateTime) : Option State :=
  match state.sessions t with
  | .idle =>
      match CredentialTypes.insert state.types state.typeIds t (request.create id now) with
      | none => none
      | some (.error error) =>
          some (state.goto t (.typeAnswered (.error (.ofPersistence error))))
      | some (.ok types) =>
          some (state.withTypes types (id :: state.typeIds) t (.typeAnswered (.ok ())))
  | _ => none

/-- The statement of `patch` and of the three blob handlers. -/
def changeTypeStep (answer : Option (Except PersistenceError
    (Table TxId CredentialTypeId (Option CredentialType) × UpdateOutcome))) : Option State :=
  match state.sessions t with
  | .idle =>
      match answer with
      | none => none
      | some (.error error) =>
          some (state.goto t (.typeAnswered (.error (.ofPersistence error))))
      | some (.ok (_, .notFound)) => some (state.goto t (.typeAnswered (.error .notFound)))
      | some (.ok (types, .updated)) =>
          some (state.withTypes types state.typeIds t (.typeAnswered (.ok ())))
  | _ => none

def stampRetiredStep (request : RetireRequest) : Option State :=
  match state.sessions t with
  | .idle =>
      match CredentialTypes.stampRetired state.types t request.tenantId request.id request.now with
      | none => none
      | some (_, .notFound) => some (state.rollback t (.retireAnswered (.error .notFound)))
      | some (types, .updated) =>
          some (state.withTypes types state.typeIds t (.typeRetired request))
  | _ => none

def deleteByTypeStep : Option State :=
  match state.sessions t with
  | .typeRetired request =>
      match IssuerCredentialTypes.deleteByType state.assignments state.assignmentKeys t
          request.id with
      | none => none
      | some (assignments, deleted) =>
          some (state.withAssignments assignments state.assignmentKeys t
            (.assignmentsDeleted request deleted))
  | _ => none

def commitStep : Option State :=
  match state.sessions t with
  | .assignmentsDeleted request _ => some (state.commitTo t (.retireAnswered (.ok request.now)))
  | _ => none

/-- Both handlers of a pair begin with `tenant_owns_pair`. -/
def ownedPairStep (request : PairRequest) (owned refused : Session) : Option State :=
  match state.sessions t with
  | .idle =>
      if state.tenantOwnsPair t request then some (state.goto t owned)
      else some (state.goto t refused)
  | _ => none

def probePairStep (request : PairRequest) : Option State :=
  state.ownedPairStep t request (.pairOwned request) (.assignAnswered (.error .notFound))

/-- The two reads before it say nothing about `retired_at`. -/
def assignStep (now : DateTime) : Option State :=
  match state.sessions t with
  | .pairOwned request =>
      match IssuerCredentialTypes.assign state.assignments request.key
          ⟨request.issuerId, request.credentialTypeId, request.tenantId, now⟩ with
      | none => none
      | some (assignments, outcome) =>
          some (state.withAssignments assignments (request.key :: state.assignmentKeys) t
            (.assignAnswered (.ok outcome)))
  | _ => none

def probeUnassignStep (request : PairRequest) : Option State :=
  state.ownedPairStep t request (.pairToUnassign request) (.unassignAnswered (.error .notFound))

def unassignStep : Option State :=
  match state.sessions t with
  | .pairToUnassign request =>
      match IssuerCredentialTypes.unassign state.assignments request.key with
      | none => none
      | some (assignments, _) =>
          some (state.withAssignments assignments state.assignmentKeys t
            (.unassignAnswered (.ok ())))
  | _ => none

def probeIssuerStep (request : Oidc.CreateRequest) : Option State :=
  match state.sessions t with
  | .idle =>
      match Oidc.resolveExpiresIn request.expiresInSeconds with
      | .error error => some (state.goto t (.offerCreated (.error error)))
      | .ok expiresIn =>
          if (state.issuers request.issuerId).any fun issuer =>
              issuer.tenantId == request.tenantId then
            some (state.goto t (.issuerProbed request expiresIn))
          else some (state.goto t (.offerCreated (.error .notFound)))
  | _ => none

def probeTypeStep : Option State :=
  match state.sessions t with
  | .issuerProbed request expiresIn =>
      match (CredentialTypes.findByIdForTenant state.types t request.tenantId
          request.credentialTypeId).filter fun found => found.retiredAt.isNone with
      | none => some (state.goto t (.offerCreated (.error .notFound)))
      | some found => some (state.goto t (.typeProbed request expiresIn found))
  | _ => none

/-- `validated` is what the JSON Schema validator says about the claims. -/
def probeAssignmentStep (validated : Except ApiError Unit) : Option State :=
  match state.sessions t with
  | .typeProbed request expiresIn found =>
      if IssuerCredentialTypes.isAssigned state.assignments t (request.issuerId, found.id) then
        match validated with
        | .error error => some (state.goto t (.offerCreated (.error error)))
        | .ok () => some (state.goto t (.claimsValidated request expiresIn found))
      else some (state.goto t (.offerCreated (.error (.conflict ("credential type " ++
        found.id.display ++ " is not assigned to issuer " ++ request.issuerId.display)))))
  | _ => none

def insertOfferStep (id : CredentialOfferId) (code : PreAuthCode) (now : DateTime) :
    Option State :=
  match state.sessions t with
  | .claimsValidated request expiresIn found =>
      let offer := CredentialOffer.new id request.tenantId request.issuerId (some found.id)
        found.vct request.claims code (now + expiresIn) now
      match state.offers id with
      | some _ => some (state.goto t (.offerCreated (.error
          (.ofPersistence (.uniqueViolation "credential_offers_pkey")))))
      | none => some (state.withOffer offer t (.offerCreated (.ok offer)))
  | _ => none

def putIssuerStep (issuer : Worker.IssuerRecord) : Option State :=
  if (state.issuers issuer.id).all fun row => row.tenantId == issuer.tenantId then
    some { state with issuers := Function.update state.issuers issuer.id (some issuer) }
  else none

def endOfferStep (id : CredentialOfferId) (issued : Bool) (now : DateTime) : Option State :=
  match state.offers id with
  | some offer =>
      let ended := if issued then offer.asIssued now else offer.asCancelled now
      some { state with offers := Function.update state.offers id (some ended) }
  | none => none

def failStep (details : String) : Option State :=
  match state.sessions t with
  | .typeRetired _ | .assignmentsDeleted .. =>
      some (state.rollback t (.retireAnswered (.error (.internal details))))
  | .pairOwned _ => some (state.goto t (.assignAnswered (.error (.internal details))))
  | .pairToUnassign _ => some (state.goto t (.unassignAnswered (.error (.internal details))))
  | .issuerProbed .. | .typeProbed .. | .claimsValidated .. =>
      some (state.goto t (.offerCreated (.error (.internal details))))
  | _ => none

end State

structure Event where
  t : TxId
  action : Action

def State.step (state : State) (event : Event) : Option State :=
  match event.action with
  | .insertType request id now => state.insertTypeStep event.t request id now
  | .updateStructured tenantId id update now => state.changeTypeStep event.t
      (CredentialTypes.updateStructured state.types state.typeIds event.t tenantId id update now)
  | .updateBlob tenantId id blob now => state.changeTypeStep event.t
      (CredentialTypes.updateBlob state.types state.typeIds event.t tenantId id blob now)
  | .stampRetired request => state.stampRetiredStep event.t request
  | .deleteByType => state.deleteByTypeStep event.t
  | .commit => state.commitStep event.t
  | .probePair request => state.probePairStep event.t request
  | .assign now => state.assignStep event.t now
  | .probeUnassign request => state.probeUnassignStep event.t request
  | .unassign => state.unassignStep event.t
  | .probeIssuer request => state.probeIssuerStep event.t request
  | .probeType => state.probeTypeStep event.t
  | .probeAssignment validated => state.probeAssignmentStep event.t validated
  | .insertOffer id code now => state.insertOfferStep event.t id code now
  | .putIssuer issuer => state.putIssuerStep issuer
  | .endOffer id issued now => state.endOfferStep id issued now
  | .fail details => state.failStep event.t details

/-- Nothing in the tables and no request under way. -/
structure State.Initial (state : State) : Prop where
  types : ∀ id, state.types id = Cell.clean none
  assignments : ∀ key, state.assignments key = Cell.clean none
  issuers : ∀ id, state.issuers id = none
  offers : ∀ id, state.offers id = none
  sessions : ∀ t, state.sessions t = .idle

end SwiyuIssuer.Catalogue
