import SwiyuIssuer.Domain.SignedTokens
import SwiyuIssuer.Persistence.IssuedCredentials
import SwiyuIssuer.Persistence.StatusLists

/-! The two tables that a credential's status lives in, and the transactions that write them:
`run_lifecycle_op` and the issuance transaction, one database statement at a time. -/

namespace SwiyuIssuer.StatusStore

open Library Persistence

abbrev TxId := Nat

structure LifecycleRequest where
  operation : LifecycleOperation
  tenantId : TenantId
  issuerId : IssuerId
  credentialId : IssuedCredentialId

/-- What the credential endpoint has validated before it opens its transaction. -/
structure IssueRequest where
  tenantId : TenantId
  issuerId : IssuerId
  offerId : CredentialOfferId
  vct : String
  cnfJwk : String
  holderKeyJkt : String
  now : DateTime
  expiresAt : DateTime

/-- Where a request stands: the local variables that are live between two statements. -/
inductive Session
  | idle
  | opened (request : LifecycleRequest)
  | issuerChecked (request : LifecycleRequest)
  | transitioned (request : LifecycleRequest) (credential : IssuedCredential)
  | stateWritten (request : LifecycleRequest) (credential : IssuedCredential)
  | bitstringRead (request : LifecycleRequest) (credential : IssuedCredential)
      (bitstring : Bitstring)
  | bitWritten (request : LifecycleRequest) (credential : IssuedCredential)
  | answered (response : Except ApiError IssuedCredential)
  | issuerRead (request : IssueRequest) (issuer : Issuer) (assertionKeyId : KeyPairId)
  | offerLocked (request : IssueRequest) (issuer : Issuer) (assertionKeyId : KeyPairId)
  | listResolved (request : IssueRequest) (issuer : Issuer) (assertionKeyId : KeyPairId)
      (listId : StatusListId) (registryUrl : String)
  | slotAllocated (request : IssueRequest) (issuer : Issuer) (assertionKeyId : KeyPairId)
      (listId : StatusListId) (registryUrl : String) (index : StatusListIndex)
  | inserted (jwt : SdJwtVc) (credential : IssuedCredential)
  | issued (response : Except OAuthError SdJwtVc)

structure Store where
  credentials : Table TxId IssuedCredentialId (Option IssuedCredential)
  statusLists : Table TxId StatusListId (Option StatusList)
  sessions : TxId → Session

namespace Store

def goto (store : Store) (t : TxId) (session : Session) : Store :=
  { store with sessions := Function.update store.sessions t session }

/-- Dropping the transaction: its row versions and locks go, the request is answered. -/
def rollback (store : Store) (t : TxId) (session : Session) : Store where
  credentials := store.credentials.rollback t
  statusLists := store.statusLists.rollback t
  sessions := Function.update store.sessions t session

def commit (store : Store) (t : TxId) (session : Session) : Store where
  credentials := store.credentials.commit t
  statusLists := store.statusLists.commit t
  sessions := Function.update store.sessions t session

end Store

/-- The code of `run_lifecycle_op` between the `SELECT` and the first `UPDATE`. -/
def loadAndTransition (request : LifecycleRequest) (found : Option IssuedCredential) :
    Except ApiError IssuedCredential :=
  match found with
  | none => .error .notFound
  | some credential =>
      if credential.issuerId ≠ request.issuerId then .error .notFound
      else match request.operation.applyTransition credential with
        | .ok moved => .ok moved
        | .error error => .error (.ofDomain error)

theorem loadAndTransition_ok {request : LifecycleRequest} {found : Option IssuedCredential}
    {moved : IssuedCredential} (allowed : loadAndTransition request found = .ok moved) :
    ∃ credential, found = some credential ∧
      request.operation.applyTransition credential = .ok moved := by
  unfold loadAndTransition at allowed
  split at allowed
  · cases allowed
  · next credential =>
      split at allowed
      · cases allowed
      · split at allowed
        · next moves =>
            cases allowed
            exact ⟨credential, rfl, moves⟩
        · cases allowed

/-- The signing key that the credential endpoint takes from the issuer row it has read. -/
def signingKey (issuer : Option Issuer) : Except OAuthError (Issuer × KeyPairId) :=
  match issuer with
  | none => .error (.internal "issuer disappeared after access-token validation")
  | some issuer =>
      match issuer.assertionKeyId with
      | some assertionKeyId => .ok (issuer, assertionKeyId)
      | none => .error (.invalidRequest ("issuer has no Assertion key configured; " ++
          "create the issuer through the issuer-management API first"))

theorem signingKey_ok {found : Option Issuer} {issuer : Issuer} {assertionKeyId : KeyPairId}
    (keyed : signingKey found = .ok (issuer, assertionKeyId)) :
    found = some issuer ∧ issuer.assertionKeyId = some assertionKeyId := by
  unfold signingKey at keyed
  split at keyed
  · cases keyed
  · split at keyed
    · next configured =>
        cases keyed
        exact ⟨rfl, configured⟩
    · cases keyed

/-- The outcome of `current_for_issuer_with_url` as `allocate_status_slot` takes it. -/
def currentList (issuerId : IssuerId) :
    Option (StatusListId × Option String) → Except OAuthError (StatusListId × String)
  | some (listId, some registryUrl) => .ok (listId, registryUrl)
  | some (listId, none) => .error (.internal ("status list " ++ listId.display ++ " for issuer " ++
      issuerId.display ++ " has no registry_url; " ++
      "create_issuer must complete the create_status_list_entry step before issuance"))
  | none => .error (.internal ("issuer " ++ issuerId.display ++ " has no current status list; " ++
      "create_issuer must complete the provision_status_list step before issuance"))

def atCapacity (listId : StatusListId) : OAuthError :=
  .internal ("status list " ++ listId.display ++ " is at capacity; rollover to a fresh " ++
    "list requires a registry round-trip and is not performed in the issuance handler")

/-- `IssuedCredential::new`, under the id it generates. -/
def newCredential (id : IssuedCredentialId) (request : IssueRequest) (issuer : Issuer)
    (listId : StatusListId) (index : StatusListIndex)
    (integrityHash : Vector UInt8 integrityHashLen) : IssuedCredential where
  id := id
  tenantId := request.tenantId
  issuerId := issuer.id
  credentialOfferId := request.offerId
  vct := request.vct
  holderKeyJkt := request.holderKeyJkt
  statusListId := listId
  statusListIndex := index
  state := .active
  integrityHash := integrityHash
  issuedAt := request.now
  expiresAt := request.expiresAt

/-- The next statement of a request. The answers of tables that are not modelled here, and of the
signing engine, come with the action; `fail` is any statement that errors, or a dropped request. -/
inductive Action
  | begin (request : LifecycleRequest)
  | requireIssuerOwned (exists_ : Bool)
  | find
  | setState
  | selectBitstring
  | updateBitstring
  | readIssuer (request : IssueRequest) (issuer : Option Issuer)
  | lockOffer (redeemed : Except OAuthError Unit)
  | readCurrentList (current : Option (StatusListId × Option String))
  | allocateIndex
  | insert (id : IssuedCredentialId) (integrityHash : Vector UInt8 integrityHashLen)
  | commit (acknowledged : Bool)
  | fail (details : String)

namespace Store

variable (codec : StatusListCodec) (store : Store) (t : TxId)

def beginStep (request : LifecycleRequest) : Option Store :=
  match store.sessions t with
  | .idle => some (store.goto t (.opened request))
  | _ => none

def requireIssuerOwnedStep (exists_ : Bool) : Option Store :=
  match store.sessions t with
  | .opened request =>
      if exists_ then some (store.goto t (.issuerChecked request))
      else some (store.rollback t (.answered (.error .notFound)))
  | _ => none

def findStep : Option Store :=
  match store.sessions t with
  | .issuerChecked request =>
      match loadAndTransition request
          (IssuedCredentials.find store.credentials t request.tenantId request.credentialId) with
      | .ok credential => some (store.goto t (.transitioned request credential))
      | .error error => some (store.rollback t (.answered (.error error)))
  | _ => none

def setStateStep : Option Store :=
  match store.sessions t with
  | .transitioned request credential =>
      match IssuedCredentials.setState store.credentials t request.tenantId credential.id
          credential.state with
      | none => none
      | some (.error error) => some (store.rollback t (.answered (.error (.ofPersistence error))))
      | some (.ok credentials) =>
          some ({ store with credentials := credentials }.goto t (.stateWritten request credential))
  | _ => none

/-- `SELECT bitstring … FOR UPDATE`, then the edit in memory. -/
def selectBitstringStep : Option Store :=
  match store.sessions t with
  | .stateWritten request credential =>
      let cell := store.statusLists credential.statusListId
      if cell.free t then
        match cell.read t with
        | none => some (store.rollback t (.answered (.error (.ofPersistence .notFound))))
        | some row =>
            match StatusLists.editBitstring codec credential.statusListId row.bitstring
                credential.statusListIndex request.operation.bitValue with
            | .error error => some (store.rollback t (.answered (.error (.ofPersistence error))))
            | .ok bitstring =>
                some ({ store with
                  statusLists := store.statusLists.update t credential.statusListId id }.goto t
                    (.bitstringRead request credential bitstring))
      else none
  | _ => none

def updateBitstringStep : Option Store :=
  match store.sessions t with
  | .bitstringRead request credential bitstring =>
      if (store.statusLists credential.statusListId).free t then
        some ({ store with
          statusLists := store.statusLists.update t credential.statusListId
            (Option.map fun row => StatusLists.writeBitstring row bitstring) }.goto t
              (.bitWritten request credential))
      else none
  | _ => none

def readIssuerStep (request : IssueRequest) (issuer : Option Issuer) : Option Store :=
  match store.sessions t with
  | .idle =>
      match signingKey issuer with
      | .ok (issuer, assertionKeyId) =>
          some (store.goto t (.issuerRead request issuer assertionKeyId))
      | .error error => some (store.rollback t (.issued (.error error)))
  | _ => none

def lockOfferStep (redeemed : Except OAuthError Unit) : Option Store :=
  match store.sessions t with
  | .issuerRead request issuer assertionKeyId =>
      match redeemed with
      | .ok () => some (store.goto t (.offerLocked request issuer assertionKeyId))
      | .error error => some (store.rollback t (.issued (.error error)))
  | _ => none

def readCurrentListStep (current : Option (StatusListId × Option String)) : Option Store :=
  match store.sessions t with
  | .offerLocked request issuer assertionKeyId =>
      match currentList issuer.id current with
      | .ok (listId, registryUrl) =>
          some (store.goto t (.listResolved request issuer assertionKeyId listId registryUrl))
      | .error error => some (store.rollback t (.issued (.error error)))
  | _ => none

def allocateIndexStep : Option Store :=
  match store.sessions t with
  | .listResolved request issuer assertionKeyId listId registryUrl =>
      let cell := store.statusLists listId
      if cell.free t then
        match (cell.read t).bind StatusLists.allocateIndex with
        | none => some (store.rollback t (.issued (.error (atCapacity listId))))
        | some (row, index) =>
            some ({ store with
              statusLists := store.statusLists.update t listId fun _ => some row }.goto t
                (.slotAllocated request issuer assertionKeyId listId registryUrl index))
      else none
  | _ => none

def insertStep (id : IssuedCredentialId) (integrityHash : Vector UInt8 integrityHashLen) :
    Option Store :=
  match store.sessions t with
  | .slotAllocated request issuer assertionKeyId listId registryUrl index =>
      let jwt := buildSdJwtVc assertionKeyId issuer request.vct request.cnfJwk
        (buildStatusClaim registryUrl index) request.now request.expiresAt
      let credential := newCredential id request issuer listId index integrityHash
      match IssuedCredentials.insert store.credentials t credential with
      | none => none
      | some (.error error) =>
          some (store.rollback t (.issued (.error (.ofPersistence error))))
      | some (.ok credentials) =>
          some ({ store with credentials := credentials }.goto t (.inserted jwt credential))
  | _ => none

/-- A commit may take effect and its answer still be lost. -/
def commitStep (acknowledged : Bool) : Option Store :=
  match store.sessions t with
  | .bitWritten _ credential =>
      some (store.commit t (.answered
        (if acknowledged then .ok credential else .error (.internal "commit"))))
  | .inserted jwt _ =>
      some (store.commit t (.issued (if acknowledged then .ok jwt else .error (.internal "commit"))))
  | _ => none

def failStep (details : String) : Option Store :=
  match store.sessions t with
  | .idle | .answered _ | .issued _ => none
  | .opened _ | .issuerChecked _ | .transitioned .. | .stateWritten .. | .bitstringRead ..
  | .bitWritten .. => some (store.rollback t (.answered (.error (.internal details))))
  | .issuerRead .. | .offerLocked .. | .listResolved .. | .slotAllocated .. | .inserted .. =>
      some (store.rollback t (.issued (.error (.internal details))))

def step : Action → Option Store
  | .begin request => store.beginStep t request
  | .requireIssuerOwned exists_ => store.requireIssuerOwnedStep t exists_
  | .find => store.findStep t
  | .setState => store.setStateStep t
  | .selectBitstring => store.selectBitstringStep codec t
  | .updateBitstring => store.updateBitstringStep t
  | .readIssuer request issuer => store.readIssuerStep t request issuer
  | .lockOffer redeemed => store.lockOfferStep t redeemed
  | .readCurrentList current => store.readCurrentListStep t current
  | .allocateIndex => store.allocateIndexStep t
  | .insert id integrityHash => store.insertStep t id integrityHash
  | .commit acknowledged => store.commitStep t acknowledged
  | .fail details => store.failStep t details

end Store

end SwiyuIssuer.StatusStore
