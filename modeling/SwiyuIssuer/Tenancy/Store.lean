import Mathlib.Data.List.Sort
import Mathlib.Data.Prod.Lex
import SwiyuIssuer.Persistence.StatusLists
import SwiyuIssuer.Persistence.CredentialOffers
import SwiyuIssuer.Tenancy.Statements

/-! The functions of `persistence` that the management API calls, each on the whole tables. -/

namespace SwiyuIssuer.Tenancy

open Library Persistence Catalogue.Validators

namespace Tenants

def rowExists (id : TenantId) (db : Database) : Bool := db.tenants.any fun row => row.id == id

def findDisplayName (id : TenantId) (db : Database) : Option String :=
  (db.tenants.find? fun row => row.id == id).bind TenantRow.displayName

end Tenants

namespace Issuers

def existsForTenant (tenantId : TenantId) (id : IssuerId) (db : Database) : Bool :=
  db.issuers.any fun row => row.id == id && row.tenantId == tenantId

def findByIdForTenant (tenantId : TenantId) (id : IssuerId) (db : Database) : Option IssuerRow :=
  db.issuers.find? fun row => row.id == id && row.tenantId == tenantId

end Issuers

namespace OperationTasks

def insert (task : OperationTask) := tasks.insert [] task

def findById (tenantId : TenantId) (id : TaskId) :=
  tasks.find fun task => task.id == id && task.tenantId == tenantId

/-- `ORDER BY created_at DESC LIMIT 1`. -/
def latest (rows : List OperationTask) : Option OperationTask :=
  rows.foldl (fun found task => if found.all fun held => held.createdAt < task.createdAt
    then some task else found) none

def findLatestByTypeAndIssuer (tenantId : TenantId) (issuerId : IssuerId) (taskType : TaskType)
    (db : Database) : Option OperationTask :=
  latest ((tasks.rows db).filter fun task => task.tenantId == tenantId &&
    (task.resultIssuerId == some issuerId && task.taskType == taskType))

end OperationTasks

namespace CredentialTypes

/-- `bind` is the conversion of a duration to an `INTERVAL`. -/
def insert (bind : Int → Except PersistenceError Unit) (row : CredentialType) (db : Database) :
    Except PersistenceError (Unit × Database) :=
  match bind row.defaultValidityDuration with
  | .error error => .error error
  | .ok () => types.insert [("credential_types_tenant_id_vct_key", fun other =>
      other.tenantId == row.tenantId && other.vct == row.vct)] row db

def isRow (tenantId : TenantId) (id : CredentialTypeId) (row : CredentialType) : Bool :=
  row.id == id && row.tenantId == tenantId

def findByIdForTenant (tenantId : TenantId) (id : CredentialTypeId) :=
  types.find (isRow tenantId id)

/-- Another type of the tenant has the `vct` that the row is to get. -/
def vctTaken (tenantId : TenantId) (id : CredentialTypeId) (vct : String) (row : CredentialType) :
    Bool := row.id != id && (row.tenantId == tenantId && row.vct == vct)

/-- `UNIQUE (tenant_id, vct)` against the row that the statement is about to write. -/
def refusesVct (tenantId : TenantId) (id : CredentialTypeId) (update : StructuredUpdate)
    (db : Database) : Bool :=
  types.any (isRow tenantId id) db &&
    update.vct.any fun vct => types.any (vctTaken tenantId id vct) db

def updateStructured (bind : Int → Except PersistenceError Unit) (tenantId : TenantId)
    (id : CredentialTypeId) (update : StructuredUpdate) (now : DateTime) (db : Database) :
    Except PersistenceError (Bool × Database) :=
  match update.defaultValidityDuration.elim (.ok ()) bind with
  | .error error => .error error
  | .ok () =>
      if refusesVct tenantId id update db then
        .error (.uniqueViolation "credential_types_tenant_id_vct_key")
      else types.update (isRow tenantId id) (CredentialTypes.StructuredUpdate.apply update now) db

/-- `update_blob_schema`, `update_blob_display` and `update_blob_claims`. -/
def updateBlob (tenantId : TenantId) (id : CredentialTypeId) (blob : Blob) (now : DateTime) :=
  types.update (isRow tenantId id) (CredentialTypes.Blob.apply blob now)

/-- The first statement of `retire`. -/
def stampRetired (tenantId : TenantId) (id : CredentialTypeId) (now : DateTime) :=
  types.update (isRow tenantId id) (CredentialTypes.asRetired now)

/-- The second statement of `retire`. -/
def deleteAssignments (id : CredentialTypeId) :=
  assignments.delete fun row => row.credentialTypeId == id

/-- `ORDER BY ict.assigned_at DESC, ct.id DESC`. -/
def listAssignedToIssuer [LinearOrder CredentialTypeId] (tenantId : TenantId) (issuerId : IssuerId)
    (db : Database) : List CredentialType :=
  let joined := (db.assignments.filter fun row => row.issuerId == issuerId).flatMap fun row =>
    (db.types.filter (isRow tenantId row.credentialTypeId)).map fun type => (row.assignedAt, type)
  let key (pair : DateTime × CredentialType) : DateTime ×ₗ CredentialTypeId :=
    toLex (pair.1, pair.2.id)
  (joined.insertionSort fun one two => key two ≤ key one).map Prod.snd

end CredentialTypes

namespace IssuerCredentialTypes

/-- `PairOwnership::both` of the two probes. -/
def tenantOwnsPair (tenantId : TenantId) (issuerId : IssuerId) (typeId : CredentialTypeId)
    (db : Database) : Bool :=
  Issuers.existsForTenant tenantId issuerId db &&
    types.any (CredentialTypes.isRow tenantId typeId) db

def isPair (issuerId : IssuerId) (typeId : CredentialTypeId)
    (row : IssuerCredentialTypeAssignment) : Bool :=
  row.issuerId == issuerId && row.credentialTypeId == typeId

def assign (row : IssuerCredentialTypeAssignment) := assignments.insertNew row

def unassign (issuerId : IssuerId) (typeId : CredentialTypeId) :=
  assignments.delete (isPair issuerId typeId)

def isAssigned (issuerId : IssuerId) (typeId : CredentialTypeId) :=
  assignments.any (isPair issuerId typeId)

end IssuerCredentialTypes

/-- An `UPDATE` that has to find its row. -/
def affecting (run : Database → Except PersistenceError (Bool × Database)) (db : Database) :
    Except PersistenceError (Unit × Database) :=
  match run db with
  | .error error => .error error
  | .ok (false, _) => .error .notFound
  | .ok (true, after) => .ok ((), after)

namespace CredentialOffers

def insert (offer : CredentialOffer) := offers.insert [] offer

def isRow (tenantId : TenantId) (issuerId : IssuerId) (id : CredentialOfferId)
    (offer : CredentialOffer) : Bool :=
  offer.id == id && CredentialOffers.inScope offer tenantId issuerId

def findById (tenantId : TenantId) (issuerId : IssuerId) (id : CredentialOfferId) :=
  offers.find (isRow tenantId issuerId id)

def cancel (tenantId : TenantId) (issuerId : IssuerId) (id : CredentialOfferId)
    (cancelledAt : DateTime) :=
  affecting (offers.update
    (fun offer => isRow tenantId issuerId id offer && offer.state == .pending)
    fun offer => offer.asCancelled cancelledAt)

end CredentialOffers

namespace IssuedCredentials

def isRow (tenantId : TenantId) (id : IssuedCredentialId) (row : IssuedCredential) : Bool :=
  row.id == id && row.tenantId == tenantId

def find (tenantId : TenantId) (id : IssuedCredentialId) := credentials.find (isRow tenantId id)

def setState (tenantId : TenantId) (id : IssuedCredentialId) (state : IssuedCredentialState) :=
  affecting (credentials.update (isRow tenantId id) fun row => { row with state := state })

end IssuedCredentials

namespace StatusLists

/-- `UPDATE`. -/
def update (clause : StatusList → Bool) (change : StatusList → StatusList) (db : Database) :
    Database :=
  { db with statusLists := Rows.update clause change db.statusLists }

def writeBit (codec : StatusListCodec) (id : StatusListId) (index : StatusListIndex)
    (value : StatusValue) (db : Database) : Except PersistenceError (Unit × Database) :=
  match db.statusLists.find? fun row => row.id == id with
  | none => .error .notFound
  | some row =>
      match StatusLists.editBitstring codec id row.bitstring index value with
      | .error error => .error error
      | .ok bitstring =>
          .ok ((), update (fun row => row.id == id)
            (fun row => StatusLists.writeBitstring row bitstring) db)

end StatusLists

namespace UserAccounts

def insert (account : UserAccount) :=
  accounts.insert [("user_accounts_tenant_identity_uq", fun other => account.identity.isSome &&
    (other.tenantId == account.tenantId && other.identity == account.identity))] account

def isRow (tenantId : TenantId) (id : UserAccountId) (account : UserAccount) : Bool :=
  account.id == id && account.tenantId == tenantId

def get (tenantId : TenantId) (id : UserAccountId) := accounts.find (isRow tenantId id)

def updateProvisioning (tenantId : TenantId) (id : UserAccountId) (values : Provisioning) :=
  affecting (accounts.update (isRow tenantId id) (UserAccounts.withProvisioning values))

def setState (tenantId : TenantId) (id : UserAccountId) (state : UserAccountState) :=
  affecting (accounts.update (isRow tenantId id) fun account => { account with state := state })

end UserAccounts

namespace UserAccountInvitations

def insert (row : InvitationRow) :=
  invitations.insert
    [("user_account_invitations_code_hash_uq", fun other =>
      row.codeHash.isSome && other.codeHash == row.codeHash),
    ("user_account_invitations_one_pending_uq", fun other => row.state == .pending &&
      (other.userAccountId == row.userAccountId && other.state == .pending))] row

def findById (id : InvitationId) (db : Database) : Option Invitation :=
  (invitations.find (fun row => row.id == id) db).map InvitationRow.toInvitation

def markRevoked (id : InvitationId) (revokedAt : DateTime) :=
  affecting (invitations.update (fun row => row.id == id && row.state == .pending)
    (UserAccountInvitations.asRevoked revokedAt))

def expirePendingIfDue (accountId : UserAccountId) (now : DateTime) :=
  invitations.update
    (fun row => UserAccountInvitations.isDue accountId now (some row))
    UserAccountInvitations.asExpired

end UserAccountInvitations

end SwiyuIssuer.Tenancy
