import SwiyuIssuer.Domain.IssuedCredential
import SwiyuIssuer.Domain.OperationTask
import SwiyuIssuer.Domain.CredentialOffer
import SwiyuIssuer.Library.Rows
import SwiyuIssuer.Persistence.CredentialTypes
import SwiyuIssuer.Persistence.UserAccounts
import SwiyuIssuer.Worker.CreateIssuer

/-! The tables behind the management API, each with its rows in the order in which the database
keeps them, the part of them that some tenants own, and which row names which. -/

namespace SwiyuIssuer.Tenancy

open Library Persistence

structure TenantRow where
  id : TenantId
  displayName : Option String

structure IssuerRow extends Worker.IssuerRecord where
  currentStatusListId : Option StatusListId

structure Database where
  tenants : List TenantRow
  issuers : List IssuerRow
  types : List CredentialType
  assignments : List IssuerCredentialTypeAssignment
  offers : List CredentialOffer
  credentials : List IssuedCredential
  statusLists : List StatusList
  tasks : List OperationTask
  accounts : List UserAccount
  invitations : List InvitationRow

/-- That a row is of a tenant or of an issuer, or belongs with a row of another table. -/
inductive Reference
  | issuer (id : IssuerId) (tenantId : TenantId)
  | credentialType (id : CredentialTypeId) (tenantId : TenantId)
  | account (id : UserAccountId) (tenantId : TenantId)
  | statusList (id : StatusListId) (issuerId : IssuerId)
  | current (issuerId : IssuerId) (id : StatusListId)
  | assignment (issuerId : IssuerId) (typeId : CredentialTypeId) (tenantId : TenantId)
  | offer (issuerId : IssuerId) (tenantId : TenantId)
  | credential (listId : StatusListId) (issuerId : IssuerId) (tenantId : TenantId)
  | invitation (accountId : UserAccountId) (tenantId : TenantId)

def IssuerRow.references (row : IssuerRow) : List Reference :=
  .issuer row.id row.tenantId :: (row.currentStatusListId.map (.current row.id)).toList

theorem IssuerRow.mem_references {row : IssuerRow} {reference : Reference} :
    reference ∈ row.references ↔ reference = .issuer row.id row.tenantId ∨
      ∃ listId, row.currentStatusListId = some listId ∧ reference = .current row.id listId := by
  simp [references, eq_comm]

namespace Database

variable (db : Database) (mine : TenantId → Bool)

def empty : Database := ⟨[], [], [], [], [], [], [], [], [], []⟩

def hasIssuer (id : IssuerId) : Bool :=
  db.issuers.any fun row => row.id == id && mine row.tenantId

/-- The rows of these tenants; a status list is that of its issuer's tenant. -/
def part : Database where
  tenants := db.tenants.filter fun row => mine row.id
  issuers := db.issuers.filter fun row => mine row.tenantId
  types := db.types.filter fun row => mine row.tenantId
  assignments := db.assignments.filter fun row => mine row.tenantId
  offers := db.offers.filter fun row => mine row.tenantId
  credentials := db.credentials.filter fun row => mine row.tenantId
  statusLists := db.statusLists.filter fun row => db.hasIssuer mine row.issuerId
  tasks := db.tasks.filter fun row => mine row.tenantId
  accounts := db.accounts.filter fun row => mine row.tenantId
  invitations := db.invitations.filter fun row => mine row.tenantId

def own (tenantId : TenantId) : Database := db.part (· == tenantId)

def others (tenantId : TenantId) : Database := db.part (· != tenantId)

def references : List Reference :=
  db.issuers.flatMap IssuerRow.references ++
  db.types.flatMap (fun row => [.credentialType row.id row.tenantId]) ++
  db.accounts.flatMap (fun row => [.account row.id row.tenantId]) ++
  db.statusLists.flatMap (fun row => [.statusList row.id row.issuerId]) ++
  db.assignments.flatMap (fun row =>
    [.assignment row.issuerId row.credentialTypeId row.tenantId]) ++
  db.offers.flatMap (fun row => [.offer row.issuerId row.tenantId]) ++
  db.credentials.flatMap (fun row => [.credential row.statusListId row.issuerId row.tenantId]) ++
  db.invitations.flatMap (fun row => [.invitation row.userAccountId row.tenantId])

/-- The primary keys. -/
structure Keyed : Prop where
  issuers : Rows.Keyed (fun row : IssuerRow => row.id) db.issuers
  types : Rows.Keyed CredentialType.id db.types
  assignments : Rows.Keyed (fun row : IssuerCredentialTypeAssignment =>
    (row.issuerId, row.credentialTypeId)) db.assignments
  offers : Rows.Keyed CredentialOffer.id db.offers
  credentials : Rows.Keyed IssuedCredential.id db.credentials
  statusLists : Rows.Keyed StatusList.id db.statusLists
  tasks : Rows.Keyed OperationTask.id db.tasks
  accounts : Rows.Keyed UserAccount.id db.accounts
  invitations : Rows.Keyed (fun row : InvitationRow => row.id) db.invitations

end Database

/-- A table with its primary key. -/
structure KeyedTable (α κ : Type) [DecidableEq κ] where
  rows : Database → List α
  put : List α → Database → Database
  key : α → κ
  references : α → List Reference
  put_rows : ∀ db, put (rows db) db = db
  mem_references : ∀ new db reference, reference ∈ (put new db).references ↔
    reference ∈ new.flatMap references ∨ reference ∈ (put [] db).references := by
      intro new db reference
      simp only [Database.references, List.mem_append, List.flatMap_nil, List.not_mem_nil]
      tauto
  keyed_rows : ∀ db, db.Keyed → Rows.Keyed key (rows db)
  keyed_put : ∀ new db, db.Keyed → Rows.Keyed key new → (put new db).Keyed

/-- A table whose rows name their tenant. -/
structure TenantTable (α κ : Type) [DecidableEq κ] extends KeyedTable α κ where
  tenantOf : α → TenantId
  pkey : String
  rows_part : ∀ db mine, rows (db.part mine) = (rows db).filter fun row => mine (tenantOf row)
  part_put : ∀ new db mine,
    (put new db).part mine = put (new.filter fun row => mine (tenantOf row)) (db.part mine)

def issuers : KeyedTable IssuerRow IssuerId where
  rows := Database.issuers
  put new db := { db with issuers := new }
  key row := row.id
  references := IssuerRow.references
  put_rows _ := rfl
  keyed_rows _ keyed := keyed.issuers
  keyed_put _ _ keyed issuers := { keyed with issuers := issuers }

def statusLists : KeyedTable StatusList StatusListId where
  rows := Database.statusLists
  put new db := { db with statusLists := new }
  key := StatusList.id
  references row := [.statusList row.id row.issuerId]
  put_rows _ := rfl
  keyed_rows _ keyed := keyed.statusLists
  keyed_put _ _ keyed statusLists := { keyed with statusLists := statusLists }

def types : TenantTable CredentialType CredentialTypeId where
  rows := Database.types
  put new db := { db with types := new }
  tenantOf := CredentialType.tenantId
  key := CredentialType.id
  pkey := "credential_types_pkey"
  references row := [.credentialType row.id row.tenantId]
  put_rows _ := rfl
  rows_part _ _ := rfl
  part_put _ _ _ := rfl
  keyed_rows _ keyed := keyed.types
  keyed_put _ _ keyed types := { keyed with types := types }

def assignments : TenantTable IssuerCredentialTypeAssignment AssignmentKey where
  rows := Database.assignments
  put new db := { db with assignments := new }
  tenantOf := IssuerCredentialTypeAssignment.tenantId
  key row := (row.issuerId, row.credentialTypeId)
  pkey := "issuer_credential_types_pkey"
  references row := [.assignment row.issuerId row.credentialTypeId row.tenantId]
  put_rows _ := rfl
  rows_part _ _ := rfl
  part_put _ _ _ := rfl
  keyed_rows _ keyed := keyed.assignments
  keyed_put _ _ keyed assignments := { keyed with assignments := assignments }

def offers : TenantTable CredentialOffer CredentialOfferId where
  rows := Database.offers
  put new db := { db with offers := new }
  tenantOf := CredentialOffer.tenantId
  key := CredentialOffer.id
  pkey := "credential_offers_pkey"
  references row := [.offer row.issuerId row.tenantId]
  put_rows _ := rfl
  rows_part _ _ := rfl
  part_put _ _ _ := rfl
  keyed_rows _ keyed := keyed.offers
  keyed_put _ _ keyed offers := { keyed with offers := offers }

def credentials : TenantTable IssuedCredential IssuedCredentialId where
  rows := Database.credentials
  put new db := { db with credentials := new }
  tenantOf := IssuedCredential.tenantId
  key := IssuedCredential.id
  pkey := "issued_credentials_pkey"
  references row := [.credential row.statusListId row.issuerId row.tenantId]
  put_rows _ := rfl
  rows_part _ _ := rfl
  part_put _ _ _ := rfl
  keyed_rows _ keyed := keyed.credentials
  keyed_put _ _ keyed credentials := { keyed with credentials := credentials }

/-- A task names its issuer, but nothing is reached through it. -/
def tasks : TenantTable OperationTask TaskId where
  rows := Database.tasks
  put new db := { db with tasks := new }
  tenantOf := OperationTask.tenantId
  key := OperationTask.id
  pkey := "operation_tasks_pkey"
  references _ := []
  put_rows _ := rfl
  rows_part _ _ := rfl
  part_put _ _ _ := rfl
  mem_references := by
    intro new db reference
    simp [Database.references]
  keyed_rows _ keyed := keyed.tasks
  keyed_put _ _ keyed tasks := { keyed with tasks := tasks }

def accounts : TenantTable UserAccount UserAccountId where
  rows := Database.accounts
  put new db := { db with accounts := new }
  tenantOf := UserAccount.tenantId
  key := UserAccount.id
  pkey := "user_accounts_pkey"
  references row := [.account row.id row.tenantId]
  put_rows _ := rfl
  rows_part _ _ := rfl
  part_put _ _ _ := rfl
  keyed_rows _ keyed := keyed.accounts
  keyed_put _ _ keyed accounts := { keyed with accounts := accounts }

def invitations : TenantTable InvitationRow InvitationId where
  rows := Database.invitations
  put new db := { db with invitations := new }
  tenantOf row := row.tenantId
  key row := row.id
  pkey := "user_account_invitations_pkey"
  references row := [.invitation row.userAccountId row.tenantId]
  put_rows _ := rfl
  rows_part _ _ := rfl
  part_put _ _ _ := rfl
  keyed_rows _ keyed := keyed.invitations
  keyed_put _ _ keyed invitations := { keyed with invitations := invitations }

end SwiyuIssuer.Tenancy
