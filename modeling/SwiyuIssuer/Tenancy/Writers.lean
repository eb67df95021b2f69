import SwiyuIssuer.Persistence.IssuedCredentials
import SwiyuIssuer.Persistence.Issuers
import SwiyuIssuer.Persistence.CredentialOffers
import SwiyuIssuer.Persistence.StatusLists
import SwiyuIssuer.Tenancy.Statements

/-! What the other binaries write, and the two requests of a linked user. -/

namespace SwiyuIssuer.Tenancy

open Library Persistence Catalogue.Validators

namespace KeyedTable

variable {α κ : Type} [DecidableEq κ] (table : KeyedTable α κ)

/-- An `INSERT` that leaves the table as it is when the key is taken. -/
def append (row : α) (db : Database) : Database :=
  if (table.rows db).any fun other => table.key other == table.key row then db
  else table.put (table.rows db ++ [row]) db

def rewrite (clause : α → Bool) (change : α → α) (db : Database) : Database :=
  table.put (Rows.update clause change (table.rows db)) db

end KeyedTable

inductive Writer
  | tenants (rows : List TenantRow)
  | insertIssuer (issuer : Worker.IssuerRecord)
  | setState (tenantId : TenantId) (issuerId : IssuerId) (state : IssuerState)
  | swapKeyTriple (tenantId : TenantId) (issuerId : IssuerId)
      (authorized authentication assertion : KeyPairId)
  | insertStatusList (list : StatusList)
  | setCurrentStatusList (issuerId : IssuerId) (listId : StatusListId)
  | allocateIndex (listId : StatusListId)
  | recordPublishSuccess (listId : StatusListId) (targetVersion : Nat) (now : DateTime)
  | recordPublishFailure (listId : StatusListId) (errorMessage : String)
      (nextAttemptAt now : DateTime)
  | stampLease (listId : StatusListId) (leaseExpiry : DateTime)
  | insertCredential (credential : IssuedCredential)
  | setIssuedState (offer : CredentialOffer)
  | cancelAllPendingForIssuer (tenantId : TenantId) (issuerId : IssuerId) (cancelledAt : DateTime)
  | setAcquired (task : OperationTask)
  | advanceStep (taskId : TaskId) (nextStep : Option String) (merged : Json) (now : DateTime)
  | scheduleRetry (taskId : TaskId) (nextAttemptAt : DateTime) (errorCode errorMessage : String)
      (now : DateTime)
  | setTerminalState (task : OperationTask)
  | linkIdentity (id : UserAccountId) (user : AssertedUser) (linkedAt : DateTime)
  | refreshIdpNames (user : AssertedUser)
  | markAccepted (id : InvitationId) (acceptedAt : DateTime)

namespace Writer

def apply : Writer → Database → Database
  | tenants rows => fun db => { db with tenants := rows }
  | insertIssuer issuer => issuers.append ⟨issuer, none⟩
  | setState tenantId issuerId state =>
      issuers.rewrite (fun row => Persistence.isRow row.issuer tenantId issuerId)
        fun row => { row with state := some state }
  | swapKeyTriple tenantId issuerId authorized authentication assertion =>
      issuers.rewrite
        (fun row => Persistence.swapUpdates row.issuer tenantId issuerId authorized
          authentication assertion)
        fun row => { row with
          issuer := Persistence.withKeys row.issuer authorized authentication assertion }
  | insertStatusList list => statusLists.append list
  | setCurrentStatusList issuerId listId =>
      issuers.rewrite (fun row => row.id == issuerId)
        fun row => { row with currentStatusListId := some listId }
  | allocateIndex listId =>
      statusLists.rewrite (fun row => row.id == listId)
        fun row => (StatusLists.allocateIndex row).elim row Prod.fst
  | recordPublishSuccess listId targetVersion now =>
      statusLists.rewrite (fun row => row.id == listId)
        fun row => (StatusLists.recordPublishSuccess row targetVersion now).getD row
  | recordPublishFailure listId errorMessage nextAttemptAt now =>
      statusLists.rewrite (fun row => row.id == listId)
        fun row => StatusLists.recordPublishFailure row errorMessage nextAttemptAt now
  | stampLease listId leaseExpiry =>
      statusLists.rewrite (fun row => row.id == listId)
        fun row => StatusLists.stampLease row leaseExpiry
  | insertCredential credential => credentials.append credential
  | setIssuedState offer =>
      offers.rewrite
        (fun row => row.id == offer.id &&
          CredentialOffers.inScope row offer.tenantId offer.issuerId)
        (CredentialOffers.writeIssued offer)
  | cancelAllPendingForIssuer tenantId issuerId cancelledAt =>
      offers.rewrite
        (fun row => CredentialOffers.inScope row tenantId issuerId && row.state == .pending)
        fun row => row.asCancelled cancelledAt
  | setAcquired task => tasks.rewrite (fun row => row.id == task.id) fun row => row.setAcquired task
  | advanceStep taskId nextStep merged now =>
      tasks.rewrite (fun row => row.id == taskId) fun row => row.advanceStep nextStep merged now
  | scheduleRetry taskId nextAttemptAt errorCode errorMessage now =>
      tasks.rewrite (fun row => row.id == taskId)
        fun row => row.scheduleRetry nextAttemptAt errorCode errorMessage now
  | setTerminalState task =>
      tasks.rewrite (fun row => row.id == task.id) fun row => row.setTerminalState task
  | linkIdentity id user linkedAt =>
      accounts.rewrite (fun row => row.id == id) (UserAccounts.link user linkedAt)
  | refreshIdpNames user =>
      accounts.rewrite (fun row => row.identity == some user.identity)
        fun row => { row with idpFirstName := user.idpFirstName, idpLastName := user.idpLastName }
  | markAccepted id acceptedAt =>
      invitations.rewrite (fun row => row.id == id && row.state == .pending)
        (UserAccountInvitations.asAccepted acceptedAt)

/-- What the binary has seen before it writes: the issuer that the new list is for, the list that it
has just inserted, the offer that it issues and the list that was current for the offer's issuer. -/
def Known (seen : Reference → Prop) : Writer → Prop
  | insertStatusList list => ∃ tenantId, seen (.issuer list.issuerId tenantId)
  | setCurrentStatusList issuerId listId => seen (.statusList listId issuerId)
  | insertCredential credential =>
      seen (.offer credential.issuerId credential.tenantId) ∧
        seen (.current credential.issuerId credential.statusListId)
  | _ => True

end Writer

namespace KeyedTable

variable {α κ : Type} [DecidableEq κ] {table : KeyedTable α κ} {db : Database}
  {past : List Database}

theorem appended {row : α} (keyed : db.Keyed)
    (seen : ∀ reference ∈ table.references row,
      reference.Seen fun other => ∃ known ∈ db :: past, other ∈ known.references) :
    Database.Write past db (table.append row db) := by
  unfold append
  split
  · exact .same keyed fun _ => .rfl
  · next new =>
      refine append_write keyed ?_ seen
      exact fun other there same => new (List.any_eq_true.mpr ⟨other, there, beq_iff_eq.mpr same⟩)

theorem append_types {row : α} (spared : ∀ new, (table.put new db).types = db.types) :
    (table.append row db).types = db.types := by
  unfold append
  split
  · rfl
  · exact spared _

end KeyedTable

namespace Writer

variable {writer : Writer} {db : Database} {past : List Database}

theorem rewriteLists_write {clause : StatusList → Bool} {change : StatusList → StatusList}
    (keyed : db.Keyed)
    (same : ∀ row, (change row).id = row.id ∧ (change row).issuerId = row.issuerId) :
    Database.Write past db (statusLists.rewrite clause change db) := by
  refine statusLists.update_write keyed (fun row => (same row).1) fun row => ?_
  show [Reference.statusList _ _] = _
  rw [(same row).1, (same row).2]
  rfl

/-- The issuer stays, and its list is one that was inserted for it. -/
theorem setCurrentStatusList_write {issuerId : IssuerId} {listId : StatusListId} (keyed : db.Keyed)
    (known : ∃ seen ∈ db :: past, Reference.statusList listId issuerId ∈ seen.references) :
    Database.Write past db ((setCurrentStatusList issuerId listId).apply db) := by
  refine issuers.write_put keyed ((issuers.keyed_rows db keyed).update fun _ => ?_) ?_ ?_
  · rfl
  · intro reference there stays
    rcases List.mem_flatMap.mp there with ⟨row, member, named⟩
    refine List.mem_flatMap.mpr ⟨_, List.mem_map_of_mem member, IssuerRow.mem_references.mpr ?_⟩
    rcases IssuerRow.mem_references.mp named with rfl | ⟨_, _, rfl⟩
    · split
      · exact .inl rfl
      · exact .inl rfl
    · cases stays
  · intro reference there
    rcases List.mem_flatMap.mp there with ⟨_, member, named⟩
    rcases List.mem_map.mp member with ⟨row, present, rfl⟩
    split at named
    · next picked =>
        rcases IssuerRow.mem_references.mp named with rfl | ⟨_, current, rfl⟩
        · exact .inl (List.mem_flatMap.mpr ⟨row, present, .head _⟩)
        · cases current
          rw [beq_iff_eq.mp picked]
          exact .inr known
    · exact .inl (List.mem_flatMap.mpr ⟨row, present, named⟩)

theorem write (keyed : db.Keyed)
    (known : writer.Known fun other => ∃ seen ∈ db :: past, other ∈ seen.references) :
    Database.Write past db (writer.apply db) := by
  cases writer with
  | tenants rows => exact .same { keyed with } fun _ => .rfl
  | insertIssuer issuer =>
      refine issuers.appended keyed fun reference named => ?_
      cases List.mem_singleton.mp named
      trivial
  | setState tenantId issuerId state => exact issuers.update_write keyed (fun _ => rfl) fun _ => rfl
  | swapKeyTriple tenantId issuerId authorized authentication assertion =>
      exact issuers.update_write keyed (fun _ => rfl) fun _ => rfl
  | insertStatusList list =>
      refine statusLists.appended keyed fun reference named => ?_
      cases List.mem_singleton.mp named
      exact known
  | setCurrentStatusList issuerId listId => exact setCurrentStatusList_write keyed known
  | allocateIndex listId =>
      refine rewriteLists_write keyed fun row => ?_
      unfold StatusLists.allocateIndex
      split
      · exact ⟨rfl, rfl⟩
      · exact ⟨rfl, rfl⟩
  | recordPublishSuccess listId targetVersion now =>
      refine rewriteLists_write keyed fun row => ?_
      unfold StatusLists.recordPublishSuccess
      split
      · exact ⟨rfl, rfl⟩
      · exact ⟨rfl, rfl⟩
  | recordPublishFailure listId errorMessage nextAttemptAt now =>
      exact statusLists.update_write keyed (fun _ => rfl) fun _ => rfl
  | stampLease listId leaseExpiry =>
      exact statusLists.update_write keyed (fun _ => rfl) fun _ => rfl
  | insertCredential credential =>
      refine credentials.appended keyed fun reference named => ?_
      cases List.mem_singleton.mp named
      exact known
  | setIssuedState offer => exact offers.update_write keyed (fun _ => rfl) fun _ => rfl
  | cancelAllPendingForIssuer tenantId issuerId cancelledAt =>
      exact offers.update_write keyed (fun _ => rfl) fun _ => rfl
  | setAcquired task => exact tasks.update_write keyed (fun _ => rfl) fun _ => rfl
  | advanceStep taskId nextStep merged now =>
      exact tasks.update_write keyed (fun _ => rfl) fun _ => rfl
  | scheduleRetry taskId nextAttemptAt errorCode errorMessage now =>
      exact tasks.update_write keyed (fun _ => rfl) fun _ => rfl
  | setTerminalState task => exact tasks.update_write keyed (fun _ => rfl) fun _ => rfl
  | linkIdentity id user linkedAt => exact accounts.update_write keyed (fun _ => rfl) fun _ => rfl
  | refreshIdpNames user => exact accounts.update_write keyed (fun _ => rfl) fun _ => rfl
  | markAccepted id acceptedAt => exact invitations.update_write keyed (fun _ => rfl) fun _ => rfl

theorem Known.mono {seen wider : Reference → Prop} (known : writer.Known seen)
    (follows : ∀ other, seen other → wider other) : writer.Known wider := by
  cases writer with
  | insertStatusList list => exact known.imp fun _ => follows _
  | setCurrentStatusList issuerId listId => exact follows _ known
  | insertCredential credential => exact known.imp (follows _) (follows _)
  | _ => trivial

theorem apply_types : (writer.apply db).types = db.types := by
  cases writer with
  | insertIssuer | insertStatusList | insertCredential =>
      exact KeyedTable.append_types fun _ => rfl
  | _ => rfl

end Writer

variable {V : Type} {compiler : Compiler V} {tenantId : TenantId} {server : Server V}
  {writer : Writer}

def Server.write (server : Server V) (writer : Writer) : Server V :=
  { server with toDatabase := writer.apply server.toDatabase }

theorem Writer.step {site : Site V} (keyed : site.server.Keyed)
    (known : writer.Known fun other =>
      ∃ seen ∈ (site.server :: site.past).map Server.toDatabase, other ∈ seen.references) :
    Site.Step compiler site ⟨site.server.write writer, site.server :: site.past⟩ where
  write := Writer.write keyed known
  compiled _ _ := .inl
  recorded := rfl

/-- None of these writes a credential type. -/
theorem Restamped.write (reached : Restamped compiler tenantId server)
    (known : writer.Known (· ∈ server.references)) :
    Restamped compiler tenantId (server.write writer) := by
  rcases reached with ⟨past, run⟩
  have keyed := (Restamped.reachable ⟨past, run⟩).sound.keyed
  refine ⟨server :: past, run.tail ⟨Writer.step keyed (known.mono fun _ there => ?_), ?_⟩⟩
  · exact ⟨server.toDatabase, .head _, there⟩
  · intro row there _
    rw [Server.write, Writer.apply_types] at there
    exact .inl there

end SwiyuIssuer.Tenancy
