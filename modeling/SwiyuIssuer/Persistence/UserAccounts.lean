import SwiyuIssuer.Domain.UserAccount
import SwiyuIssuer.Library.UniqueIndex

/-! The statements of `persistence::user_accounts` and `persistence::user_account_invitations`.

`none` is a statement that waits. `ids` are the rows of the table. -/

namespace SwiyuIssuer.Persistence

open Library

/-- The three columns that `link_identity` takes from the request. -/
structure AssertedUser where
  identity : UserIdentity
  idpFirstName : Option String
  idpLastName : Option String
deriving DecidableEq, Repr

namespace UserAccounts

/-- `user_accounts_tenant_identity_uq`; a NULL pair differs from every other pair. -/
def identityKey : Option UserAccount → Option (TenantId × UserIdentity)
  | some account => account.identity.map fun identity => (account.tenantId, identity)
  | none => none

def link (user : AssertedUser) (linkedAt : DateTime) (account : UserAccount) : UserAccount :=
  { account with
    identity := some user.identity
    idpFirstName := user.idpFirstName
    idpLastName := user.idpLastName
    linkedAt := some linkedAt }

/-- The three `provisioning_*` columns. -/
def withProvisioning (values : Provisioning) (account : UserAccount) : UserAccount :=
  { account with
    provisioningFirstName := values.firstName
    provisioningLastName := values.lastName
    provisioningHomeOrganization := values.homeOrganization }

section Statements

variable {τ : Type} [DecidableEq τ] (table : Table τ UserAccountId (Option UserAccount))
  (ids : List UserAccountId) (t : τ)

def get (tenantId : TenantId) (id : UserAccountId) : Option UserAccount :=
  ((table id).read t).filter fun account => account.tenantId == tenantId

/-- Outside any transaction. -/
def insert (account : UserAccount) : Option (Except PersistenceError
    (Table τ UserAccountId (Option UserAccount))) :=
  match (table account.id).writer, (table account.id).committed with
  | some _, _ => none
  | none, some _ => some (.error (.uniqueViolation "user_accounts_pkey"))
  | none, none =>
      match UniqueIndex.probe identityKey table ids t account.id (identityKey (some account)) with
      | .waits => none
      | .taken => some (.error (.uniqueViolation "user_accounts_tenant_identity_uq"))
      | .clear => some (.ok (Function.update table account.id
          ((table account.id).autocommit fun _ => some account)))

/-- Outside any transaction. -/
def setState (tenantId : TenantId) (id : UserAccountId) (state : UserAccountState) :
    Option (Except PersistenceError (Table τ UserAccountId (Option UserAccount))) :=
  match get table t tenantId id, (table id).writer with
  | none, _ => some (.error .notFound)
  | some _, some _ => none
  | some _, none => some (.ok (Function.update table id
      ((table id).autocommit (Option.map fun row => { row with state := state }))))

/-- Outside any transaction. -/
def updateProvisioning (tenantId : TenantId) (id : UserAccountId) (values : Provisioning) :
    Option (Except PersistenceError (Table τ UserAccountId (Option UserAccount))) :=
  match get table t tenantId id, (table id).writer with
  | none, _ => some (.error .notFound)
  | some _, some _ => none
  | some _, none => some (.ok (Function.update table id
      ((table id).autocommit (Option.map (withProvisioning values)))))

def linkIdentity (id : UserAccountId) (user : AssertedUser) (linkedAt : DateTime) :
    Option (Except PersistenceError (Table τ UserAccountId (Option UserAccount))) :=
  match (table id).read t with
  | none => some (.error .notFound)
  | some row =>
      if (table id).free t then
        match UniqueIndex.probe identityKey table ids t id (some (row.tenantId, user.identity)) with
        | .waits => none
        | .taken => some (.error (.uniqueViolation "user_accounts_tenant_identity_uq"))
        | .clear => some (.ok (table.update t id (Option.map (link user linkedAt))))
      else none

end Statements

variable {τ : Type} [DecidableEq τ] {table after : Table τ UserAccountId (Option UserAccount)}
  {ids : List UserAccountId} {t : τ} {tenantId : TenantId} {id : UserAccountId}
  {account : UserAccount}

theorem get_some (found : get table t tenantId id = some account) :
    (table id).read t = some account ∧ account.tenantId = tenantId := by
  rcases Option.filter_eq_some_iff.mp found with ⟨seen, scope⟩
  exact ⟨seen, beq_iff_eq.mp scope⟩

theorem insert_ok (inserted : insert table ids t account = some (.ok after)) :
    (table account.id).writer = none ∧ (table account.id).committed = none ∧
      UniqueIndex.probe identityKey table ids t account.id (identityKey (some account)) = .clear ∧
      after = Function.update table account.id
        ((table account.id).autocommit fun _ => some account) := by
  unfold insert at inserted
  split at inserted
  · cases inserted
  · cases inserted
  · next unlocked absent =>
      split at inserted
      · cases inserted
      · cases inserted
      · next clear =>
          cases inserted
          exact ⟨unlocked, absent, clear, rfl⟩

theorem setState_ok {state : UserAccountState}
    (written : setState table t tenantId id state = some (.ok after)) :
    (table id).writer = none ∧ after = Function.update table id
      ((table id).autocommit (Option.map fun row => { row with state := state })) := by
  unfold setState at written
  split at written
  · cases written
  · cases written
  · next unlocked =>
      cases written
      exact ⟨unlocked, rfl⟩

theorem setState_owned {state : UserAccountState}
    (written : setState table t tenantId id state = some (.ok after)) :
    ∃ row, (table id).read t = some row ∧ row.tenantId = tenantId := by
  unfold setState at written
  split at written
  · cases written
  · cases written
  · next found _ => exact ⟨_, get_some found⟩

theorem updateProvisioning_eq {values : Provisioning} (seen : get table t tenantId id = some account)
    (unlocked : (table id).writer = none) :
    updateProvisioning table t tenantId id values = some (.ok (Function.update table id
      ((table id).autocommit (Option.map (withProvisioning values))))) := by
  rw [updateProvisioning, seen, unlocked]

theorem linkIdentity_ok {user : AssertedUser} {linkedAt : DateTime}
    (linked : linkIdentity table ids t id user linkedAt = some (.ok after)) :
    ∃ row, (table id).read t = some row ∧ (table id).free t = true ∧
      UniqueIndex.probe identityKey table ids t id (some (row.tenantId, user.identity)) = .clear ∧
      after = table.update t id (Option.map (link user linkedAt)) := by
  unfold linkIdentity at linked
  split at linked
  · cases linked
  · next row seen =>
      split at linked
      · next free =>
          split at linked
          · cases linked
          · cases linked
          · next clear =>
              cases linked
              exact ⟨row, seen, free, clear, rfl⟩
      · cases linked

end UserAccounts

/-- A row of `user_account_invitations`: the domain struct and the column that it leaves out. -/
structure InvitationRow extends Invitation where
  codeHash : Option InvitationCodeHash
deriving DecidableEq, Repr

namespace UserAccountInvitations

/-- `user_account_invitations_one_pending_uq`. -/
def pendingKey : Option InvitationRow → Option UserAccountId
  | some row => if row.state = .pending then some row.userAccountId else none
  | none => none

/-- `user_account_invitations_code_hash_uq`. -/
def codeKey (row : Option InvitationRow) : Option InvitationCodeHash := row.bind (·.codeHash)

def asAccepted (acceptedAt : DateTime) (row : InvitationRow) : InvitationRow :=
  { row with state := .accepted, acceptedAt := some acceptedAt, codeHash := none }

def asRevoked (revokedAt : DateTime) (row : InvitationRow) : InvitationRow :=
  { row with state := .revoked, revokedAt := some revokedAt, codeHash := none }

def asExpired (row : InvitationRow) : InvitationRow :=
  { row with state := .expired, codeHash := none }

/-- The `WHERE` clause of `expire_pending_if_due`. -/
def isDue (accountId : UserAccountId) (now : DateTime) : Option InvitationRow → Bool
  | some row =>
      row.userAccountId == accountId && row.state == .pending && decide (row.expiresAt < now)
  | none => false

section Statements

variable {τ : Type} [DecidableEq τ] (table : Table τ InvitationId (Option InvitationRow))
  (ids : List InvitationId) (t : τ)

def findById (id : InvitationId) : Option Invitation :=
  ((table id).read t).map InvitationRow.toInvitation

def findByCodeHash (codeHash : InvitationCodeHash) : Option Invitation :=
  ((ids.filterMap fun id => (table id).read t).find? fun row =>
    row.codeHash == some codeHash).map InvitationRow.toInvitation

def insert (row : InvitationRow) : Option (Except PersistenceError
    (Table τ InvitationId (Option InvitationRow))) :=
  match (table row.id).writer, (table row.id).committed with
  | some _, _ => none
  | none, some _ => some (.error (.uniqueViolation "user_account_invitations_pkey"))
  | none, none =>
      match UniqueIndex.probe codeKey table ids t row.id (codeKey (some row)),
          UniqueIndex.probe pendingKey table ids t row.id (pendingKey (some row)) with
      | .taken, _ => some (.error (.uniqueViolation "user_account_invitations_code_hash_uq"))
      | .waits, _ => none
      | .clear, .taken =>
          some (.error (.uniqueViolation "user_account_invitations_one_pending_uq"))
      | .clear, .waits => none
      | .clear, .clear => some (.ok (table.update t row.id fun _ => some row))

/-- `UPDATE … WHERE id = … AND state = 'pending'`. -/
def settle (id : InvitationId) (change : InvitationRow → InvitationRow) : Option
    (Except PersistenceError (Table τ InvitationId (Option InvitationRow))) :=
  match (table id).read t with
  | some row =>
      if row.state = .pending then
        if (table id).free t then some (.ok (table.update t id (Option.map change))) else none
      else some (.error .notFound)
  | none => some (.error .notFound)

def markAccepted (id : InvitationId) (acceptedAt : DateTime) : Option (Except PersistenceError
    (Table τ InvitationId (Option InvitationRow))) :=
  settle table t id (asAccepted acceptedAt)

def markRevoked (id : InvitationId) (revokedAt : DateTime) : Option (Except PersistenceError
    (Table τ InvitationId (Option InvitationRow))) :=
  settle table t id (asRevoked revokedAt)

/-- Taken when the last row that the statement has to wait for is free; also the rows it flips. -/
def expirePendingIfDue (accountId : UserAccountId) (now : DateTime) :
    Option (Table τ InvitationId (Option InvitationRow) × List InvitationId) :=
  let due := ids.filter fun id => isDue accountId now ((table id).read t)
  if due.all fun id => (table id).free t then
    some (fun id => if id ∈ due then (table id).update t (Option.map asExpired) else table id, due)
  else none

end Statements

variable {τ : Type} [DecidableEq τ] {table after : Table τ InvitationId (Option InvitationRow)}
  {ids : List InvitationId} {t : τ} {id : InvitationId} {row : InvitationRow}

theorem findByCodeHash_some {codeHash : InvitationCodeHash} {invitation : Invitation}
    (found : findByCodeHash table ids t codeHash = some invitation) :
    ∃ id row, (table id).read t = some row ∧ row.toInvitation = invitation := by
  rcases Option.map_eq_some_iff.mp found with ⟨row, picked, same⟩
  rcases List.mem_filterMap.mp (List.mem_of_find?_eq_some picked) with ⟨id, _, seen⟩
  exact ⟨id, row, seen, same⟩

theorem insert_ok (inserted : insert table ids t row = some (.ok after)) :
    (table row.id).writer = none ∧ (table row.id).committed = none ∧
      UniqueIndex.probe codeKey table ids t row.id (codeKey (some row)) = .clear ∧
      UniqueIndex.probe pendingKey table ids t row.id (pendingKey (some row)) = .clear ∧
      after = table.update t row.id fun _ => some row := by
  unfold insert at inserted
  split at inserted
  · cases inserted
  · cases inserted
  · next unlocked absent =>
      split at inserted
      · cases inserted
      · cases inserted
      · cases inserted
      · cases inserted
      · next code pending =>
          cases inserted
          exact ⟨unlocked, absent, code, pending, rfl⟩

theorem insert_eq (absent : table row.id = Cell.clean none)
    (code : UniqueIndex.probe codeKey table ids t row.id (codeKey (some row)) = .clear)
    (pending : UniqueIndex.probe pendingKey table ids t row.id (pendingKey (some row)) = .clear) :
    insert table ids t row = some (.ok (table.update t row.id fun _ => some row)) := by
  simp only [insert, code, pending]
  simp only [absent, Cell.writer_clean, Cell.committed_clean]

theorem settle_ok {change : InvitationRow → InvitationRow}
    (settled : settle table t id change = some (.ok after)) :
    ∃ row, (table id).read t = some row ∧ row.state = .pending ∧ (table id).free t = true ∧
      after = table.update t id (Option.map change) := by
  unfold settle at settled
  split at settled
  · next row seen =>
      split at settled
      · next pending =>
          split at settled
          · next free =>
              cases settled
              exact ⟨row, seen, pending, free, rfl⟩
          · cases settled
      · cases settled
  · cases settled

theorem expirePendingIfDue_some {accountId : UserAccountId} {now : DateTime}
    {due : List InvitationId}
    (flipped : expirePendingIfDue table ids t accountId now = some (after, due)) :
    (∀ id ∈ due, isDue accountId now ((table id).read t) = true ∧ (table id).free t = true) ∧
      after = fun id =>
        if id ∈ due then (table id).update t (Option.map asExpired) else table id := by
  unfold expirePendingIfDue at flipped
  dsimp only at flipped
  split at flipped
  · next all =>
      cases flipped
      refine ⟨?_, rfl⟩
      intro id member
      exact ⟨(List.mem_filter.mp member).2, List.all_eq_true.mp all id member⟩
  · cases flipped

theorem isDue_iff {accountId : UserAccountId} {now : DateTime} {found : Option InvitationRow} :
    isDue accountId now found = true ↔ ∃ row, found = some row ∧ row.userAccountId = accountId ∧
      row.state = .pending ∧ row.expiresAt < now := by
  cases found with
  | none => simp [isDue]
  | some row => simp [isDue, and_assoc]

theorem isDue_some {accountId : UserAccountId} {now : DateTime} {found : Option InvitationRow}
    (due : isDue accountId now found = true) :
    ∃ row, found = some row ∧ row.userAccountId = accountId ∧ row.state = .pending := by
  rcases isDue_iff.mp due with ⟨row, here, owned, pending, _⟩
  exact ⟨row, here, owned, pending⟩

theorem expirePendingIfDue_eq {accountId : UserAccountId} {now : DateTime}
    (free : ∀ id ∈ ids, isDue accountId now ((table id).read t) = true →
      (table id).free t = true) :
    expirePendingIfDue table ids t accountId now =
      some (fun id => if id ∈ ids.filter (fun id => isDue accountId now ((table id).read t)) then
          (table id).update t (Option.map asExpired) else table id,
        ids.filter fun id => isDue accountId now ((table id).read t)) := by
  unfold expirePendingIfDue
  apply if_pos
  rw [List.all_eq_true]
  intro id member
  rcases List.mem_filter.mp member with ⟨listed, due⟩
  exact free id listed due

/-- Among rows with different codes, the row with the code is the one found. -/
theorem findByCodeHash_eq {codeHash : InvitationCodeHash} (listed : id ∈ ids)
    (seen : (table id).read t = some row) (coded : row.codeHash = some codeHash)
    (unique : ∀ other found, (table other).read t = some found →
      found.codeHash = some codeHash → other = id) :
    findByCodeHash table ids t codeHash = some row.toInvitation := by
  have member : row ∈ ids.filterMap fun id => (table id).read t :=
    List.mem_filterMap.mpr ⟨id, listed, seen⟩
  have present : ((ids.filterMap fun id => (table id).read t).find? fun row =>
      row.codeHash == some codeHash).isSome = true := by
    rw [List.find?_isSome]
    exact ⟨row, member, beq_iff_eq.mpr coded⟩
  rcases Option.isSome_iff_exists.mp present with ⟨found, picked⟩
  rcases List.mem_filterMap.mp (List.mem_of_find?_eq_some picked) with ⟨other, _, there⟩
  have named : (found.codeHash == some codeHash) = true := by
    simpa only using List.find?_some picked
  have same := unique other found there (beq_iff_eq.mp named)
  subst same
  rw [seen] at there
  cases there
  rw [findByCodeHash, picked, Option.map_some]

end UserAccountInvitations

end SwiyuIssuer.Persistence
