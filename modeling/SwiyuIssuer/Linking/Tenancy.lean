import SwiyuIssuer.Library.Projection
import SwiyuIssuer.Linking.Effects

/-! Whose the accounts, the invitations and their codes are, and what the requests of one tenant do
to those of another. -/

namespace SwiyuIssuer.Linking

open Library Persistence

/-- Whose a request is, and for whose request an id or a code was drawn: none is drawn twice. -/
structure Owners where
  requests : TxId → TenantId
  accounts : UserAccountId → TenantId
  invitations : InvitationId → TenantId
  codes : InvitationCodeHash → TenantId

namespace Owners

variable (owners : Owners)

/-- A request asks under the tenant of its context. An accept request has no such context: it counts
as one of the tenant whose code it presents. -/
def allows (event : Event) : Bool :=
  let tenant := owners.requests event.t
  match event.action with
  | .findByCodeHash request => owners.codes request.codeHash == tenant
  | .probeAccount request => request.tenantId == tenant
  | .insertInvitation id codeHash =>
      owners.invitations id == tenant && owners.codes codeHash == tenant
  | .findById request => request.tenantId == tenant
  | .setState request => request.tenantId == tenant
  | .insertAccount account => owners.accounts account.id == tenant && account.tenantId == tenant
  | _ => true

/-- A version of the row of an account is of the tenant that its id was drawn for. -/
def OfAccount (id : UserAccountId) (version : Option UserAccount) : Prop :=
  ∀ row, version = some row → row.id = id ∧ row.tenantId = owners.accounts id

/-- An invitation, its account and its code are of one tenant. -/
structure Keeps (id : InvitationId) (row : InvitationRow) : Prop where
  named : row.id = id
  tenant : row.tenantId = owners.invitations id
  account : owners.accounts row.userAccountId = owners.invitations id
  code : ∀ codeHash, row.codeHash = some codeHash → owners.codes codeHash = owners.invitations id

def OfInvitation (id : InvitationId) (version : Option InvitationRow) : Prop :=
  ∀ row, version = some row → owners.Keeps id row

/-- An invitation as a request of the tenant has read it. -/
structure Reads (mine : TenantId) (invitation : Invitation) : Prop where
  id : owners.invitations invitation.id = mine
  tenant : invitation.tenantId = mine
  account : owners.accounts invitation.userAccountId = mine

structure Accepts (mine : TenantId) (acceptance : Acceptance) : Prop where
  invitation : owners.Reads mine acceptance.invitation
  account : owners.accounts acceptance.account.id = mine

structure Creates (mine : TenantId) (request : CreateRequest) : Prop where
  tenant : request.tenantId = mine
  account : owners.accounts request.accountId = mine

end Owners

/-- What a request of the tenant has found is the tenant's. -/
def Session.Owned (owners : Owners) (mine : TenantId) : Session → Prop
  | .invitationFound _ invitation => owners.Reads mine invitation
  | .accountRead acceptance | .identityLinked acceptance | .invitationAccepted acceptance
  | .accountReread acceptance _ => owners.Accepts mine acceptance
  | .accountProbed request _ => owners.Creates mine request
  | .dueExpired creation => owners.Creates mine creation.request ∧
      ∀ id ∈ creation.expired, owners.invitations id = mine
  | .invitationInserted creation row => owners.invitations row.id = mine ∧
      ∀ id ∈ creation.expired, owners.invitations id = mine
  | .invitationLoaded request _ | .invitationRevoked request _ =>
      owners.invitations request.invitationId = mine
  | .stateSet request => request.tenantId = mine
  | _ => True

structure Tenancy (owners : Owners) (state : State) : Prop where
  sound : Sound state
  accounts : ∀ id, (state.accounts id).Every (owners.OfAccount id)
  invitations : ∀ id, (state.invitations id).Every (owners.OfInvitation id)
  sessions : ∀ t, (state.sessions t).Owned owners (owners.requests t)

/-- Everything one statement can do, by whose it is. -/
inductive Turn (owners : Owners) (state : State) (t : TxId) : State → Prop
  | goto (next : Session) (owned : next.Owned owners (owners.requests t)) :
      Turn owners state t (state.goto t next)
  | rollback (next : Session) (owned : next.Owned owners (owners.requests t)) :
      Turn owners state t (state.rollback t next)
  | commit (next : Session) (owned : next.Owned owners (owners.requests t)) :
      Turn owners state t (state.commit t next)
  | link (id : UserAccountId) (change : UserAccount → UserAccount) (next : Session)
      (owned : next.Owned owners (owners.requests t))
      (own : owners.accounts id = owners.requests t)
      (keeps : ∀ row, (change row).id = row.id ∧ (change row).tenantId = row.tenantId)
      (free : (state.accounts id).free t = true) :
      Turn owners state t (state.withAccounts (state.accounts.update t id (Option.map change))
        state.accountIds t next)
  | setState (id : UserAccountId) (change : UserAccount → UserAccount) (next : Session)
      (owned : next.Owned owners (owners.requests t))
      (own : owners.accounts id = owners.requests t)
      (keeps : ∀ row, (change row).id = row.id ∧ (change row).tenantId = row.tenantId) :
      Turn owners state t (state.withAccounts
        (Function.update state.accounts id ((state.accounts id).autocommit (Option.map change)))
        state.accountIds t next)
  | insertAccount (account : UserAccount) (next : Session)
      (owned : next.Owned owners (owners.requests t))
      (own : owners.accounts account.id = owners.requests t)
      (tenant : account.tenantId = owners.requests t) :
      Turn owners state t (state.withAccounts
        (Function.update state.accounts account.id
          ((state.accounts account.id).autocommit fun _ => some account))
        (account.id :: state.accountIds) t next)
  | settle (id : InvitationId) (change : InvitationRow → InvitationRow) (next : Session)
      (owned : next.Owned owners (owners.requests t))
      (own : owners.invitations id = owners.requests t)
      (keeps : ∀ row, owners.Keeps id row → owners.Keeps id (change row))
      (free : (state.invitations id).free t = true) :
      Turn owners state t (state.withInvitations
        (state.invitations.update t id (Option.map change)) state.invitationIds t next)
  | expire (due : List InvitationId) (next : Session)
      (owned : next.Owned owners (owners.requests t))
      (own : ∀ id ∈ due, owners.invitations id = owners.requests t)
      (free : ∀ id ∈ due, (state.invitations id).free t = true) :
      Turn owners state t (state.withInvitations
        (fun id =>
          if id ∈ due then
            (state.invitations id).update t (Option.map UserAccountInvitations.asExpired)
          else state.invitations id)
        state.invitationIds t next)
  | insert (row : InvitationRow) (next : Session) (owned : next.Owned owners (owners.requests t))
      (own : owners.invitations row.id = owners.requests t) (keeps : owners.Keeps row.id row)
      (free : (state.invitations row.id).free t = true) :
      Turn owners state t (state.withInvitations
        (state.invitations.update t row.id fun _ => some row) (row.id :: state.invitationIds) t
        next)

section Versions

variable {owners : Owners}

theorem Owners.OfAccount.map {id : UserAccountId} {version : Option UserAccount}
    {change : UserAccount → UserAccount} (of : owners.OfAccount id version)
    (keeps : ∀ row, (change row).id = row.id ∧ (change row).tenantId = row.tenantId) :
    owners.OfAccount id (version.map change) := by
  intro row changed
  rcases Option.map_eq_some_iff.mp changed with ⟨before, was, rfl⟩
  rcases of before was with ⟨named, tenant⟩
  exact ⟨(keeps before).1.trans named, (keeps before).2.trans tenant⟩

theorem Owners.OfInvitation.map {id : InvitationId} {version : Option InvitationRow}
    {change : InvitationRow → InvitationRow} (of : owners.OfInvitation id version)
    (keeps : ∀ row, owners.Keeps id row → owners.Keeps id (change row)) :
    owners.OfInvitation id (version.map change) := by
  intro row changed
  rcases Option.map_eq_some_iff.mp changed with ⟨before, was, rfl⟩
  exact keeps before (of before was)

/-- A change that spends the code and leaves the rest. -/
theorem Owners.Keeps.spend {id : InvitationId} {row after : InvitationRow}
    (keeps : owners.Keeps id row) (named : after.id = row.id) (tenant : after.tenantId = row.tenantId)
    (account : after.userAccountId = row.userAccountId) (spent : after.codeHash = none) :
    owners.Keeps id after where
  named := named.trans keeps.named
  tenant := tenant.trans keeps.tenant
  account := (congrArg owners.accounts account).trans keeps.account
  code codeHash carries := by
    rw [spent] at carries
    cases carries

theorem Session.accountClaim_owned {session : Session} {mine : TenantId} {id : UserAccountId}
    {committed : Option UserAccount} {version : Option UserAccount}
    (owned : session.Owned owners mine) (claims : session.accountClaim id committed = some version) :
    owners.accounts id = mine := by
  cases session with
  | identityLinked acceptance | invitationAccepted acceptance | accountReread acceptance =>
      rcases Option.ite_none_right_eq_some.mp claims with ⟨rfl, _⟩
      exact owned.account
  | _ => cases claims

theorem Session.invitationClaim_owned {session : Session} {mine : TenantId} {id : InvitationId}
    {committed : Option InvitationRow} {version : Option InvitationRow}
    (owned : session.Owned owners mine)
    (claims : session.invitationClaim id committed = some version) :
    owners.invitations id = mine := by
  cases session with
  | invitationAccepted acceptance | accountReread acceptance =>
      rcases Option.ite_none_right_eq_some.mp claims with ⟨rfl, _⟩
      exact owned.invitation.id
  | invitationRevoked request =>
      rcases Option.ite_none_right_eq_some.mp claims with ⟨rfl, _⟩
      exact owned
  | dueExpired creation =>
      exact owned.2 id (Option.ite_none_right_eq_some.mp claims).1
  | invitationInserted creation row =>
      simp only [Session.invitationClaim] at claims
      split at claims
      · next same => exact same ▸ owned.1
      · exact owned.2 id (Option.ite_none_right_eq_some.mp claims).1
  | _ => cases claims

end Versions

section Turns

variable {owners : Owners} {state after : State} {t : TxId}

/-- Only a request of its tenant holds a row. -/
theorem Tenancy.account_holder (tenancy : Tenancy owners state) {id : UserAccountId} {u : TxId}
    {version : Option UserAccount} (held : (state.accounts id).writer = some (u, version)) :
    owners.accounts id = owners.requests u :=
  Session.accountClaim_owned (tenancy.sessions u) ((tenancy.sound.accounts id u version).mp held)

theorem Tenancy.invitation_holder (tenancy : Tenancy owners state) {id : InvitationId} {u : TxId}
    {version : Option InvitationRow} (held : (state.invitations id).writer = some (u, version)) :
    owners.invitations id = owners.requests u :=
  Session.invitationClaim_owned (tenancy.sessions u)
    ((tenancy.sound.invitations id u version).mp held)

theorem Tenancy.found (tenancy : Tenancy owners state) {tenantId : TenantId} {id : UserAccountId}
    {u : TxId} {account : UserAccount}
    (found : UserAccounts.get state.accounts u tenantId id = some account) :
    account.id = id ∧ owners.accounts id = tenantId := by
  rcases UserAccounts.get_some found with ⟨seen, scope⟩
  rcases (tenancy.accounts id).read u account seen with ⟨named, tenant⟩
  exact ⟨named, tenant.symm.trans scope⟩

theorem Owners.Keeps.reads {id : InvitationId} {row : InvitationRow} (keeps : owners.Keeps id row) :
    owners.Reads (owners.invitations id) row.toInvitation :=
  ⟨congrArg owners.invitations keeps.named, keeps.tenant, keeps.account⟩

section Step

variable {event : Event}

theorem findByCodeHash_turn (tenancy : Tenancy owners state) {request : AcceptRequest}
    (asked : owners.codes request.codeHash = owners.requests t)
    (taken : state.findByCodeHashStep t request = some after) : Turn owners state t after := by
  unfold State.findByCodeHashStep at taken
  split at taken
  · split at taken
    · cases taken
      exact .rollback _ trivial
    · next invitation found =>
        split at taken
        · cases taken
          exact .rollback _ trivial
        · cases taken
          have picked := (Option.filter_eq_some_iff.mp found).1
          rcases Option.map_eq_some_iff.mp picked with ⟨row, first, rfl⟩
          rcases List.mem_filterMap.mp (List.mem_of_find?_eq_some first) with ⟨id, _, seen⟩
          have keeps := (tenancy.invitations id).read t row seen
          have carries : (row.codeHash == some request.codeHash) = true :=
            List.find?_some (p := fun row : InvitationRow => row.codeHash == some request.codeHash)
              first
          have coded := keeps.code request.codeHash (beq_iff_eq.mp carries)
          refine .goto _ ?_
          show owners.Reads _ _
          rw [← asked, coded]
          exact keeps.reads
  · cases taken

theorem getAccount_turn (tenancy : Tenancy owners state)
    (taken : state.getAccountStep t = some after) : Turn owners state t after := by
  have owned := tenancy.sessions t
  unfold State.getAccountStep at taken
  split at taken
  · next request invitation at_ =>
      rw [at_] at owned
      split at taken
      · cases taken
        exact .rollback _ trivial
      · next account found =>
          split at taken
          · cases taken
            exact .rollback _ trivial
          · cases taken
            exact .goto _ ⟨owned, (congrArg owners.accounts (tenancy.found found).1).trans
              owned.account⟩
  · cases taken

theorem linkIdentity_turn (tenancy : Tenancy owners state)
    (taken : state.linkIdentityStep t = some after) : Turn owners state t after := by
  have owned := tenancy.sessions t
  unfold State.linkIdentityStep at taken
  split at taken
  · next acceptance at_ =>
      rw [at_] at owned
      rcases State.written_cases taken with ⟨error, _, rfl⟩ | ⟨accounts, linked, rfl⟩
      · exact .rollback _ trivial
      · rcases UserAccounts.linkIdentity_ok linked with ⟨row, seen, free, clear, rfl⟩
        exact .link _ _ _ owned owned.account (fun _ => ⟨rfl, rfl⟩) free
  · cases taken

/-- One invitation of the tenant is settled, whatever it becomes. -/
theorem settled_turn {id : InvitationId} {change : InvitationRow → InvitationRow}
    {refused : PersistenceError → Session} {next : Session}
    (taken : state.written t (UserAccountInvitations.settle state.invitations t id change) refused
      (fun invitations => state.withInvitations invitations state.invitationIds t next) = some after)
    (owned : next.Owned owners (owners.requests t))
    (closed : ∀ error, (refused error).Owned owners (owners.requests t))
    (own : owners.invitations id = owners.requests t)
    (keeps : ∀ row, owners.Keeps id row → owners.Keeps id (change row)) :
    Turn owners state t after := by
  rcases State.written_cases taken with ⟨error, _, rfl⟩ | ⟨invitations, settled, rfl⟩
  · exact .rollback _ (closed error)
  · rcases UserAccountInvitations.settle_ok settled with ⟨row, seen, pending, free, rfl⟩
    exact .settle id change next owned own keeps free

theorem markAccepted_turn (tenancy : Tenancy owners state)
    (taken : state.markAcceptedStep t = some after) : Turn owners state t after := by
  have owned := tenancy.sessions t
  unfold State.markAcceptedStep at taken
  split at taken
  · next acceptance at_ =>
      rw [at_] at owned
      exact settled_turn taken owned (fun _ => trivial) owned.invitation.id
        fun _ keeps => keeps.spend rfl rfl rfl rfl
  · cases taken

theorem getLinked_turn (tenancy : Tenancy owners state)
    (taken : state.getLinkedStep t = some after) : Turn owners state t after := by
  have owned := tenancy.sessions t
  unfold State.getLinkedStep at taken
  split at taken
  · next acceptance at_ =>
      rw [at_] at owned
      split at taken
      · cases taken
        exact .rollback _ trivial
      · cases taken
        exact .goto _ owned
  · cases taken

theorem probeAccount_turn (tenancy : Tenancy owners state) {request : CreateRequest}
    (asked : request.tenantId = owners.requests t)
    (taken : state.probeAccountStep t request = some after) : Turn owners state t after := by
  unfold State.probeAccountStep at taken
  split at taken
  · split at taken
    · cases taken
      exact .rollback _ trivial
    · split at taken
      · cases taken
        exact .rollback _ trivial
      · next account found =>
          split at taken
          · cases taken
            exact .rollback _ trivial
          · cases taken
            exact .goto _ ⟨asked, (tenancy.found found).2.trans asked⟩
  · cases taken

/-- The invitations of an account are of its tenant. -/
theorem Tenancy.due (tenancy : Tenancy owners state) {accountId : UserAccountId} {now : DateTime}
    {id : InvitationId}
    (due : UserAccountInvitations.isDue accountId now ((state.invitations id).read t) = true) :
    owners.invitations id = owners.accounts accountId := by
  rcases UserAccountInvitations.isDue_some due with ⟨row, seen, rfl, _⟩
  exact ((tenancy.invitations id).read t row seen).account.symm

theorem expirePendingIfDue_turn (tenancy : Tenancy owners state)
    (taken : state.expirePendingIfDueStep t = some after) : Turn owners state t after := by
  have owned := tenancy.sessions t
  unfold State.expirePendingIfDueStep at taken
  split at taken
  · next request expiresAt at_ =>
      rw [at_] at owned
      split at taken
      · cases taken
      · next invitations due flipped =>
          cases taken
          rcases UserAccountInvitations.expirePendingIfDue_some flipped with ⟨each, rfl⟩
          have own : ∀ id ∈ due, owners.invitations id = owners.requests t := by
            intro id member
            exact (tenancy.due (each id member).1).trans owned.account
          exact .expire due _ ⟨owned, own⟩ own fun id member => (each id member).2
  · cases taken

theorem insertInvitation_turn (tenancy : Tenancy owners state) {id : InvitationId}
    {codeHash : InvitationCodeHash} (drawn : owners.invitations id = owners.requests t)
    (coded : owners.codes codeHash = owners.requests t)
    (taken : state.insertInvitationStep t id codeHash = some after) :
    Turn owners state t after := by
  have owned := tenancy.sessions t
  unfold State.insertInvitationStep at taken
  split at taken
  · next creation at_ =>
      rw [at_] at owned
      rcases State.written_cases taken with ⟨error, _, rfl⟩ | ⟨invitations, inserted, rfl⟩
      · exact .rollback _ trivial
      · rcases UserAccountInvitations.insert_ok inserted with ⟨unlocked, absent, code, pending, rfl⟩
        refine .insert (newInvitation creation id codeHash) _ ⟨drawn, owned.2⟩ drawn ?_ ?_
        · refine ⟨rfl, owned.1.tenant.trans drawn.symm, owned.1.account.trans drawn.symm, ?_⟩
          rintro _ ⟨⟩
          exact coded.trans drawn.symm
        · simp [Cell.free, unlocked]
  · cases taken

theorem findById_turn (tenancy : Tenancy owners state) {request : RevokeRequest}
    (asked : request.tenantId = owners.requests t)
    (taken : state.findByIdStep t request = some after) : Turn owners state t after := by
  unfold State.findByIdStep at taken
  split at taken
  · split at taken
    · cases taken
      exact .rollback _ trivial
    · next invitation found =>
        split at taken
        · cases taken
          exact .rollback _ trivial
        · cases taken
          rcases Option.filter_eq_some_iff.mp found with ⟨loaded, scope⟩
          rcases Option.map_eq_some_iff.mp loaded with ⟨row, seen, rfl⟩
          have keeps := (tenancy.invitations request.invitationId).read t row seen
          exact .goto _ (keeps.tenant.symm.trans ((beq_iff_eq.mp scope).trans asked))
  · cases taken

theorem markRevoked_turn (tenancy : Tenancy owners state)
    (taken : state.markRevokedStep t = some after) : Turn owners state t after := by
  have owned := tenancy.sessions t
  unfold State.markRevokedStep at taken
  split at taken
  · next request invitation at_ =>
      rw [at_] at owned
      exact settled_turn taken owned (fun _ => trivial) owned
        fun _ keeps => keeps.spend rfl rfl rfl rfl
  · cases taken

theorem setState_turn (tenancy : Tenancy owners state) {request : StateRequest}
    (asked : request.tenantId = owners.requests t)
    (taken : state.setStateStep t request = some after) : Turn owners state t after := by
  unfold State.setStateStep at taken
  split at taken
  · rcases State.written_cases taken with ⟨error, _, rfl⟩ | ⟨accounts, written, rfl⟩
    · exact .rollback _ trivial
    · unfold UserAccounts.setState at written
      split at written
      · cases written
      · cases written
      · next account found unlocked =>
          cases written
          exact .setState _ _ _ asked ((tenancy.found found).2.trans asked) fun _ => ⟨rfl, rfl⟩
  · cases taken

theorem getState_turn (taken : state.getStateStep t = some after) : Turn owners state t after := by
  unfold State.getStateStep at taken
  split at taken
  · split at taken
    · cases taken
      exact .rollback _ trivial
    · cases taken
      exact .rollback _ trivial
  · cases taken

theorem insertAccount_turn {account : UserAccount}
    (drawn : owners.accounts account.id = owners.requests t)
    (tenant : account.tenantId = owners.requests t)
    (taken : state.insertAccountStep t account = some after) : Turn owners state t after := by
  unfold State.insertAccountStep at taken
  split at taken
  · rcases State.written_cases taken with ⟨error, _, rfl⟩ | ⟨accounts, inserted, rfl⟩
    · exact .rollback _ trivial
    · rcases UserAccounts.insert_ok inserted with ⟨unlocked, absent, clear, rfl⟩
      exact .insertAccount account _ trivial drawn tenant
  · cases taken

theorem commit_turn (taken : state.commitStep t = some after) : Turn owners state t after := by
  unfold State.commitStep at taken
  split at taken
  case h_4 => cases taken
  all_goals
    cases taken
    exact .commit _ trivial

theorem fail_turn {details : String} (taken : state.failStep t details = some after) :
    Turn owners state t after := by
  unfold State.failStep at taken
  split at taken
  case h_12 => cases taken
  all_goals
    cases taken
    exact .rollback _ trivial

theorem step_turn (tenancy : Tenancy owners state) (asks : owners.allows event = true)
    (taken : state.step event = some after) : Turn owners state event.t after := by
  rcases event with ⟨t, action⟩
  cases action with
  | findByCodeHash request => exact findByCodeHash_turn tenancy (beq_iff_eq.mp asks) taken
  | getAccount => exact getAccount_turn tenancy taken
  | linkIdentity => exact linkIdentity_turn tenancy taken
  | markAccepted => exact markAccepted_turn tenancy taken
  | getLinked => exact getLinked_turn tenancy taken
  | probeAccount request => exact probeAccount_turn tenancy (beq_iff_eq.mp asks) taken
  | expirePendingIfDue => exact expirePendingIfDue_turn tenancy taken
  | insertInvitation id codeHash =>
      rcases Bool.and_eq_true_iff.mp asks with ⟨drawn, coded⟩
      exact insertInvitation_turn tenancy (beq_iff_eq.mp drawn) (beq_iff_eq.mp coded) taken
  | findById request => exact findById_turn tenancy (beq_iff_eq.mp asks) taken
  | markRevoked => exact markRevoked_turn tenancy taken
  | setState request => exact setState_turn tenancy (beq_iff_eq.mp asks) taken
  | getState => exact getState_turn taken
  | insertAccount account =>
      rcases Bool.and_eq_true_iff.mp asks with ⟨drawn, tenant⟩
      exact insertAccount_turn (beq_iff_eq.mp drawn) (beq_iff_eq.mp tenant) taken
  | commit => exact commit_turn taken
  | fail details => exact fail_turn taken

end Step

section Kept

/-- Every version stays with the tenant of its id. -/
theorem turn_accounts (tenancy : Tenancy owners state) (turn : Turn owners state t after)
    (id : UserAccountId) : (after.accounts id).Every (owners.OfAccount id) := by
  have every := tenancy.accounts id
  cases turn with
  | rollback next owned => exact every.rollback t
  | commit next owned => exact every.commit t
  | link key change next owned own keeps free =>
      by_cases here : id = key
      · subst here
        exact (congrArg _ (Table.update_self ..)).mpr
          (every.update free ((every.read t).map keeps))
      · exact (congrArg _ (Table.update_ne _ _ _ here)).mpr every
  | setState key change next owned own keeps =>
      by_cases here : id = key
      · subst here
        exact (congrArg _ (Function.update_self ..)).mpr (.clean (every.committed.map keeps))
      · exact (congrArg _ (Function.update_of_ne here ..)).mpr every
  | insertAccount account next owned own tenant =>
      by_cases here : id = account.id
      · subst here
        refine (congrArg _ (Function.update_self ..)).mpr (.clean ?_)
        rintro _ ⟨⟩
        exact ⟨rfl, tenant.trans own.symm⟩
      · exact (congrArg _ (Function.update_of_ne here ..)).mpr every
  | goto | settle | expire | insert => exact every

theorem turn_invitations (tenancy : Tenancy owners state) (turn : Turn owners state t after)
    (id : InvitationId) : (after.invitations id).Every (owners.OfInvitation id) := by
  have every := tenancy.invitations id
  cases turn with
  | rollback next owned => exact every.rollback t
  | commit next owned => exact every.commit t
  | settle key change next owned own keeps free =>
      by_cases here : id = key
      · subst here
        exact (congrArg _ (Table.update_self ..)).mpr
          (every.update free ((every.read t).map keeps))
      · exact (congrArg _ (Table.update_ne _ _ _ here)).mpr every
  | expire due next owned own free =>
      by_cases member : id ∈ due
      · refine (congrArg _ (if_pos member)).mpr (every.update (free id member) ?_)
        exact (every.read t).map fun _ keeps => keeps.spend rfl rfl rfl rfl
      · exact (congrArg _ (if_neg member)).mpr every
  | insert row next owned own keeps free =>
      by_cases here : id = row.id
      · subst here
        refine (congrArg _ (Table.update_self ..)).mpr (every.update free ?_)
        rintro _ ⟨⟩
        exact keeps
      · exact (congrArg _ (Table.update_ne _ _ _ here)).mpr every
  | goto | link | setState | insertAccount => exact every

theorem turn_sessions (turn : Turn owners state t after) : ∃ next : Session,
    next.Owned owners (owners.requests t) ∧
      after.sessions = Function.update state.sessions t next := by
  cases turn with
  | goto next owned | rollback next owned | commit next owned | link _ _ next owned
  | setState _ _ next owned | insertAccount _ next owned | settle _ _ next owned
  | expire _ next owned | insert _ next owned => exact ⟨next, owned, rfl⟩

theorem tenancy_step {event : Event} (tenancy : Tenancy owners state)
    (asks : owners.allows event = true) (taken : state.step event = some after) :
    Tenancy owners after := by
  have turn := step_turn tenancy asks taken
  refine ⟨sound_move tenancy.sound (step_move taken), turn_accounts tenancy turn,
    turn_invitations tenancy turn, ?_⟩
  intro u
  rcases turn_sessions turn with ⟨next, owned, moved⟩
  rw [moved]
  by_cases own : u = event.t
  · subst own
    rw [Function.update_self]
    exact owned
  · rw [Function.update_of_ne own]
    exact tenancy.sessions u

end Kept

end Turns

end SwiyuIssuer.Linking
