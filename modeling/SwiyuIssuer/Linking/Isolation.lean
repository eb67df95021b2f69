import SwiyuIssuer.Linking.Safety
import SwiyuIssuer.Linking.Tenancy

/-! The requests of one tenant link, invite and deactivate as if no other tenant were there. -/

namespace SwiyuIssuer.Linking

open Library Persistence

namespace Owners

variable (owners : Owners) (mine : TenantId)

def hasAccount (id : UserAccountId) : Bool := owners.accounts id == mine

def hasInvitation (id : InvitationId) : Bool := owners.invitations id == mine

variable {owners mine}

theorem hasAccount_iff {id : UserAccountId} :
    owners.hasAccount mine id = true ↔ owners.accounts id = mine := beq_iff_eq

theorem hasInvitation_iff {id : InvitationId} :
    owners.hasInvitation mine id = true ↔ owners.invitations id = mine := beq_iff_eq

theorem hasAccount_false {id : UserAccountId} :
    owners.hasAccount mine id = false ↔ owners.accounts id ≠ mine := beq_eq_false_iff_ne

theorem hasInvitation_false {id : InvitationId} :
    owners.hasInvitation mine id = false ↔ owners.invitations id ≠ mine := beq_eq_false_iff_ne

end Owners

/-- What the tenant has in the tables, and its requests. -/
def State.part (owners : Owners) (mine : TenantId) (state : State) : State where
  accounts := state.accounts.restrict (owners.hasAccount mine) none
  invitations := state.invitations.restrict (owners.hasInvitation mine) none
  accountIds := state.accountIds.filter (owners.hasAccount mine)
  invitationIds := state.invitationIds.filter (owners.hasInvitation mine)
  sessions := fun t => if owners.requests t = mine then state.sessions t else .idle

section Parts

variable {owners : Owners} {mine : TenantId} {state after : State} {t : TxId}

theorem State.eq_of_fields {left right : State} (accounts : left.accounts = right.accounts)
    (invitations : left.invitations = right.invitations)
    (accountIds : left.accountIds = right.accountIds)
    (invitationIds : left.invitationIds = right.invitationIds)
    (sessions : left.sessions = right.sessions) : left = right := by
  cases left
  cases right
  simp_all

theorem State.part_same
    (accounts : ∀ id, owners.hasAccount mine id = true → after.accounts id = state.accounts id)
    (invitations : ∀ id, owners.hasInvitation mine id = true →
      after.invitations id = state.invitations id)
    (accountIds : after.accountIds.filter (owners.hasAccount mine) =
      state.accountIds.filter (owners.hasAccount mine))
    (invitationIds : after.invitationIds.filter (owners.hasInvitation mine) =
      state.invitationIds.filter (owners.hasInvitation mine))
    (sessions : ∀ u, owners.requests u = mine → after.sessions u = state.sessions u) :
    after.part owners mine = state.part owners mine := by
  apply State.eq_of_fields
  · exact Table.restrict_congr (fun _ => rfl) accounts
  · exact Table.restrict_congr (fun _ => rfl) invitations
  · exact accountIds
  · exact invitationIds
  · funext u
    simp only [State.part]
    split
    · next own => exact sessions u own
    · rfl

/-- A request of another tenant changes nothing of the tenant's. -/
theorem turn_part_unseen (tenancy : Tenancy owners state) (turn : Turn owners state t after)
    (other : owners.requests t ≠ mine) : after.part owners mine = state.part owners mine := by
  have sessions : ∀ u, owners.requests u = mine → after.sessions u = state.sessions u := by
    intro u own
    rcases turn_sessions turn with ⟨next, _, moved⟩
    rw [moved]
    apply Function.update_of_ne
    rintro rfl
    exact other own
  -- nothing that the request has pending is in a row of the tenant
  have accountFree : ∀ id, owners.hasAccount mine id = true → ∀ version,
      (state.accounts id).writer ≠ some (t, version) := by
    intro id own version held
    exact other ((tenancy.account_holder held).symm.trans (Owners.hasAccount_iff.mp own))
  have invitationFree : ∀ id, owners.hasInvitation mine id = true → ∀ version,
      (state.invitations id).writer ≠ some (t, version) := by
    intro id own version held
    exact other ((tenancy.invitation_holder held).symm.trans (Owners.hasInvitation_iff.mp own))
  have apart : ∀ {id key}, owners.accounts key = owners.requests t →
      owners.hasAccount mine id = true → id ≠ key := by
    rintro id key theirs own rfl
    exact other (theirs.symm.trans (Owners.hasAccount_iff.mp own))
  have away : ∀ {id key}, owners.invitations key = owners.requests t →
      owners.hasInvitation mine id = true → id ≠ key := by
    rintro id key theirs own rfl
    exact other (theirs.symm.trans (Owners.hasInvitation_iff.mp own))
  cases turn with
  | goto next owned => exact State.part_same (fun _ _ => rfl) (fun _ _ => rfl) rfl rfl sessions
  | rollback next owned =>
      exact State.part_same (fun id own => Cell.rollback_unheld (accountFree id own))
        (fun id own => Cell.rollback_unheld (invitationFree id own)) rfl rfl sessions
  | commit next owned =>
      exact State.part_same (fun id own => Cell.commit_unheld (accountFree id own))
        (fun id own => Cell.commit_unheld (invitationFree id own)) rfl rfl sessions
  | link key change next owned own keeps free =>
      exact State.part_same (fun id mine_ => Table.update_ne _ _ _ (apart own mine_))
        (fun _ _ => rfl) rfl rfl sessions
  | setState key change next owned own keeps =>
      exact State.part_same (fun id mine_ => Function.update_of_ne (apart own mine_) ..)
        (fun _ _ => rfl) rfl rfl sessions
  | insertAccount account next owned own tenant =>
      refine State.part_same (fun id mine_ => Function.update_of_ne (apart own mine_) ..)
        (fun _ _ => rfl) ?_ rfl sessions
      apply List.filter_cons_of_neg
      rw [Owners.hasAccount_iff, own]
      exact other
  | settle key change next owned own keeps free =>
      exact State.part_same (fun _ _ => rfl)
        (fun id mine_ => Table.update_ne _ _ _ (away own mine_)) rfl rfl sessions
  | expire due next owned own free =>
      refine State.part_same (fun _ _ => rfl) ?_ rfl rfl sessions
      intro id mine_
      apply if_neg
      intro member
      exact away (own id member) mine_ rfl
  | insert row next owned own keeps free =>
      refine State.part_same (fun _ _ => rfl)
        (fun id mine_ => Table.update_ne _ _ _ (away own mine_)) rfl ?_ sessions
      apply List.filter_cons_of_neg
      rw [Owners.hasInvitation_iff, own]
      exact other

end Parts

/-! The statements of the tenant, in its part and in the whole. -/

section Seen

variable {owners : Owners} {mine : TenantId} {state after : State} {t : TxId}

theorem State.part_session (own : owners.requests t = mine) :
    (state.part owners mine).sessions t = state.sessions t := if_pos own

theorem State.part_goto (own : owners.requests t = mine) (next : Session) :
    (state.goto t next).part owners mine = (state.part owners mine).goto t next :=
  State.eq_of_fields rfl rfl rfl rfl (update_masked own next)

theorem State.part_rollback (own : owners.requests t = mine) (next : Session) :
    (state.rollback t next).part owners mine = (state.part owners mine).rollback t next :=
  State.eq_of_fields (Table.restrict_rollback t).symm (Table.restrict_rollback t).symm rfl rfl
    (update_masked own next)

theorem State.part_commit (own : owners.requests t = mine) (next : Session) :
    (state.commit t next).part owners mine = (state.part owners mine).commit t next :=
  State.eq_of_fields (Table.restrict_commit t).symm (Table.restrict_commit t).symm rfl rfl
    (update_masked own next)

theorem State.part_withAccounts (own : owners.requests t = mine)
    (table : Table TxId UserAccountId (Option UserAccount)) (ids : List UserAccountId)
    (next : Session) : (state.withAccounts table ids t next).part owners mine =
      (state.part owners mine).withAccounts (table.restrict (owners.hasAccount mine) none)
        (ids.filter (owners.hasAccount mine)) t next :=
  State.eq_of_fields rfl rfl rfl rfl (update_masked own next)

theorem State.part_withInvitations (own : owners.requests t = mine)
    (table : Table TxId InvitationId (Option InvitationRow)) (ids : List InvitationId)
    (next : Session) : (state.withInvitations table ids t next).part owners mine =
      (state.part owners mine).withInvitations (table.restrict (owners.hasInvitation mine) none)
        (ids.filter (owners.hasInvitation mine)) t next :=
  State.eq_of_fields rfl rfl rfl rfl (update_masked own next)

theorem State.part_account {id : UserAccountId} (own : owners.accounts id = mine) :
    (state.part owners mine).accounts id = state.accounts id :=
  Table.restrict_kept (Owners.hasAccount_iff.mpr own)

theorem State.part_invitation {id : InvitationId} (own : owners.invitations id = mine) :
    (state.part owners mine).invitations id = state.invitations id :=
  Table.restrict_kept (Owners.hasInvitation_iff.mpr own)

theorem restrict_account {id : UserAccountId} (own : owners.accounts id = mine)
    (cell : Cell TxId (Option UserAccount)) :
    Table.restrict (owners.hasAccount mine) none (Function.update state.accounts id cell) =
      Function.update (state.part owners mine).accounts id cell :=
  Table.restrict_set cell (Owners.hasAccount_iff.mpr own) fun _ _ => rfl

theorem restrict_invitation {id : InvitationId} (own : owners.invitations id = mine)
    (cell : Cell TxId (Option InvitationRow)) :
    Table.restrict (owners.hasInvitation mine) none (Function.update state.invitations id cell) =
      Function.update (state.part owners mine).invitations id cell :=
  Table.restrict_set cell (Owners.hasInvitation_iff.mpr own) fun _ _ => rfl

/-- A row of the tenant is written in its part as in the whole. -/
theorem part_update_account {id : UserAccountId} (own : owners.accounts id = mine)
    (change : Option UserAccount → Option UserAccount) :
    (state.accounts.update t id change).restrict (owners.hasAccount mine) none =
      (state.part owners mine).accounts.update t id change := by
  rw [Table.update, restrict_account own, ← State.part_account own]
  rfl

theorem part_update_invitation {id : InvitationId} (own : owners.invitations id = mine)
    (change : Option InvitationRow → Option InvitationRow) :
    (state.invitations.update t id change).restrict (owners.hasInvitation mine) none =
      (state.part owners mine).invitations.update t id change := by
  rw [Table.update, restrict_invitation own, ← State.part_invitation own]
  rfl

/-! The answer of a statement in the part is its answer in the whole. -/

section Answers

theorem Tenancy.part_get (tenancy : Tenancy owners state) (id : UserAccountId) :
    UserAccounts.get (state.part owners mine).accounts t mine id =
      UserAccounts.get state.accounts t mine id := by
  by_cases own : owners.accounts id = mine
  · rw [UserAccounts.get, State.part_account own, UserAccounts.get]
  · have dropped : (state.part owners mine).accounts id = Cell.clean none :=
      Table.restrict_dropped (Owners.hasAccount_false.mpr own)
    have nothing : UserAccounts.get state.accounts t mine id = none := by
      by_contra some_
      rcases Option.ne_none_iff_exists'.mp some_ with ⟨account, found⟩
      exact own (tenancy.found found).2
    rw [nothing, UserAccounts.get, dropped]
    rfl

/-- Identities of other tenants are other entries of the index. -/
theorem Tenancy.part_probeIdentity (tenancy : Tenancy owners state) (id : UserAccountId)
    (identity : Option UserIdentity) (mine : TenantId) :
    UniqueIndex.probe UserAccounts.identityKey (state.part owners mine).accounts
        (state.part owners mine).accountIds t id (identity.map fun identity => (mine, identity)) =
      UniqueIndex.probe UserAccounts.identityKey state.accounts state.accountIds t id
        (identity.map fun identity => (mine, identity)) := by
  apply UniqueIndex.probe_restrict
  intro other value dropped entered
  rw [Bool.eq_false_iff]
  intro carries
  rcases Option.map_eq_some_iff.mp entered with ⟨asked, _, rfl⟩
  rcases UniqueIndex.carries_version carries with ⟨version, from_, key⟩
  have of : owners.OfAccount other version := by
    rcases from_ with rfl | ⟨holder, held⟩
    · exact (tenancy.accounts other).committed
    · exact (tenancy.accounts other).pending holder version (Cell.pending_some.mpr held)
  cases version with
  | none => cases key
  | some row =>
      rcases Option.map_eq_some_iff.mp key with ⟨linked, _, same⟩
      have tenant := (of row rfl).2
      rw [(Prod.mk.inj same).1] at tenant
      exact Owners.hasAccount_false.mp dropped tenant.symm

/-- An invitation of another tenant carries neither the account nor the code. -/
theorem Tenancy.part_probeInvitation {ι : Type} [DecidableEq ι] (tenancy : Tenancy owners state)
    {keyOf : Option InvitationRow → Option ι} {entry : Option ι} (id : InvitationId)
    (nothing : keyOf none = none)
    (mineOnly : ∀ other row value, owners.Keeps other row → keyOf (some row) = some value →
      entry = some value → owners.invitations other = mine) :
    UniqueIndex.probe keyOf (state.part owners mine).invitations
        (state.part owners mine).invitationIds t id entry =
      UniqueIndex.probe keyOf state.invitations state.invitationIds t id entry := by
  apply UniqueIndex.probe_restrict
  intro other value dropped entered
  rw [Bool.eq_false_iff]
  intro carries
  rcases UniqueIndex.carries_version carries with ⟨version, from_, key⟩
  have of : owners.OfInvitation other version := by
    rcases from_ with rfl | ⟨holder, held⟩
    · exact (tenancy.invitations other).committed
    · exact (tenancy.invitations other).pending holder version (Cell.pending_some.mpr held)
  cases version with
  | none =>
      rw [nothing] at key
      cases key
  | some row =>
      exact Owners.hasInvitation_false.mp dropped (mineOnly other row value (of row rfl) key entered)

theorem part_settle {id : InvitationId} (own : owners.invitations id = mine)
    (change : InvitationRow → InvitationRow) :
    UserAccountInvitations.settle (state.part owners mine).invitations t id change =
      (UserAccountInvitations.settle state.invitations t id change).map
        (Except.map (Table.restrict (owners.hasInvitation mine) none)) := by
  unfold UserAccountInvitations.settle
  rw [State.part_invitation own]
  cases (state.invitations id).read t with
  | none => rfl
  | some row =>
      dsimp only
      split
      · split
        · exact congrArg (fun table => some (Except.ok table)) (part_update_invitation own _).symm
        · rfl
      · rfl

theorem Tenancy.part_linkIdentity (tenancy : Tenancy owners state) {id : UserAccountId}
    (own : owners.accounts id = mine) (user : AssertedUser) (linkedAt : DateTime) :
    UserAccounts.linkIdentity (state.part owners mine).accounts
        (state.part owners mine).accountIds t id user linkedAt =
      (UserAccounts.linkIdentity state.accounts state.accountIds t id user linkedAt).map
        (Except.map (Table.restrict (owners.hasAccount mine) none)) := by
  unfold UserAccounts.linkIdentity
  rw [State.part_account own]
  cases seen : (state.accounts id).read t with
  | none => rfl
  | some row =>
      have tenant : row.tenantId = mine := ((tenancy.accounts id).read t row seen).2.trans own
      have probes := tenancy.part_probeIdentity (t := t) id (some user.identity) mine
      rw [Option.map_some] at probes
      dsimp only
      rw [tenant, probes]
      split
      · cases UniqueIndex.probe UserAccounts.identityKey state.accounts state.accountIds t id
            (some (mine, user.identity)) with
        | waits | taken => rfl
        | clear => exact congrArg (fun table => some (Except.ok table)) (part_update_account own _).symm
      · rfl

theorem Tenancy.part_setState (tenancy : Tenancy owners state) (id : UserAccountId)
    (change : UserAccountState) :
    UserAccounts.setState (state.part owners mine).accounts t mine id change =
      (UserAccounts.setState state.accounts t mine id change).map
        (Except.map (Table.restrict (owners.hasAccount mine) none)) := by
  unfold UserAccounts.setState
  rw [tenancy.part_get]
  cases found : UserAccounts.get state.accounts t mine id with
  | none => rfl
  | some account =>
      have own : owners.accounts id = mine := (tenancy.found found).2
      rw [State.part_account own]
      cases (state.accounts id).writer with
      | none => exact congrArg (fun table => some (Except.ok table)) (restrict_account own _).symm
      | some holder => rfl

theorem Tenancy.part_insertAccount (tenancy : Tenancy owners state) {account : UserAccount}
    (own : owners.accounts account.id = mine) (tenant : account.tenantId = mine) :
    UserAccounts.insert (state.part owners mine).accounts (state.part owners mine).accountIds t
        account =
      (UserAccounts.insert state.accounts state.accountIds t account).map
        (Except.map (Table.restrict (owners.hasAccount mine) none)) := by
  have probes := tenancy.part_probeIdentity (t := t) account.id account.identity mine
  have key : UserAccounts.identityKey (some account) =
      account.identity.map fun identity => (mine, identity) := by
    rw [← tenant]
    rfl
  unfold UserAccounts.insert
  rw [State.part_account own, key, probes]
  cases (state.accounts account.id).writer with
  | some holder => rfl
  | none =>
      cases (state.accounts account.id).committed with
      | some row => rfl
      | none =>
          dsimp only
          cases UniqueIndex.probe UserAccounts.identityKey state.accounts state.accountIds t
              account.id (account.identity.map fun identity => (mine, identity)) with
          | waits | taken => rfl
          | clear => exact congrArg (fun table => some (Except.ok table)) (restrict_account own _).symm

theorem Tenancy.part_expirePendingIfDue (tenancy : Tenancy owners state) {accountId : UserAccountId}
    (own : owners.accounts accountId = mine) (now : DateTime) :
    UserAccountInvitations.expirePendingIfDue (state.part owners mine).invitations
        (state.part owners mine).invitationIds t accountId now =
      (UserAccountInvitations.expirePendingIfDue state.invitations state.invitationIds t accountId
        now).map (Prod.map (Table.restrict (owners.hasInvitation mine) none) id) := by
  have due : (state.part owners mine).invitationIds.filter (fun id =>
        UserAccountInvitations.isDue accountId now
          (((state.part owners mine).invitations id).read t)) =
      state.invitationIds.filter fun id =>
        UserAccountInvitations.isDue accountId now ((state.invitations id).read t) := by
    apply Table.filter_restrict fun _ row => UserAccountInvitations.isDue accountId now row
    intro id dropped
    rw [Bool.eq_false_iff]
    intro picked
    exact Owners.hasInvitation_false.mp dropped ((tenancy.due picked).trans own)
  have kept : ∀ id ∈ state.invitationIds.filter fun id =>
        UserAccountInvitations.isDue accountId now ((state.invitations id).read t),
      owners.invitations id = mine :=
    fun id member => (tenancy.due (List.mem_filter.mp member).2).trans own
  unfold UserAccountInvitations.expirePendingIfDue
  dsimp only
  rw [due]
  generalize state.invitationIds.filter (fun id =>
    UserAccountInvitations.isDue accountId now ((state.invitations id).read t)) = flipped at kept
  have free : (flipped.all fun id => ((state.part owners mine).invitations id).free t) =
      flipped.all fun id => (state.invitations id).free t := by
    rw [Bool.eq_iff_iff, List.all_eq_true, List.all_eq_true]
    apply forall₂_congr
    intro id member
    rw [State.part_invitation (kept id member)]
  rw [free]
  split
  · refine congrArg (fun table => some (table, flipped)) ?_
    funext id
    by_cases member : id ∈ flipped
    · rw [if_pos member, State.part_invitation (kept id member),
        Table.restrict_kept (Owners.hasInvitation_iff.mpr (kept id member)), if_pos member]
    · rw [if_neg member, Table.restrict, if_neg member]
      rfl
  · rfl

theorem Tenancy.part_insertInvitation (tenancy : Tenancy owners state) {row : InvitationRow}
    (own : owners.invitations row.id = mine) (account : owners.accounts row.userAccountId = mine)
    (coded : ∀ codeHash, row.codeHash = some codeHash → owners.codes codeHash = mine) :
    UserAccountInvitations.insert (state.part owners mine).invitations
        (state.part owners mine).invitationIds t row =
      (UserAccountInvitations.insert state.invitations state.invitationIds t row).map
        (Except.map (Table.restrict (owners.hasInvitation mine) none)) := by
  have code : UniqueIndex.probe UserAccountInvitations.codeKey
        (state.part owners mine).invitations (state.part owners mine).invitationIds t row.id
        (UserAccountInvitations.codeKey (some row)) =
      UniqueIndex.probe UserAccountInvitations.codeKey state.invitations state.invitationIds t
        row.id (UserAccountInvitations.codeKey (some row)) := by
    apply tenancy.part_probeInvitation row.id rfl
    intro other found value keeps carries entered
    exact (keeps.code value carries).symm.trans (coded value entered)
  have pending : UniqueIndex.probe UserAccountInvitations.pendingKey
        (state.part owners mine).invitations (state.part owners mine).invitationIds t row.id
        (UserAccountInvitations.pendingKey (some row)) =
      UniqueIndex.probe UserAccountInvitations.pendingKey state.invitations state.invitationIds t
        row.id (UserAccountInvitations.pendingKey (some row)) := by
    apply tenancy.part_probeInvitation row.id rfl
    intro other found value keeps carries entered
    have theirs := Option.some.inj (Option.ite_none_right_eq_some.mp carries).2
    have ours := Option.some.inj (Option.ite_none_right_eq_some.mp entered).2
    exact keeps.account.symm.trans ((congrArg owners.accounts (theirs.trans ours.symm)).trans account)
  unfold UserAccountInvitations.insert
  rw [State.part_invitation own, code, pending]
  cases (state.invitations row.id).writer with
  | some holder => rfl
  | none =>
      cases (state.invitations row.id).committed with
      | some row => rfl
      | none =>
          dsimp only
          cases UniqueIndex.probe UserAccountInvitations.codeKey state.invitations
              state.invitationIds t row.id (UserAccountInvitations.codeKey (some row)) with
          | taken | waits => rfl
          | clear =>
              cases UniqueIndex.probe UserAccountInvitations.pendingKey state.invitations
                  state.invitationIds t row.id (UserAccountInvitations.pendingKey (some row)) with
              | taken | waits => rfl
              | clear =>
                  exact congrArg (fun table => some (Except.ok table))
                    (part_update_invitation own _).symm

theorem findByCodeHashStep_part (tenancy : Tenancy owners state) (own : owners.requests t = mine)
    {request : AcceptRequest} (asked : owners.codes request.codeHash = owners.requests t) :
    (state.part owners mine).findByCodeHashStep t request =
      (state.findByCodeHashStep t request).map (State.part owners mine) := by
  have found : UserAccountInvitations.findByCodeHash (state.part owners mine).invitations
        (state.part owners mine).invitationIds t request.codeHash =
      UserAccountInvitations.findByCodeHash state.invitations state.invitationIds t
        request.codeHash := by
    refine congrArg (Option.map _) (Table.find_restrict ?_)
    intro id row dropped seen
    rw [beq_eq_false_iff_ne]
    intro carries
    have coded := ((tenancy.invitations id).read t row seen).code _ carries
    exact Owners.hasInvitation_false.mp dropped (coded.symm.trans (asked.trans own))
  unfold State.findByCodeHashStep
  rw [State.part_session own, found]
  cases state.sessions t with
  | idle =>
      dsimp only
      cases (UserAccountInvitations.findByCodeHash state.invitations state.invitationIds t
          request.codeHash).filter fun invitation => invitation.id == request.invitationId with
      | none => exact congrArg some (State.part_rollback own _).symm
      | some invitation =>
          dsimp only
          split
          · exact congrArg some (State.part_rollback own _).symm
          · exact congrArg some (State.part_goto own _).symm
  | _ => rfl

theorem getAccountStep_part (tenancy : Tenancy owners state) (own : owners.requests t = mine) :
    (state.part owners mine).getAccountStep t =
      (state.getAccountStep t).map (State.part owners mine) := by
  have owned := tenancy.sessions t
  unfold State.getAccountStep
  rw [State.part_session own]
  cases at_ : state.sessions t with
  | invitationFound request invitation =>
      rw [at_, own] at owned
      have tenant : invitation.tenantId = mine := owned.tenant
      simp only [tenant, tenancy.part_get]
      cases UserAccounts.get state.accounts t mine invitation.userAccountId with
      | none => exact congrArg some (State.part_rollback own _).symm
      | some account =>
          dsimp only
          split
          · exact congrArg some (State.part_rollback own _).symm
          · exact congrArg some (State.part_goto own _).symm
  | _ => rfl

/-- A write of the tenant's, with what it answers and the rows that it leaves. -/
theorem State.written_part {Rows : Type} (own : owners.requests t = mine) {restrict : Rows → Rows}
    {answer : Option (Except PersistenceError Rows)} {refused : PersistenceError → Session}
    {next nextPart : Rows → State}
    (writes : ∀ rows, nextPart (restrict rows) = (next rows).part owners mine) :
    (state.part owners mine).written t (answer.map (Except.map restrict)) refused nextPart =
      (state.written t answer refused next).map (State.part owners mine) := by
  cases answer with
  | none => rfl
  | some answer =>
      cases answer with
      | error error => exact congrArg some (State.part_rollback own _).symm
      | ok rows => exact congrArg some (writes rows)

theorem linkIdentityStep_part (tenancy : Tenancy owners state) (own : owners.requests t = mine) :
    (state.part owners mine).linkIdentityStep t =
      (state.linkIdentityStep t).map (State.part owners mine) := by
  have owned := tenancy.sessions t
  unfold State.linkIdentityStep
  rw [State.part_session own]
  cases at_ : state.sessions t with
  | accountRead acceptance =>
      rw [at_, own] at owned
      dsimp only
      rw [tenancy.part_linkIdentity owned.account]
      exact State.written_part own fun _ => (State.part_withAccounts own ..).symm
  | _ => rfl

theorem markAcceptedStep_part (tenancy : Tenancy owners state) (own : owners.requests t = mine) :
    (state.part owners mine).markAcceptedStep t =
      (state.markAcceptedStep t).map (State.part owners mine) := by
  have owned := tenancy.sessions t
  unfold State.markAcceptedStep
  rw [State.part_session own]
  cases at_ : state.sessions t with
  | identityLinked acceptance =>
      rw [at_, own] at owned
      dsimp only
      rw [UserAccountInvitations.markAccepted, part_settle owned.invitation.id]
      exact State.written_part own fun _ => (State.part_withInvitations own ..).symm
  | _ => rfl

theorem getLinkedStep_part (tenancy : Tenancy owners state) (own : owners.requests t = mine) :
    (state.part owners mine).getLinkedStep t =
      (state.getLinkedStep t).map (State.part owners mine) := by
  have owned := tenancy.sessions t
  unfold State.getLinkedStep
  rw [State.part_session own]
  cases at_ : state.sessions t with
  | invitationAccepted acceptance =>
      rw [at_, own] at owned
      dsimp only
      rw [owned.invitation.tenant, tenancy.part_get]
      cases UserAccounts.get state.accounts t mine acceptance.account.id with
      | none => exact congrArg some (State.part_rollback own _).symm
      | some linked => exact congrArg some (State.part_goto own _).symm
  | _ => rfl

theorem probeAccountStep_part (tenancy : Tenancy owners state) (own : owners.requests t = mine)
    {request : CreateRequest} (asked : request.tenantId = owners.requests t) :
    (state.part owners mine).probeAccountStep t request =
      (state.probeAccountStep t request).map (State.part owners mine) := by
  unfold State.probeAccountStep
  rw [State.part_session own, asked.trans own, tenancy.part_get]
  cases state.sessions t with
  | idle =>
      dsimp only
      cases resolveInvitationExpiresIn request.expiresInSeconds with
      | error error => exact congrArg some (State.part_rollback own _).symm
      | ok expiresIn =>
          dsimp only
          cases UserAccounts.get state.accounts t mine request.accountId with
          | none => exact congrArg some (State.part_rollback own _).symm
          | some account =>
              dsimp only
              split
              · exact congrArg some (State.part_rollback own _).symm
              · exact congrArg some (State.part_goto own _).symm
  | _ => rfl

theorem expirePendingIfDueStep_part (tenancy : Tenancy owners state)
    (own : owners.requests t = mine) :
    (state.part owners mine).expirePendingIfDueStep t =
      (state.expirePendingIfDueStep t).map (State.part owners mine) := by
  have owned := tenancy.sessions t
  unfold State.expirePendingIfDueStep
  rw [State.part_session own]
  cases at_ : state.sessions t with
  | accountProbed request expiresAt =>
      rw [at_, own] at owned
      dsimp only
      rw [tenancy.part_expirePendingIfDue owned.account]
      cases UserAccountInvitations.expirePendingIfDue state.invitations state.invitationIds t
          request.accountId request.now with
      | none => rfl
      | some flipped => exact congrArg some (State.part_withInvitations own ..).symm
  | _ => rfl

theorem insertInvitationStep_part (tenancy : Tenancy owners state) (own : owners.requests t = mine)
    {id : InvitationId} {codeHash : InvitationCodeHash} (drawn : owners.invitations id = mine)
    (coded : owners.codes codeHash = mine) :
    (state.part owners mine).insertInvitationStep t id codeHash =
      (state.insertInvitationStep t id codeHash).map (State.part owners mine) := by
  have owned := tenancy.sessions t
  unfold State.insertInvitationStep
  rw [State.part_session own]
  cases at_ : state.sessions t with
  | dueExpired creation =>
      rw [at_, own] at owned
      have codes : ∀ code, (newInvitation creation id codeHash).codeHash = some code →
          owners.codes code = mine := by
        rintro _ ⟨⟩
        exact coded
      have account : owners.accounts (newInvitation creation id codeHash).userAccountId = mine :=
        owned.1.account
      dsimp only
      rw [tenancy.part_insertInvitation drawn account codes]
      apply State.written_part own
      intro table
      rw [State.part_withInvitations own,
        List.filter_cons_of_pos (Owners.hasInvitation_iff.mpr drawn)]
      rfl
  | _ => rfl

theorem findByIdStep_part (tenancy : Tenancy owners state) (own : owners.requests t = mine)
    {request : RevokeRequest} (asked : request.tenantId = owners.requests t) :
    (state.part owners mine).findByIdStep t request =
      (state.findByIdStep t request).map (State.part owners mine) := by
  have found : (UserAccountInvitations.findById (state.part owners mine).invitations t
        request.invitationId).filter (fun invitation => invitation.tenantId == mine) =
      (UserAccountInvitations.findById state.invitations t request.invitationId).filter
        fun invitation => invitation.tenantId == mine := by
    by_cases here : owners.invitations request.invitationId = mine
    · simp only [UserAccountInvitations.findById, State.part_invitation here]
    · have dropped : (state.part owners mine).invitations request.invitationId = Cell.clean none :=
        Table.restrict_dropped (Owners.hasInvitation_false.mpr here)
      simp only [UserAccountInvitations.findById, dropped]
      cases seen : (state.invitations request.invitationId).read t with
      | none => rfl
      | some row =>
          have keeps := (tenancy.invitations request.invitationId).read t row seen
          refine (Option.filter_some_neg ?_).symm
          show (row.tenantId == mine) = false
          rw [beq_eq_false_iff_ne]
          intro same
          exact here (keeps.tenant.symm.trans same)
  unfold State.findByIdStep
  rw [State.part_session own, asked.trans own, found]
  cases state.sessions t with
  | idle =>
      dsimp only
      cases (UserAccountInvitations.findById state.invitations t request.invitationId).filter
          fun invitation => invitation.tenantId == mine with
      | none => exact congrArg some (State.part_rollback own _).symm
      | some invitation =>
          dsimp only
          split
          · exact congrArg some (State.part_rollback own _).symm
          · exact congrArg some (State.part_goto own _).symm
  | _ => rfl

theorem markRevokedStep_part (tenancy : Tenancy owners state) (own : owners.requests t = mine) :
    (state.part owners mine).markRevokedStep t =
      (state.markRevokedStep t).map (State.part owners mine) := by
  have owned := tenancy.sessions t
  unfold State.markRevokedStep
  rw [State.part_session own]
  cases at_ : state.sessions t with
  | invitationLoaded request invitation =>
      rw [at_, own] at owned
      dsimp only
      rw [UserAccountInvitations.markRevoked, part_settle owned]
      exact State.written_part own fun _ => (State.part_withInvitations own ..).symm
  | _ => rfl

theorem setStateStep_part (tenancy : Tenancy owners state) (own : owners.requests t = mine)
    {request : StateRequest} (asked : request.tenantId = owners.requests t) :
    (state.part owners mine).setStateStep t request =
      (state.setStateStep t request).map (State.part owners mine) := by
  unfold State.setStateStep
  rw [State.part_session own, asked.trans own, tenancy.part_setState]
  cases state.sessions t with
  | idle => exact State.written_part own fun _ => (State.part_withAccounts own ..).symm
  | _ => rfl

theorem getStateStep_part (tenancy : Tenancy owners state) (own : owners.requests t = mine) :
    (state.part owners mine).getStateStep t =
      (state.getStateStep t).map (State.part owners mine) := by
  have owned := tenancy.sessions t
  unfold State.getStateStep
  rw [State.part_session own]
  cases at_ : state.sessions t with
  | stateSet request =>
      rw [at_, own] at owned
      have asked : request.tenantId = mine := owned
      dsimp only
      rw [asked, tenancy.part_get]
      cases UserAccounts.get state.accounts t mine request.accountId with
      | none => exact congrArg some (State.part_rollback own _).symm
      | some account => exact congrArg some (State.part_rollback own _).symm
  | _ => rfl

theorem insertAccountStep_part (tenancy : Tenancy owners state) (own : owners.requests t = mine)
    {account : UserAccount} (drawn : owners.accounts account.id = mine)
    (tenant : account.tenantId = mine) :
    (state.part owners mine).insertAccountStep t account =
      (state.insertAccountStep t account).map (State.part owners mine) := by
  unfold State.insertAccountStep
  rw [State.part_session own, tenancy.part_insertAccount drawn tenant]
  cases state.sessions t with
  | idle =>
      apply State.written_part own
      intro table
      rw [State.part_withAccounts own, List.filter_cons_of_pos (Owners.hasAccount_iff.mpr drawn)]
      rfl
  | _ => rfl

theorem commitStep_part (own : owners.requests t = mine) :
    (state.part owners mine).commitStep t =
      (state.commitStep t).map (State.part owners mine) := by
  unfold State.commitStep
  rw [State.part_session own]
  cases state.sessions t with
  | accountReread | invitationInserted | invitationRevoked =>
      exact congrArg some (State.part_commit own _).symm
  | _ => rfl

theorem failStep_part (own : owners.requests t = mine) (details : String) :
    (state.part owners mine).failStep t details =
      (state.failStep t details).map (State.part owners mine) := by
  unfold State.failStep
  rw [State.part_session own]
  cases state.sessions t with
  | invitationFound | accountRead | identityLinked | invitationAccepted | accountReread
  | accountProbed | dueExpired | invitationInserted | invitationLoaded | invitationRevoked
  | stateSet => exact congrArg some (State.part_rollback own _).symm
  | _ => rfl

theorem step_part {event : Event} (tenancy : Tenancy owners state)
    (own : owners.requests event.t = mine) (asks : owners.allows event = true) :
    (state.part owners mine).step event = (state.step event).map (State.part owners mine) := by
  rcases event with ⟨t, action⟩
  cases action with
  | findByCodeHash request => exact findByCodeHashStep_part tenancy own (beq_iff_eq.mp asks)
  | getAccount => exact getAccountStep_part tenancy own
  | linkIdentity => exact linkIdentityStep_part tenancy own
  | markAccepted => exact markAcceptedStep_part tenancy own
  | getLinked => exact getLinkedStep_part tenancy own
  | probeAccount request => exact probeAccountStep_part tenancy own (beq_iff_eq.mp asks)
  | expirePendingIfDue => exact expirePendingIfDueStep_part tenancy own
  | insertInvitation id codeHash =>
      rcases Bool.and_eq_true_iff.mp asks with ⟨drawn, coded⟩
      exact insertInvitationStep_part tenancy own ((beq_iff_eq.mp drawn).trans own)
        ((beq_iff_eq.mp coded).trans own)
  | findById request => exact findByIdStep_part tenancy own (beq_iff_eq.mp asks)
  | markRevoked => exact markRevokedStep_part tenancy own
  | setState request => exact setStateStep_part tenancy own (beq_iff_eq.mp asks)
  | getState => exact getStateStep_part tenancy own
  | insertAccount account =>
      rcases Bool.and_eq_true_iff.mp asks with ⟨drawn, tenant⟩
      exact insertAccountStep_part tenancy own ((beq_iff_eq.mp drawn).trans own)
        ((beq_iff_eq.mp tenant).trans own)
  | commit => exact commitStep_part own
  | fail details => exact failStep_part own details

end Answers

end Seen

/-- An invitation and its account are of one tenant. -/
def InvitationsAgree (state : State) : Prop :=
  ∀ id row account, (state.invitations id).committed = some row →
    (state.accounts row.userAccountId).committed = some account → account.tenantId = row.tenantId

section Runs

variable {owners : Owners} {first last : State} {trace : List Event}

theorem Tenancy.agree {state : State} (tenancy : Tenancy owners state) :
    InvitationsAgree state := by
  intro id row account invited stored
  have keeps := (tenancy.invitations id).committed row invited
  have of := (tenancy.accounts row.userAccountId).committed account stored
  calc account.tenantId
      = owners.accounts row.userAccountId := of.2
    _ = owners.invitations id := keeps.account
    _ = row.tenantId := keeps.tenant.symm

theorem tenancy_initial (initial : first.Initial) : Tenancy owners first := by
  refine ⟨sound_initial initial, ?_, ?_, ?_⟩
  · intro id
    rw [initial.accounts id]
    exact .clean (by rintro _ ⟨⟩)
  · intro id
    rw [initial.invitations id]
    exact .clean (by rintro _ ⟨⟩)
  · intro t
    rw [initial.sessions t]
    trivial

theorem State.part_initial (initial : first.Initial) (accounts : first.accountIds = [])
    (invitations : first.invitationIds = []) (mine : TenantId) :
    first.part owners mine = first := by
  apply State.eq_of_fields
  · funext id
    simp only [State.part, Table.restrict, initial.accounts id, ite_self]
  · funext id
    simp only [State.part, Table.restrict, initial.invitations id, ite_self]
  · simp only [State.part, accounts, List.filter_nil]
  · simp only [State.part, invitations, List.filter_nil]
  · funext t
    simp only [State.part, initial.sessions t, ite_self]

theorem part_projects (mine : TenantId) :
    Projects (Guarded (fun _ event => owners.allows event = true) (Steps State.step))
      (Steps State.step) (Tenancy owners) (State.part owners mine)
      fun event => owners.requests event.t == mine where
  seen state event after tenancy taken looks := by
    have step := step_part tenancy (beq_iff_eq.mp looks) taken.1
    rw [show state.step event = some after from taken.2] at step
    exact step
  unseen state event after tenancy taken looks :=
    turn_part_unseen tenancy (step_turn tenancy taken.1 taken.2) (beq_eq_false_iff_ne.mp looks)

/-- Over every interleaving an invitation is for an account of its own tenant, and a tenant's requests
run, answer, wait and write as they do without the other tenants, whatever these ask. -/
theorem accounts_are_isolated (initial : first.Initial) (accounts : first.accountIds = [])
    (invitations : first.invitationIds = [])
    (run : Run (Guarded (fun _ event => owners.allows event = true) (Steps State.step)) first trace
      last) (mine : TenantId) :
    InvitationsAgree last ∧
    Run (Steps State.step) first (trace.filter fun event => owners.requests event.t == mine)
      (last.part owners mine) ∧
    (∀ event, owners.allows event = true → owners.requests event.t = mine →
      (last.part owners mine).step event = (last.step event).map (State.part owners mine)) ∧
    ∀ others other,
      Run (Guarded (fun _ event => owners.allows event = true) (Steps State.step)) first others
        other →
      (others.filter fun event => owners.requests event.t == mine) =
        (trace.filter fun event => owners.requests event.t == mine) →
      other.part owners mine = last.part owners mine := by
  have start : Tenancy owners first := tenancy_initial initial
  have kept : ∀ state event after, Tenancy owners state →
      Guarded (fun _ event => owners.allows event = true) (Steps State.step) state event after →
      Tenancy owners after :=
    fun _ _ _ tenancy taken => tenancy_step tenancy taken.1 taken.2
  have tenancy := run.invariant (Tenancy owners) kept start
  have whole : first.part owners mine = first :=
    State.part_initial initial accounts invitations mine
  refine ⟨tenancy.agree, (part_projects mine).runs_alone kept start whole run,
    fun event asks own => step_part tenancy own asks, ?_⟩
  intro others other ran same
  exact (part_projects mine).determined kept start whole run ran same

end Runs

def neighbour : TenantId := ⟨"9qLrXw4HtB"⟩

def neighbourAccount : UserAccount :=
  { sampleAccount with id := ⟨"8Nb"⟩, tenantId := neighbour }

/-- The neighbour's are the requests from 10 on, and whatever `sampleInvitation` does not draw. -/
def sampleOwners : Owners where
  requests t := if t < 10 then sampleAccount.tenantId else neighbour
  accounts id := if id = sampleAccount.id then sampleAccount.tenantId else neighbour
  invitations id := if id = ⟨"6In"⟩ then sampleAccount.tenantId else neighbour
  codes codeHash := if codeHash = ⟨"code"⟩ then sampleAccount.tenantId else neighbour

/-- While an invitation is accepted, the neighbour invites an account of its own and asks for the one
that is not its own. -/
def sampleNeighbours : List Event :=
  sampleInvitation ++
    [⟨10, .insertAccount neighbourAccount⟩,
      ⟨2, .findByCodeHash ⟨⟨"6In"⟩, ⟨"code"⟩, sampleUser, 1⟩⟩,
      ⟨11, .probeAccount ⟨neighbour, neighbourAccount.id, none, 1⟩⟩, ⟨2, .getAccount⟩,
      ⟨11, .expirePendingIfDue⟩, ⟨12, .probeAccount ⟨neighbour, sampleAccount.id, none, 1⟩⟩,
      ⟨2, .linkIdentity⟩, ⟨11, .insertInvitation ⟨"7In"⟩ ⟨"other"⟩⟩, ⟨2, .markAccepted⟩,
      ⟨13, .findById ⟨neighbour, ⟨"6In"⟩, 1⟩⟩, ⟨11, .commit⟩, ⟨2, .getLinked⟩, ⟨2, .commit⟩]

theorem accounts_are_isolated_sample : ∃ last,
    Run (Guarded (fun _ event => sampleOwners.allows event = true) (Steps State.step)) sampleStart
      sampleNeighbours last ∧ InvitationsAgree last ∧
    Run (Steps State.step) sampleStart
      (sampleNeighbours.filter fun event => sampleOwners.requests event.t == neighbour)
      (last.part sampleOwners neighbour) := by
  have computed : (exec (checked (fun _ event => sampleOwners.allows event) State.step) sampleStart
      sampleNeighbours).isSome = true := by decide
  rcases Option.isSome_iff_exists.mp computed with ⟨last, reached⟩
  have run := Run.of_checked reached
  rcases accounts_are_isolated sampleStart_initial rfl rfl run neighbour with ⟨agree, alone, _⟩
  exact ⟨last, run, agree, alone⟩

end SwiyuIssuer.Linking
