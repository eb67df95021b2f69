import SwiyuIssuer.Linking.Effects

/-! What a request that has got somewhere says about the committed rows, and why no statement of
another request makes it wrong. -/

namespace SwiyuIssuer.Linking

open Library Persistence

inductive InvitationStep (id : InvitationId) : Option InvitationRow → Option InvitationRow → Prop
  | same (row : Option InvitationRow) : InvitationStep id row row
  | settled (row after : InvitationRow) (pending : row.state = .pending) (named : after.id = row.id)
      (owned : after.userAccountId = row.userAccountId) (ended : after.state ≠ .pending)
      (spent : after.codeHash = none) : InvitationStep id (some row) (some after)
  | inserted (row : InvitationRow) (named : row.id = id) (pending : row.state = .pending)
      (coded : row.codeHash.isSome = true) : InvitationStep id none (some row)

inductive AccountStep (id : UserAccountId) : Option UserAccount → Option UserAccount → Prop
  | same (row : Option UserAccount) : AccountStep id row row
  | inserted (row : UserAccount) (named : row.id = id) : AccountStep id none (some row)
  | stateSet (row : UserAccount) (state : UserAccountState) :
      AccountStep id (some row) (some { row with state := state })
  | linked (row : UserAccount) (user : AssertedUser) (linkedAt : DateTime)
      (unlinked : row.identity = none) :
      AccountStep id (some row) (some (UserAccounts.link user linkedAt row))

theorem InvitationStep.kept {id : InvitationId} {before after : Option InvitationRow}
    (step : InvitationStep id before after) {row : InvitationRow} (found : before = some row) :
    ∃ now, after = some now ∧ now.id = row.id ∧ now.userAccountId = row.userAccountId ∧
      (now.state = .pending → row.state = .pending) := by
  cases step with
  | same => exact ⟨row, found, rfl, rfl, fun still => still⟩
  | settled old now pending named owned ended spent =>
      cases found
      exact ⟨now, rfl, named, owned, fun still => absurd still ended⟩
  | inserted => cases found

theorem AccountStep.kept {id : UserAccountId} {before after : Option UserAccount}
    (step : AccountStep id before after) {row : UserAccount} (found : before = some row) :
    ∃ now, after = some now ∧ now.id = row.id ∧
      (∀ identity, row.identity = some identity → now.identity = some identity) := by
  cases step with
  | same => exact ⟨row, found, rfl, fun _ set_ => set_⟩
  | inserted => cases found
  | stateSet old state =>
      cases found
      exact ⟨_, rfl, rfl, fun _ set_ => set_⟩
  | linked old user linkedAt unlinked =>
      cases found
      refine ⟨_, rfl, rfl, ?_⟩
      intro identity set_
      rw [unlinked] at set_
      cases set_

/-- `linking`: an account gets its identity only together with the end of its invitation. -/
structure Database.Effect (db now : Database) : Prop where
  invitations : ∀ id, InvitationStep id (db.invitations id) (now.invitations id)
  accounts : ∀ id, AccountStep id (db.accounts id) (now.accounts id)
  linking : ∀ id before after, db.accounts id = some before → before.identity = none →
    now.accounts id = some after → after.identity ≠ none →
    ∀ invitationId old row, db.invitations invitationId = some old →
      now.invitations invitationId = some row → row.userAccountId = id → row.state ≠ .pending

/-- What holds from the read of the account to the commit. While the invitation is pending, nobody
has linked the account. -/
structure Reads (db : Database) (acceptance : Acceptance) : Prop where
  named : acceptance.invitation.id = acceptance.request.invitationId
  own : acceptance.account.id = acceptance.invitation.userAccountId
  invitation : ∃ row, db.invitations acceptance.invitation.id = some row ∧
    row.userAccountId = acceptance.invitation.userAccountId
  account : ∃ row, db.accounts acceptance.account.id = some row
  unlinked : ∀ row account, db.invitations acceptance.invitation.id = some row →
    row.state = .pending → db.accounts acceptance.account.id = some account →
    account.identity = none

def IsPending (db : Database) (id : InvitationId) : Prop :=
  ∃ row, db.invitations id = some row ∧ row.state = .pending

structure Settled (db : Database) (acceptance : Acceptance) : Prop where
  named : acceptance.invitation.id = acceptance.request.invitationId
  invitation : ∃ row, db.invitations acceptance.invitation.id = some row ∧
    row.state = .accepted ∧ row.userAccountId = acceptance.account.id
  account : ∃ row, db.accounts acceptance.account.id = some row ∧
    row.identity = some acceptance.request.user.identity

def SessionFacts (db : Database) : Session → Prop
  | .invitationFound request invitation => invitation.id = request.invitationId ∧
      ∃ row, db.invitations invitation.id = some row ∧
        row.userAccountId = invitation.userAccountId
  | .accountRead acceptance | .identityLinked acceptance => Reads db acceptance
  | .invitationAccepted acceptance =>
      Reads db acceptance ∧ IsPending db acceptance.invitation.id
  | .accountReread acceptance linked =>
      Reads db acceptance ∧ IsPending db acceptance.invitation.id ∧
        ∃ row, db.accounts acceptance.account.id = some row ∧
          linked = UserAccounts.link acceptance.request.user acceptance.request.now row
  | .accepted acceptance _ => Settled db acceptance
  | .dueExpired creation => ∀ id ∈ creation.expired, IsPending db id
  | .invitationInserted creation row => (∀ id ∈ creation.expired, IsPending db id) ∧
      db.invitations row.id = none ∧ row.state = .pending ∧ row.codeHash.isSome = true
  | .invitationRevoked request _ => IsPending db request.invitationId
  | _ => True

structure Facts (state : State) : Prop where
  sessions : ∀ t, SessionFacts state.database (state.sessions t)
  accountsKeyed : ∀ id row, state.database.accounts id = some row → row.id = id
  invitationsKeyed : ∀ id row, state.database.invitations id = some row → row.id = id
  hashed : ∀ id row, state.database.invitations id = some row →
    (row.codeHash.isSome = true ↔ row.state = .pending)
  acceptedBy : ∀ id row, state.database.invitations id = some row → row.state = .accepted →
    ∃ t acceptance linked, state.sessions t = .accepted acceptance linked ∧
      acceptance.invitation.id = id
  once : ∀ t u mine theirs linked other, state.sessions t = .accepted mine linked →
    state.sessions u = .accepted theirs other → mine.invitation.id = theirs.invitation.id → t = u

theorem facts_initial {state : State} (initial : state.Initial) : Facts state := by
  have accounts : ∀ id, state.database.accounts id = none := by
    intro id
    show (state.accounts id).committed = none
    rw [initial.accounts id, Cell.committed_clean]
  have invitations : ∀ id, state.database.invitations id = none := by
    intro id
    show (state.invitations id).committed = none
    rw [initial.invitations id, Cell.committed_clean]
  refine ⟨?_, ?_, ?_, ?_, ?_, ?_⟩
  · intro t
    rw [initial.sessions t]
    trivial
  · simp [accounts]
  · simp [invitations]
  · simp [invitations]
  · simp [invitations]
  · simp [initial.sessions]

inductive Writes (state : State) (t : TxId) (action : Action) (after : State) : Prop
  | nothing (same : after.database = state.database)
  | setState (request : StateRequest) (asked : action = .setState request)
      (unlocked : (state.accounts request.accountId).writer = none)
      (accounts : after.database.accounts =
        Function.update state.database.accounts request.accountId
          ((state.database.accounts request.accountId).map fun row =>
            { row with state := request.state }))
      (invitations : after.database.invitations = state.database.invitations)
      (owned : ∃ row, state.database.accounts request.accountId = some row ∧
        row.tenantId = request.tenantId)
  | insertAccount (account : UserAccount) (unlocked : (state.accounts account.id).writer = none)
      (absent : state.database.accounts account.id = none)
      (accounts : after.database.accounts =
        Function.update state.database.accounts account.id (some account))
      (invitations : after.database.invitations = state.database.invitations)
  | committed (next : Session) (commits : Commits (state.sessions t) next)
      (session : after.sessions t = next)
      (accounts : ∀ id, after.database.accounts id =
        ((state.sessions t).accountClaim id (state.database.accounts id)).getD
          (state.database.accounts id))
      (invitations : ∀ id, after.database.invitations id =
        ((state.sessions t).invitationClaim id (state.database.invitations id)).getD
          (state.database.invitations id))

section Move

variable {state after : State} {t : TxId} {action : Action}

theorem move_writes (sound : Sound state) (move : Move state t action after) :
    Writes state t action after := by
  cases move with
  | advance action next reads => exact .nothing rfl
  | refuse action next open_ refused =>
      apply Writes.nothing
      simp only [State.database, State.rollback, Table.snapshot_rollback]
  | link acceptance row at_ seen free clear =>
      apply Writes.nothing
      simp only [State.database, State.withAccounts, Table.snapshot_update]
  | settle action next id change row settles seen pending free =>
      apply Writes.nothing
      simp only [State.database, State.withInvitations, Table.snapshot_update]
  | expire request expiresAt due at_ flipped =>
      apply Writes.nothing
      simp only [State.database, State.withInvitations, Database.mk.injEq, true_and]
      funext id
      by_cases member : id ∈ due <;> simp [Table.snapshot, member]
  | insert creation id codeHash at_ unlocked absent code pending =>
      apply Writes.nothing
      simp only [State.database, State.withInvitations, Table.snapshot_update]
  | setState request at_ unlocked owned =>
      refine .setState request rfl unlocked (Table.snapshot_autocommit ..) rfl ?_
      rwa [sound.accounts.read_unclaimed (by rw [at_]; rfl)] at owned
  | insertAccount account at_ unlocked absent clear =>
      exact .insertAccount account unlocked absent (Table.snapshot_autocommit ..) rfl
  | commit next commits =>
      exact .committed next commits (Function.update_self ..)
        (fun id => sound.accounts.committed_commit id)
        (fun id => sound.invitations.committed_commit id)

/-- A committed invitation row changes only as the transaction that commits has it pending. -/
theorem invitationClaim_step {db : Database} {session next : Session} (commits : Commits session next)
    (facts : SessionFacts db session) (id : InvitationId) : InvitationStep id (db.invitations id)
      ((session.invitationClaim id (db.invitations id)).getD (db.invitations id)) := by
  have expires : ∀ row, db.invitations id = some row → row.state = .pending →
      InvitationStep id (db.invitations id)
        ((db.invitations id).map UserAccountInvitations.asExpired) := by
    intro row found pending
    rw [found]
    exact .settled row _ pending rfl rfl (by simp [UserAccountInvitations.asExpired]) rfl
  cases commits with
  | accept acceptance linked =>
      rcases facts with ⟨_, ⟨row, found, pending⟩, _⟩
      by_cases own : id = acceptance.invitation.id
      · subst own
        simp only [Session.invitationClaim, if_true, Option.getD_some, found, Option.map_some]
        exact .settled row _ pending rfl rfl (by simp [UserAccountInvitations.asAccepted]) rfl
      · simp only [Session.invitationClaim, if_neg own, Option.getD_none]
        exact .same _
  | create creation row =>
      rcases facts with ⟨due, absent, pending, coded⟩
      by_cases own : id = row.id
      · subst own
        simp only [Session.invitationClaim, if_true, Option.getD_some, absent]
        exact .inserted row rfl pending coded
      · by_cases member : id ∈ creation.expired
        · rcases due id member with ⟨old, found, was⟩
          simp only [Session.invitationClaim, if_neg own, if_pos member, Option.getD_some]
          exact expires old found was
        · simp only [Session.invitationClaim, if_neg own, if_neg member, Option.getD_none]
          exact .same _
  | revoke request invitation revoked =>
      rcases facts with ⟨row, found, pending⟩
      by_cases own : id = request.invitationId
      · subst own
        simp only [Session.invitationClaim, if_true, Option.getD_some, found, Option.map_some]
        exact .settled row _ pending rfl rfl (by simp [UserAccountInvitations.asRevoked]) rfl
      · simp only [Session.invitationClaim, if_neg own, Option.getD_none]
        exact .same _

theorem accountClaim_step {db : Database} {session next : Session} (commits : Commits session next)
    (facts : SessionFacts db session) (id : UserAccountId) : AccountStep id (db.accounts id)
      ((session.accountClaim id (db.accounts id)).getD (db.accounts id)) := by
  cases commits with
  | accept acceptance linked =>
      rcases facts with ⟨reads, ⟨row, found, pending⟩, _⟩
      by_cases own : id = acceptance.account.id
      · subst own
        rcases reads.account with ⟨account, stored⟩
        simp only [Session.accountClaim, if_true, Option.getD_some, stored, Option.map_some]
        exact .linked account _ _ (reads.unlinked row account found pending stored)
      · simp only [Session.accountClaim, if_neg own, Option.getD_none]
        exact .same _
  | create creation row => exact .same _
  | revoke request invitation revoked => exact .same _

/-- Two pending invitations of one account are one. -/
theorem pending_unique (sound : Sound state) {one two : InvitationId} {first second : InvitationRow}
    (here : state.database.invitations one = some first) (firstPending : first.state = .pending)
    (there : state.database.invitations two = some second) (secondPending : second.state = .pending)
    (same : first.userAccountId = second.userAccountId) : one = two := by
  apply sound.pendings.committed one two first.userAccountId
  · show UserAccountInvitations.pendingKey (state.database.invitations one) = _
    rw [here]
    exact if_pos firstPending
  · show UserAccountInvitations.pendingKey (state.database.invitations two) = _
    rw [there, same]
    exact if_pos secondPending

theorem Database.Effect.quiet {db now : Database} (invitations : now.invitations = db.invitations)
    (unlinked : ∀ id before row, db.accounts id = some before → now.accounts id = some row →
      row.identity = before.identity)
    (accounts : ∀ id, AccountStep id (db.accounts id) (now.accounts id)) : db.Effect now := by
  refine ⟨fun id => invitations ▸ .same _, accounts, ?_⟩
  intro id before row was none_ is linked
  exact absurd ((unlinked id before row was is).trans none_) linked

theorem setState_effect {db now : Database} {id : UserAccountId} {change : UserAccountState}
    (accounts : now.accounts = Function.update db.accounts id
      ((db.accounts id).map fun row => { row with state := change }))
    (invitations : now.invitations = db.invitations) : db.Effect now := by
  apply Database.Effect.quiet invitations
  · intro other before row was is
    rw [accounts] at is
    rcases update_some is with ⟨rfl, written⟩ | ⟨_, kept⟩
    · rw [was] at written
      cases written
      rfl
    · rw [was] at kept
      cases kept
      rfl
  · intro other
    rw [accounts]
    by_cases here : other = id
    · subst here
      rw [Function.update_self]
      cases db.accounts other with
      | none => exact .same _
      | some row => exact .stateSet row change
    · rw [Function.update_of_ne here]
      exact .same _

theorem insertAccount_effect {db now : Database} {account : UserAccount}
    (absent : db.accounts account.id = none)
    (accounts : now.accounts = Function.update db.accounts account.id (some account))
    (invitations : now.invitations = db.invitations) : db.Effect now := by
  apply Database.Effect.quiet invitations
  · intro other before row was is
    rw [accounts] at is
    rcases update_some is with ⟨rfl, _⟩ | ⟨_, kept⟩
    · rw [absent] at was
      cases was
    · rw [was] at kept
      cases kept
      rfl
  · intro other
    rw [accounts]
    by_cases here : other = account.id
    · subst here
      rw [Function.update_self, absent]
      exact .inserted account rfl
    · rw [Function.update_of_ne here]
      exact .same _

/-- A commit that links an account ends its invitation. There is one pending invitation of an
account, so no other of its invitations is pending then. -/
theorem commit_linking (sound : Sound state) (facts : Facts state) {next : Session}
    (commits : Commits (state.sessions t) next)
    (accounts : ∀ id, after.database.accounts id =
      ((state.sessions t).accountClaim id (state.database.accounts id)).getD
        (state.database.accounts id))
    (invitations : ∀ id, after.database.invitations id =
      ((state.sessions t).invitationClaim id (state.database.invitations id)).getD
        (state.database.invitations id))
    {id : UserAccountId} {before row : UserAccount}
    (was : state.database.accounts id = some before) (unlinked : before.identity = none)
    (is : after.database.accounts id = some row) (linked : row.identity ≠ none)
    {invitationId : InvitationId} {old invitation : InvitationRow}
    (there : state.database.invitations invitationId = some old)
    (now : after.database.invitations invitationId = some invitation)
    (owner : invitation.userAccountId = id) : invitation.state ≠ .pending := by
  intro pending
  have mine := facts.sessions t
  have step := invitationClaim_step commits mine invitationId
  rw [← invitations invitationId, there, now] at step
  rcases step.kept rfl with ⟨_, same, _, ownedThen, wasPending⟩
  cases same
  have oldPending := wasPending pending
  rw [accounts id, was] at is
  rw [invitations invitationId, there] at now
  generalize at_ : state.sessions t = session_ at commits is now mine
  cases commits with
  | accept acceptance found =>
      rcases mine with ⟨reads, ⟨held, stored, heldPending⟩, _⟩
      by_cases own : id = acceptance.account.id
      · rcases reads.invitation with ⟨again, read, owned⟩
        rw [stored] at read
        cases read
        have same : held.userAccountId = old.userAccountId := by
          rw [owned, ← reads.own, ← own, ← owner, ownedThen]
        have here := pending_unique sound stored heldPending there oldPending same
        subst here
        simp only [Session.invitationClaim, if_true, Option.getD_some, Option.map_some,
          Option.some.injEq] at now
        rw [← now] at pending
        cases pending
      · simp only [Session.accountClaim, if_neg own, Option.getD_none, Option.some.injEq] at is
        rw [← is] at linked
        exact linked unlinked
  | create | revoke =>
      simp only [Session.accountClaim, Option.getD_none, Option.some.injEq] at is
      rw [← is] at linked
      exact linked unlinked

theorem effect_move (sound : Sound state) (facts : Facts state)
    (move : Move state t action after) : state.database.Effect after.database := by
  cases move_writes sound move with
  | nothing same =>
      rw [same]
      refine Database.Effect.quiet rfl ?_ fun id => .same _
      intro id before row was is
      rw [was] at is
      cases is
      rfl
  | setState request asked unlocked accounts invitations => exact setState_effect accounts invitations
  | insertAccount account unlocked absent accounts invitations =>
      exact insertAccount_effect absent accounts invitations
  | committed next commits session accounts invitations =>
      refine ⟨?_, ?_, ?_⟩
      · intro id
        rw [invitations id]
        exact invitationClaim_step commits (facts.sessions t) id
      · intro id
        rw [accounts id]
        exact accountClaim_step commits (facts.sessions t) id
      · intro id before row was unlinked is linked invitationId old invitation there now owner
        exact commit_linking sound facts commits accounts invitations was unlinked is linked there
          now owner

end Move

end SwiyuIssuer.Linking
