import SwiyuIssuer.Linking.Store

/-! Everything one statement can do. -/

namespace SwiyuIssuer.Linking

open Library Persistence

/-- The statements that only read. -/
inductive Advance (state : State) (t : TxId) : Action → Session → Session → Prop
  | invitation (request : AcceptRequest) (id : InvitationId) (row : InvitationRow)
      (seen : (state.invitations id).read t = some row)
      (named : row.id = request.invitationId) (pending : row.state = .pending) :
      Advance state t (.findByCodeHash request) .idle (.invitationFound request row.toInvitation)
  | account (request : AcceptRequest) (invitation : Invitation) (account : UserAccount)
      (seen : (state.accounts invitation.userAccountId).read t = some account)
      (unlinked : account.identity = none) :
      Advance state t .getAccount (.invitationFound request invitation)
        (.accountRead ⟨request, invitation, account⟩)
  | reread (acceptance : Acceptance) (linked : UserAccount)
      (seen : (state.accounts acceptance.account.id).read t = some linked) :
      Advance state t .getLinked (.invitationAccepted acceptance)
        (.accountReread acceptance linked)
  | probe (request : CreateRequest) (expiresAt : DateTime) :
      Advance state t (.probeAccount request) .idle (.accountProbed request expiresAt)
  | load (request : RevokeRequest) (invitation : Invitation) :
      Advance state t (.findById request) .idle (.invitationLoaded request invitation)

/-- How a request ends without a commit in its last statement. -/
inductive Refusal : Session → Prop
  | accept (error : ApiError) : Refusal (.acceptRefused error)
  | create (error : ApiError) : Refusal (.createRefused error)
  | revoke (error : ApiError) : Refusal (.revokeAnswered (.error error))
  | state (response : Except ApiError UserAccount) : Refusal (.stateAnswered response)
  | account (error : ApiError) : Refusal (.accountCreated (.error error))

/-- The two statements that end a pending invitation. -/
inductive Settles : Session → Session → InvitationId → (InvitationRow → InvitationRow) → Prop
  | accept (acceptance : Acceptance) :
      Settles (.identityLinked acceptance) (.invitationAccepted acceptance)
        acceptance.invitation.id (UserAccountInvitations.asAccepted acceptance.request.now)
  | revoke (request : RevokeRequest) (invitation : Invitation) :
      Settles (.invitationLoaded request invitation) (.invitationRevoked request invitation)
        request.invitationId (UserAccountInvitations.asRevoked request.now)

inductive Commits : Session → Session → Prop
  | accept (acceptance : Acceptance) (linked : UserAccount) :
      Commits (.accountReread acceptance linked) (.accepted acceptance linked)
  | create (creation : Creation) (row : InvitationRow) :
      Commits (.invitationInserted creation row) (.created row)
  | revoke (request : RevokeRequest) (invitation revoked : Invitation) :
      Commits (.invitationRevoked request invitation) (.revokeAnswered (.ok revoked))

inductive Move (state : State) (t : TxId) : Action → State → Prop
  | advance (action : Action) (next : Session)
      (reads : Advance state t action (state.sessions t) next) :
      Move state t action (state.goto t next)
  | refuse (action : Action) (next : Session) (open_ : (state.sessions t).isAccepted = false)
      (refused : Refusal next) : Move state t action (state.rollback t next)
  | link (acceptance : Acceptance) (row : UserAccount)
      (at_ : state.sessions t = .accountRead acceptance)
      (seen : (state.accounts acceptance.account.id).read t = some row)
      (free : (state.accounts acceptance.account.id).free t = true)
      (clear : UniqueIndex.probe UserAccounts.identityKey state.accounts state.accountIds t
        acceptance.account.id (some (row.tenantId, acceptance.request.user.identity)) = .clear) :
      Move state t .linkIdentity (state.withAccounts
        (state.accounts.update t acceptance.account.id
          (Option.map (UserAccounts.link acceptance.request.user acceptance.request.now)))
        state.accountIds t (.identityLinked acceptance))
  | settle (action : Action) (next : Session) (id : InvitationId)
      (change : InvitationRow → InvitationRow) (row : InvitationRow)
      (settles : Settles (state.sessions t) next id change)
      (seen : (state.invitations id).read t = some row) (pending : row.state = .pending)
      (free : (state.invitations id).free t = true) :
      Move state t action (state.withInvitations
        (state.invitations.update t id (Option.map change)) state.invitationIds t next)
  | expire (request : CreateRequest) (expiresAt : DateTime) (due : List InvitationId)
      (at_ : state.sessions t = .accountProbed request expiresAt)
      (flipped : ∀ id ∈ due,
        UserAccountInvitations.isDue request.accountId request.now
          ((state.invitations id).read t) = true ∧ (state.invitations id).free t = true) :
      Move state t .expirePendingIfDue (state.withInvitations
        (fun id =>
          if id ∈ due then
            (state.invitations id).update t (Option.map UserAccountInvitations.asExpired)
          else state.invitations id)
        state.invitationIds t (.dueExpired ⟨request, expiresAt, due⟩))
  | insert (creation : Creation) (id : InvitationId) (codeHash : InvitationCodeHash)
      (at_ : state.sessions t = .dueExpired creation)
      (unlocked : (state.invitations id).writer = none)
      (absent : (state.invitations id).committed = none)
      (code : UniqueIndex.probe UserAccountInvitations.codeKey state.invitations
        state.invitationIds t id (some codeHash) = .clear)
      (pending : UniqueIndex.probe UserAccountInvitations.pendingKey state.invitations
        state.invitationIds t id (some creation.request.accountId) = .clear) :
      Move state t (.insertInvitation id codeHash) (state.withInvitations
        (state.invitations.update t id fun _ => some (newInvitation creation id codeHash))
        (id :: state.invitationIds) t
        (.invitationInserted creation (newInvitation creation id codeHash)))
  | setState (request : StateRequest) (at_ : state.sessions t = .idle)
      (unlocked : (state.accounts request.accountId).writer = none)
      (owned : ∃ row, (state.accounts request.accountId).read t = some row ∧
        row.tenantId = request.tenantId) :
      Move state t (.setState request) (state.withAccounts
        (Function.update state.accounts request.accountId
          ((state.accounts request.accountId).autocommit
            (Option.map fun row => { row with state := request.state })))
        state.accountIds t (.stateSet request))
  | insertAccount (account : UserAccount) (at_ : state.sessions t = .idle)
      (unlocked : (state.accounts account.id).writer = none)
      (absent : (state.accounts account.id).committed = none)
      (clear : UniqueIndex.probe UserAccounts.identityKey state.accounts state.accountIds t
        account.id (UserAccounts.identityKey (some account)) = .clear) :
      Move state t (.insertAccount account) (state.withAccounts
        (Function.update state.accounts account.id
          ((state.accounts account.id).autocommit fun _ => some account))
        (account.id :: state.accountIds) t (.accountCreated (.ok account.id)))
  | commit (next : Session) (commits : Commits (state.sessions t) next) :
      Move state t .commit (state.commit t next)

section Step

variable {state after : State} {t : TxId}

theorem findByCodeHash_move {request : AcceptRequest}
    (taken : state.findByCodeHashStep t request = some after) :
    Move state t (.findByCodeHash request) after := by
  unfold State.findByCodeHashStep at taken
  split at taken
  · next at_ =>
      split at taken
      · cases taken
        exact .refuse _ _ (by rw [at_]; rfl) (.accept _)
      · next invitation found =>
          rcases Option.filter_eq_some_iff.mp found with ⟨found, named⟩
          rcases UserAccountInvitations.findByCodeHash_some found with ⟨id, row, seen, rfl⟩
          split at taken
          · cases taken
            exact .refuse _ _ (by rw [at_]; rfl) (.accept _)
          · next observed =>
              cases taken
              refine .advance _ _ ?_
              rw [at_]
              exact .invitation request id row seen (beq_iff_eq.mp named)
                (Invitation.observedState_pending (not_not.mp observed))
  · cases taken

theorem getAccount_move (taken : state.getAccountStep t = some after) :
    Move state t .getAccount after := by
  unfold State.getAccountStep at taken
  split at taken
  · next request invitation at_ =>
      split at taken
      · cases taken
        exact .refuse _ _ (by rw [at_]; rfl) (.accept _)
      · next account found =>
          split at taken
          · cases taken
            exact .refuse _ _ (by rw [at_]; rfl) (.accept _)
          · next unlinked =>
              cases taken
              refine .advance _ _ ?_
              rw [at_]
              exact .account request invitation account (UserAccounts.get_some found).1
                (Option.not_isSome_iff_eq_none.mp unlinked)
  · cases taken

theorem linkIdentity_move (taken : state.linkIdentityStep t = some after) :
    Move state t .linkIdentity after := by
  unfold State.linkIdentityStep at taken
  split at taken
  · next acceptance at_ =>
      rcases State.written_cases taken with ⟨error, _, rfl⟩ | ⟨accounts, linked, rfl⟩
      · exact .refuse _ _ (by rw [at_]; rfl) (.accept _)
      · rcases UserAccounts.linkIdentity_ok linked with ⟨row, seen, free, clear, rfl⟩
        exact .link acceptance row at_ seen free clear
  · cases taken

theorem markAccepted_move (taken : state.markAcceptedStep t = some after) :
    Move state t .markAccepted after := by
  unfold State.markAcceptedStep at taken
  split at taken
  · next acceptance at_ =>
      rcases State.written_cases taken with ⟨error, _, rfl⟩ | ⟨invitations, marked, rfl⟩
      · exact .refuse _ _ (by rw [at_]; rfl) (.accept _)
      · rcases UserAccountInvitations.settle_ok marked with ⟨row, seen, pending, free, rfl⟩
        refine .settle _ _ _ _ row ?_ seen pending free
        rw [at_]
        exact .accept acceptance
  · cases taken

theorem getLinked_move (taken : state.getLinkedStep t = some after) :
    Move state t .getLinked after := by
  unfold State.getLinkedStep at taken
  split at taken
  · next acceptance at_ =>
      split at taken
      · cases taken
        exact .refuse _ _ (by rw [at_]; rfl) (.accept _)
      · next linked found =>
          cases taken
          refine .advance _ _ ?_
          rw [at_]
          exact .reread acceptance linked (UserAccounts.get_some found).1
  · cases taken

theorem probeAccount_move {request : CreateRequest}
    (taken : state.probeAccountStep t request = some after) :
    Move state t (.probeAccount request) after := by
  unfold State.probeAccountStep at taken
  split at taken
  · next at_ =>
      split at taken
      · cases taken
        exact .refuse _ _ (by rw [at_]; rfl) (.create _)
      · split at taken
        · cases taken
          exact .refuse _ _ (by rw [at_]; rfl) (.create _)
        · split at taken
          · cases taken
            exact .refuse _ _ (by rw [at_]; rfl) (.create _)
          · cases taken
            refine .advance _ _ ?_
            rw [at_]
            exact .probe request _
  · cases taken

theorem expirePendingIfDue_move (taken : state.expirePendingIfDueStep t = some after) :
    Move state t .expirePendingIfDue after := by
  unfold State.expirePendingIfDueStep at taken
  split at taken
  · next request expiresAt at_ =>
      split at taken
      · cases taken
      · next invitations due flipped =>
          cases taken
          rcases UserAccountInvitations.expirePendingIfDue_some flipped with ⟨each, rfl⟩
          exact .expire request expiresAt due at_ each
  · cases taken

theorem insertInvitation_move {id : InvitationId} {codeHash : InvitationCodeHash}
    (taken : state.insertInvitationStep t id codeHash = some after) :
    Move state t (.insertInvitation id codeHash) after := by
  unfold State.insertInvitationStep at taken
  split at taken
  · next creation at_ =>
      rcases State.written_cases taken with ⟨error, _, rfl⟩ | ⟨invitations, inserted, rfl⟩
      · exact .refuse _ _ (by rw [at_]; rfl) (.create _)
      · rcases UserAccountInvitations.insert_ok inserted with ⟨unlocked, absent, code, pending, rfl⟩
        exact .insert creation id codeHash at_ unlocked absent code pending
  · cases taken

theorem findById_move {request : RevokeRequest}
    (taken : state.findByIdStep t request = some after) :
    Move state t (.findById request) after := by
  unfold State.findByIdStep at taken
  split at taken
  · next at_ =>
      split at taken
      · cases taken
        exact .refuse _ _ (by rw [at_]; rfl) (.revoke _)
      · next invitation found =>
          split at taken
          · cases taken
            exact .refuse _ _ (by rw [at_]; rfl) (.revoke _)
          · cases taken
            refine .advance _ _ ?_
            rw [at_]
            exact .load request invitation
  · cases taken

theorem markRevoked_move (taken : state.markRevokedStep t = some after) :
    Move state t .markRevoked after := by
  unfold State.markRevokedStep at taken
  split at taken
  · next request invitation at_ =>
      rcases State.written_cases taken with ⟨error, _, rfl⟩ | ⟨invitations, marked, rfl⟩
      · exact .refuse _ _ (by rw [at_]; rfl) (.revoke _)
      · rcases UserAccountInvitations.settle_ok marked with ⟨row, seen, pending, free, rfl⟩
        refine .settle _ _ _ _ row ?_ seen pending free
        rw [at_]
        exact .revoke request invitation
  · cases taken

theorem setState_move {request : StateRequest} (taken : state.setStateStep t request = some after) :
    Move state t (.setState request) after := by
  unfold State.setStateStep at taken
  split at taken
  · next at_ =>
      rcases State.written_cases taken with ⟨error, _, rfl⟩ | ⟨accounts, written, rfl⟩
      · exact .refuse _ _ (by rw [at_]; rfl) (.state _)
      · rcases UserAccounts.setState_ok written with ⟨unlocked, rfl⟩
        exact .setState request at_ unlocked (UserAccounts.setState_owned written)
  · cases taken

theorem getState_move (taken : state.getStateStep t = some after) :
    Move state t .getState after := by
  unfold State.getStateStep at taken
  split at taken
  · next request at_ =>
      split at taken
      · cases taken
        exact .refuse _ _ (by rw [at_]; rfl) (.state _)
      · cases taken
        exact .refuse _ _ (by rw [at_]; rfl) (.state _)
  · cases taken

theorem insertAccount_move {account : UserAccount}
    (taken : state.insertAccountStep t account = some after) :
    Move state t (.insertAccount account) after := by
  unfold State.insertAccountStep at taken
  split at taken
  · next at_ =>
      rcases State.written_cases taken with ⟨error, _, rfl⟩ | ⟨accounts, inserted, rfl⟩
      · exact .refuse _ _ (by rw [at_]; rfl) (.account _)
      · rcases UserAccounts.insert_ok inserted with ⟨unlocked, absent, clear, rfl⟩
        exact .insertAccount account at_ unlocked absent clear
  · cases taken

theorem commit_move (taken : state.commitStep t = some after) : Move state t .commit after := by
  unfold State.commitStep at taken
  split at taken
  · next acceptance linked at_ =>
      cases taken
      exact .commit _ (at_ ▸ .accept acceptance linked)
  · next creation row at_ =>
      cases taken
      exact .commit _ (at_ ▸ .create creation row)
  · next request invitation at_ =>
      cases taken
      exact .commit _ (at_ ▸ .revoke request invitation _)
  · cases taken

theorem fail_move {details : String} (taken : state.failStep t details = some after) :
    Move state t (.fail details) after := by
  unfold State.failStep at taken
  cases at_ : state.sessions t with
  | invitationFound | accountRead | identityLinked | invitationAccepted | accountReread =>
      simp only [at_] at taken
      cases taken
      exact .refuse _ _ (by rw [at_]; rfl) (.accept _)
  | accountProbed | dueExpired | invitationInserted =>
      simp only [at_] at taken
      cases taken
      exact .refuse _ _ (by rw [at_]; rfl) (.create _)
  | invitationLoaded | invitationRevoked =>
      simp only [at_] at taken
      cases taken
      exact .refuse _ _ (by rw [at_]; rfl) (.revoke _)
  | stateSet =>
      simp only [at_] at taken
      cases taken
      exact .refuse _ _ (by rw [at_]; rfl) (.state _)
  | idle | accepted | acceptRefused | created | createRefused | revokeAnswered | stateAnswered
  | accountCreated =>
      simp only [at_] at taken
      cases taken

theorem step_move {event : Event} (taken : state.step event = some after) :
    Move state event.t event.action after := by
  rcases event with ⟨t, action⟩
  cases action with
  | findByCodeHash request => exact findByCodeHash_move taken
  | getAccount => exact getAccount_move taken
  | linkIdentity => exact linkIdentity_move taken
  | markAccepted => exact markAccepted_move taken
  | getLinked => exact getLinked_move taken
  | probeAccount request => exact probeAccount_move taken
  | expirePendingIfDue => exact expirePendingIfDue_move taken
  | insertInvitation id codeHash => exact insertInvitation_move taken
  | findById request => exact findById_move taken
  | markRevoked => exact markRevoked_move taken
  | setState request => exact setState_move taken
  | getState => exact getState_move taken
  | insertAccount account => exact insertAccount_move taken
  | commit => exact commit_move taken
  | fail details => exact fail_move taken

end Step

end SwiyuIssuer.Linking
