import SwiyuIssuer.Linking.Sessions

/-! The tables of accounts and invitations, and one statement of a request. -/

namespace SwiyuIssuer.Linking

open Library Persistence

/-- `accountIds` and `invitationIds` are the rows of the tables, those of open transactions
included. -/
structure State where
  accounts : Table TxId UserAccountId (Option UserAccount)
  invitations : Table TxId InvitationId (Option InvitationRow)
  accountIds : List UserAccountId
  invitationIds : List InvitationId
  sessions : TxId → Session

/-- What a new transaction reads. -/
structure Database where
  accounts : UserAccountId → Option UserAccount
  invitations : InvitationId → Option InvitationRow

/-- The next statement of a request. Generated ids and codes come with the action; `fail` is any
statement that errors, or a dropped request. -/
inductive Action
  | findByCodeHash (request : AcceptRequest)
  | getAccount
  | linkIdentity
  | markAccepted
  | getLinked
  | probeAccount (request : CreateRequest)
  | expirePendingIfDue
  | insertInvitation (id : InvitationId) (codeHash : InvitationCodeHash)
  | findById (request : RevokeRequest)
  | markRevoked
  | setState (request : StateRequest)
  | getState
  | insertAccount (account : UserAccount)
  | commit
  | fail (details : String)

def alreadyLinked : ApiError := .conflict "user account is already linked to an identity"

def newInvitation (creation : Creation) (id : InvitationId) (codeHash : InvitationCodeHash) :
    InvitationRow where
  id := id
  userAccountId := creation.request.accountId
  tenantId := creation.request.tenantId
  state := .pending
  expiresAt := creation.expiresAt
  createdAt := creation.request.now
  acceptedAt := none
  revokedAt := none
  codeHash := some codeHash

namespace State

def database (state : State) : Database where
  accounts := state.accounts.snapshot
  invitations := state.invitations.snapshot

def goto (state : State) (t : TxId) (session : Session) : State :=
  { state with sessions := Function.update state.sessions t session }

/-- Dropping the transaction, if there is one. -/
def rollback (state : State) (t : TxId) (session : Session) : State :=
  { state with
    accounts := state.accounts.rollback t
    invitations := state.invitations.rollback t
    sessions := Function.update state.sessions t session }

def commit (state : State) (t : TxId) (session : Session) : State :=
  { state with
    accounts := state.accounts.commit t
    invitations := state.invitations.commit t
    sessions := Function.update state.sessions t session }

def withAccounts (state : State) (accounts : Table TxId UserAccountId (Option UserAccount))
    (ids : List UserAccountId) (t : TxId) (session : Session) : State :=
  { state with
    accounts := accounts
    accountIds := ids
    sessions := Function.update state.sessions t session }

def withInvitations (state : State)
    (invitations : Table TxId InvitationId (Option InvitationRow)) (ids : List InvitationId)
    (t : TxId) (session : Session) : State :=
  { state with
    invitations := invitations
    invitationIds := ids
    sessions := Function.update state.sessions t session }

/-- A write waits for the lock of its row; its error leaves the handler by `?`. -/
def written {Rows : Type} (state : State) (t : TxId)
    (answer : Option (Except PersistenceError Rows)) (refused : PersistenceError → Session)
    (next : Rows → State) : Option State :=
  match answer with
  | none => none
  | some (.error error) => some (state.rollback t (refused error))
  | some (.ok rows) => some (next rows)

theorem written_cases {Rows : Type} {state after : State} {t : TxId}
    {answer : Option (Except PersistenceError Rows)} {refused : PersistenceError → Session}
    {next : Rows → State} (taken : state.written t answer refused next = some after) :
    (∃ error, answer = some (.error error) ∧ after = state.rollback t (refused error)) ∨
      ∃ rows, answer = some (.ok rows) ∧ after = next rows := by
  unfold written at taken
  split at taken
  · cases taken
  · next error =>
      cases taken
      exact .inl ⟨error, rfl, rfl⟩
  · next rows =>
      cases taken
      exact .inr ⟨rows, rfl, rfl⟩

variable (state : State) (t : TxId)

def findByCodeHashStep (request : AcceptRequest) : Option State :=
  match state.sessions t with
  | .idle =>
      match (UserAccountInvitations.findByCodeHash state.invitations state.invitationIds t
          request.codeHash).filter fun invitation => invitation.id == request.invitationId with
      | none => some (state.rollback t (.acceptRefused .notFound))
      | some invitation =>
          if invitation.observedState request.now ≠ .pending then
            some (state.rollback t
              (.acceptRefused (.conflict "invitation is no longer pending")))
          else some (state.goto t (.invitationFound request invitation))
  | _ => none

def getAccountStep : Option State :=
  match state.sessions t with
  | .invitationFound request invitation =>
      match UserAccounts.get state.accounts t invitation.tenantId invitation.userAccountId with
      | none => some (state.rollback t (.acceptRefused .notFound))
      | some account =>
          if account.identity.isSome then
            some (state.rollback t (.acceptRefused alreadyLinked))
          else some (state.goto t (.accountRead ⟨request, invitation, account⟩))
  | _ => none

def linkIdentityStep : Option State :=
  match state.sessions t with
  | .accountRead acceptance =>
      state.written t
        (UserAccounts.linkIdentity state.accounts state.accountIds t acceptance.account.id
          acceptance.request.user acceptance.request.now)
        (fun error => .acceptRefused (.ofPersistence error))
        fun accounts => state.withAccounts accounts state.accountIds t (.identityLinked acceptance)
  | _ => none

def markAcceptedStep : Option State :=
  match state.sessions t with
  | .identityLinked acceptance =>
      state.written t
        (UserAccountInvitations.markAccepted state.invitations t acceptance.invitation.id
          acceptance.request.now)
        (fun error => .acceptRefused (.ofPersistence error))
        fun invitations =>
          state.withInvitations invitations state.invitationIds t (.invitationAccepted acceptance)
  | _ => none

def getLinkedStep : Option State :=
  match state.sessions t with
  | .invitationAccepted acceptance =>
      match UserAccounts.get state.accounts t acceptance.invitation.tenantId
          acceptance.account.id with
      | none => some (state.rollback t (.acceptRefused .notFound))
      | some linked => some (state.goto t (.accountReread acceptance linked))
  | _ => none

def probeAccountStep (request : CreateRequest) : Option State :=
  match state.sessions t with
  | .idle =>
      match resolveInvitationExpiresIn request.expiresInSeconds with
      | .error error => some (state.rollback t (.createRefused error))
      | .ok expiresIn =>
          match UserAccounts.get state.accounts t request.tenantId request.accountId with
          | none => some (state.rollback t (.createRefused .notFound))
          | some account =>
              if account.identity.isSome then
                some (state.rollback t (.createRefused alreadyLinked))
              else some (state.goto t (.accountProbed request (request.now + expiresIn)))
  | _ => none

def expirePendingIfDueStep : Option State :=
  match state.sessions t with
  | .accountProbed request expiresAt =>
      match UserAccountInvitations.expirePendingIfDue state.invitations state.invitationIds t
          request.accountId request.now with
      | none => none
      | some (invitations, due) =>
          some (state.withInvitations invitations state.invitationIds t
            (.dueExpired ⟨request, expiresAt, due⟩))
  | _ => none

def insertInvitationStep (id : InvitationId) (codeHash : InvitationCodeHash) : Option State :=
  match state.sessions t with
  | .dueExpired creation =>
      state.written t
        (UserAccountInvitations.insert state.invitations state.invitationIds t
          (newInvitation creation id codeHash))
        (fun error => .createRefused (.ofPersistence error))
        fun invitations => state.withInvitations invitations (id :: state.invitationIds) t
          (.invitationInserted creation (newInvitation creation id codeHash))
  | _ => none

def findByIdStep (request : RevokeRequest) : Option State :=
  match state.sessions t with
  | .idle =>
      match (UserAccountInvitations.findById state.invitations t request.invitationId).filter
          fun invitation => invitation.tenantId == request.tenantId with
      | none => some (state.rollback t (.revokeAnswered (.error .notFound)))
      | some invitation =>
          if invitation.observedState request.now ≠ .pending then
            some (state.rollback t (.revokeAnswered (.error (.conflict ("invitation is " ++
              (invitation.observedState request.now).asStr ++ " and cannot be revoked")))))
          else some (state.goto t (.invitationLoaded request invitation))
  | _ => none

def markRevokedStep : Option State :=
  match state.sessions t with
  | .invitationLoaded request invitation =>
      state.written t
        (UserAccountInvitations.markRevoked state.invitations t request.invitationId request.now)
        (fun error => .revokeAnswered (.error (.ofPersistence error)))
        fun invitations => state.withInvitations invitations state.invitationIds t
          (.invitationRevoked request invitation)
  | _ => none

/-- `set_account_state` runs its statements outside any transaction. -/
def setStateStep (request : StateRequest) : Option State :=
  match state.sessions t with
  | .idle =>
      state.written t
        (UserAccounts.setState state.accounts t request.tenantId request.accountId request.state)
        (fun error => .stateAnswered (.error (.ofPersistence error)))
        fun accounts => state.withAccounts accounts state.accountIds t (.stateSet request)
  | _ => none

def getStateStep : Option State :=
  match state.sessions t with
  | .stateSet request =>
      match UserAccounts.get state.accounts t request.tenantId request.accountId with
      | none => some (state.rollback t (.stateAnswered (.error .notFound)))
      | some account => some (state.rollback t (.stateAnswered (.ok account)))
  | _ => none

/-- The management API inserts an unlinked account, the operator tool a linked one. -/
def insertAccountStep (account : UserAccount) : Option State :=
  match state.sessions t with
  | .idle =>
      state.written t (UserAccounts.insert state.accounts state.accountIds t account)
        (fun error => .accountCreated (.error (.ofPersistence error)))
        fun accounts => state.withAccounts accounts (account.id :: state.accountIds) t
          (.accountCreated (.ok account.id))
  | _ => none

/-- A commit may take effect and its answer still be lost; the session then keeps what the handler
would have answered. -/
def commitStep : Option State :=
  match state.sessions t with
  | .accountReread acceptance linked => some (state.commit t (.accepted acceptance linked))
  | .invitationInserted _ row => some (state.commit t (.created row))
  | .invitationRevoked request invitation =>
      some (state.commit t (.revokeAnswered (.ok
        { invitation with state := .revoked, revokedAt := some request.now })))
  | _ => none

def failStep (details : String) : Option State :=
  match state.sessions t with
  | .invitationFound .. | .accountRead _ | .identityLinked _ | .invitationAccepted _
  | .accountReread .. => some (state.rollback t (.acceptRefused (.internal details)))
  | .accountProbed .. | .dueExpired _ | .invitationInserted .. =>
      some (state.rollback t (.createRefused (.internal details)))
  | .invitationLoaded .. | .invitationRevoked .. =>
      some (state.rollback t (.revokeAnswered (.error (.internal details))))
  | .stateSet _ => some (state.rollback t (.stateAnswered (.error (.internal details))))
  | _ => none

end State

structure Event where
  t : TxId
  action : Action

def State.step (state : State) (event : Event) : Option State :=
  match event.action with
  | .findByCodeHash request => state.findByCodeHashStep event.t request
  | .getAccount => state.getAccountStep event.t
  | .linkIdentity => state.linkIdentityStep event.t
  | .markAccepted => state.markAcceptedStep event.t
  | .getLinked => state.getLinkedStep event.t
  | .probeAccount request => state.probeAccountStep event.t request
  | .expirePendingIfDue => state.expirePendingIfDueStep event.t
  | .insertInvitation id codeHash => state.insertInvitationStep event.t id codeHash
  | .findById request => state.findByIdStep event.t request
  | .markRevoked => state.markRevokedStep event.t
  | .setState request => state.setStateStep event.t request
  | .getState => state.getStateStep event.t
  | .insertAccount account => state.insertAccountStep event.t account
  | .commit => state.commitStep event.t
  | .fail details => state.failStep event.t details

/-- Nothing in the tables and no request under way. -/
structure State.Initial (state : State) : Prop where
  accounts : ∀ id, state.accounts id = Cell.clean none
  invitations : ∀ id, state.invitations id = Cell.clean none
  sessions : ∀ t, state.sessions t = .idle

end SwiyuIssuer.Linking
