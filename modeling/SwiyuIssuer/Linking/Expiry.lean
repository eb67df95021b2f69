import SwiyuIssuer.Linking.Safety

/-! The two notions of an expired invitation: that of the `UPDATE` before an insert, and that of the
requests that look at an invitation. -/

namespace SwiyuIssuer.Linking

open Library Persistence

def expiryStatements (t : TxId) (request : CreateRequest) : List Event :=
  [⟨t, .probeAccount request⟩, ⟨t, .expirePendingIfDue⟩]

def createStatements (t : TxId) (request : CreateRequest) (id : InvitationId)
    (codeHash : InvitationCodeHash) : List Event :=
  expiryStatements t request ++ [⟨t, .insertInvitation id codeHash⟩, ⟨t, .commit⟩]

def Creates (state : State) (t : TxId) (request : CreateRequest) (id : InvitationId)
    (codeHash : InvitationCodeHash) : Prop :=
  ∃ after row, exec State.step state (createStatements t request id codeHash) = some after ∧
    after.sessions t = .created row

/-- A committed invitation of the account whose row says that it is pending. -/
def Database.StoredPending (db : Database) (accountId : UserAccountId) (id : InvitationId)
    (row : InvitationRow) : Prop :=
  db.invitations id = some row ∧ row.userAccountId = accountId ∧ row.state = .pending

def State.HasVersion (state : State) (id : InvitationId) (row : InvitationRow) : Prop :=
  (state.invitations id).committed = some row ∨
    ∃ holder, (state.invitations id).writer = some (holder, some row)

structure State.Fresh (state : State) (id : InvitationId) (codeHash : InvitationCodeHash) :
    Prop where
  absent : state.invitations id = Cell.clean none
  unused : ∀ other row, state.HasVersion other row → row.codeHash ≠ some codeHash

/-- A request for a lifetime in range and an unlinked account of the tenant, not begun yet, while no
open transaction has written an invitation of the account. -/
structure CreateRequest.Admissible (request : CreateRequest) (state : State) (t : TxId) :
    Prop where
  idle : state.sessions t = .idle
  lifetime : ∃ expiresIn, resolveInvitationExpiresIn request.expiresInSeconds = .ok expiresIn
  account : ∃ account, state.database.accounts request.accountId = some account ∧
    account.tenantId = request.tenantId ∧ account.identity = none
  unlocked : ∀ id row, state.HasVersion id row → row.userAccountId = request.accountId →
    (state.invitations id).writer = none

/-- How the requests that look at the invitation at `now` treat it. -/
structure TreatedAsExpired (state : State) (now : DateTime) (id : InvitationId)
    (row : InvitationRow) : Prop where
  observed : row.observedState now = .expired
  revoke : ∀ u, state.sessions u = .idle →
    (state.step ⟨u, .findById ⟨row.tenantId, id, now⟩⟩).map (fun after => after.sessions u) =
      some (.revokeAnswered (.error (.conflict "invitation is expired and cannot be revoked")))
  accept : ∀ u user codeHash, state.sessions u = .idle → row.codeHash = some codeHash →
    (state.step ⟨u, .findByCodeHash ⟨id, codeHash, user, now⟩⟩).map
      (fun after => after.sessions u) =
        some (.acceptRefused (.conflict "invitation is no longer pending"))

/-- A create request succeeds exactly when no invitation of the account is observed pending. -/
def CreateAgrees (state : State) (t : TxId) (request : CreateRequest) (id : InvitationId)
    (codeHash : InvitationCodeHash) : Prop :=
  Creates state t request id codeHash ↔
    ∀ other row, state.database.invitations other = some row →
      row.userAccountId = request.accountId → row.observedState request.now ≠ .pending

/-- The rows that the `UPDATE` changes are those that the other requests treat as expired. -/
structure ExpiryAgrees (state : State) (t : TxId) (request : CreateRequest) (id : InvitationId)
    (codeHash : InvitationCodeHash) : Prop where
  creates : CreateAgrees state t request id codeHash
  retires : ∃ after, exec State.step state (expiryStatements t request) = some after ∧
    ∀ other, (after.invitations other).read t ≠ (state.invitations other).read t ↔
      ∃ row, state.database.StoredPending request.accountId other row ∧
        TreatedAsExpired state request.now other row

def State.retired (state : State) (t : TxId) (request : CreateRequest) (expiresAt : DateTime) :
    State :=
  let due := state.invitationIds.filter fun id =>
    UserAccountInvitations.isDue request.accountId request.now (state.database.invitations id)
  state.withInvitations
    (fun id =>
      if id ∈ due then (state.invitations id).update t (Option.map UserAccountInvitations.asExpired)
      else state.invitations id)
    state.invitationIds t (.dueExpired ⟨request, expiresAt, due⟩)

section Request

variable {state : State} {t : TxId} {request : CreateRequest} {id : InvitationId}
  {codeHash : InvitationCodeHash} {row : InvitationRow} {expiresAt : DateTime}

theorem read_idle (sound : Sound state) {u : TxId} (idle : state.sessions u = .idle)
    (id : InvitationId) : (state.invitations id).read u = state.database.invitations id := by
  apply sound.invitations.read_unclaimed
  rw [idle]
  rfl

theorem rollback_session (session : Session) : (state.rollback t session).sessions t = session :=
  Function.update_self ..

theorem commit_session (session : Session) : (state.commit t session).sessions t = session :=
  Function.update_self ..

theorem goto_withInvitations (session next : Session)
    (invitations : Table TxId InvitationId (Option InvitationRow)) (ids : List InvitationId) :
    (state.goto t session).withInvitations invitations ids t next =
      state.withInvitations invitations ids t next := by
  simp only [State.goto, State.withInvitations, Function.update_idem]

theorem probeAccount_step (sound : Sound state) (admissible : request.Admissible state t) :
    ∃ expiresAt, state.step ⟨t, .probeAccount request⟩ =
      some (state.goto t (.accountProbed request expiresAt)) := by
  rcases admissible.lifetime with ⟨expiresIn, resolved⟩
  rcases admissible.account with ⟨account, stored, owned, unlinked⟩
  have seen : UserAccounts.get state.accounts t request.tenantId request.accountId =
      some account := by
    have committed : (state.accounts request.accountId).read t =
        state.database.accounts request.accountId := by
      apply sound.accounts.read_unclaimed
      rw [admissible.idle]
      rfl
    rw [UserAccounts.get, committed, stored]
    simp [owned]
  refine ⟨request.now + expiresIn, ?_⟩
  simp [State.step, State.probeAccountStep, admissible.idle, resolved, seen, unlinked]

theorem expirePendingIfDue_admissible (sound : Sound state)
    (admissible : request.Admissible state t) (expiresAt : DateTime) :
    UserAccountInvitations.expirePendingIfDue state.invitations state.invitationIds t
        request.accountId request.now =
      some ((state.retired t request expiresAt).invitations,
        state.invitationIds.filter fun id => UserAccountInvitations.isDue request.accountId
          request.now (state.database.invitations id)) := by
  have reads : ∀ id, (state.invitations id).read t = state.database.invitations id :=
    read_idle sound admissible.idle
  have free : ∀ id ∈ state.invitationIds, UserAccountInvitations.isDue request.accountId request.now
      ((state.invitations id).read t) = true → (state.invitations id).free t = true := by
    intro id _ due
    rw [reads id] at due
    rcases UserAccountInvitations.isDue_some due with ⟨row, stored, owned, _⟩
    simp [Cell.free, admissible.unlocked id row (.inl stored) owned]
  rw [UserAccountInvitations.expirePendingIfDue_eq free]
  simp only [reads]
  rfl

theorem expiry_exec (sound : Sound state) (admissible : request.Admissible state t) :
    ∃ expiresAt, exec State.step state (expiryStatements t request) =
      some (state.retired t request expiresAt) := by
  rcases probeAccount_step sound admissible with ⟨expiresAt, probed⟩
  refine ⟨expiresAt, ?_⟩
  have expired : (state.goto t (.accountProbed request expiresAt)).step ⟨t, .expirePendingIfDue⟩ =
      some (state.retired t request expiresAt) := by
    have at_ : (state.goto t (.accountProbed request expiresAt)).sessions t =
        .accountProbed request expiresAt := Function.update_self ..
    have flipped := expirePendingIfDue_admissible sound admissible expiresAt
    simp only [State.step, State.expirePendingIfDueStep, at_]
    rw [show (state.goto t (.accountProbed request expiresAt)).invitations = state.invitations
      from rfl, show (state.goto t (.accountProbed request expiresAt)).invitationIds =
        state.invitationIds from rfl, flipped]
    exact congrArg some (goto_withInvitations ..)
  rw [expiryStatements, exec, probed, Option.bind_some, exec, expired]
  rfl

theorem listed_invitation (sound : Sound state) {other : InvitationId}
    (stored : state.database.invitations other = some row) : other ∈ state.invitationIds := by
  by_contra absent
  have nothing : (state.invitations other).committed = none := by
    rw [sound.listedInvitations other absent, Cell.committed_clean]
  rw [show (state.invitations other).committed = some row from stored] at nothing
  cases nothing

theorem mem_due (sound : Sound state) {other : InvitationId} :
    other ∈ (state.invitationIds.filter fun id => UserAccountInvitations.isDue request.accountId
        request.now (state.database.invitations id)) ↔
      ∃ row, state.database.StoredPending request.accountId other row ∧
        row.expiresAt < request.now := by
  rw [List.mem_filter, UserAccountInvitations.isDue_iff]
  constructor
  · rintro ⟨_, row, stored, owned, pending, late⟩
    exact ⟨row, ⟨stored, owned, pending⟩, late⟩
  · rintro ⟨row, ⟨stored, owned, pending⟩, late⟩
    exact ⟨listed_invitation sound stored, row, stored, owned, pending, late⟩

theorem retired_due (sound : Sound state) {other : InvitationId}
    (stored : state.database.StoredPending request.accountId other row)
    (late : row.expiresAt < request.now) :
    (state.retired t request expiresAt).invitations other =
      (state.invitations other).update t (Option.map UserAccountInvitations.asExpired) :=
  if_pos ((mem_due sound).mpr ⟨row, stored, late⟩)

theorem retired_rest (sound : Sound state) {other : InvitationId}
    (kept : ∀ row, state.database.StoredPending request.accountId other row →
      request.now ≤ row.expiresAt) :
    (state.retired t request expiresAt).invitations other = state.invitations other := by
  apply if_neg
  intro member
  rcases (mem_due sound).mp member with ⟨row, stored, late⟩
  exact absurd late (Int.not_lt.mpr (kept row stored))

theorem retired_unlisted (sound : Sound state) (other : InvitationId)
    (unlisted : other ∉ state.invitationIds) :
    (state.retired t request expiresAt).invitations other = Cell.clean none := by
  rw [retired_rest sound, sound.listedInvitations other unlisted]
  intro row stored
  exact absurd (listed_invitation sound stored.1) unlisted

theorem retired_changes (sound : Sound state) (admissible : request.Admissible state t)
    (other : InvitationId) :
    ((state.retired t request expiresAt).invitations other).read t ≠
        (state.invitations other).read t ↔
      ∃ row, state.database.StoredPending request.accountId other row ∧
        row.expiresAt < request.now := by
  constructor
  · intro changed
    by_contra none_due
    refine changed (congrArg (fun cell => cell.read t) (retired_rest sound ?_))
    intro row stored
    by_contra late
    exact none_due ⟨row, stored, Int.not_le.mp late⟩
  · rintro ⟨row, stored, late⟩ same
    have seen : (state.invitations other).read t = some row :=
      (read_idle sound admissible.idle other).trans stored.1
    have written : ((state.invitations other).update t
        (Option.map UserAccountInvitations.asExpired)).read t =
          some (UserAccountInvitations.asExpired row) := by
      rw [Cell.read_held (Cell.writer_update ..), seen, Option.map_some]
    rw [retired_due sound stored late, written, seen, Option.some.injEq] at same
    have pending := stored.2.2
    rw [← same] at pending
    cases pending

theorem fresh_absent (fresh : state.Fresh id codeHash) :
    state.database.invitations id ≠ some row := by
  have nothing : state.database.invitations id = none := by
    show (state.invitations id).committed = none
    rw [fresh.absent, Cell.committed_clean]
  simp [nothing]

theorem findByCodeHash_idle (sound : Sound state) {u : TxId} (idle : state.sessions u = .idle)
    {other : InvitationId} (stored : state.database.invitations other = some row)
    (coded : row.codeHash = some codeHash) :
    UserAccountInvitations.findByCodeHash state.invitations state.invitationIds u codeHash =
      some row.toInvitation := by
  apply UserAccountInvitations.findByCodeHash_eq (listed_invitation sound stored)
    ((read_idle sound idle other).trans stored) coded
  intro rival found there same
  rw [read_idle sound idle rival] at there
  apply sound.codes.committed rival other codeHash
  · show UserAccountInvitations.codeKey (state.database.invitations rival) = _
    rw [there]
    exact same
  · show UserAccountInvitations.codeKey (state.database.invitations other) = _
    rw [stored]
    exact coded

/-- Whoever looks at a pending invitation treats it as expired from its `expires_at` on. -/
theorem treatedAsExpired_iff (sound : Sound state) (facts : Facts state) {now : DateTime}
    {other : InvitationId} (stored : state.database.invitations other = some row)
    (pending : row.state = .pending) :
    TreatedAsExpired state now other row ↔ row.expiresAt ≤ now := by
  have named : row.id = other := facts.invitationsKeyed other row stored
  constructor
  · intro treated
    exact (Invitation.observedState_expired pending).mp treated.observed
  · intro late
    have observed : row.observedState now = .expired :=
      (Invitation.observedState_expired pending).mpr late
    refine ⟨observed, ?_, ?_⟩
    · intro u idle
      have found : (UserAccountInvitations.findById state.invitations u other).filter
          (fun invitation => invitation.tenantId == row.tenantId) = some row.toInvitation := by
        rw [UserAccountInvitations.findById, read_idle sound idle other, stored, Option.map_some]
        exact Option.filter_eq_some_iff.mpr ⟨rfl, beq_self_eq_true _⟩
      simp [State.step, State.findByIdStep, idle, found, observed, State.rollback,
        InvitationState.asStr]
    · intro u user codeHash idle coded
      have found : (UserAccountInvitations.findByCodeHash state.invitations state.invitationIds u
          codeHash).filter (fun invitation => invitation.id == other) = some row.toInvitation := by
        rw [findByCodeHash_idle sound idle stored coded]
        exact Option.filter_eq_some_iff.mpr ⟨rfl, beq_iff_eq.mpr named⟩
      simp [State.step, State.findByCodeHashStep, idle, found, observed, State.rollback]

theorem uncarried_retired {ι : Type} [DecidableEq ι] {keyOf : Option InvitationRow → Option ι}
    {entry : ι} (sound : Sound state) (admissible : request.Admissible state t)
    (nothing : keyOf none = none)
    (spent : ∀ row, keyOf (some (UserAccountInvitations.asExpired row)) = none)
    {other : InvitationId}
    (due : ∀ row, state.HasVersion other row → keyOf (some row) = some entry →
      state.database.StoredPending request.accountId other row ∧ row.expiresAt < request.now) :
    ((state.retired t request expiresAt).invitations other).carries keyOf t entry = false := by
  by_cases retired : ∃ row, state.database.StoredPending request.accountId other row ∧
      row.expiresAt < request.now
  · rcases retired with ⟨row, stored, late⟩
    rw [retired_due sound stored late, UniqueIndex.carries_own (Cell.writer_update ..),
      read_idle sound admissible.idle other, stored.1, Option.map_some, spent row]
    simp
  · have kept : ∀ row, state.database.StoredPending request.accountId other row →
        request.now ≤ row.expiresAt := by
      intro row stored
      by_contra late
      exact retired ⟨row, stored, Int.not_le.mp late⟩
    rw [retired_rest sound kept, Bool.eq_false_iff]
    intro carries
    rcases UniqueIndex.carries_version carries with ⟨version, present, keyed⟩
    cases version with
    | none =>
        rw [nothing] at keyed
        cases keyed
    | some row => exact retired ⟨row, due row present keyed⟩

theorem code_clear (sound : Sound state) (admissible : request.Admissible state t)
    (fresh : state.Fresh id codeHash) :
    UniqueIndex.probe UserAccountInvitations.codeKey
      (state.retired t request expiresAt).invitations state.invitationIds t id (some codeHash) =
        .clear := by
  apply UniqueIndex.clear_of_uncarried
  intro other value _ same
  cases same
  apply uncarried_retired sound admissible rfl fun _ => rfl
  intro row present coded
  exact absurd coded (fresh.unused other row present)

/-- The `INSERT` has no rival exactly when the `UPDATE` has retired every pending invitation. -/
theorem pending_clear_iff (sound : Sound state) (admissible : request.Admissible state t)
    (fresh : state.Fresh id codeHash) (expiresAt : DateTime) :
    UniqueIndex.probe UserAccountInvitations.pendingKey
        (state.retired t request expiresAt).invitations state.invitationIds t id
        (some request.accountId) = .clear ↔
      ∀ other row, state.database.StoredPending request.accountId other row →
        row.expiresAt < request.now := by
  constructor
  · intro clear other row stored
    by_contra early
    have kept : ∀ found, state.database.StoredPending request.accountId other found →
        request.now ≤ found.expiresAt := by
      intro found there
      have same : some found = some row := there.1.symm.trans stored.1
      cases same
      exact Int.not_lt.mp early
    have carried : ((state.retired t request expiresAt).invitations other).carries
        UserAccountInvitations.pendingKey t request.accountId = true := by
      rw [retired_rest sound kept, Cell.carries,
        admissible.unlocked other row (.inl stored.1) stored.2.1]
      show (UserAccountInvitations.pendingKey (state.database.invitations other) ==
        some request.accountId) = true
      rw [stored.1]
      simp [UserAccountInvitations.pendingKey, stored.2.1, stored.2.2]
    have different : other ≠ id := by
      rintro rfl
      exact fresh_absent fresh stored.1
    rw [UniqueIndex.probe_clear clear (listed_of_carries rfl (retired_unlisted sound)) rfl other
      different] at carried
    cases carried
  · intro late
    apply UniqueIndex.clear_of_uncarried
    intro other value _ same
    cases same
    apply uncarried_retired sound admissible rfl fun _ => rfl
    intro row present keyed
    by_cases pending : row.state = .pending
    · rw [UserAccountInvitations.pendingKey, if_pos pending, Option.some.injEq] at keyed
      have unlocked := admissible.unlocked other row present keyed
      rcases present with stored | ⟨holder, held⟩
      · exact ⟨⟨stored, keyed, pending⟩, late other row ⟨stored, keyed, pending⟩⟩
      · rw [unlocked] at held
        cases held
    · rw [UserAccountInvitations.pendingKey, if_neg pending] at keyed
      cases keyed

theorem insertInvitation_iff (sound : Sound state) (admissible : request.Admissible state t)
    (fresh : state.Fresh id codeHash) :
    (∃ after creation row, (state.retired t request expiresAt).step
        ⟨t, .insertInvitation id codeHash⟩ = some after ∧
          after.sessions t = .invitationInserted creation row) ↔
      UniqueIndex.probe UserAccountInvitations.pendingKey
        (state.retired t request expiresAt).invitations state.invitationIds t id
        (some request.accountId) = .clear := by
  obtain ⟨due, at_⟩ : ∃ due, (state.retired t request expiresAt).sessions t =
      .dueExpired ⟨request, expiresAt, due⟩ := ⟨_, Function.update_self ..⟩
  have absent : (state.retired t request expiresAt).invitations id = Cell.clean none := by
    rw [retired_rest sound, fresh.absent]
    intro row stored
    exact absurd stored.1 (fresh_absent fresh)
  simp only [State.step, State.insertInvitationStep, at_]
  constructor
  · rintro ⟨after, creation, row, taken, inserted⟩
    rcases State.written_cases taken with ⟨error, _, rfl⟩ | ⟨invitations, done, rfl⟩
    · rw [rollback_session] at inserted
      cases inserted
    · exact (UserAccountInvitations.insert_ok done).2.2.2.1
  · intro clear
    have done : UserAccountInvitations.insert (state.retired t request expiresAt).invitations
        (state.retired t request expiresAt).invitationIds t
        (newInvitation ⟨request, expiresAt, due⟩ id codeHash) = some (.ok _) :=
      UserAccountInvitations.insert_eq absent (code_clear sound admissible fresh) clear
    rw [done]
    exact ⟨_, _, _, rfl, Function.update_self ..⟩

theorem commitStep_created {middle last : State} (taken : middle.commitStep t = some last)
    (created : last.sessions t = .created row) :
    ∃ creation, middle.sessions t = .invitationInserted creation row := by
  unfold State.commitStep at taken
  split at taken
  · cases taken
    rw [commit_session] at created
    cases created
  · next creation found at_ =>
      cases taken
      rw [commit_session] at created
      cases created
      exact ⟨creation, at_⟩
  · cases taken
    rw [commit_session] at created
    cases created
  · cases taken

/-- The statements of a request, one after another, leave every account that has no pending
invitation but expired ones with a new one. -/
theorem creates_iff (sound : Sound state) (admissible : request.Admissible state t)
    (fresh : state.Fresh id codeHash) :
    Creates state t request id codeHash ↔
      ∀ other row, state.database.StoredPending request.accountId other row →
        row.expiresAt < request.now := by
  rcases expiry_exec sound admissible with ⟨expiresAt, expired⟩
  rw [← pending_clear_iff sound admissible fresh expiresAt,
    ← insertInvitation_iff sound admissible fresh]
  unfold Creates
  simp only [createStatements, exec_append, expired, Option.bind_some]
  constructor
  · rintro ⟨after, row, ran, created⟩
    rcases Option.bind_eq_some_iff.mp ran with ⟨middle, inserted, ran⟩
    rcases Option.bind_eq_some_iff.mp ran with ⟨last, taken, same⟩
    cases same
    rcases commitStep_created taken created with ⟨creation, at_⟩
    exact ⟨middle, creation, row, inserted, at_⟩
  · rintro ⟨middle, creation, row, inserted, at_⟩
    refine ⟨middle.commit t (.created row), row, ?_, Function.update_self ..⟩
    have taken : middle.step ⟨t, .commit⟩ = some (middle.commit t (.created row)) := by
      simp only [State.step, State.commitStep, at_]
    rw [exec, inserted, Option.bind_some, exec, taken]
    rfl

/-- An account has one pending invitation at most. At its last instant it is nobody's any more, but
the `UPDATE` leaves it, and the `INSERT` finds it there. -/
theorem createAgrees_iff (sound : Sound state) (admissible : request.Admissible state t)
    (fresh : state.Fresh id codeHash) :
    CreateAgrees state t request id codeHash ↔
      ∀ other row, state.database.StoredPending request.accountId other row →
        row.expiresAt ≠ request.now := by
  have observed : (∀ other row, state.database.invitations other = some row →
        row.userAccountId = request.accountId → row.observedState request.now ≠ .pending) ↔
      ∀ other row, state.database.StoredPending request.accountId other row →
        row.expiresAt ≤ request.now := by
    constructor
    · rintro none_pending other row ⟨stored, owned, pending⟩
      by_contra early
      exact none_pending other row stored owned
        (Invitation.observedState_pending_iff.mpr ⟨pending, Int.not_le.mp early⟩)
    · intro late other row stored owned seen
      rcases Invitation.observedState_pending_iff.mp seen with ⟨pending, early⟩
      exact absurd (late other row ⟨stored, owned, pending⟩) (Int.not_le.mpr early)
  rw [CreateAgrees, creates_iff sound admissible fresh, observed]
  constructor
  · intro agrees other row stored same
    have only : ∀ rival found, state.database.StoredPending request.accountId rival found →
        found.expiresAt ≤ request.now := by
      intro rival found there
      have here := pending_unique sound there.1 there.2.2 stored.1 stored.2.2
        (there.2.1.trans stored.2.1.symm)
      subst here
      cases Option.some.inj (there.1.symm.trans stored.1)
      exact Int.le_of_eq same
    exact absurd same (Int.ne_of_lt (agrees.mpr only other row stored))
  · intro apart
    constructor
    · intro late other row stored
      exact Int.le_of_lt (late other row stored)
    · intro late other row stored
      have reached := late other row stored
      exact Int.lt_iff_le_and_ne.mpr ⟨reached, apart other row stored⟩

/-- The rows of the `UPDATE` are those that the other requests treat as expired. -/
theorem retires_iff (sound : Sound state) (facts : Facts state)
    (admissible : request.Admissible state t) :
    (∃ after, exec State.step state (expiryStatements t request) = some after ∧
      ∀ other, (after.invitations other).read t ≠ (state.invitations other).read t ↔
        ∃ row, state.database.StoredPending request.accountId other row ∧
          TreatedAsExpired state request.now other row) ↔
      ∀ other row, state.database.StoredPending request.accountId other row →
        row.expiresAt ≠ request.now := by
  rcases expiry_exec sound admissible with ⟨expiresAt, expired⟩
  have treated : ∀ other row, state.database.StoredPending request.accountId other row →
      (TreatedAsExpired state request.now other row ↔ row.expiresAt ≤ request.now) := by
    intro other row stored
    exact treatedAsExpired_iff sound facts stored.1 stored.2.2
  constructor
  · rintro ⟨after, ran, exact_⟩ other row stored same
    cases Option.some.inj (expired.symm.trans ran)
    have changed := (exact_ other).mpr
      ⟨row, stored, (treated other row stored).mpr (Int.le_of_eq same)⟩
    rcases (retired_changes sound admissible other).mp changed with ⟨found, there, late⟩
    cases Option.some.inj (there.1.symm.trans stored.1)
    exact absurd same (Int.ne_of_lt late)
  · intro apart
    refine ⟨_, expired, ?_⟩
    intro other
    rw [retired_changes sound admissible other]
    constructor
    · rintro ⟨row, stored, late⟩
      exact ⟨row, stored, (treated other row stored).mpr (Int.le_of_lt late)⟩
    · rintro ⟨row, stored, seen⟩
      have reached := (treated other row stored).mp seen
      exact ⟨row, stored, Int.lt_iff_le_and_ne.mpr ⟨reached, apart other row stored⟩⟩

end Request

/-- The two notions of expiry agree exactly where no pending invitation of the account expires at
the very instant of the request. -/
theorem expiry_agrees_iff {first state : State} {trace : List Event} (initial : first.Initial)
    (run : Run (Steps State.step) first trace state) {t : TxId} {request : CreateRequest}
    {id : InvitationId} {codeHash : InvitationCodeHash} (admissible : request.Admissible state t)
    (fresh : state.Fresh id codeHash) :
    (CreateAgrees state t request id codeHash ↔
      ∀ other row, state.database.StoredPending request.accountId other row →
        row.expiresAt ≠ request.now) ∧
    (ExpiryAgrees state t request id codeHash ↔
      ∀ other row, state.database.StoredPending request.accountId other row →
        row.expiresAt ≠ request.now) := by
  have known := sound_facts_run ⟨sound_initial initial, facts_initial initial⟩ run
  have creates := createAgrees_iff known.1 admissible fresh
  have retires := retires_iff known.1 known.2 admissible
  refine ⟨creates, ?_⟩
  constructor
  · intro agrees
    exact creates.mp agrees.creates
  · intro apart
    exact ⟨creates.mpr apart, retires.mpr apart⟩

def Session.isOver : Session → Bool
  | idle | accepted .. | acceptRefused _ | created _ | createRefused _ | revokeAnswered _
  | stateAnswered _ | accountCreated _ => true
  | _ => false

theorem unlocked_of_over {state : State} (sound : Sound state)
    (over_ : ∀ q, (state.sessions q).isOver = true) (id : InvitationId) :
    (state.invitations id).writer = none := by
  cases held : (state.invitations id).writer with
  | none => rfl
  | some pending =>
      rcases pending with ⟨holder, version⟩
      have claims := (sound.invitations id holder version).mp held
      have ended := over_ holder
      generalize state.sessions holder = session at claims ended
      cases session <;> first | cases claims | cases ended

def sampleCreate (now : DateTime) : CreateRequest :=
  ⟨sampleAccount.tenantId, sampleAccount.id, none, now⟩

def sampleRow : InvitationRow :=
  newInvitation ⟨sampleCreate 0, seconds 604800, []⟩ ⟨"6In"⟩ ⟨"code"⟩

theorem sampleInvited : ∃ state, exec State.step sampleStart sampleInvitation = some state ∧
    state.database.StoredPending sampleAccount.id ⟨"6In"⟩ sampleRow ∧
    (∀ now, (sampleCreate now).Admissible state 2) ∧ state.Fresh ⟨"7In"⟩ ⟨"other"⟩ := by
  have computed : (exec State.step sampleStart sampleInvitation).map (fun state =>
      (state.invitationIds, state.database.accounts sampleAccount.id,
        state.database.invitations ⟨"6In"⟩,
        (state.sessions 0).isOver && (state.sessions 1).isOver)) =
      some ([⟨"6In"⟩], some sampleAccount, some sampleRow, true) := by
    decide
  rcases Option.map_eq_some_iff.mp computed with ⟨state, reached, seen⟩
  simp only [Prod.mk.injEq, Bool.and_eq_true] at seen
  rcases seen with ⟨ids, account, stored, first, second⟩
  have run := Run.of_exec reached
  have sound := (sound_facts_run ⟨sound_initial sampleStart_initial,
    facts_initial sampleStart_initial⟩ run).1
  have idle : ∀ q : Nat, 2 ≤ q → state.sessions q = .idle := by
    intro q late
    apply others_run run
    intro event member
    have early : ∀ event ∈ sampleInvitation, event.t < 2 := by decide
    exact Nat.ne_of_lt (Nat.lt_of_lt_of_le (early event member) late)
  have unlocked := unlocked_of_over sound <| by
    intro q
    match q with
    | 0 => exact first
    | 1 => exact second
    | q + 2 =>
        rw [idle (q + 2) (Nat.le_add_left ..)]
        rfl
  have absent : ∀ id, id ≠ ⟨"6In"⟩ → state.invitations id = Cell.clean none := by
    intro id different
    apply sound.listedInvitations
    simp [ids, different]
  refine ⟨state, reached, ⟨stored, rfl, rfl⟩, ?_, ?_⟩
  · intro now
    exact ⟨idle 2 (Nat.le_refl 2), ⟨seconds 604800, rfl⟩, ⟨sampleAccount, account, rfl, rfl⟩,
      fun id _ _ _ => unlocked id⟩
  · refine ⟨absent _ (by decide), ?_⟩
    intro other found present coincides
    rcases present with committed | ⟨holder, held⟩
    · by_cases here : other = ⟨"6In"⟩
      · subst here
        rw [← Option.some.inj (stored.symm.trans committed)] at coincides
        exact absurd coincides (by decide)
      · rw [absent other here] at committed
        cases committed
    · rw [unlocked other] at held
      cases held

theorem expiry_agrees_iff_sample : ∃ state,
    Run (Steps State.step) sampleStart sampleInvitation state ∧
    CreateAgrees state 2 (sampleCreate (seconds 604800 + 1)) ⟨"7In"⟩ ⟨"other"⟩ ∧
    ExpiryAgrees state 2 (sampleCreate (seconds 604800 + 1)) ⟨"7In"⟩ ⟨"other"⟩ := by
  rcases sampleInvited with ⟨state, reached, stored, admissible, fresh⟩
  have run := Run.of_exec reached
  have sound := (sound_facts_run ⟨sound_initial sampleStart_initial,
    facts_initial sampleStart_initial⟩ run).1
  have apart : ∀ other found, state.database.StoredPending sampleAccount.id other found →
      found.expiresAt ≠ seconds 604800 + 1 := by
    intro other found there
    have here := pending_unique sound there.1 there.2.2 stored.1 stored.2.2
      (there.2.1.trans stored.2.1.symm)
    subst here
    rw [← Option.some.inj (stored.1.symm.trans there.1)]
    decide
  have agrees := expiry_agrees_iff sampleStart_initial run (admissible (seconds 604800 + 1)) fresh
  exact ⟨state, run, agrees.1.mpr apart, agrees.2.mpr apart⟩

/-- At the last instant of the account's only invitation nobody can use it, and no other one can be
created. -/
theorem invitation_blocks_at_its_expiry : sampleStart.Initial ∧ ∃ state,
    Run (Steps State.step) sampleStart sampleInvitation state ∧
    (sampleCreate (seconds 604800)).Admissible state 2 ∧ state.Fresh ⟨"7In"⟩ ⟨"other"⟩ ∧
    state.database.StoredPending sampleAccount.id ⟨"6In"⟩ sampleRow ∧
    TreatedAsExpired state (seconds 604800) ⟨"6In"⟩ sampleRow ∧
    (∃ after, exec State.step state (expiryStatements 2 (sampleCreate (seconds 604800)) ++
        [⟨2, .insertInvitation ⟨"7In"⟩ ⟨"other"⟩⟩]) = some after ∧
      after.sessions 2 = .createRefused (.conflict
        "unique constraint violated: user_account_invitations_one_pending_uq")) ∧
    ¬CreateAgrees state 2 (sampleCreate (seconds 604800)) ⟨"7In"⟩ ⟨"other"⟩ ∧
    ¬ExpiryAgrees state 2 (sampleCreate (seconds 604800)) ⟨"7In"⟩ ⟨"other"⟩ := by
  rcases sampleInvited with ⟨state, reached, stored, admissible, fresh⟩
  have run := Run.of_exec reached
  have known := sound_facts_run ⟨sound_initial sampleStart_initial,
    facts_initial sampleStart_initial⟩ run
  have disagrees : ¬CreateAgrees state 2 (sampleCreate (seconds 604800)) ⟨"7In"⟩ ⟨"other"⟩ := by
    rw [createAgrees_iff known.1 (admissible _) fresh]
    intro apart
    exact apart _ sampleRow stored rfl
  refine ⟨sampleStart_initial, state, run, admissible _, fresh, stored, ?_, ?_, disagrees,
    fun agrees => disagrees agrees.creates⟩
  · rw [treatedAsExpired_iff known.1 known.2 stored.1 stored.2.2]
    decide
  · have refused : (exec State.step sampleStart (sampleInvitation ++
        (expiryStatements 2 (sampleCreate (seconds 604800)) ++
          [⟨2, .insertInvitation ⟨"7In"⟩ ⟨"other"⟩⟩]))).map (fun after =>
            match after.sessions 2 with
            | .createRefused error => some error
            | _ => none) = some (some (.conflict
              "unique constraint violated: user_account_invitations_one_pending_uq")) := by
      decide
    rcases Run.continue_exec reached refused with ⟨after, ran, found⟩
    refine ⟨after, ran, ?_⟩
    split at found
    · next error at_ =>
        rw [at_, Option.some.inj found]
    · cases found

end SwiyuIssuer.Linking
