import SwiyuIssuer.Linking.Safety

/-! Accept requests and the state of the account they link. -/

namespace SwiyuIssuer.Linking

open Library Persistence

/-- A request between its `link_identity` and its commit. -/
def Session.linking : Session → Option Acceptance
  | identityLinked acceptance | invitationAccepted acceptance | accountReread acceptance _ =>
      some acceptance
  | _ => none

/-- A request between its read of the account and its commit. -/
def Session.underway : Session → Option Acceptance
  | accountRead acceptance => some acceptance
  | session => session.linking

def Database.isActive (db : Database) (id : UserAccountId) : Bool :=
  (db.accounts id).any fun row => row.state == .active

/-- What `accept` and the two state requests would have to see to. `getAccount`: the unlinked
account that `accept` reads is active; the handler does not look. `deactivate`: no account is
deactivated between that read and the `link_identity` of the same request. `activate`: a deactivated
account stays so, as `UserAccountState` says. -/
structure Orderly (state : State) (event : Event) : Prop where
  getAccount : event.action = .getAccount → ∀ request invitation account,
    state.sessions event.t = .invitationFound request invitation →
    state.database.accounts invitation.userAccountId = some account →
    account.identity = none → account.state = .active
  deactivate : ∀ request account, event.action = .setState request →
    request.state = .deactivated → state.database.accounts request.accountId = some account →
    account.tenantId = request.tenantId →
    ∀ t acceptance, state.sessions t = .accountRead acceptance →
      acceptance.account.id ≠ request.accountId
  activate : ∀ request account, event.action = .setState request → request.state = .active →
    state.database.accounts request.accountId = some account →
    account.tenantId = request.tenantId → account.state = .active

/-- The account is active in the state that an accept request commits over, from its
`link_identity` on, and in what the request has committed. -/
structure LinksOnlyActive (state : State) : Prop where
  linking : ∀ t acceptance, (state.sessions t).linking = some acceptance →
    state.database.isActive acceptance.account.id = true
  linked : ∀ t acceptance linked, state.sessions t = .accepted acceptance linked →
    linked.state = .active

/-- Already from the read of the account on. -/
structure ReadsOnlyActive (state : State) : Prop where
  underway : ∀ t acceptance, (state.sessions t).underway = some acceptance →
    state.database.isActive acceptance.account.id = true
  linked : ∀ t acceptance linked, state.sessions t = .accepted acceptance linked →
    linked.state = .active

theorem underway_of_linking {session : Session} {acceptance : Acceptance}
    (linking : session.linking = some acceptance) : session.underway = some acceptance := by
  cases session with
  | identityLinked | invitationAccepted | accountReread => exact linking
  | _ => cases linking

theorem underway_cases {session : Session} {acceptance : Acceptance}
    (underway : session.underway = some acceptance) :
    session = .accountRead acceptance ∨ session.linking = some acceptance := by
  cases session with
  | accountRead =>
      cases underway
      exact .inl rfl
  | _ => exact .inr underway

theorem ReadsOnlyActive.linksOnlyActive {state : State} (active : ReadsOnlyActive state) :
    LinksOnlyActive state where
  linking t acceptance linking := active.underway t acceptance (underway_of_linking linking)
  linked := active.linked

theorem linking_claims {session : Session} {acceptance : Acceptance} {db : Database}
    (linking : session.linking = some acceptance) :
    ∃ version, session.accountClaim acceptance.account.id
      (db.accounts acceptance.account.id) = some version := by
  cases session with
  | identityLinked | invitationAccepted | accountReread =>
      cases linking
      exact ⟨_, if_pos rfl⟩
  | _ => cases linking

section Move

variable {state after : State} {t q : TxId} {action : Action} {id : UserAccountId}

/-- A request comes under way by reading its account, and no statement that leads on writes. -/
theorem underway_origin (move : Move state t action after) {acceptance : Acceptance}
    (underway : (after.sessions t).underway = some acceptance) :
    after.database = state.database ∧
      ((state.sessions t).underway = some acceptance ∨
        action = .getAccount ∧ ∃ request invitation,
          state.sessions t = .invitationFound request invitation ∧
          (state.accounts invitation.userAccountId).read t = some acceptance.account ∧
          acceptance.account.identity = none) := by
  cases move with
  | advance action next reads =>
      rw [show (state.goto t next).sessions t = next from Function.update_self ..] at underway
      refine ⟨rfl, ?_⟩
      generalize state.sessions t = from_ at reads
      cases reads with
      | account request invitation account seen unlinked =>
          cases underway
          exact .inr ⟨rfl, request, invitation, rfl, seen, unlinked⟩
      | reread => exact .inl underway
      | invitation | probe | load => cases underway
  | refuse action next open_ refused =>
      rw [show (state.rollback t next).sessions t = next from Function.update_self ..] at underway
      cases refused <;> cases underway
  | link reading row at_ seen free clear =>
      simp only [State.withAccounts, Function.update_self] at underway
      cases underway
      refine ⟨?_, .inl (by rw [at_]; rfl)⟩
      simp only [State.database, State.withAccounts, Table.snapshot_update]
  | settle action next id change row settles seen pending free =>
      simp only [State.withInvitations, Function.update_self] at underway
      refine ⟨?_, .inl ?_⟩
      · simp only [State.database, State.withInvitations, Table.snapshot_update]
      · generalize state.sessions t = from_ at settles
        cases settles with
        | accept => exact underway
        | revoke => cases underway
  | commit next commits =>
      rw [show (state.commit t next).sessions t = next from Function.update_self ..] at underway
      generalize state.sessions t = from_ at commits
      cases commits <;> cases underway
  | setState | insertAccount =>
      simp only [State.withAccounts, Function.update_self] at underway
      cases underway
  | expire | insert =>
      simp only [State.withInvitations, Function.update_self] at underway
      cases underway

theorem state_move (sound : Sound state) (move : Move state t action after) {row : UserAccount}
    (stored : state.database.accounts id = some row) :
    ∃ later, after.database.accounts id = some later ∧
      (later.state = row.state ∨ ∃ request, action = .setState request ∧
        request.accountId = id ∧ row.tenantId = request.tenantId ∧
        later.state = request.state) := by
  cases move_writes sound move with
  | nothing same => exact ⟨row, same ▸ stored, .inl rfl⟩
  | setState request asked unlocked accounts _ owned =>
      rw [accounts]
      by_cases here : id = request.accountId
      · subst here
        rcases owned with ⟨_, found, tenant⟩
        rw [stored] at found
        cases found
        rw [Function.update_self, stored]
        exact ⟨_, rfl, .inr ⟨request, asked, rfl, tenant, rfl⟩⟩
      · rw [Function.update_of_ne here]
        exact ⟨row, stored, .inl rfl⟩
  | insertAccount account unlocked absent accounts _ =>
      rw [accounts]
      have different : id ≠ account.id := by
        rintro rfl
        rw [absent] at stored
        cases stored
      rw [Function.update_of_ne different]
      exact ⟨row, stored, .inl rfl⟩
  | committed next commits session accounts _ =>
      rw [accounts id, stored]
      generalize state.sessions t = from_ at commits
      cases commits with
      | accept acceptance linked =>
          by_cases own : id = acceptance.account.id
          · simp only [Session.accountClaim, if_pos own, Option.getD_some, Option.map_some]
            exact ⟨_, rfl, .inl rfl⟩
          · simp only [Session.accountClaim, if_neg own, Option.getD_none]
            exact ⟨row, rfl, .inl rfl⟩
      | create | revoke => exact ⟨row, rfl, .inl rfl⟩

theorem isActive_iff {db : Database} :
    db.isActive id = true ↔ ∃ row, db.accounts id = some row ∧ row.state = .active := by
  simp only [Database.isActive, Option.any_eq_true, beq_iff_eq]

theorem reading_move (sound : Sound state) (orderly : Orderly state ⟨t, action⟩)
    (move : Move state t action after) {acceptance : Acceptance}
    (reading : state.sessions q = .accountRead acceptance)
    (active : state.database.isActive acceptance.account.id = true) :
    after.database.isActive acceptance.account.id = true := by
  rcases isActive_iff.mp active with ⟨row, stored, was⟩
  rcases state_move sound move stored with
    ⟨later, found, same | ⟨request, asked, here, tenant, set_⟩⟩
  · exact isActive_iff.mpr ⟨later, found, same.trans was⟩
  · refine isActive_iff.mpr ⟨later, found, ?_⟩
    cases wanted : request.state with
    | active => rw [set_, wanted]
    | deactivated =>
        exact absurd here.symm
          (orderly.deactivate request row asked wanted (here ▸ stored) tenant q acceptance reading)

theorem underway_move (sound : Sound state) (facts : Facts state)
    (active : ReadsOnlyActive state) (orderly : Orderly state ⟨t, action⟩)
    (move : Move state t action after) {acceptance : Acceptance}
    (underway : (after.sessions q).underway = some acceptance) :
    after.database.isActive acceptance.account.id = true := by
  by_cases own : q = t
  · subst own
    rcases underway_origin move underway with
      ⟨same, was | ⟨asked, request, invitation, at_, seen, unlinked⟩⟩
    · rw [same]
      exact active.underway q acceptance was
    · have stored : state.database.accounts invitation.userAccountId =
          some acceptance.account := by
        rwa [seen_account sound (by intro committed; rw [at_]; rfl)] at seen
      rw [same, facts.accountsKeyed _ _ stored, isActive_iff]
      exact ⟨_, stored, orderly.getAccount asked request invitation _ at_ stored unlinked⟩
  · rw [move_others move own] at underway
    rcases underway_cases underway with reading | linking
    · exact reading_move sound orderly move reading (active.underway q acceptance underway)
    · obtain ⟨version, claims⟩ : ∃ version,
          (state.sessions q).accountClaim acceptance.account.id
            (state.database.accounts acceptance.account.id) = some version :=
        linking_claims linking
      -- the row lock keeps everybody else away
      rw [Database.isActive, account_frame sound move own claims]
      exact active.underway q acceptance underway

theorem readsOnlyActive_move (sound : Sound state) (facts : Facts state)
    (active : ReadsOnlyActive state) (orderly : Orderly state ⟨t, action⟩)
    (move : Move state t action after) : ReadsOnlyActive after := by
  constructor
  · intro q acceptance underway
    exact underway_move sound facts active orderly move underway
  · intro q acceptance linked accepted
    rcases move_accepted move accepted with was | ⟨rfl, reread, _⟩
    · exact active.linked q acceptance linked was
    · rcases isActive_iff.mp (active.underway q acceptance (by rw [reread]; rfl)) with
        ⟨row, stored, was⟩
      have mine := facts.sessions q
      rw [reread] at mine
      rcases mine with ⟨_, _, row, found, rfl⟩
      rw [stored] at found
      cases found
      exact was

theorem deactivated_move (sound : Sound state) {row : UserAccount}
    (stored : state.database.accounts id = some row) (deactivated : row.state = .deactivated)
    (orderly : Orderly state ⟨t, action⟩) (move : Move state t action after) :
    ∃ later, after.database.accounts id = some later ∧ later.state = .deactivated := by
  rcases state_move sound move stored with
    ⟨later, found, same | ⟨request, asked, here, tenant, set_⟩⟩
  · exact ⟨later, found, same.trans deactivated⟩
  · refine ⟨later, found, ?_⟩
    cases wanted : request.state with
    | deactivated => rw [set_, wanted]
    | active =>
        have was := orderly.activate request row asked wanted (here ▸ stored) tenant
        rw [deactivated] at was
        cases was

end Move

/-- The account has not been and is not being linked by the request. -/
def Unlinking (id : UserAccountId) (session : Session) : Prop :=
  ∀ acceptance linked,
    (session = .accepted acceptance linked ∨ session.underway = some acceptance) →
    acceptance.account.id ≠ id

/-- The request stays away from an account that it finds deactivated. -/
theorem unlinking_move {state after : State} {t q : TxId} {action : Action} {id : UserAccountId}
    {row : UserAccount} (sound : Sound state) (facts : Facts state)
    (stored : state.database.accounts id = some row) (deactivated : row.state = .deactivated)
    (orderly : Orderly state ⟨t, action⟩) (away : Unlinking id (state.sessions q))
    (move : Move state t action after) : Unlinking id (after.sessions q) := by
  intro acceptance linked
  rintro (accepted | underway)
  · rcases move_accepted move accepted with was | ⟨rfl, reread, _⟩
    · exact away acceptance linked (.inl was)
    · exact away acceptance linked (.inr (by rw [reread]; rfl))
  · by_cases own : q = t
    · subst own
      rcases (underway_origin move underway).2 with
        was | ⟨asked, request, invitation, at_, seen, unlinked⟩
      · exact away acceptance linked (.inr was)
      · rw [seen_account sound (by intro committed; rw [at_]; rfl)] at seen
        have active := orderly.getAccount asked request invitation _ at_ seen unlinked
        have keyed := facts.accountsKeyed _ _ seen
        rintro rfl
        rw [keyed, seen] at stored
        cases stored
        rw [deactivated] at active
        cases active
    · rw [move_others move own] at underway
      exact away acceptance linked (.inr underway)

abbrev OrderlyRun : State → List Event → State → Prop :=
  Run (Guarded Orderly (Steps State.step))

theorem readsOnlyActive_run {first last : State} {trace : List Event} (initial : first.Initial)
    (run : OrderlyRun first trace last) : ReadsOnlyActive last := by
  have start : ReadsOnlyActive first := by
    constructor <;> simp [initial.sessions, Session.underway, Session.linking]
  have known := run.invariant_under (fun state => Sound state ∧ Facts state) ReadsOnlyActive
    (fun state event after now taken =>
      have move := step_move taken.2
      ⟨sound_move now.1 move, facts_move now.1 now.2 move⟩)
    (fun state event after now active taken =>
      readsOnlyActive_move now.1 now.2 active taken.1 (step_move taken.2))
    ⟨sound_initial initial, facts_initial initial⟩ start
  exact known.2

theorem unlinking_run {first last : State} {trace : List Event} {id : UserAccountId}
    {row : UserAccount} {q : TxId} (sound : Sound first)
    (facts : Facts first) (stored : first.database.accounts id = some row)
    (deactivated : row.state = .deactivated) (away : Unlinking id (first.sessions q))
    (run : OrderlyRun first trace last) : Unlinking id (last.sessions q) := by
  induction run generalizing row with
  | nil => exact away
  | cons taken rest ih =>
      have move := step_move taken.2
      rcases deactivated_move sound stored deactivated taken.1 move with ⟨later, there, still⟩
      exact ih (sound_move sound move) (facts_move sound facts move) there still
        (unlinking_move sound facts stored deactivated taken.1 away move)

/-- An identity is linked only over an active account, and an accept request that begins on a
deactivated account never links one to it. -/
theorem deactivated_accounts_gain_no_identity {first middle last : State}
    {front back : List Event} (initial : first.Initial) (run : OrderlyRun first front middle)
    (continued : OrderlyRun middle back last) :
    LinksOnlyActive last ∧
      ∀ id row t, middle.database.accounts id = some row → row.state = .deactivated →
        middle.sessions t = .idle →
        ∀ acceptance linked, last.sessions t = .accepted acceptance linked →
          acceptance.account.id ≠ id := by
  refine ⟨(readsOnlyActive_run initial (run.append continued)).linksOnlyActive, ?_⟩
  intro id row t stored deactivated idle acceptance linked accepted
  have known := sound_facts_run ⟨sound_initial initial, facts_initial initial⟩ run.forget
  have away : Unlinking id (middle.sessions t) := by
    intro other version either
    rw [idle] at either
    rcases either with absurd_ | absurd_ <;> cases absurd_
  exact unlinking_run known.1 known.2 stored deactivated away continued acceptance linked
    (.inl accepted)

/-- `Orderly`, computed where nobody but `requests` has begun. -/
def orderlyAmong (requests : List TxId) (state : State) (event : Event) : Bool :=
  requests.contains event.t &&
    match event.action with
    | .getAccount =>
        match state.sessions event.t with
        | .invitationFound _ invitation =>
            (state.database.accounts invitation.userAccountId).all fun account =>
              account.identity.isSome || account.state == .active
        | _ => true
    | .setState request =>
        (state.database.accounts request.accountId).all fun account =>
          match request.state with
          | .active => account.state == .active
          | .deactivated => requests.all fun t =>
              match state.sessions t with
              | .accountRead acceptance => acceptance.account.id != request.accountId
              | _ => true
    | _ => true

theorem orderly_of_among {requests : List TxId} {state : State} {event : Event}
    (others : ∀ t ∉ requests, state.sessions t = .idle)
    (seen : orderlyAmong requests state event = true) : Orderly state event := by
  rcases event with ⟨t, action⟩
  have allowed := (Bool.and_eq_true_iff.mp seen).2
  constructor
  · rintro ⟨⟩ request invitation account at_ stored unlinked
    simpa [at_, stored, unlinked] using allowed
  · rintro request account ⟨⟩ wanted stored _ q acceptance reading
    have known : q ∈ requests := by
      by_contra unknown
      rw [others q unknown] at reading
      cases reading
    simp only [stored, wanted, Option.all_some, List.all_eq_true] at allowed
    simpa [reading] using allowed q known
  · rintro request account ⟨⟩ wanted stored _
    simpa [stored, wanted] using allowed

theorem orderly_of_checked {requests : List TxId} {first last : State} {trace : List Event}
    (idle : ∀ t, first.sessions t = .idle)
    (computed : exec (checked (orderlyAmong requests) State.step) first trace = some last) :
    OrderlyRun first trace last := by
  refine (Run.of_checked computed).strengthen
    (fun state => ∀ t ∉ requests, state.sessions t = .idle) ?_ ?_ (fun t _ => idle t)
  · intro state event after others taken t unknown
    have mine := (Bool.and_eq_true_iff.mp taken.1).1
    have other : t ≠ event.t := by
      rintro rfl
      exact unknown (List.contains_iff_mem.mp mine)
    rw [move_others (step_move taken.2) other]
    exact others t unknown
  · intro state event others seen
    exact orderly_of_among others seen

def sampleDeactivation : List Event :=
  [⟨3, .setState ⟨sampleAccount.tenantId, sampleAccount.id, .deactivated⟩⟩, ⟨3, .getState⟩]

theorem deactivated_accounts_gain_no_identity_sample : ∃ last,
    OrderlyRun sampleStart (sampleInvitation ++ (sampleAccept 2 ++ sampleDeactivation)) last ∧
    last.database.isActive sampleAccount.id = false ∧ LinksOnlyActive last := by
  have computed : (exec (checked (orderlyAmong [0, 1, 2, 3]) State.step) sampleStart
      (sampleInvitation ++ (sampleAccept 2 ++ sampleDeactivation))).map
      (fun state => state.database.isActive sampleAccount.id) = some false := by decide
  rcases Option.map_eq_some_iff.mp computed with ⟨last, reached, inactive⟩
  have run := orderly_of_checked (fun _ => rfl) reached
  exact ⟨last, run, inactive,
    (deactivated_accounts_gain_no_identity sampleStart_initial run (.nil last)).1⟩

def Session.isIdle : Session → Bool
  | idle => true
  | _ => false

theorem Session.eq_idle {session : Session} (idle : session.isIdle = true) : session = .idle := by
  cases session with
  | idle => rfl
  | _ => cases idle

def Session.acceptedState : Session → Option UserAccountState
  | accepted _ linked => some linked.state
  | _ => none

theorem Session.acceptedState_some {session : Session} {state : UserAccountState}
    (found : session.acceptedState = some state) :
    ∃ acceptance linked, session = .accepted acceptance linked ∧ linked.state = state := by
  cases session with
  | accepted acceptance linked => exact ⟨acceptance, linked, rfl, Option.some.inj found⟩
  | _ => cases found

/-- An accept request that begins on a deactivated account links it. -/
theorem deactivated_account_is_linked :
    sampleStart.Initial ∧
    ∃ middle last, Run (Steps State.step) sampleStart (sampleInvitation ++ sampleDeactivation)
        middle ∧
      middle.database.isActive sampleAccount.id = false ∧ middle.sessions 2 = .idle ∧
      Run (Steps State.step) middle (sampleAccept 2) last ∧ ¬LinksOnlyActive last := by
  refine ⟨sampleStart_initial, ?_⟩
  have computed : (exec State.step sampleStart (sampleInvitation ++ sampleDeactivation)).map
      (fun state => (state.database.isActive sampleAccount.id, (state.sessions 2).isIdle)) =
        some (false, true) := by decide
  rcases Option.map_eq_some_iff.mp computed with ⟨middle, reached, seen⟩
  have linked : (exec State.step sampleStart
      (sampleInvitation ++ sampleDeactivation ++ sampleAccept 2)).map
      (fun state => (state.sessions 2).acceptedState) = some (some .deactivated) := by decide
  rcases Run.continue_exec reached linked with ⟨last, continued, found⟩
  rcases Prod.mk.inj seen with ⟨inactive, idle⟩
  refine ⟨middle, last, Run.of_exec reached, inactive, ?_, Run.of_exec continued, ?_⟩
  · exact Session.eq_idle idle
  · intro active
    rcases Session.acceptedState_some found with ⟨acceptance, account, accepted, deactivated⟩
    have state := active.linked 2 acceptance account accepted
    rw [state] at deactivated
    cases deactivated

end SwiyuIssuer.Linking
