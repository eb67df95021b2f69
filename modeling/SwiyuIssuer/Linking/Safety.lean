import SwiyuIssuer.Linking.Facts

/-! Linking over whole runs. -/

namespace SwiyuIssuer.Linking

open Library Persistence

section Move

variable {state after : State} {t q : TxId} {action : Action}

/-- No statement of another request changes a row that a session has a pending version of. -/
theorem invitation_frame (sound : Sound state) (move : Move state t action after)
    (other : q ≠ t) {id : InvitationId} {version : Option InvitationRow}
    (claims : (state.sessions q).invitationClaim id (state.database.invitations id) =
      some version) : after.database.invitations id = state.database.invitations id := by
  cases move_writes sound move with
  | nothing same => rw [same]
  | setState _ _ _ _ invitations | insertAccount _ _ _ _ invitations => rw [invitations]
  | committed next commits session accounts invitations =>
      rw [invitations id]
      cases rival : (state.sessions t).invitationClaim id (state.database.invitations id) with
      | none => rfl
      | some installed => exact absurd (sound.invitations.exclusive rival claims) other

theorem account_frame (sound : Sound state) (move : Move state t action after)
    (other : q ≠ t) {id : UserAccountId} {version : Option UserAccount}
    (claims : (state.sessions q).accountClaim id (state.database.accounts id) =
      some version) : after.database.accounts id = state.database.accounts id := by
  have unlocked : ∀ key, (state.accounts key).writer = none → id ≠ key := by
    rintro key unlocked rfl
    have unclaimed := sound.accounts.unclaimed unlocked q
    rw [show (state.accounts id).committed = state.database.accounts id from rfl, claims]
      at unclaimed
    cases unclaimed
  cases move_writes sound move with
  | nothing same => rw [same]
  | setState request asked open_ accounts _ =>
      rw [accounts, Function.update_of_ne (unlocked request.accountId open_)]
  | insertAccount account open_ absent accounts _ =>
      rw [accounts, Function.update_of_ne (unlocked account.id open_)]
  | committed next commits session accounts invitations =>
      rw [accounts id]
      cases rival : (state.sessions t).accountClaim id (state.database.accounts id) with
      | none => rfl
      | some installed => exact absurd (sound.accounts.exclusive rival claims) other

theorem reads_effect {db now : Database} (effect : db.Effect now) {acceptance : Acceptance}
    (reads : Reads db acceptance) : Reads now acceptance := by
  rcases reads.invitation with ⟨row, found, owned⟩
  rcases (effect.invitations acceptance.invitation.id).kept found with
    ⟨next, there, _, kept, wasPending⟩
  rcases reads.account with ⟨account, stored⟩
  rcases (effect.accounts acceptance.account.id).kept stored with ⟨later, present, _, _⟩
  refine ⟨reads.named, reads.own, ⟨next, there, kept.trans owned⟩, ⟨later, present⟩, ?_⟩
  intro shown held showing pending holding
  rw [there] at showing
  cases showing
  rw [present] at holding
  cases holding
  have unlinked := reads.unlinked row account found (wasPending pending) stored
  by_contra linked
  exact effect.linking _ account later stored unlinked present linked _ row next found there
    (by rw [kept, owned, reads.own]) pending

theorem settled_effect {db now : Database} (effect : db.Effect now) {acceptance : Acceptance}
    (settled : Settled db acceptance) : Settled now acceptance := by
  rcases settled.invitation with ⟨row, found, accepted, owned⟩
  rcases settled.account with ⟨account, stored, identity⟩
  rcases (effect.accounts acceptance.account.id).kept stored with ⟨later, present, _, same⟩
  refine ⟨settled.named, ?_, ⟨later, present, same _ identity⟩⟩
  have step := effect.invitations acceptance.invitation.id
  rw [found] at step
  generalize now.invitations acceptance.invitation.id = result at step
  cases step with
  | same => exact ⟨row, rfl, accepted, owned⟩
  | settled _ _ pending =>
      rw [accepted] at pending
      cases pending

theorem facts_other (sound : Sound state) (facts : Facts state)
    (move : Move state t action after) (other : q ≠ t) :
    SessionFacts after.database (state.sessions q) := by
  have effect := effect_move sound facts move
  have mine := facts.sessions q
  have pending : ∀ id, IsPending state.database id →
      (∃ version, (state.sessions q).invitationClaim id (state.database.invitations id) =
        some version) → IsPending after.database id := by
    rintro id ⟨row, found, pending⟩ ⟨version, claims⟩
    exact ⟨row, (invitation_frame sound move other claims).trans found, pending⟩
  cases at_ : state.sessions q with
  | invitationFound request invitation =>
      rw [at_] at mine
      rcases mine with ⟨named, row, found, owned⟩
      rcases (effect.invitations invitation.id).kept found with ⟨next, there, _, kept, _⟩
      exact ⟨named, next, there, kept.trans owned⟩
  | accountRead acceptance | identityLinked acceptance =>
      rw [at_] at mine
      exact reads_effect effect mine
  | invitationAccepted acceptance =>
      rw [at_] at mine
      refine ⟨reads_effect effect mine.1, pending _ mine.2 ?_⟩
      rw [at_]
      exact ⟨_, if_pos rfl⟩
  | accountReread acceptance linked =>
      rw [at_] at mine
      rcases mine with ⟨reads, shown, row, stored, same⟩
      refine ⟨reads_effect effect reads, pending _ shown ?_, row, ?_, same⟩
      · rw [at_]
        exact ⟨_, if_pos rfl⟩
      · rw [account_frame sound move other (by rw [at_]; exact if_pos rfl)]
        exact stored
  | accepted acceptance linked =>
      rw [at_] at mine
      exact settled_effect effect mine
  | dueExpired creation =>
      rw [at_] at mine
      intro id member
      refine pending id (mine id member) ?_
      rw [at_]
      exact ⟨_, if_pos member⟩
  | invitationInserted creation row =>
      rw [at_] at mine
      rcases mine with ⟨due, absent, fresh, coded⟩
      have own : after.database.invitations row.id = state.database.invitations row.id :=
        invitation_frame sound move other (by rw [at_]; exact if_pos rfl)
      refine ⟨?_, own.trans absent, fresh, coded⟩
      intro id member
      have different : id ≠ row.id := by
        rintro rfl
        rcases due _ member with ⟨_, found, _⟩
        rw [absent] at found
        cases found
      refine pending id (due id member) ?_
      rw [at_]
      exact ⟨_, (if_neg different).trans (if_pos member)⟩
  | invitationRevoked request invitation =>
      rw [at_] at mine
      refine pending _ mine ?_
      rw [at_]
      exact ⟨_, if_pos rfl⟩
  | idle | acceptRefused | accountProbed | created | createRefused | invitationLoaded
  | revokeAnswered | stateSet | stateAnswered | accountCreated => trivial

theorem seen_invitation (sound : Sound state) {id : InvitationId}
    (unclaiming : ∀ committed, (state.sessions t).invitationClaim id committed = none) :
    (state.invitations id).read t = state.database.invitations id :=
  sound.invitations.read_unclaimed (unclaiming _)

theorem seen_account (sound : Sound state) {id : UserAccountId}
    (unclaiming : ∀ committed, (state.sessions t).accountClaim id committed = none) :
    (state.accounts id).read t = state.database.accounts id :=
  sound.accounts.read_unclaimed (unclaiming _)

theorem facts_advance (sound : Sound state) (facts : Facts state) {next : Session}
    (reads : Advance state t action (state.sessions t) next) :
    SessionFacts state.database next := by
  have mine := facts.sessions t
  generalize at_ : state.sessions t = session at reads mine
  cases reads with
  | invitation request id row seen named pending =>
      rw [seen_invitation sound (by intro committed; rw [at_]; rfl)] at seen
      obtain rfl := facts.invitationsKeyed id row seen
      exact ⟨named, row, seen, rfl⟩
  | account request invitation account seen unlinked =>
      rcases mine with ⟨named, row, found, owned⟩
      rw [seen_account sound (by intro committed; rw [at_]; rfl)] at seen
      have own := facts.accountsKeyed _ account seen
      refine ⟨named, own, ⟨row, found, owned⟩, ⟨account, own ▸ seen⟩, ?_⟩
      intro _ stored _ _ holding
      dsimp only at holding
      rw [own, seen] at holding
      cases holding
      exact unlinked
  | reread acceptance linked seen =>
      rcases mine with ⟨reads, pending⟩
      rcases reads.account with ⟨row, stored⟩
      have claims : (state.sessions t).accountClaim acceptance.account.id
          (state.accounts acceptance.account.id).committed =
            some (some (UserAccounts.link acceptance.request.user acceptance.request.now row)) := by
        rw [at_, show (state.accounts acceptance.account.id).committed = some row from stored]
        exact if_pos rfl
      rw [sound.accounts.read_claimed claims] at seen
      cases seen
      exact ⟨reads, pending, row, stored, rfl⟩
  | probe | load => trivial

theorem facts_commit {db now : Database} {session next : Session} (commits : Commits session next)
    (mine : SessionFacts db session)
    (accounts : ∀ id, now.accounts id =
      (session.accountClaim id (db.accounts id)).getD (db.accounts id))
    (invitations : ∀ id, now.invitations id =
      (session.invitationClaim id (db.invitations id)).getD (db.invitations id)) :
    SessionFacts now next := by
  cases commits with
  | accept acceptance linked =>
      rcases mine with ⟨reads, ⟨row, found, _⟩, account, stored, _⟩
      rcases reads.invitation with ⟨again, read, owned⟩
      rw [found] at read
      cases read
      refine ⟨reads.named,
        ⟨UserAccountInvitations.asAccepted acceptance.request.now row, ?_, rfl,
          owned.trans reads.own.symm⟩,
        ⟨UserAccounts.link acceptance.request.user acceptance.request.now account, ?_, rfl⟩⟩
      · rw [invitations, found]
        exact congrArg (Option.getD · _) (if_pos rfl)
      · rw [accounts, stored]
        exact congrArg (Option.getD · _) (if_pos rfl)
  | create | revoke => trivial

theorem facts_own (sound : Sound state) (facts : Facts state)
    (move : Move state t action after) : SessionFacts after.database (after.sessions t) := by
  have mine := facts.sessions t
  have writes := move_writes sound move
  cases move with
  | advance action next reads =>
      rw [show (state.goto t next).sessions t = next from Function.update_self ..]
      exact facts_advance sound facts reads
  | refuse action next open_ refused =>
      rw [show (state.rollback t next).sessions t = next from Function.update_self ..]
      cases refused <;> trivial
  | link acceptance row at_ seen free clear =>
      rw [at_] at mine
      simp only [State.database, State.withAccounts, Table.snapshot_update, Function.update_self]
      exact mine
  | settle action next id change row settles seen pending free =>
      have unclaimed := fun committed => (settles_claims settles committed).1
      rw [seen_invitation sound unclaimed] at seen
      generalize at_ : state.sessions t = session at settles mine
      simp only [State.database, State.withInvitations, Table.snapshot_update,
        Function.update_self]
      cases settles with
      | accept acceptance => exact ⟨mine, row, seen, pending⟩
      | revoke request invitation => exact ⟨row, seen, pending⟩
  | expire request expiresAt due at_ flipped =>
      have unchanged : ∀ next : Session, (state.withInvitations
          (fun id =>
            if id ∈ due then
              (state.invitations id).update t (Option.map UserAccountInvitations.asExpired)
            else state.invitations id)
          state.invitationIds t next).database = state.database := by
        intro next
        simp only [State.database, State.withInvitations, Database.mk.injEq, true_and]
        funext id
        by_cases member : id ∈ due <;> simp [Table.snapshot, member]
      rw [unchanged]
      simp only [State.withInvitations, Function.update_self]
      intro id member
      have isDue := (flipped id member).1
      rw [seen_invitation sound (by intro committed; rw [at_]; rfl)] at isDue
      rcases UserAccountInvitations.isDue_some isDue with ⟨row, found, _, pending⟩
      exact ⟨row, found, pending⟩
  | insert creation id codeHash at_ unlocked absent code pending =>
      rw [at_] at mine
      simp only [State.database, State.withInvitations, Table.snapshot_update,
        Function.update_self]
      exact ⟨mine, absent, rfl, rfl⟩
  | setState request at_ unlocked =>
      simp only [State.withAccounts, Function.update_self]
      trivial
  | insertAccount account at_ unlocked absent clear =>
      simp only [State.withAccounts, Function.update_self]
      trivial
  | commit next commits =>
      rw [show (state.commit t next).sessions t = next from Function.update_self ..]
      exact facts_commit commits mine (fun id => sound.accounts.committed_commit id)
        (fun id => sound.invitations.committed_commit id)

theorem move_others (move : Move state t action after) (other : q ≠ t) :
    after.sessions q = state.sessions q := by
  cases move <;> exact Function.update_of_ne other ..

/-- A session that has accepted stays as it is, and a new one has just committed. -/
theorem move_accepted (move : Move state t action after) {acceptance : Acceptance}
    {linked : UserAccount} (accepted : after.sessions q = .accepted acceptance linked) :
    state.sessions q = .accepted acceptance linked ∨
      (q = t ∧ state.sessions t = .accountReread acceptance linked ∧ action = .commit) := by
  by_cases own : q = t
  · subst own
    right
    refine ⟨rfl, ?_⟩
    cases move with
    | advance action next reads =>
        rw [show (state.goto q next).sessions q = next from Function.update_self ..] at accepted
        subst accepted
        generalize state.sessions q = from_ at reads
        cases reads
    | refuse action next open_ refused =>
        rw [show (state.rollback q next).sessions q = next from Function.update_self ..]
          at accepted
        subst accepted
        cases refused
    | settle action next id change row settles seen pending free =>
        simp only [State.withInvitations, Function.update_self] at accepted
        subst accepted
        generalize state.sessions q = from_ at settles
        cases settles
    | commit next commits =>
        rw [show (state.commit q next).sessions q = next from Function.update_self ..] at accepted
        subst accepted
        generalize state.sessions q = from_ at commits ⊢
        cases commits
        exact ⟨rfl, rfl⟩
    | link | setState | insertAccount =>
        simp only [State.withAccounts, Function.update_self] at accepted
        cases accepted
    | expire | insert =>
        simp only [State.withInvitations, Function.update_self] at accepted
        cases accepted
  · rw [move_others move own] at accepted
    exact .inl accepted

theorem accepted_kept (move : Move state t action after) {acceptance : Acceptance}
    {linked : UserAccount} (accepted : state.sessions q = .accepted acceptance linked) :
    after.sessions q = .accepted acceptance linked := by
  by_cases own : q = t
  · subst own
    exfalso
    cases move with
    | advance action next reads =>
        rw [accepted] at reads
        cases reads
    | refuse action next open_ refused =>
        rw [accepted] at open_
        cases open_
    | settle action next id change row settles seen pending free =>
        rw [accepted] at settles
        cases settles
    | commit next commits =>
        rw [accepted] at commits
        cases commits
    | link acceptance row at_ | expire request expiresAt due at_ | insert creation id codeHash at_
    | setState request at_ | insertAccount account at_ =>
        rw [accepted] at at_
        cases at_
  · rw [move_others move own]
    exact accepted

theorem keyed_move (facts : Facts state) (effect : state.database.Effect after.database) :
    (∀ id row, after.database.accounts id = some row → row.id = id) ∧
      ∀ id row, after.database.invitations id = some row →
        row.id = id ∧ (row.codeHash.isSome = true ↔ row.state = .pending) := by
  constructor
  · intro id row found
    have step := effect.accounts id
    rw [found] at step
    generalize was : state.database.accounts id = before at step
    cases step with
    | same => exact facts.accountsKeyed id row was
    | inserted _ named => exact named
    | stateSet old _ | linked old _ _ _ => exact facts.accountsKeyed id old was
  · intro id row found
    have step := effect.invitations id
    rw [found] at step
    generalize was : state.database.invitations id = before at step
    cases step with
    | same => exact ⟨facts.invitationsKeyed id row was, facts.hashed id row was⟩
    | settled old _ _ named _ ended spent =>
        refine ⟨named.trans (facts.invitationsKeyed id old was), ?_⟩
        rw [spent]
        simp [ended]
    | inserted _ named pending coded => exact ⟨named, by simp [pending, coded]⟩

theorem acceptedBy_move (sound : Sound state) (facts : Facts state)
    (move : Move state t action after) (id : InvitationId) (row : InvitationRow)
    (found : after.database.invitations id = some row) (accepted : row.state = .accepted) :
    ∃ u acceptance linked, after.sessions u = .accepted acceptance linked ∧
      acceptance.invitation.id = id := by
  by_cases before : state.database.invitations id = some row
  · rcases facts.acceptedBy id row before accepted with ⟨u, acceptance, linked, at_, named⟩
    exact ⟨u, acceptance, linked, accepted_kept move at_, named⟩
  · cases move_writes sound move with
    | nothing same => exact absurd (same ▸ found) before
    | setState _ _ _ _ invitations | insertAccount _ _ _ _ invitations =>
        exact absurd (invitations ▸ found) before
    | committed next commits session accounts invitations =>
        have mine := facts.sessions t
        rw [invitations id] at found
        generalize state.sessions t = from_ at commits found mine
        cases commits with
        | accept acceptance linked =>
            by_cases own : id = acceptance.invitation.id
            · exact ⟨t, acceptance, linked, session, own.symm⟩
            · simp only [Session.invitationClaim, if_neg own, Option.getD_none] at found
              exact absurd found before
        | create creation inserted =>
            rcases mine with ⟨_, _, pending, _⟩
            by_cases own : id = inserted.id
            · simp only [Session.invitationClaim, if_pos own, Option.getD_some,
                Option.some.injEq] at found
              rw [← found, pending] at accepted
              cases accepted
            · by_cases member : id ∈ creation.expired
              · simp only [Session.invitationClaim, if_neg own, if_pos member,
                  Option.getD_some] at found
                rcases Option.map_eq_some_iff.mp found with ⟨_, _, rfl⟩
                cases accepted
              · simp only [Session.invitationClaim, if_neg own, if_neg member,
                  Option.getD_none] at found
                exact absurd found before
        | revoke request invitation revoked =>
            by_cases own : id = request.invitationId
            · simp only [Session.invitationClaim, if_pos own, Option.getD_some] at found
              rcases Option.map_eq_some_iff.mp found with ⟨_, _, rfl⟩
              cases accepted
            · simp only [Session.invitationClaim, if_neg own, Option.getD_none] at found
              exact absurd found before

/-- An invitation that a request is about to accept has not been accepted by another one. -/
theorem not_yet_accepted (facts : Facts state) {acceptance theirs : Acceptance}
    {linked other : UserAccount} (mine : state.sessions t = .accountReread acceptance linked)
    (accepted : state.sessions q = .accepted theirs other) :
    acceptance.invitation.id ≠ theirs.invitation.id := by
  intro same
  have reread := facts.sessions t
  have settled := facts.sessions q
  rw [mine] at reread
  rw [accepted] at settled
  rcases reread with ⟨_, ⟨row, found, pending⟩, _⟩
  rcases settled.invitation with ⟨old, there, ended, _⟩
  rw [← same, found] at there
  cases there
  rw [pending] at ended
  cases ended

theorem facts_move (sound : Sound state) (facts : Facts state)
    (move : Move state t action after) : Facts after := by
  have effect := effect_move sound facts move
  have keyed := keyed_move facts effect
  refine ⟨?_, keyed.1, fun id row found => (keyed.2 id row found).1,
    fun id row found => (keyed.2 id row found).2, acceptedBy_move sound facts move, ?_⟩
  · intro u
    by_cases own : u = t
    · subst own
      exact facts_own sound facts move
    · rw [move_others move own]
      exact facts_other sound facts move own
  · intro one two mine theirs linked other first second same
    rcases move_accepted move first with was | ⟨rfl, reread, _⟩ <;>
      rcases move_accepted move second with before | ⟨rfl, read, _⟩
    · exact facts.once one two mine theirs linked other was before same
    · exact absurd same.symm (not_yet_accepted facts read was)
    · exact absurd same (not_yet_accepted facts reread before)
    · rfl

end Move

/-- What every committed state keeps to. -/
structure Safe (state : State) : Prop where
  onePending : ∀ one two first second, state.database.invitations one = some first →
    first.state = .pending → state.database.invitations two = some second →
    second.state = .pending → first.userAccountId = second.userAccountId → one = two
  hashed : ∀ id row, state.database.invitations id = some row →
    (row.codeHash.isSome = true ↔ row.state = .pending)
  acceptedBy : ∀ id row, state.database.invitations id = some row → row.state = .accepted →
    ∃! t, ∃ acceptance linked, state.sessions t = .accepted acceptance linked ∧
      acceptance.request.invitationId = id
  linked : ∀ t acceptance linked, state.sessions t = .accepted acceptance linked →
    ∃ row account, state.database.invitations acceptance.request.invitationId = some row ∧
      row.state = .accepted ∧ state.database.accounts row.userAccountId = some account ∧
      account.identity = some acceptance.request.user.identity
  oneAccount : ∀ one two first second identity, state.database.accounts one = some first →
    first.identity = some identity → state.database.accounts two = some second →
    second.identity = some identity → first.tenantId = second.tenantId → one = two

/-- No account that has an identity gets another one. -/
def IdentitiesKept (db now : Database) : Prop :=
  ∀ id row identity, db.accounts id = some row → row.identity = some identity →
    ∃ later, now.accounts id = some later ∧ later.identity = some identity

theorem Facts.safe {state : State} (sound : Sound state) (facts : Facts state) : Safe state where
  onePending := by
    intro one two first second here firstPending there secondPending same
    exact pending_unique sound here firstPending there secondPending same
  hashed := facts.hashed
  acceptedBy := by
    intro id row found accepted
    rcases facts.acceptedBy id row found accepted with ⟨t, acceptance, linked, at_, named⟩
    have mine := facts.sessions t
    rw [at_] at mine
    refine ⟨t, ⟨acceptance, linked, at_, mine.named.symm.trans named⟩, ?_⟩
    rintro u ⟨theirs, other, there, asked⟩
    have settled := facts.sessions u
    rw [there] at settled
    exact facts.once u t theirs acceptance other linked there at_
      (settled.named.trans (asked.trans named.symm))
  linked := by
    intro t acceptance linked at_
    have mine := facts.sessions t
    rw [at_] at mine
    rcases mine.invitation with ⟨row, found, accepted, owned⟩
    rcases mine.account with ⟨account, stored, identity⟩
    exact ⟨row, account, mine.named ▸ found, accepted, owned ▸ stored, identity⟩
  oneAccount := by
    intro one two first second identity here mine there theirs same
    apply sound.identities.committed one two (first.tenantId, identity)
    · show UserAccounts.identityKey (state.database.accounts one) = _
      rw [here, UserAccounts.identityKey, mine, Option.map_some]
    · show UserAccounts.identityKey (state.database.accounts two) = _
      rw [there, UserAccounts.identityKey, theirs, Option.map_some, same]

theorem sound_facts_run {first last : State} {trace : List Event}
    (known : Sound first ∧ Facts first) (run : Run (Steps State.step) first trace last) :
    Sound last ∧ Facts last := by
  apply run.invariant (fun state => Sound state ∧ Facts state) ?_ known
  rintro state event after ⟨sound, facts⟩ taken
  have move := step_move taken
  exact ⟨sound_move sound move, facts_move sound facts move⟩

/-- A session stays where it is while only other requests take statements. -/
theorem others_run {first last : State} {trace : List Event} {q : TxId}
    (run : Run (Steps State.step) first trace last) (others : ∀ event ∈ trace, event.t ≠ q) :
    last.sessions q = first.sessions q := by
  induction run with
  | nil => rfl
  | cons taken rest ih =>
      have here := move_others (step_move taken) (others _ List.mem_cons_self).symm
      rw [ih fun event member => others event (List.mem_cons_of_mem _ member), here]

theorem identities_run {first last : State} {trace : List Event}
    (known : Sound first ∧ Facts first) (run : Run (Steps State.step) first trace last) :
    IdentitiesKept first.database last.database := by
  induction run with
  | nil state => exact fun id row identity found set_ => ⟨row, found, set_⟩
  | cons taken rest ih =>
      have move := step_move taken
      have effect := effect_move known.1 known.2 move
      intro id row identity found set_
      rcases (effect.accounts id).kept found with ⟨later, present, _, same⟩
      exact ih ⟨sound_move known.1 move, facts_move known.1 known.2 move⟩ id later identity
        present (same identity set_)

/-- Every interleaving of create, revoke and accept requests links safely, whatever the accounts
are. -/
theorem linking_is_safe {first middle last : State} {front back : List Event}
    (initial : first.Initial) (run : Run (Steps State.step) first front middle)
    (continued : Run (Steps State.step) middle back last) :
    Safe last ∧ IdentitiesKept middle.database last.database := by
  have known := sound_facts_run ⟨sound_initial initial, facts_initial initial⟩ run
  have later := sound_facts_run known continued
  exact ⟨later.2.safe later.1, identities_run known continued⟩

def sampleAccount : UserAccount where
  id := ⟨"5Ua"⟩
  tenantId := ⟨"4Mk7yK5pQR7sN3"⟩
  provisioningFirstName := some "Ada"
  provisioningLastName := none
  provisioningHomeOrganization := none
  state := .active
  identity := none
  idpFirstName := none
  idpLastName := none
  linkedAt := none
  createdAt := 0

def sampleUser : AssertedUser := ⟨⟨"https://idp.test", "ada"⟩, some "Ada", none⟩

def sampleStart : State where
  accounts := fun _ => Cell.clean none
  invitations := fun _ => Cell.clean none
  accountIds := []
  invitationIds := []
  sessions := fun _ => .idle

theorem sampleStart_initial : sampleStart.Initial :=
  ⟨fun _ => rfl, fun _ => rfl, fun _ => rfl⟩

def sampleInvitation : List Event :=
  [⟨0, .insertAccount sampleAccount⟩,
    ⟨1, .probeAccount ⟨sampleAccount.tenantId, sampleAccount.id, none, 0⟩⟩,
    ⟨1, .expirePendingIfDue⟩, ⟨1, .insertInvitation ⟨"6In"⟩ ⟨"code"⟩⟩, ⟨1, .commit⟩]

def sampleAccept (t : TxId) : List Event :=
  [⟨t, .findByCodeHash ⟨⟨"6In"⟩, ⟨"code"⟩, sampleUser, 1⟩⟩, ⟨t, .getAccount⟩, ⟨t, .linkIdentity⟩,
    ⟨t, .markAccepted⟩, ⟨t, .getLinked⟩, ⟨t, .commit⟩]

theorem linking_is_safe_sample : ∃ middle last,
    Run (Steps State.step) sampleStart sampleInvitation middle ∧
    Run (Steps State.step) middle (sampleAccept 2) last ∧ Safe last ∧
    IdentitiesKept middle.database last.database := by
  have computed : (exec State.step sampleStart (sampleInvitation ++ sampleAccept 2)).isSome =
      true := by decide
  rcases Run.of_exec_append computed with ⟨middle, last, run, continued⟩
  have kept := linking_is_safe sampleStart_initial run continued
  exact ⟨middle, last, run, continued, kept.1, kept.2⟩

end SwiyuIssuer.Linking
