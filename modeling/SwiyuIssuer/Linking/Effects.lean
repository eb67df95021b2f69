import SwiyuIssuer.Linking.Moves

/-! The row locks and the unique indexes along a run, and what one statement makes of the committed
rows. -/

namespace SwiyuIssuer.Linking

open Library Persistence

structure Sound (state : State) : Prop where
  accounts : Held state.accounts state.sessions Session.accountClaim
  invitations : Held state.invitations state.sessions Session.invitationClaim
  listedAccounts : ∀ id, id ∉ state.accountIds → state.accounts id = Cell.clean none
  listedInvitations : ∀ id, id ∉ state.invitationIds → state.invitations id = Cell.clean none
  identities : UniqueIndex.Sound UserAccounts.identityKey state.accounts
  pendings : UniqueIndex.Sound UserAccountInvitations.pendingKey state.invitations
  codes : UniqueIndex.Sound UserAccountInvitations.codeKey state.invitations

theorem sound_initial {state : State} (initial : state.Initial) : Sound state := by
  refine ⟨?_, ?_, fun id _ => initial.accounts id, fun id _ => initial.invitations id,
    ?_, ?_, ?_⟩
  · intro id t version
    simp [initial.accounts id, initial.sessions t, Session.accountClaim]
  · intro id t version
    simp [initial.invitations id, initial.sessions t, Session.invitationClaim]
  · constructor <;> simp [initial.accounts, UserAccounts.identityKey]
  · constructor <;> simp [initial.invitations, UserAccountInvitations.pendingKey]
  · constructor <;> simp [initial.invitations, UserAccountInvitations.codeKey]

section Move

variable {state after : State} {t : TxId} {action : Action} {from_ next : Session}
  {id : InvitationId} {change : InvitationRow → InvitationRow}

theorem refusal_unclaiming (refused : Refusal next) : next.Unclaiming := by
  cases refused <;> exact ⟨fun _ _ => rfl, fun _ _ => rfl⟩

theorem commits_unclaiming (commits : Commits from_ next) : next.Unclaiming := by
  cases commits <;> exact ⟨fun _ _ => rfl, fun _ _ => rfl⟩

theorem advance_accountClaim (reads : Advance state t action from_ next) (id : UserAccountId)
    (committed : Option UserAccount) :
    next.accountClaim id committed = from_.accountClaim id committed := by
  cases reads <;> rfl

theorem advance_invitationClaim (reads : Advance state t action from_ next) (id : InvitationId)
    (committed : Option InvitationRow) :
    next.invitationClaim id committed = from_.invitationClaim id committed := by
  cases reads <;> rfl

theorem settles_accountClaim (settles : Settles from_ next id change) (account : UserAccountId)
    (committed : Option UserAccount) :
    next.accountClaim account committed = from_.accountClaim account committed := by
  cases settles <;> rfl

theorem settles_claims (settles : Settles from_ next id change)
    (committed : Option InvitationRow) :
    from_.invitationClaim id committed = none ∧
      next.invitationClaim id committed = some (committed.map change) := by
  cases settles <;> exact ⟨rfl, if_pos rfl⟩

theorem settles_rest (settles : Settles from_ next id change) {other : InvitationId}
    (committed : Option InvitationRow) (different : other ≠ id) :
    next.invitationClaim other committed = from_.invitationClaim other committed := by
  cases settles <;> exact if_neg different

/-- The two changes of a pending invitation keep whose it is and spend its code. -/
theorem settles_keys (settles : Settles from_ next id change) (row : Option InvitationRow) :
    UserAccountInvitations.pendingKey (row.map change) = none ∧
      UserAccountInvitations.codeKey (row.map change) = none := by
  cases settles <;> cases row <;> exact ⟨rfl, rfl⟩

theorem unclaimed_writer (sound : Sound state) {id : UserAccountId}
    (unlocked : (state.accounts id).writer = none) (other : TxId) (row : Option UserAccount) :
    (state.sessions other).accountClaim id row = none :=
  Session.accountClaim_none (sound.accounts.unclaimed unlocked other) row

theorem accounts_move (sound : Sound state) (move : Move state t action after) :
    Held after.accounts after.sessions Session.accountClaim := by
  have held := sound.accounts
  cases move with
  | advance action next reads => exact held.goto (advance_accountClaim reads)
  | refuse action next open_ refused => exact held.rollback (refusal_unclaiming refused).accounts
  | link acceptance row at_ seen free clear =>
      apply held.update free
      · have unclaimed : (state.sessions t).accountClaim acceptance.account.id
            (state.accounts acceptance.account.id).committed = none := by
          rw [at_]
          rfl
        rw [held.read_unclaimed unclaimed]
        exact if_pos rfl
      · intro other committed different
        rw [at_]
        exact if_neg different
  | settle action next id change row settles seen pending free =>
      exact held.goto (settles_accountClaim settles)
  | expire request expiresAt due at_ flipped => exact held.goto_from at_ fun _ _ => rfl
  | insert creation id codeHash at_ unlocked absent code pending =>
      exact held.goto_from at_ fun _ _ => rfl
  | setState request at_ unlocked =>
      apply held.autocommit unlocked
      · intro key committed
        rw [at_]
        rfl
      · intro other
        exact unclaimed_writer sound unlocked other _
  | insertAccount account at_ unlocked absent clear =>
      apply held.autocommit unlocked
      · intro key committed
        rw [at_]
        rfl
      · intro other
        exact unclaimed_writer sound unlocked other _
  | commit next commits =>
      apply held.commit (commits_unclaiming commits).accounts
      intro other key version _ _ unclaimed
      exact Session.accountClaim_none unclaimed version

theorem invitations_move (sound : Sound state) (move : Move state t action after) :
    Held after.invitations after.sessions Session.invitationClaim := by
  have held := sound.invitations
  cases move with
  | advance action next reads => exact held.goto (advance_invitationClaim reads)
  | refuse action next open_ refused => exact held.rollback (refusal_unclaiming refused).invitations
  | link acceptance row at_ seen free clear => exact held.goto_from at_ fun _ _ => rfl
  | settle action next id change row settles seen pending free =>
      have claims := settles_claims settles (state.invitations id).committed
      apply held.update free
      · rw [held.read_unclaimed claims.1]
        exact claims.2
      · intro other committed different
        exact settles_rest settles committed different
  | expire request expiresAt due at_ flipped =>
      apply held.rewrite
      intro id
      have unclaimed : (state.sessions t).invitationClaim id (state.invitations id).committed =
          none := by
        rw [at_]
        rfl
      by_cases member : id ∈ due
      · refine .inr ⟨_, (flipped id member).2, if_pos member, ?_⟩
        rw [held.read_unclaimed unclaimed]
        exact if_pos member
      · refine .inl ⟨if_neg member, ?_⟩
        rw [unclaimed]
        exact if_neg member
  | insert creation id codeHash at_ unlocked absent code pending =>
      apply held.update
      · simp [Cell.free, unlocked]
      · exact if_pos rfl
      · intro other committed different
        rw [at_]
        exact if_neg different
  | setState request at_ unlocked => exact held.goto_from at_ fun _ _ => rfl
  | insertAccount account at_ unlocked absent clear => exact held.goto_from at_ fun _ _ => rfl
  | commit next commits =>
      apply held.commit (commits_unclaiming commits).invitations
      intro other key version _ _ unclaimed
      exact Session.invitationClaim_none unclaimed version

/-- A row that carries an index entry is one of the rows that a statement looks at. -/
theorem listed_of_carries {κ α ι : Type} [DecidableEq ι] {keyOf : Option α → Option ι}
    {table : Table TxId κ (Option α)} {ids : List κ}
    (nothing : keyOf none = none) (listed : ∀ id, id ∉ ids → table id = Cell.clean none)
    (id : κ) (entry : ι) (carries : (table id).carries keyOf t entry = true) : id ∈ ids := by
  by_contra absent
  simp [listed id absent, Cell.carries, nothing] at carries

theorem listedAccounts_move (sound : Sound state) (move : Move state t action after) :
    ∀ id, id ∉ after.accountIds → after.accounts id = Cell.clean none := by
  have listed := sound.listedAccounts
  cases move with
  | refuse action next open_ refused =>
      intro id absent
      exact (Table.rollback_apply ..).trans (by rw [listed id absent]; rfl)
  | commit next commits =>
      intro id absent
      exact (Table.commit_apply ..).trans (by rw [listed id absent]; rfl)
  | link acceptance row at_ seen free clear =>
      intro id absent
      have different : id ≠ acceptance.account.id := by
        rintro rfl
        rw [listed _ absent] at seen
        cases seen
      exact (Table.update_ne _ _ _ different).trans (listed id absent)
  | setState request at_ unlocked =>
      intro id absent
      by_cases here : id = request.accountId
      · subst here
        exact (Function.update_self ..).trans (by rw [listed _ absent]; rfl)
      · exact (Function.update_of_ne here ..).trans (listed id absent)
  | insertAccount account at_ unlocked gone clear =>
      intro id absent
      have outside := not_or.mp (mt List.mem_cons.mpr absent)
      exact (Function.update_of_ne outside.1 ..).trans (listed id outside.2)
  | advance | settle | expire | insert => exact listed

theorem listedInvitations_move (sound : Sound state) (move : Move state t action after) :
    ∀ id, id ∉ after.invitationIds → after.invitations id = Cell.clean none := by
  have listed := sound.listedInvitations
  cases move with
  | refuse action next open_ refused =>
      intro id absent
      exact (Table.rollback_apply ..).trans (by rw [listed id absent]; rfl)
  | commit next commits =>
      intro id absent
      exact (Table.commit_apply ..).trans (by rw [listed id absent]; rfl)
  | settle action next id change row settles seen pending free =>
      intro other absent
      have different : other ≠ id := by
        rintro rfl
        rw [listed _ absent] at seen
        cases seen
      exact (Table.update_ne _ _ _ different).trans (listed other absent)
  | expire request expiresAt due at_ flipped =>
      intro id absent
      have outside : id ∉ due := by
        intro member
        have isDue := (flipped id member).1
        rw [listed id absent] at isDue
        cases isDue
      exact (if_neg outside).trans (listed id absent)
  | insert creation id codeHash at_ unlocked gone code pending =>
      intro other absent
      have outside := not_or.mp (mt List.mem_cons.mpr absent)
      exact (Table.update_ne _ _ _ outside.1).trans (listed other outside.2)
  | advance | link | setState | insertAccount => exact listed

/-- A statement outside any transaction is the update and the commit of one. -/
theorem identities_autocommit (sound : Sound state) (idle : state.sessions t = .idle)
    {id : UserAccountId} {write : Option UserAccount → Option UserAccount}
    (unlocked : (state.accounts id).writer = none)
    (clear : ∀ entry, UserAccounts.identityKey (write (state.accounts id).committed) =
      some entry → ∀ other, other ≠ id →
        (state.accounts other).carries UserAccounts.identityKey t entry = false) :
    UniqueIndex.Sound UserAccounts.identityKey
      (Function.update state.accounts id ((state.accounts id).autocommit write)) := by
  have outside : ∀ row version, (state.accounts row).writer ≠ some (t, version) := by
    intro row version
    apply sound.accounts.unheld
    rw [idle]
    rfl
  rw [UniqueIndex.autocommit_eq write unlocked outside]
  apply UniqueIndex.Sound.commit
  apply sound.identities.enter
  · simp [Cell.free, unlocked]
  · rw [Cell.read_unheld (outside id)]
    exact clear

theorem identities_move (sound : Sound state) (move : Move state t action after) :
    UniqueIndex.Sound UserAccounts.identityKey after.accounts := by
  have identities := sound.identities
  cases move with
  | refuse action next open_ refused => exact identities.rollback t
  | commit next commits => exact identities.commit t
  | link acceptance row at_ seen free clear =>
      apply identities.enter free
      intro entry has
      rw [seen] at has
      exact UniqueIndex.probe_clear clear (listed_of_carries rfl sound.listedAccounts) has
  | setState request at_ unlocked =>
      apply identities_autocommit sound at_ unlocked
      intro entry has
      have free : (state.accounts request.accountId).free t = true := by
        simp [Cell.free, unlocked]
      apply identities.clear free
      rw [Cell.read_unheld (by simp [unlocked])]
      rw [← has]
      cases (state.accounts request.accountId).committed <;> rfl
  | insertAccount account at_ unlocked absent clear =>
      apply identities_autocommit sound at_ unlocked
      intro entry has
      exact UniqueIndex.probe_clear clear (listed_of_carries rfl sound.listedAccounts) has
  | advance | settle | expire | insert => exact identities

theorem indexes_move (sound : Sound state) (move : Move state t action after) :
    UniqueIndex.Sound UserAccountInvitations.pendingKey after.invitations ∧
      UniqueIndex.Sound UserAccountInvitations.codeKey after.invitations := by
  have pendings := sound.pendings
  have codes := sound.codes
  cases move with
  | refuse action next open_ refused => exact ⟨pendings.rollback t, codes.rollback t⟩
  | commit next commits => exact ⟨pendings.commit t, codes.commit t⟩
  | settle action next id change row settles seen pending free =>
      have keys := settles_keys settles ((state.invitations id).read t)
      exact ⟨pendings.leave free keys.1, codes.leave free keys.2⟩
  | expire request expiresAt due at_ flipped =>
      have spent : ∀ row : Option InvitationRow,
          UserAccountInvitations.pendingKey (row.map UserAccountInvitations.asExpired) = none ∧
            UserAccountInvitations.codeKey (row.map UserAccountInvitations.asExpired) = none := by
        intro row
        cases row <;> exact ⟨rfl, rfl⟩
      constructor
      · apply pendings.rewrite (t := t)
        intro id
        by_cases member : id ∈ due
        · exact .inr ⟨_, (flipped id member).2, if_pos member, .inl (spent _).1⟩
        · exact .inl (if_neg member)
      · apply codes.rewrite (t := t)
        intro id
        by_cases member : id ∈ due
        · exact .inr ⟨_, (flipped id member).2, if_pos member, .inl (spent _).2⟩
        · exact .inl (if_neg member)
  | insert creation id codeHash at_ unlocked absent code pending =>
      have free : (state.invitations id).free t = true := by simp [Cell.free, unlocked]
      constructor
      · apply pendings.enter free
        intro entry has
        exact UniqueIndex.probe_clear pending (listed_of_carries rfl sound.listedInvitations) has
      · apply codes.enter free
        intro entry has
        exact UniqueIndex.probe_clear code (listed_of_carries rfl sound.listedInvitations) has
  | advance | link | setState | insertAccount => exact ⟨pendings, codes⟩

theorem sound_move (sound : Sound state) (move : Move state t action after) : Sound after where
  accounts := accounts_move sound move
  invitations := invitations_move sound move
  listedAccounts := listedAccounts_move sound move
  listedInvitations := listedInvitations_move sound move
  identities := identities_move sound move
  pendings := (indexes_move sound move).1
  codes := (indexes_move sound move).2

end Move

end SwiyuIssuer.Linking
