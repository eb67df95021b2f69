import SwiyuIssuer.Catalogue.Store

/-! Retirement and assignment of one type. -/

namespace SwiyuIssuer.Catalogue

open Library Persistence StatusStore

def State.isRetired (state : State) (id : CredentialTypeId) : Bool :=
  (state.types id).committed.any fun row => row.retiredAt.isSome

/-- An assignment that is inserted finds its type unretired, and a retirement that commits has
deleted every assignment that is there by then. Neither handler looks. -/
def sparesRetired (state : State) (event : Event) : Bool :=
  match event.action, state.sessions event.t with
  | .assign _, .pairOwned request =>
      (state.assignments request.key).committed.isSome ||
        !state.isRetired request.credentialTypeId
  | .commit, .assignmentsDeleted request deleted =>
      state.assignmentKeys.all fun key =>
        key.2 != request.id || (state.assignments key).committed.isNone || deleted.contains key
  | _, _ => true

/-- No assignment refers to a retired type. -/
def NeverAssigned (db : Database) : Prop :=
  ∀ key row found, db.assignments key = some row → db.types key.2 = some found →
    found.retiredAt = none

structure Sound (state : State) : Prop where
  types : Held state.types state.sessions Session.typeClaim
  assignments : Held state.assignments state.sessions Session.assignmentClaim
  listed : ∀ key, key ∉ state.assignmentKeys → (state.assignments key).committed = none

/-- Everything one statement can do. -/
inductive Move (state : State) (t : TxId) : Action → State → Prop
  | quiet (action : Action) (after : State) (types : after.types = state.types)
      (assignments : after.assignments = state.assignments)
      (keys : after.assignmentKeys = state.assignmentKeys)
      (issuers : ∀ id, after.issuers id = state.issuers id ∨
        ∃ row, after.issuers id = some row ∧ row.id = id)
      (typeClaims : ∀ u id committed,
        (after.sessions u).typeClaim id committed = (state.sessions u).typeClaim id committed)
      (assignmentClaims : ∀ u key committed, (after.sessions u).assignmentClaim key committed =
        (state.sessions u).assignmentClaim key committed) : Move state t action after
  | refuse (action : Action) (next : Session)
      (unclaiming : (∀ id committed, next.typeClaim id committed = none) ∧
        ∀ key committed, next.assignmentClaim key committed = none) :
      Move state t action (state.rollback t next)
  | insertType (row : CredentialType) (action : Action) (at_ : state.sessions t = .idle)
      (fresh : row.retiredAt = none) (unlocked : (state.types row.id).writer = none)
      (absent : (state.types row.id).committed = none) :
      Move state t action (state.withTypes
        (Function.update state.types row.id ((state.types row.id).autocommit fun _ => some row))
        (row.id :: state.typeIds) t (.typeAnswered (.ok ())))
  | changeType (id : CredentialTypeId) (write : CredentialType → CredentialType) (action : Action)
      (at_ : state.sessions t = .idle)
      (keeps : ∀ row, (write row).id = row.id ∧ (write row).retiredAt = row.retiredAt)
      (unlocked : (state.types id).writer = none) :
      Move state t action (state.withTypes
        (Function.update state.types id ((state.types id).autocommit (Option.map write)))
        state.typeIds t (.typeAnswered (.ok ())))
  | stamp (request : RetireRequest) (at_ : state.sessions t = .idle)
      (free : (state.types request.id).free t = true) :
      Move state t (.stampRetired request) (state.withTypes
        (state.types.update t request.id (Option.map (CredentialTypes.asRetired request.now)))
        state.typeIds t (.typeRetired request))
  | delete (request : RetireRequest) (deleted : List AssignmentKey)
      (at_ : state.sessions t = .typeRetired request)
      (each : ∀ key ∈ deleted, key.2 = request.id ∧ (state.assignments key).free t = true) :
      Move state t .deleteByType (state.withAssignments
        (fun key =>
          if key ∈ deleted then (state.assignments key).update t fun _ => none
          else state.assignments key)
        state.assignmentKeys t (.assignmentsDeleted request deleted))
  | commit (request : RetireRequest) (deleted : List AssignmentKey)
      (at_ : state.sessions t = .assignmentsDeleted request deleted) :
      Move state t .commit (state.commitTo t (.retireAnswered (.ok request.now)))
  | assign (request : PairRequest) (now : DateTime) (row : IssuerCredentialTypeAssignment)
      (at_ : state.sessions t = .pairOwned request)
      (unlocked : (state.assignments request.key).writer = none)
      (absent : (state.assignments request.key).committed = none) :
      Move state t (.assign now) (state.withAssignments
        (Function.update state.assignments request.key
          ((state.assignments request.key).autocommit fun _ => some row))
        (request.key :: state.assignmentKeys) t (.assignAnswered (.ok .nowAssigned)))
  | listKey (request : PairRequest) (now : DateTime) (at_ : state.sessions t = .pairOwned request)
      (next : Session) (unclaiming : (∀ id committed, next.typeClaim id committed = none) ∧
        ∀ key committed, next.assignmentClaim key committed = none) :
      Move state t (.assign now) (state.withAssignments state.assignments
        (request.key :: state.assignmentKeys) t next)
  | unassign (request : PairRequest) (at_ : state.sessions t = .pairToUnassign request)
      (unlocked : (state.assignments request.key).writer = none) :
      Move state t .unassign (state.withAssignments
        (Function.update state.assignments request.key
          ((state.assignments request.key).autocommit fun _ => none))
        state.assignmentKeys t (.unassignAnswered (.ok ())))

section Step

variable {state after : State} {t : TxId}

/-- A request goes on with the row versions that it had. -/
theorem stay_move {action : Action} {from_ next : Session} (at_ : state.sessions t = from_)
    (sessions : after.sessions = Function.update state.sessions t next)
    (types : after.types = state.types) (assignments : after.assignments = state.assignments)
    (keys : after.assignmentKeys = state.assignmentKeys) (issuers : after.issuers = state.issuers)
    (typeClaims : ∀ id committed, next.typeClaim id committed = from_.typeClaim id committed)
    (assignmentClaims : ∀ key committed,
      next.assignmentClaim key committed = from_.assignmentClaim key committed) :
    Move state t action after := by
  refine .quiet _ _ types assignments keys (fun id => .inl (congrFun issuers id)) ?_ ?_
  · intro u id committed
    by_cases own : u = t
    · subst own
      rw [sessions, Function.update_self, at_, typeClaims]
    · rw [sessions, Function.update_of_ne own]
  · intro u key committed
    by_cases own : u = t
    · subst own
      rw [sessions, Function.update_self, at_, assignmentClaims]
    · rw [sessions, Function.update_of_ne own]

theorem goto_move {action : Action} {from_ next : Session} (at_ : state.sessions t = from_)
    (typeClaims : ∀ id committed, next.typeClaim id committed = from_.typeClaim id committed)
    (assignmentClaims : ∀ key committed,
      next.assignmentClaim key committed = from_.assignmentClaim key committed) :
    Move state t action (state.goto t next) :=
  stay_move at_ rfl rfl rfl rfl rfl typeClaims assignmentClaims

theorem insertType_move {request : NewType} {id : CredentialTypeId} {now : DateTime}
    (taken : state.insertTypeStep t request id now = some after) :
    Move state t (.insertType request id now) after := by
  unfold State.insertTypeStep at taken
  split at taken
  · next at_ =>
      split at taken
      · cases taken
      · cases taken
        exact goto_move at_ (fun _ _ => rfl) fun _ _ => rfl
      · next types inserted =>
          cases taken
          rcases CredentialTypes.insert_ok inserted with ⟨unlocked, absent, rfl⟩
          exact .insertType (request.create id now) _ at_ rfl unlocked absent
  · cases taken

theorem changeType_move {action : Action} {tenantId : TenantId} {id : CredentialTypeId}
    (write : CredentialType → CredentialType)
    (keeps : ∀ row, (write row).id = row.id ∧ (write row).retiredAt = row.retiredAt)
    (taken : state.changeTypeStep t
      (CredentialTypes.change state.types state.typeIds t tenantId id write) = some after) :
    Move state t action after := by
  unfold State.changeTypeStep at taken
  split at taken
  · next at_ =>
      split at taken
      · cases taken
      · cases taken
        exact goto_move at_ (fun _ _ => rfl) fun _ _ => rfl
      · cases taken
        exact goto_move at_ (fun _ _ => rfl) fun _ _ => rfl
      · next types written =>
          cases taken
          rcases CredentialTypes.change_ok written with ⟨_, absurd_⟩ | ⟨unlocked, _, rfl⟩
          · cases absurd_
          · exact .changeType id write _ at_ keeps unlocked
  · cases taken

theorem stampRetired_move {request : RetireRequest}
    (taken : state.stampRetiredStep t request = some after) :
    Move state t (.stampRetired request) after := by
  unfold State.stampRetiredStep at taken
  split at taken
  · next at_ =>
      split at taken
      · cases taken
      · cases taken
        exact .refuse _ _ ⟨fun _ _ => rfl, fun _ _ => rfl⟩
      · next types stamped =>
          cases taken
          rcases CredentialTypes.stampRetired_updated stamped with ⟨_, _, free, rfl⟩
          exact .stamp request at_ free
  · cases taken

theorem deleteByType_move (taken : state.deleteByTypeStep t = some after) :
    Move state t .deleteByType after := by
  unfold State.deleteByTypeStep at taken
  split at taken
  · next request at_ =>
      split at taken
      · cases taken
      · next assignments deleted done =>
          cases taken
          rcases IssuerCredentialTypes.deleteByType_some done with ⟨each, rfl⟩
          exact .delete request deleted at_ each
  · cases taken

theorem assign_move {now : DateTime} (taken : state.assignStep t now = some after) :
    Move state t (.assign now) after := by
  unfold State.assignStep IssuerCredentialTypes.assign at taken
  split at taken
  · next request at_ =>
      split at taken
      · cases taken
      · next assignments outcome assigned =>
          cases taken
          split at assigned
          · cases assigned
          · cases assigned
            exact .listKey request now at_ _ ⟨fun _ _ => rfl, fun _ _ => rfl⟩
          · next unlocked absent =>
              cases assigned
              exact .assign request now _ at_ unlocked absent
  · cases taken

theorem unassign_move (taken : state.unassignStep t = some after) :
    Move state t .unassign after := by
  unfold State.unassignStep IssuerCredentialTypes.unassign at taken
  split at taken
  · next request at_ =>
      split at taken
      · cases taken
      · next assignments outcome unassigned =>
          cases taken
          split at unassigned
          · cases unassigned
            exact goto_move at_ (fun _ _ => rfl) fun _ _ => rfl
          · cases unassigned
          · next unlocked =>
              cases unassigned
              exact .unassign request at_ unlocked
  · cases taken

/-- Neither answer of the first read claims a version of a row. -/
theorem ownedPair_move {action : Action} {request : PairRequest} {owned refused : Session}
    (ownedTypes : ∀ id committed, owned.typeClaim id committed = none)
    (ownedPairs : ∀ key committed, owned.assignmentClaim key committed = none)
    (refusedTypes : ∀ id committed, refused.typeClaim id committed = none)
    (refusedPairs : ∀ key committed, refused.assignmentClaim key committed = none)
    (taken : state.ownedPairStep t request owned refused = some after) :
    Move state t action after := by
  unfold State.ownedPairStep at taken
  split at taken
  · next at_ =>
      split at taken
      · cases taken
        exact goto_move at_ ownedTypes ownedPairs
      · cases taken
        exact goto_move at_ refusedTypes refusedPairs
  · cases taken

theorem probeIssuer_move {request : Oidc.CreateRequest}
    (taken : state.probeIssuerStep t request = some after) :
    Move state t (.probeIssuer request) after := by
  unfold State.probeIssuerStep at taken
  split at taken
  · next at_ =>
      split at taken
      · cases taken
        exact goto_move at_ (fun _ _ => rfl) fun _ _ => rfl
      · split at taken <;> cases taken <;> exact goto_move at_ (fun _ _ => rfl) fun _ _ => rfl
  · cases taken

theorem probeType_move (taken : state.probeTypeStep t = some after) :
    Move state t .probeType after := by
  unfold State.probeTypeStep at taken
  split at taken
  · next at_ =>
      split at taken <;> cases taken <;> exact goto_move at_ (fun _ _ => rfl) fun _ _ => rfl
  · cases taken

theorem probeAssignment_move {validated : Except ApiError Unit}
    (taken : state.probeAssignmentStep t validated = some after) :
    Move state t (.probeAssignment validated) after := by
  unfold State.probeAssignmentStep at taken
  split at taken
  · next at_ =>
      split at taken
      · split at taken <;> cases taken <;> exact goto_move at_ (fun _ _ => rfl) fun _ _ => rfl
      · cases taken
        exact goto_move at_ (fun _ _ => rfl) fun _ _ => rfl
  · cases taken

theorem insertOffer_move {id : CredentialOfferId} {code : PreAuthCode} {now : DateTime}
    (taken : state.insertOfferStep t id code now = some after) :
    Move state t (.insertOffer id code now) after := by
  unfold State.insertOfferStep at taken
  split at taken
  · next at_ =>
      split at taken
      · cases taken
        exact goto_move at_ (fun _ _ => rfl) fun _ _ => rfl
      · cases taken
        exact stay_move at_ rfl rfl rfl rfl rfl (fun _ _ => rfl) fun _ _ => rfl
  · cases taken

theorem commit_move (taken : state.commitStep t = some after) : Move state t .commit after := by
  unfold State.commitStep at taken
  split at taken
  · next request deleted at_ =>
      cases taken
      exact .commit request deleted at_
  · cases taken

theorem fail_move {details : String} (taken : state.failStep t details = some after) :
    Move state t (.fail details) after := by
  unfold State.failStep at taken
  split at taken
  case h_1 | h_2 =>
    cases taken
    exact .refuse _ _ ⟨fun _ _ => rfl, fun _ _ => rfl⟩
  case h_8 => cases taken
  all_goals
    next at_ =>
      cases taken
      exact goto_move at_ (fun _ _ => rfl) fun _ _ => rfl

theorem step_move {event : Event} (taken : state.step event = some after) :
    Move state event.t event.action after := by
  rcases event with ⟨t, action⟩
  cases action with
  | insertType request id now => exact insertType_move taken
  | updateStructured tenantId id update now =>
      exact changeType_move (CredentialTypes.StructuredUpdate.apply update now)
        (fun _ => ⟨rfl, rfl⟩) taken
  | updateBlob tenantId id blob now =>
      refine changeType_move (CredentialTypes.Blob.apply blob now) ?_ taken
      intro row
      cases blob <;> exact ⟨rfl, rfl⟩
  | stampRetired request => exact stampRetired_move taken
  | deleteByType => exact deleteByType_move taken
  | commit => exact commit_move taken
  | probePair request =>
      exact ownedPair_move (fun _ _ => rfl) (fun _ _ => rfl) (fun _ _ => rfl) (fun _ _ => rfl) taken
  | assign now => exact assign_move taken
  | probeUnassign request =>
      exact ownedPair_move (fun _ _ => rfl) (fun _ _ => rfl) (fun _ _ => rfl) (fun _ _ => rfl) taken
  | unassign => exact unassign_move taken
  | probeIssuer request => exact probeIssuer_move taken
  | probeType => exact probeType_move taken
  | probeAssignment validated => exact probeAssignment_move taken
  | insertOffer id code now => exact insertOffer_move taken
  | putIssuer issuer =>
      simp only [State.step, State.putIssuerStep] at taken
      split at taken
      · cases taken
        refine .quiet _ _ rfl rfl rfl ?_ (fun _ _ _ => rfl) fun _ _ _ => rfl
        intro id
        by_cases own : id = issuer.id
        · exact .inr ⟨issuer, by rw [own]; exact Function.update_self .., own.symm⟩
        · exact .inl (Function.update_of_ne own ..)
      · cases taken
  | endOffer id issued now =>
      simp only [State.step, State.endOfferStep] at taken
      split at taken
      · cases taken
        exact .quiet _ _ rfl rfl rfl (fun _ => .inl rfl) (fun _ _ _ => rfl) fun _ _ _ => rfl
      · cases taken
  | fail details => exact fail_move taken

end Step

section Move

variable {state after : State} {t : TxId} {action : Action}

theorem sound_initial (initial : state.Initial) : Sound state := by
  refine ⟨?_, ?_, ?_⟩
  · intro id u version
    simp [initial.types id, initial.sessions u, Session.typeClaim]
  · intro key u version
    simp [initial.assignments key, initial.sessions u, Session.assignmentClaim]
  · intro key _
    simp [initial.assignments key]

theorem types_move (sound : Sound state) (move : Move state t action after) :
    Held after.types after.sessions Session.typeClaim := by
  have held := sound.types
  have unclaimed : ∀ {id}, (state.types id).writer = none → ∀ u row,
      (state.sessions u).typeClaim id row = none :=
    fun unlocked u row => Session.typeClaim_none (held.unclaimed unlocked u) row
  cases move with
  | quiet action after types assignments keys issuers typeClaims assignmentClaims =>
      intro id u version
      rw [types, typeClaims]
      exact held id u version
  | refuse action next unclaiming => exact held.rollback unclaiming.1
  | insertType row action at_ fresh unlocked absent =>
      refine held.autocommit unlocked ?_ fun u => unclaimed unlocked u _
      intro id committed
      rw [at_]
      rfl
  | changeType id write action at_ keeps unlocked =>
      refine held.autocommit unlocked ?_ fun u => unclaimed unlocked u _
      intro id committed
      rw [at_]
      rfl
  | stamp request at_ free =>
      apply held.update free
      · have open_ : (state.sessions t).typeClaim request.id (state.types request.id).committed =
            none := by
          rw [at_]
          rfl
        rw [held.read_unclaimed open_]
        exact if_pos rfl
      · intro other committed different
        rw [at_]
        exact if_neg different
  | delete request deleted at_ each => exact held.goto_from at_ fun _ _ => rfl
  | commit request deleted at_ =>
      apply held.commit fun _ _ => rfl
      intro other id version _ _ open_
      exact Session.typeClaim_none open_ version
  | assign request now row at_ unlocked absent => exact held.goto_from at_ fun _ _ => rfl
  | listKey request now at_ next unclaiming =>
      apply held.goto_from at_
      intro id committed
      rw [unclaiming.1]
      rfl
  | unassign request at_ unlocked => exact held.goto_from at_ fun _ _ => rfl

theorem assignments_move (sound : Sound state) (move : Move state t action after) :
    Held after.assignments after.sessions Session.assignmentClaim := by
  have held := sound.assignments
  have unclaimed : ∀ {key}, (state.assignments key).writer = none → ∀ u row,
      (state.sessions u).assignmentClaim key row = none :=
    fun unlocked u row => Session.assignmentClaim_none (held.unclaimed unlocked u) row
  cases move with
  | quiet action after types assignments keys issuers typeClaims assignmentClaims =>
      intro key u version
      rw [assignments, assignmentClaims]
      exact held key u version
  | refuse action next unclaiming => exact held.rollback unclaiming.2
  | insertType row action at_ fresh unlocked absent => exact held.goto_from at_ fun _ _ => rfl
  | changeType id write action at_ keeps unlocked => exact held.goto_from at_ fun _ _ => rfl
  | stamp request at_ free => exact held.goto_from at_ fun _ _ => rfl
  | delete request deleted at_ each =>
      apply held.rewrite
      intro key
      by_cases member : key ∈ deleted
      · exact .inr ⟨_, (each key member).2, if_pos member, if_pos member⟩
      · refine .inl ⟨if_neg member, ?_⟩
        rw [at_]
        exact if_neg member
  | commit request deleted at_ =>
      apply held.commit fun _ _ => rfl
      intro other key version _ _ open_
      exact Session.assignmentClaim_none open_ version
  | assign request now row at_ unlocked absent =>
      refine held.autocommit unlocked ?_ fun u => unclaimed unlocked u _
      intro key committed
      rw [at_]
      rfl
  | listKey request now at_ next unclaiming =>
      apply held.goto_from at_
      intro key committed
      rw [unclaiming.2]
      rfl
  | unassign request at_ unlocked =>
      refine held.autocommit unlocked ?_ fun u => unclaimed unlocked u _
      intro key committed
      rw [at_]
      rfl

/-- What the commit of a retirement makes of the assignments. -/
theorem commit_assignments (sound : Sound state) {request : RetireRequest}
    {deleted : List AssignmentKey} (at_ : state.sessions t = .assignmentsDeleted request deleted)
    (key : AssignmentKey) : (state.assignments.commit t key).committed =
      if key ∈ deleted then none else (state.assignments key).committed := by
  rw [sound.assignments.committed_commit key, at_]
  by_cases member : key ∈ deleted
  · rw [if_pos member]
    exact congrArg (Option.getD · _) (if_pos member)
  · rw [if_neg member]
    exact congrArg (Option.getD · _) (if_neg member)

theorem listed_move (sound : Sound state) (move : Move state t action after) :
    ∀ key, key ∉ after.assignmentKeys → (after.assignments key).committed = none := by
  have listed := sound.listed
  cases move with
  | quiet action after types assignments keys issuers typeClaims assignmentClaims =>
      rw [keys, assignments]
      exact listed
  | refuse action next unclaiming =>
      intro key absent
      exact (congrFun (Table.snapshot_rollback state.assignments t) key).trans (listed key absent)
  | delete request deleted at_ each =>
      intro key absent
      by_cases member : key ∈ deleted
      · exact (congrArg Cell.committed (if_pos member)).trans (listed key absent)
      · exact (congrArg Cell.committed (if_neg member)).trans (listed key absent)
  | commit request deleted at_ =>
      intro key absent
      refine (commit_assignments sound at_ key).trans ?_
      split
      · rfl
      · exact listed key absent
  | assign request now row at_ unlocked absent_ =>
      intro key absent
      have outside := not_or.mp (mt List.mem_cons.mpr absent)
      show (Function.update state.assignments request.key _ key).committed = none
      rw [Function.update_of_ne outside.1]
      exact listed key outside.2
  | listKey request now at_ next unclaiming =>
      intro key absent
      exact listed key (not_or.mp (mt List.mem_cons.mpr absent)).2
  | unassign request at_ unlocked =>
      intro key absent
      show (Function.update state.assignments request.key _ key).committed = none
      by_cases here : key = request.key
      · rw [here, Function.update_self]
        rfl
      · rw [Function.update_of_ne here]
        exact listed key absent
  | insertType | changeType | stamp => exact listed

theorem sound_move (sound : Sound state) (move : Move state t action after) : Sound after :=
  ⟨types_move sound move, assignments_move sound move, listed_move sound move⟩

theorem NeverAssigned.transfer {before after : Database} (never : NeverAssigned before)
    (kept : ∀ key row, after.assignments key = some row →
      ∃ old, before.assignments key = some old)
    (unretired : ∀ id found, after.types id = some found → found.retiredAt = none ∨
      ∃ old, before.types id = some old ∧ old.retiredAt = found.retiredAt) :
    NeverAssigned after := by
  intro key row found there here
  rcases kept key row there with ⟨old, was⟩
  rcases unretired key.2 found here with free | ⟨before_, stored, same⟩
  · exact free
  · rw [← same]
    exact never key old before_ was stored

/-- Fewer assignments, and the types as they were. -/
theorem NeverAssigned.fewer {before after : Database} (never : NeverAssigned before)
    (types : after.types = before.types)
    (kept : ∀ key row, after.assignments key = some row →
      ∃ old, before.assignments key = some old) : NeverAssigned after :=
  never.transfer kept fun _ found here => .inr ⟨found, types ▸ here, rfl⟩

/-- The assignments as they were, and no type newly retired. -/
theorem NeverAssigned.retyped {before after : Database} (never : NeverAssigned before)
    (assignments : after.assignments = before.assignments)
    (unretired : ∀ id found, after.types id = some found → found.retiredAt = none ∨
      ∃ old, before.types id = some old ∧ old.retiredAt = found.retiredAt) :
    NeverAssigned after :=
  never.transfer (fun _ row there => ⟨row, assignments ▸ there⟩) unretired

theorem rollback_database {next : Session} : (state.rollback t next).database = state.database := by
  simp only [State.database, State.rollback, Table.snapshot_rollback]

/-- The commit stamps the type retired. The condition is that it takes every assignment to it. -/
theorem neverAssigned_commit (sound : Sound state) (never : NeverAssigned state.database)
    {request : RetireRequest} {deleted : List AssignmentKey}
    (at_ : state.sessions t = .assignmentsDeleted request deleted)
    (spared : sparesRetired state ⟨t, .commit⟩ = true) :
    NeverAssigned (state.commitTo t (.retireAnswered (.ok request.now))).database := by
  intro key row found there here
  have left := (commit_assignments sound at_ key).symm.trans there
  split at left
  · cases left
  · next kept =>
      have other : key.2 ≠ request.id := by
        intro same
        simp only [sparesRetired, at_, List.all_eq_true] at spared
        have listed : key ∈ state.assignmentKeys := by
          by_contra absent
          rw [sound.listed key absent] at left
          cases left
        have covered := spared key listed
        simp only [same, left, kept, bne_self_eq_false, Option.isNone_some,
          List.contains_eq_mem, decide_false, Bool.or_self] at covered
        cases covered
      have same : (state.types.commit t key.2).committed = (state.types key.2).committed := by
        rw [sound.types.committed_commit key.2, at_]
        exact congrArg (Option.getD · _) (if_neg other)
      exact never key row found left (same.symm.trans here)

/-- The condition is that the type is not retired when the assignment is written. -/
theorem neverAssigned_assign (never : NeverAssigned state.database) {request : PairRequest}
    {now : DateTime} {row : IssuerCredentialTypeAssignment} {next : Session}
    (at_ : state.sessions t = .pairOwned request)
    (absent : (state.assignments request.key).committed = none)
    (spared : sparesRetired state ⟨t, .assign now⟩ = true) :
    NeverAssigned (state.withAssignments
      (Function.update state.assignments request.key
        ((state.assignments request.key).autocommit fun _ => some row))
      (request.key :: state.assignmentKeys) t next).database := by
  intro key stored found there here
  simp only [State.database, State.withAssignments, Table.snapshot_autocommit] at there
  rcases update_some there with ⟨rfl, _⟩ | ⟨_, old⟩
  · simp only [sparesRetired, at_, absent, Option.isSome_none, Bool.false_or,
      Bool.not_eq_true', State.isRetired] at spared
    rw [show (state.types request.credentialTypeId).committed = some found from here] at spared
    simpa using spared
  · exact never key stored found old here

theorem neverAssigned_move (sound : Sound state) (never : NeverAssigned state.database)
    (spared : sparesRetired state ⟨t, action⟩ = true) (move : Move state t action after) :
    NeverAssigned after.database := by
  cases move with
  | quiet action after types assignments keys issuers typeClaims assignmentClaims =>
      rw [State.database, types, assignments]
      exact never
  | refuse action next unclaiming =>
      rw [rollback_database]
      exact never
  | insertType row action at_ fresh unlocked absent =>
      refine never.retyped rfl ?_
      intro id found here
      simp only [State.database, State.withTypes, Table.snapshot_autocommit] at here
      rcases update_some here with ⟨_, same⟩ | ⟨_, old⟩
      · cases same
        exact .inl fresh
      · exact .inr ⟨found, old, rfl⟩
  | changeType id write action at_ keeps unlocked =>
      refine never.retyped rfl ?_
      intro other found here
      simp only [State.database, State.withTypes, Table.snapshot_autocommit] at here
      rcases update_some here with ⟨rfl, same⟩ | ⟨_, old⟩
      · rcases Option.map_eq_some_iff.mp same with ⟨before, stored, rfl⟩
        exact .inr ⟨before, stored, (keeps before).2.symm⟩
      · exact .inr ⟨found, old, rfl⟩
  | stamp request at_ free =>
      refine never.retyped rfl ?_
      intro id found here
      simp only [State.database, State.withTypes, Table.snapshot_update] at here
      exact .inr ⟨found, here, rfl⟩
  | delete request deleted at_ each =>
      refine never.fewer rfl ?_
      intro key row there
      refine ⟨row, Eq.trans ?_ there⟩
      simp only [State.database, State.withAssignments, Table.snapshot]
      by_cases member : key ∈ deleted <;> simp [member]
  | commit request deleted at_ => exact neverAssigned_commit sound never at_ spared
  | assign request now row at_ unlocked absent => exact neverAssigned_assign never at_ absent spared
  | listKey request now at_ next unclaiming => exact never
  | unassign request at_ unlocked =>
      refine never.fewer rfl ?_
      intro key row there
      simp only [State.database, State.withAssignments, Table.snapshot_autocommit] at there
      rcases update_some there with ⟨_, absurd_⟩ | ⟨_, old⟩
      · cases absurd_
      · exact ⟨row, old⟩

end Move

/-- In a run that spares retired types, whatever the order of the requests, no committed state has
one assigned. -/
theorem retired_types_are_never_assigned {first last : State} {trace : List Event}
    (initial : first.Initial)
    (run : Run (Guarded (fun state event => sparesRetired state event = true) (Steps State.step))
      first trace last) : NeverAssigned last.database := by
  have start : NeverAssigned first.database := by
    intro key row found there
    rw [show first.database.assignments key = none from
      congrArg Cell.committed (initial.assignments key)] at there
    cases there
  exact (run.invariant_under Sound (fun state => NeverAssigned state.database)
    (fun state event after sound taken => sound_move sound (step_move taken.2))
    (fun state event after sound never taken =>
      neverAssigned_move sound never taken.1 (step_move taken.2))
    (sound_initial initial) start).2

def sampleIssuer : Worker.IssuerRecord where
  id := ⟨"3Vn8xQpLmZ"⟩
  tenantId := ⟨"7kTzYh2WcE"⟩
  did := "did:tdw:QmScid:identifier.example:api:v1:did:1"
  state := some .active
  authorizedKeyId := none
  authenticationKeyId := none
  assertionKeyId := none
  description := none
  displayName := some "Residents' office"
  logoUri := none
  locale := none
  createdAt := 0

def sampleTypeId : CredentialTypeId := ⟨"5wRbJf4sNd"⟩

def sampleType : NewType where
  tenantId := sampleIssuer.tenantId
  vct := "urn:residence"
  display := .array []
  internalDescription := none
  claimSchema := .object []
  claimSchemaSourceUrl := none
  claims := .array []
  defaultValidity := 0
  revocationMode := .none

def sampleStart : State where
  types := fun _ => Cell.clean none
  assignments := fun _ => Cell.clean none
  typeIds := []
  assignmentKeys := []
  issuers := fun _ => none
  offers := fun _ => none
  sessions := fun _ => .idle

theorem sampleStart_initial : sampleStart.Initial :=
  ⟨fun _ => rfl, fun _ => rfl, fun _ => rfl, fun _ => rfl, fun _ => rfl⟩

def sampleCatalogue : List Event :=
  [⟨0, .putIssuer sampleIssuer⟩, ⟨1, .insertType sampleType sampleTypeId 0⟩]

def samplePair : PairRequest := ⟨sampleIssuer.tenantId, sampleIssuer.id, sampleTypeId⟩

def sampleAssign (t : TxId) : List Event :=
  [⟨t, .probePair samplePair⟩, ⟨t, .assign (seconds 60)⟩]

def sampleRetire (t : TxId) : List Event :=
  [⟨t, .stampRetired ⟨sampleIssuer.tenantId, sampleTypeId, seconds 120⟩⟩, ⟨t, .deleteByType⟩,
    ⟨t, .commit⟩]

theorem retired_types_are_never_assigned_sample :
    ∃ last, Run (Guarded (fun state event => sparesRetired state event = true) (Steps State.step))
      sampleStart (sampleCatalogue ++ sampleAssign 2 ++ sampleRetire 3) last ∧
      NeverAssigned last.database := by
  have computed : (exec (checked sparesRetired State.step) sampleStart
      (sampleCatalogue ++ sampleAssign 2 ++ sampleRetire 3)).isSome = true := by decide
  rcases Option.isSome_iff_exists.mp computed with ⟨last, reached⟩
  have run := Run.of_checked reached
  exact ⟨last, run, retired_types_are_never_assigned sampleStart_initial run⟩

/-- The assignment that comes after the retirement. -/
theorem retired_type_is_assigned : sampleStart.Initial ∧
    ∃ last, Run (Steps State.step) sampleStart
      (sampleCatalogue ++ sampleRetire 2 ++ sampleAssign 3) last ∧
      ¬NeverAssigned last.database := by
  refine ⟨sampleStart_initial, ?_⟩
  have computed : (exec State.step sampleStart
      (sampleCatalogue ++ sampleRetire 2 ++ sampleAssign 3)).map (fun state =>
        ((state.database.assignments samplePair.key).isSome,
          (state.database.types sampleTypeId).map CredentialType.retiredAt)) =
      some (true, some (some (seconds 120))) := by decide
  rcases Option.map_eq_some_iff.mp computed with ⟨last, reached, seen⟩
  rcases Prod.mk.inj seen with ⟨assigned, retired⟩
  rcases Option.isSome_iff_exists.mp assigned with ⟨row, there⟩
  rcases Option.map_eq_some_iff.mp retired with ⟨found, here, stamped⟩
  refine ⟨last, Run.of_exec reached, ?_⟩
  intro never
  have unretired := never samplePair.key row found there here
  rw [stamped] at unretired
  cases unretired

end SwiyuIssuer.Catalogue
