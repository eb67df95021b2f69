import SwiyuIssuer.StatusStore.SlotIntegrity

/-! Revocation against requests that have read the credential before it was revoked. -/

namespace SwiyuIssuer.StatusStore

open Library Persistence

variable {codec : StatusListCodec} {state after : State} {event : Event}

/-- No suspend or unsuspend request executes its `UPDATE` of the state column on a row that has
been revoked since the request read it. -/
def writesUnrevoked (state : State) : Event → Bool
  | .session t .setState =>
      match state.store.sessions t with
      | .transitioned request credential =>
          request.operation == .revoke ||
            match state.store.committedCredentials credential.id with
            | some row => row.state != .revoked
            | none => true
      | _ => true
  | _ => true

abbrev UnrevokedStep (codec : StatusListCodec) : State → Event → State → Prop :=
  Guarded (fun state event => writesUnrevoked state event = true) (Steps (State.step codec))

/-- The aggregate whose state a request has written and not yet committed. -/
def Session.writing : Session → Option IssuedCredential
  | .stateWritten _ credential | .bitstringRead _ credential _ | .bitWritten _ credential =>
      some credential
  | _ => none

structure Revoked (store : Store) (id : IssuedCredentialId) : Prop where
  row : ∃ row, store.committedCredentials id = some row ∧ row.state = .revoked
  writers : ∀ t credential, (store.sessions t).writing = some credential → credential.id = id →
    credential.state = .revoked

theorem plain_writing {session : Session} (plain : session.Plain) : session.writing = none := by
  cases session <;> first | rfl | exact plain.elim

theorem statusValue_revoked {moved : IssuedCredentialState} (value : moved.statusValue = .revoked) :
    moved = .revoked := by
  cases moved with
  | active => cases value
  | suspended => cases value
  | revoked => rfl

theorem revoked_kept {store next : Store} {id : IssuedCredentialId} {t : TxId}
    (revoked : Revoked store id) (acts : Acts t store next)
    (row : next.committedCredentials id = store.committedCredentials id)
    (own : ∀ credential, (next.sessions t).writing = some credential →
      (store.sessions t).writing = some credential ∨
        (credential.id = id → credential.state = .revoked)) : Revoked next id := by
  obtain ⟨found, present, final⟩ := revoked.row
  refine ⟨⟨found, by rw [row]; exact present, final⟩, ?_⟩
  intro other credential writes same
  by_cases self : other = t
  · subst self
    rcases own credential writes with before | direct
    · exact revoked.writers _ credential before same
    · exact direct same
  · rw [acts.sessions other self] at writes
    exact revoked.writers other credential writes same

theorem revoked_move {t : TxId} {action : Action} {id : IssuedCredentialId} {next : Store}
    (sound : Sound codec state.store) (revoked : Revoked state.store id)
    (guarded : writesUnrevoked state (.session t action) = true)
    (move : Move codec state.store t action next) : Revoked next id := by
  have acts := move_acts move
  have silent : ∀ {session : Session}, session.Plain → ∀ credential,
      session.writing = some credential →
        (state.store.sessions t).writing = some credential ∨
          (credential.id = id → credential.state = .revoked) := by
    intro session plain credential writes
    rw [plain_writing plain] at writes
    cases writes
  cases move with
  | plain _ session from_ to_ =>
      refine revoked_kept revoked acts rfl ?_
      simpa [Store.goto] using silent to_
  | load request row moved at_ read allowed =>
      refine revoked_kept revoked acts rfl ?_
      intro credential writes
      simp [Store.goto, Session.writing] at writes
  | writeState request credential at_ free =>
      refine revoked_kept revoked acts (congrFun (Table.snapshot_update ..) id) ?_
      intro writer writes
      simp only [Store.goto, Function.update_self, Session.writing, Option.some.injEq] at writes
      subst writes
      refine .inr ?_
      intro same
      -- only a revoke request gets past the guard: the row it read may be stale, its target is not
      have holding := sound.holding t
      rw [at_] at holding
      obtain ⟨row, present, _, value⟩ := holding
      obtain ⟨found, foundAt, final⟩ := revoked.row
      rw [same, foundAt] at present
      cases present
      simp only [writesUnrevoked, at_, same, foundAt, final, bne_self_eq_false, Bool.or_false,
        beq_iff_eq] at guarded
      rw [guarded] at value
      exact statusValue_revoked value
  | lockList request credential row bitstring at_ free read edited =>
      refine revoked_kept revoked acts rfl ?_
      intro writer writes
      rw [at_]
      simp only [Store.goto, Function.update_self] at writes
      exact .inl writes
  | writeBits request credential bitstring at_ free =>
      refine revoked_kept revoked acts rfl ?_
      intro writer writes
      rw [at_]
      simp only [Store.goto, Function.update_self] at writes
      exact .inl writes
  | allocate request issuer assertionKeyId listId registryUrl row allocated index at_ free read
      taken =>
      refine revoked_kept revoked acts rfl ?_
      intro credential writes
      simp [Store.goto, Session.writing] at writes
  | insert request issuer assertionKeyId listId registryUrl index key integrityHash at_ free read =>
      refine revoked_kept revoked acts (congrFun (Table.snapshot_update ..) id) ?_
      intro credential writes
      simp [Store.goto, Session.writing] at writes
  | rollback _ session to_ =>
      refine revoked_kept revoked acts (congrFun (Table.snapshot_rollback ..) id) ?_
      simpa [Store.rollback] using silent to_
  | commitIssue acknowledged jwt credential session at_ to_ =>
      obtain ⟨_, _, absent, _, _, _, rows, _⟩ := commitIssue_tables sound session at_
      obtain ⟨found, foundAt, _⟩ := revoked.row
      refine revoked_kept revoked acts ?_ (by simpa [Store.commit] using silent to_)
      rw [rows, Function.update_of_ne]
      rintro rfl
      rw [absent] at foundAt
      cases foundAt
  | commitLifecycle acknowledged request credential session at_ to_ =>
      obtain ⟨row, _, _, _, same, _, _, rows, _⟩ := commitLifecycle_tables sound session at_
      have key : credential.id = row.id := by rw [same]
      by_cases own : id = row.id
      · have final : credential.state = .revoked :=
          revoked.writers t credential (by rw [at_]; rfl) (key.trans own.symm)
        refine ⟨⟨credential, ?_, final⟩, ?_⟩
        · rw [rows, own, Function.update_self]
        · intro other writer writes sameId
          by_cases self : other = t
          · subst self
            have quiet : (state.store.commit other session).sessions other = session := by
              simp [Store.commit]
            rw [quiet, plain_writing to_] at writes
            cases writes
          · rw [acts.sessions other self] at writes
            exact revoked.writers other writer writes sameId
      · refine revoked_kept revoked acts ?_ (by simpa [Store.commit] using silent to_)
        rw [rows, Function.update_of_ne own]

theorem revoked_step {id : IssuedCredentialId} (sound : Sound codec state.store)
    (revoked : Revoked state.store id) (taken : UnrevokedStep codec state event after) :
    Revoked after.store id := by
  rcases step_cases taken.2 with ⟨t, action, rfl, move, _⟩ | republished
  · exact revoked_move sound revoked taken.1 move
  · obtain ⟨row, present, final⟩ := revoked.row
    refine ⟨⟨row, by rw [(republished_snapshot republished).1]; exact present, final⟩, ?_⟩
    rw [republished.sessions]
    exact revoked.writers

/-- The commit of a revoke request leaves no other request with a pending write of the row. -/
theorem revoked_commit {t : TxId} {acknowledged : Bool} {request : LifecycleRequest}
    {credential : IssuedCredential} (sound : Sound codec state.store)
    (at_ : state.store.sessions t = .bitWritten request credential)
    (revoke : request.operation = .revoke)
    (taken : state.step codec (.session t (.commit acknowledged)) = some after) :
    Revoked after.store credential.id := by
  have holding := sound.holding t
  rw [at_] at holding
  obtain ⟨⟨_, _, _, value⟩, pending, _⟩ := holding
  rw [revoke] at value
  have final := statusValue_revoked value
  obtain ⟨store, moved, rfl⟩ := Option.map_eq_some_iff.mp taken
  have acts := move_acts (step_move moved)
  rw [Store.step, Store.commitStep, at_] at moved
  cases moved
  obtain ⟨row, _, _, _, same, _, _, rows, _⟩ := commitLifecycle_tables sound _ at_
  have key : credential.id = row.id := by rw [same]
  refine ⟨⟨credential, ?_, final⟩, ?_⟩
  · simp only
    rw [rows, key, Function.update_self]
  · intro other writer writes sameId
    by_cases self : other = t
    · subst self
      simp [Store.commit, Session.writing] at writes
    · rw [acts.sessions other self] at writes
      -- another writer of the row would hold the lock that `t` held
      have locked : (state.store.credentials writer.id).writer = some (other, some writer) := by
        have theirs := sound.holding other
        cases found : state.store.sessions other with
        | stateWritten request_ credential_ =>
            rw [found] at theirs writes
            cases writes
            exact theirs.2
        | bitstringRead request_ credential_ bitstring_ =>
            rw [found] at theirs writes
            cases writes
            exact theirs.2.1
        | bitWritten request_ credential_ =>
            rw [found] at theirs writes
            cases writes
            exact theirs.2.1
        | _ => rw [found] at writes; cases writes
      rw [sameId, pending] at locked
      exact absurd (Prod.mk.inj (Option.some.inj locked)).1.symm self

/-- Once a revoke request has committed, its row and its slot read revoked in every later
committed state. -/
theorem revocation_is_final (codec : StatusListCodec) {first revoking revoked last : State}
    {front back : List Event} {t : TxId} {acknowledged : Bool} {request : LifecycleRequest}
    {credential : IssuedCredential} (initial : first.Initial)
    (before : Run (UnrevokedStep codec) first front revoking)
    (at_ : revoking.store.sessions t = .bitWritten request credential)
    (revoke : request.operation = .revoke)
    (committed : revoking.step codec (.session t (.commit acknowledged)) = some revoked)
    (later : Run (UnrevokedStep codec) revoked back last) :
    ∃ row, last.store.committedCredentials credential.id = some row ∧ row.state = .revoked ∧
      SlotReads codec last.store.committedLists row.statusListId row.statusListIndex .revoked := by
  have sound := sound_run (sound_empty codec initial.store) before.forget
  have soundAfter := sound_step sound committed
  obtain ⟨final, finalRow⟩ := later.invariant_under
    (fun state => Sound codec state.store)
    (fun state => Revoked state.store credential.id)
    (fun _ _ _ known taken => sound_step known taken.2)
    (fun _ _ _ known holds taken => revoked_step known holds taken)
    soundAfter (revoked_commit sound at_ revoke committed)
  obtain ⟨row, present, state_⟩ := finalRow.row
  have encoded := final.integrity.encoded _ row present
  rw [state_] at encoded
  exact ⟨row, present, state_, encoded⟩

def Session.finishing : Session → Option (LifecycleOperation × IssuedCredential)
  | .bitWritten request credential => some (request.operation, credential)
  | _ => none

theorem finishing_some {session : Session} {operation : LifecycleOperation}
    {credential : IssuedCredential} (found : session.finishing = some (operation, credential)) :
    ∃ request, session = .bitWritten request credential ∧ request.operation = operation := by
  cases session with
  | bitWritten request written =>
      obtain ⟨rfl, rfl⟩ := Prod.mk.inj (Option.some.inj found)
      exact ⟨request, rfl, rfl⟩
  | _ => cases found

def sampleRevoked : IssuedCredential :=
  { newCredential sampleCredentialId
      ⟨sampleIssuer.tenantId, sampleIssuer.id, ⟨"8KpL9zRT5qWnFm"⟩, "urn:residence", "cnf", "jkt",
        0, 1⟩ sampleIssuer sampleListId ⟨0, swiyuStatusListCapacity_pos⟩ (Vector.replicate integrityHashLen 0) with
    state := .revoked }

theorem revocation_is_final_sample : ∃ revoking revoked,
    Run (UnrevokedStep packedCodec) sampleStart
      (sampleIssuance 0 ++ sampleRead 1 .revoke ++ sampleUpdates 1) revoking ∧
    revoking.step packedCodec (.session 1 (.commit true)) = some revoked ∧
    ∃ row, revoked.store.committedCredentials sampleCredentialId = some row ∧
      row.state = .revoked := by
  have computed : (exec (checked writesUnrevoked (State.step packedCodec)) sampleStart
      (sampleIssuance 0 ++ sampleRead 1 .revoke ++ sampleUpdates 1)).map
        (fun state => (state.store.sessions 1).finishing) =
          some (some (.revoke, sampleRevoked)) := by decide
  obtain ⟨revoking, reached, finishing⟩ := Option.map_eq_some_iff.mp computed
  obtain ⟨request, at_, revoke⟩ := finishing_some finishing
  have before := Run.of_checked reached
  have committed : revoking.step packedCodec (.session 1 (.commit true)) =
      some { revoking with store := revoking.store.commit 1 (.answered (.ok sampleRevoked)) } := by
    simp [State.step, Store.step, Store.commitStep, at_]
  obtain ⟨row, present, final, _⟩ := revocation_is_final packedCodec sampleStart_initial before at_
    revoke committed (.nil _)
  exact ⟨revoking, _, before, committed, row, present, final⟩

/-- A suspend request that has read the credential before it was revoked commits its own state
over the revocation. -/
theorem suspension_overwrites_revocation : ∃ revoking revoked last request credential,
    Run (Steps (State.step packedCodec)) sampleStart
      (sampleIssuance 0 ++ sampleRead 1 .suspend ++ sampleRead 2 .revoke ++ sampleUpdates 2)
      revoking ∧
    revoking.store.sessions 2 = .bitWritten request credential ∧ request.operation = .revoke ∧
    revoking.step packedCodec (.session 2 (.commit true)) = some revoked ∧
    Run (Steps (State.step packedCodec)) revoked (sampleUpdates 1 ++ [.session 1 (.commit true)])
      last ∧
    (last.store.committedCredentials credential.id).map IssuedCredential.state =
      some .suspended := by
  have computed : (exec (State.step packedCodec) sampleStart
      (sampleIssuance 0 ++ sampleRead 1 .suspend ++ sampleRead 2 .revoke ++ sampleUpdates 2)).map
        (fun state => (state.store.sessions 2).finishing) =
          some (some (.revoke, sampleRevoked)) := by decide
  have overwritten : (exec (State.step packedCodec) sampleStart
      (sampleIssuance 0 ++ sampleRead 1 .suspend ++ sampleRead 2 .revoke ++ sampleUpdates 2 ++
        (.session 2 (.commit true) :: (sampleUpdates 1 ++ [.session 1 (.commit true)])))).map
        (fun state => (state.store.committedCredentials sampleRevoked.id).map
          IssuedCredential.state) = some (some .suspended) := by decide
  obtain ⟨revoking, reached, finishing⟩ := Option.map_eq_some_iff.mp computed
  obtain ⟨request, at_, revoke⟩ := finishing_some finishing
  rw [exec_append, reached, Option.bind_some, exec] at overwritten
  obtain ⟨last, rest, suspended⟩ := Option.map_eq_some_iff.mp overwritten
  obtain ⟨revoked, committed, later⟩ := Option.bind_eq_some_iff.mp rest
  exact ⟨revoking, revoked, last, request, sampleRevoked, Run.of_exec reached, at_, revoke,
    committed, Run.of_exec later, suspended⟩

end SwiyuIssuer.StatusStore
