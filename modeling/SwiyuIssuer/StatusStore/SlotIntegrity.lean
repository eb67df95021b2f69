import SwiyuIssuer.StatusStore.Publisher
import SwiyuIssuer.Library.Run

/-! Integrity in every committed state of every interleaving. -/

namespace SwiyuIssuer.StatusStore

open Library Persistence

variable {codec : StatusListCodec} {state after : State} {event : Event}

theorem republished_snapshot (republished : Republished state after) :
    after.store.committedCredentials = state.store.committedCredentials ∧
      ∀ id row, state.store.committedLists id = some row →
        ∃ rewritten, after.store.committedLists id = some rewritten ∧
          rewritten.bitstring = row.bitstring ∧
          rewritten.allocatedCount = row.allocatedCount ∧
          rewritten.committedVersion = row.committedVersion := by
  refine ⟨by rw [Store.committedCredentials, republished.credentials]; rfl, ?_⟩
  intro id row present
  rcases republished.lists id with same | ⟨old, rewritten, before, now, _, columns⟩
  · exact ⟨row, by rw [Store.committedLists, Table.snapshot, same]; exact present, rfl, rfl, rfl⟩
  · rw [Store.committedLists, Table.snapshot, before] at present
    cases present
    refine ⟨rewritten, by rw [Store.committedLists, Table.snapshot, now]; rfl, ?_, ?_, ?_⟩ <;>
      rw [columns]

theorem republished_origin (republished : Republished state after) {id : StatusListId}
    {rewritten : StatusList} (present : after.store.committedLists id = some rewritten) :
    ∃ row, state.store.committedLists id = some row ∧ rewritten.bitstring = row.bitstring ∧
      rewritten.allocatedCount = row.allocatedCount := by
  rcases republished.lists id with same | ⟨row, found, before, now, _, columns⟩
  · exact ⟨rewritten, by rw [Store.committedLists, Table.snapshot, ← same]; exact present, rfl, rfl⟩
  · rw [Store.committedLists, Table.snapshot, now] at present
    cases present
    refine ⟨row, by rw [Store.committedLists, Table.snapshot, before], ?_, ?_⟩ <;> rw [columns]

theorem integrity_republished (republished : Republished state after)
    (integrity : Integrity codec state.store.committedCredentials state.store.committedLists) :
    Integrity codec after.store.committedCredentials after.store.committedLists := by
  obtain ⟨rows, lists⟩ := republished_snapshot republished
  rw [rows]
  refine ⟨integrity.keyed, ?_, ?_, integrity.exclusive, ?_⟩
  · intro id row present
    obtain ⟨list, home, reads⟩ := integrity.encoded id row present
    obtain ⟨rewritten, now, bits, _⟩ := lists _ _ home
    exact ⟨rewritten, now, by rw [bits]; exact reads⟩
  · intro id row rewritten present now
    obtain ⟨list, home, _, count⟩ := republished_origin republished now
    rw [count]
    exact integrity.allocated id row list present home
  · intro listId rewritten index now free
    obtain ⟨list, home, bits, _⟩ := republished_origin republished now
    rw [bits]
    exact integrity.unowned listId list index home free

theorem sound_republished (republished : Republished state after) (sound : Sound codec state.store) :
    Sound codec after.store := by
  obtain ⟨rows, _⟩ := republished_snapshot republished
  refine ⟨integrity_republished republished sound.integrity, ?_, ?_, ?_⟩
  · intro id t version held
    rw [republished.credentials] at held
    rw [republished.sessions]
    exact sound.credentialLocks id t version held
  · intro id t version held
    rw [republished.sessions]
    rcases republished.lists id with same | ⟨_, _, _, now, _⟩
    · rw [same] at held
      exact sound.listLocks id t version held
    · rw [now] at held
      cases held
  · intro t
    have listPending : ∀ {listId change}, ListPending state.store t listId change →
        ListPending after.store t listId change := by
      intro listId change pending
      rcases pending with ⟨list, version, present, held, changed⟩
      rcases republished.lists listId with same | ⟨_, _, before, _, _⟩
      · exact ⟨list, version, by rw [Store.committedLists, Table.snapshot, same]; exact present,
          by rw [same]; exact held, changed⟩
      · rw [before] at held
        cases held
    have loaded : ∀ {request credential}, Loaded state.store request credential →
        Loaded after.store request credential := by
      intro request credential loaded
      rcases loaded with ⟨row, present, rest⟩
      exact ⟨row, by rw [rows]; exact present, rest⟩
    have pending : ∀ {credential}, CredentialPending state.store t credential →
        CredentialPending after.store t credential := by
      intro credential held
      rw [CredentialPending, republished.credentials]
      exact held
    have before := sound.holding t
    rw [republished.sessions]
    cases found : state.store.sessions t with
    | transitioned request credential =>
        rw [found] at before
        exact loaded before
    | stateWritten request credential =>
        rw [found] at before
        exact ⟨loaded before.1, pending before.2⟩
    | bitstringRead request credential bitstring =>
        rw [found] at before
        exact ⟨loaded before.1, pending before.2.1, listPending before.2.2⟩
    | bitWritten request credential =>
        rw [found] at before
        exact ⟨loaded before.1, pending before.2.1, listPending before.2.2⟩
    | slotAllocated request issuer assertionKeyId listId registryUrl index =>
        rw [found] at before
        exact listPending before
    | inserted jwt credential =>
        rw [found] at before
        obtain ⟨absent, held, active, listed⟩ := before
        exact ⟨by rw [rows]; exact absent, pending held, active, listPending listed⟩
    | _ => trivial

theorem sound_step (sound : Sound codec state.store) (taken : state.step codec event = some after) :
    Sound codec after.store := by
  rcases step_cases taken with ⟨t, action, _, move, _⟩ | republished
  · exact sound_move sound move
  · exact sound_republished republished sound

theorem sound_run {first last : State} {trace : List Event} (start : Sound codec first.store)
    (run : Run (Steps (State.step codec)) first trace last) : Sound codec last.store :=
  run.invariant (fun state => Sound codec state.store)
    (fun _ _ _ sound taken => sound_step sound taken) start

/-- A statement changes the reading of a slot only if it commits the lifecycle transaction of the
credential that owns the slot. -/
theorem slot_frame (sound : Sound codec state.store) (taken : state.step codec event = some after)
    {listId : StatusListId} {index : StatusListIndex} {value : StatusValue}
    (reads : SlotReads codec state.store.committedLists listId index value) :
    SlotReads codec after.store.committedLists listId index value ∨
      ∃ t acknowledged request credential, event = .session t (.commit acknowledged) ∧
        state.store.sessions t = .bitWritten request credential ∧
          Owns credential listId index := by
  obtain ⟨list, present, slot⟩ := reads
  rcases step_cases taken with ⟨t, action, rfl, move, shape⟩ | republished
  · have unchanged : after.store.committedLists = state.store.committedLists →
        SlotReads codec after.store.committedLists listId index value := by
      intro same
      exact ⟨list, by rw [same]; exact present, slot⟩
    rw [shape] at unchanged ⊢
    generalize after.store = store at move unchanged ⊢
    cases move with
    | plain _ next from_ to_ => exact .inl (unchanged rfl)
    | load request row moved at_ read allowed => exact .inl (unchanged rfl)
    | writeState request credential at_ free => exact .inl (unchanged rfl)
    | lockList request credential row bitstring at_ free read edited =>
        exact .inl (unchanged (Table.snapshot_update ..))
    | writeBits request credential bitstring at_ free =>
        exact .inl (unchanged (Table.snapshot_update ..))
    | allocate request issuer assertionKeyId listId registryUrl row allocated index at_ free read
        taken =>
        exact .inl (unchanged (Table.snapshot_update ..))
    | insert request issuer assertionKeyId listId registryUrl index id integrityHash at_ free
        read =>
        exact .inl (unchanged rfl)
    | rollback _ next to_ => exact .inl (unchanged (Table.snapshot_rollback ..))
    | commitIssue acknowledged jwt credential next at_ to_ =>
        obtain ⟨home, allocated, _, _, homeAt, taken_, _, lists⟩ :=
          commitIssue_tables sound next at_
        refine .inl ?_
        by_cases same : listId = credential.statusListId
        · subst same
          rw [homeAt] at present
          cases present
          refine ⟨allocated, by rw [lists]; exact Function.update_self .., ?_⟩
          rw [(StatusLists.allocateIndex_spec taken_).2.2.1]
          exact slot
        · exact ⟨list, by rw [lists, Function.update_of_ne same]; exact present, slot⟩
    | commitLifecycle acknowledged request credential next at_ to_ =>
        obtain ⟨row, home, bitstring, _, same, homeAt, edited, _, lists⟩ :=
          commitLifecycle_tables sound next at_
        have ownList : credential.statusListId = row.statusListId := by rw [same]
        have ownIndex : credential.statusListIndex = row.statusListIndex := by rw [same]
        by_cases owned : Owns credential listId index
        · exact .inr ⟨t, acknowledged, request, credential, rfl, at_, owned⟩
        · refine .inl ?_
          by_cases sameList : listId = row.statusListId
          · subst sameList
            rw [homeAt] at present
            cases present
            refine ⟨_, by rw [lists]; exact Function.update_self .., ?_⟩
            have different : (index : Nat) ≠ row.statusListIndex := by
              intro equal
              exact owned ⟨ownList, ownIndex.trans (Fin.ext equal).symm⟩
            rw [StatusLists.writeBitstring, codec.getAt_setAt_other _ _ _ _ _ edited different]
            exact slot
          · exact ⟨list, by rw [lists, Function.update_of_ne sameList]; exact present, slot⟩
  · obtain ⟨rewritten, now, bits, _⟩ := (republished_snapshot republished).2 _ _ present
    exact .inl ⟨rewritten, now, by rw [bits]; exact slot⟩

/-- Slot integrity: each credential's slot encodes its row, no other index is set, and a
lifecycle operation changes no slot but its own. -/
theorem status_slots_follow_rows (codec : StatusListCodec) {first last : State}
    {trace : List Event} (initial : first.Initial)
    (run : Run (Steps (State.step codec)) first trace last) :
    Integrity codec last.store.committedCredentials last.store.committedLists ∧
      ∀ event after listId index value, last.step codec event = some after →
        SlotReads codec last.store.committedLists listId index value →
          SlotReads codec after.store.committedLists listId index value ∨
            ∃ t acknowledged request credential, event = .session t (.commit acknowledged) ∧
              last.store.sessions t = .bitWritten request credential ∧
                Owns credential listId index := by
  have sound := sound_run (sound_empty codec initial.store) run
  refine ⟨sound.integrity, ?_⟩
  intro event after listId index value taken reads
  exact slot_frame sound taken reads

section Sample

def sampleListId : StatusListId := ⟨"3xY7tQ8mN2vR5w"⟩

def sampleCredentialId : IssuedCredentialId := ⟨"7mPq3xTvYn2WkL"⟩

def sampleIssuer : Issuer where
  id := ⟨"9hXq2vRtL8pK7f"⟩
  tenantId := ⟨"4Mk7yK5pQR7sN3"⟩
  did := "did:tdw:scid:reg.example.com"
  state := some .active
  authorizedKeyId := some ⟨"key-authorized"⟩
  authenticationKeyId := some ⟨"key-authentication"⟩
  assertionKeyId := some ⟨"key-assertion"⟩

/-- One freshly provisioned list. -/
def sampleStart : State where
  store :=
    { credentials := fun _ => Cell.clean none
      statusLists := fun id => Cell.clean (if id = sampleListId then
        some { StatusList.new sampleListId sampleIssuer.id 0 with
          registryEntryId := some "entry", registryUrl := some "https://status/entry.jwt" }
        else none)
      sessions := fun _ => .idle }
  listIds := [sampleListId]
  publishers := fun _ => .idle
  nextSerial := 0
  inFlight := []
  delivered := []
  applied := fun _ => none

theorem sampleStart_list {id : StatusListId} {list : StatusList}
    (present : sampleStart.store.committedLists id = some list) : id = sampleListId ∧ list =
      { StatusList.new sampleListId sampleIssuer.id 0 with
        registryEntryId := some "entry", registryUrl := some "https://status/entry.jwt" } := by
  simp only [sampleStart, Store.committedLists, Table.snapshot, Cell.committed_clean] at present
  split at present
  · next same => exact ⟨same, (Option.some.inj present).symm⟩
  · cases present

theorem sampleStart_initial : sampleStart.Initial where
  store :=
    { credentials := fun _ => rfl
      lists := by
        intro id
        refine ⟨rfl, ?_⟩
        intro list present
        obtain ⟨_, rfl⟩ := sampleStart_list present
        exact ⟨rfl, rfl, rfl, rfl⟩
      sessions := fun _ => rfl }
  keyed := by
    intro id list present
    obtain ⟨rfl, rfl⟩ := sampleStart_list present
    rfl
  listed := by
    intro id list present
    rw [(sampleStart_list present).1]
    exact List.mem_singleton.mpr rfl
  entries := by
    intro id other list rival entryId present presentRival _ _
    rw [(sampleStart_list present).1, (sampleStart_list presentRival).1]
  publishers := fun _ => rfl
  inFlight := rfl
  delivered := rfl
  applied := fun _ => rfl

def sampleIssuance (t : TxId) : List Event :=
  [.session t (.readIssuer
      ⟨sampleIssuer.tenantId, sampleIssuer.id, ⟨"8KpL9zRT5qWnFm"⟩, "urn:residence", "cnf", "jkt",
        0, 1⟩ (some sampleIssuer)),
    .session t (.lockOffer (.ok ())),
    .session t (.readCurrentList (some (sampleListId, some "https://status/entry.jwt"))),
    .session t .allocateIndex,
    .session t (.insert sampleCredentialId (Vector.replicate integrityHashLen 0)),
    .session t (.commit true)]

/-- A lifecycle request up to the `SELECT` of its credential. -/
def sampleRead (t : TxId) (operation : LifecycleOperation) : List Event :=
  [.session t (.begin ⟨operation, sampleIssuer.tenantId, sampleIssuer.id, sampleCredentialId⟩),
    .session t (.requireIssuerOwned true),
    .session t .find]

/-- The same request from its first `UPDATE` to before its commit. -/
def sampleUpdates (t : TxId) : List Event :=
  [.session t .setState, .session t .selectBitstring, .session t .updateBitstring]

theorem status_slots_follow_rows_sample : ∃ last,
    Run (Steps (State.step packedCodec)) sampleStart
      (sampleIssuance 0 ++ sampleRead 1 .revoke ++ sampleUpdates 1 ++
        [.session 1 (.commit true)]) last ∧
    Integrity packedCodec last.store.committedCredentials last.store.committedLists := by
  have run : Run (Steps (State.step packedCodec)) sampleStart
      (sampleIssuance 0 ++ sampleRead 1 .revoke ++ sampleUpdates 1 ++
        [.session 1 (.commit true)]) _ := Run.of_exec rfl
  exact ⟨_, run, (status_slots_follow_rows packedCodec sampleStart_initial run).1⟩

end Sample

end SwiyuIssuer.StatusStore
