import SwiyuIssuer.StatusStore.SlotIntegrity

/-! Which index an issuance gets, whatever commits or rolls back around it. -/

namespace SwiyuIssuer.StatusStore

open Library Persistence

structure Allocation (credentials : Credentials) (lists : Lists) : Prop where
  distinct : ∀ id other row rival, credentials id = some row → credentials other = some rival →
    rival.statusListId = row.statusListId → rival.statusListIndex = row.statusListIndex → id = other
  below : ∀ id row, credentials id = some row → ∃ list, lists row.statusListId = some list ∧
    row.statusListIndex < list.allocatedCount
  capped : ∀ listId list, lists listId = some list →
    list.allocatedCount ≤ swiyuStatusListCapacity

/-- The index that a request has allocated and not committed yet. -/
def Session.allocates : Session → Option (StatusListId × StatusListIndex)
  | .slotAllocated _ _ _ listId _ index => some (listId, index)
  | .inserted _ credential => some (credential.statusListId, credential.statusListIndex)
  | _ => none

variable {codec : StatusListCodec} {state after : State} {event : Event}

def Capped (store : Store) : Prop :=
  ∀ listId list, store.committedLists listId = some list →
    list.allocatedCount ≤ swiyuStatusListCapacity

theorem allocateIndex_capped {row allocated : StatusList} {index : StatusListIndex}
    (taken : StatusLists.allocateIndex row = some (allocated, index)) :
    allocated.allocatedCount ≤ swiyuStatusListCapacity := by
  rcases StatusLists.allocateIndex_spec taken with ⟨position, counted, _, _⟩
  have inside := index.isLt
  omega

theorem capped_update {store next : Store} {listId : StatusListId} {list : StatusList}
    (capped : Capped store) (count : list.allocatedCount ≤ swiyuStatusListCapacity)
    (lists : next.committedLists = Function.update store.committedLists listId (some list)) :
    Capped next := by
  intro id found present
  rw [lists] at present
  by_cases same : id = listId
  · subst same
    rw [Function.update_self] at present
    cases present
    exact count
  · rw [Function.update_of_ne same] at present
    exact capped id found present

theorem capped_step (sound : Sound codec state.store) (capped : Capped state.store)
    (taken : state.step codec event = some after) : Capped after.store := by
  rcases step_cases taken with ⟨t, action, _, move, _⟩ | republished
  · have unchanged : after.store.committedLists = state.store.committedLists →
        Capped after.store := by
      intro same id list present
      rw [same] at present
      exact capped id list present
    generalize after.store = store at move unchanged ⊢
    cases move with
    | plain | load | writeState | insert => exact unchanged rfl
    | lockList | writeBits | allocate => exact unchanged (Table.snapshot_update ..)
    | rollback => exact unchanged (Table.snapshot_rollback ..)
    | commitIssue acknowledged jwt credential next at_ to_ =>
        rcases commitIssue_tables sound next at_ with
          ⟨home, allocated, _, _, _, taken_, _, lists⟩
        exact capped_update capped (allocateIndex_capped taken_) lists
    | commitLifecycle acknowledged request credential next at_ to_ =>
        rcases commitLifecycle_tables sound next at_ with
          ⟨row, home, bitstring, _, _, homeAt, _, _, lists⟩
        have count : (StatusLists.writeBitstring home bitstring).allocatedCount ≤
            swiyuStatusListCapacity := capped _ home homeAt
        exact capped_update capped count lists
  · intro id list present
    rcases republished_origin republished present with ⟨row, before, _, count⟩
    rw [count]
    exact capped id row before

theorem rowsKept_step (sound : Sound codec state.store)
    (taken : state.step codec event = some after) : RowsKept state.store after.store := by
  have same : after.store.committedCredentials = state.store.committedCredentials →
      RowsKept state.store after.store := by
    intro unchanged id row present
    exact ⟨row.state, by rw [unchanged]; exact present⟩
  rcases step_cases taken with ⟨t, action, _, move, _⟩ | republished
  · generalize after.store = store at move same ⊢
    cases move with
    | plain | load | lockList | writeBits | allocate => exact same rfl
    | writeState | insert => exact same (Table.snapshot_update ..)
    | rollback => exact same (Table.snapshot_rollback ..)
    | commitIssue acknowledged jwt credential next at_ to_ =>
        rcases commitIssue_tables sound next at_ with ⟨_, _, absent, _, _, _, rows, _⟩
        intro id row present
        have different : id ≠ credential.id := by
          rintro rfl
          rw [absent] at present
          cases present
        exact ⟨row.state, by rw [rows, Function.update_of_ne different]; exact present⟩
    | commitLifecycle acknowledged request credential next at_ to_ =>
        rcases commitLifecycle_tables sound next at_ with
          ⟨old, _, _, oldAt, moved, _, _, rows, _⟩
        intro id row present
        rw [rows]
        by_cases sameKey : id = old.id
        · subst sameKey
          rw [oldAt] at present
          cases present
          exact ⟨credential.state, by rw [Function.update_self, ← moved]⟩
        · exact ⟨row.state, by rw [Function.update_of_ne sameKey]; exact present⟩
  · exact same (republished_snapshot republished).1

theorem rowsKept_run {middle last : State} {trace : List Event} (sound : Sound codec middle.store)
    (run : Run (Steps (State.step codec)) middle trace last) :
    RowsKept middle.store last.store := by
  induction run with
  | nil state => exact fun id row present => ⟨row.state, present⟩
  | cons taken _ ih =>
      intro id row present
      rcases rowsKept_step sound taken id row present with ⟨state, kept⟩
      rcases ih (sound_step sound taken) id _ kept with ⟨later, there⟩
      exact ⟨later, there⟩

/-- An index that is allocated and not committed is the next one of its list, so no committed
credential has it. -/
theorem allocating_unowned (sound : Sound codec state.store) {t : TxId} {listId : StatusListId}
    {index : StatusListIndex}
    (allocating : (state.store.sessions t).allocates = some (listId, index))
    {id : IssuedCredentialId} {row : IssuedCredential}
    (present : state.store.committedCredentials id = some row) : ¬ Owns row listId index := by
  rintro ⟨sameList, sameIndex⟩
  have pending : ListPending state.store t listId fun list version =>
      StatusLists.allocateIndex list = some (version, index) := by
    have holding := sound.holding t
    cases found : state.store.sessions t with
    | slotAllocated request issuer assertionKeyId at_ registryUrl slot =>
        rw [found] at allocating holding
        cases allocating
        exact holding
    | inserted jwt credential =>
        rw [found] at allocating holding
        cases allocating
        exact holding.2.2.2
    | _ =>
        rw [found] at allocating
        cases allocating
  rcases pending with ⟨list, version, home, _, taken⟩
  have below := sound.integrity.allocated id row list present (by rw [sameList]; exact home)
  have next := (StatusLists.allocateIndex_spec taken).1
  rw [sameIndex] at below
  omega

/-- On a full list the statement finds no row to update: the issuance fails and nothing changes. -/
theorem full_list_refuses (sound : Sound codec state.store) {t : TxId} {request : IssueRequest}
    {issuer : Issuer} {assertionKeyId : KeyPairId} {listId : StatusListId} {registryUrl : String}
    {list : StatusList}
    (at_ : state.store.sessions t = .listResolved request issuer assertionKeyId listId registryUrl)
    (present : state.store.committedLists listId = some list)
    (full : list.isAtCapacity = true)
    (unlocked : (state.store.statusLists listId).writer = none) :
    ∃ after, state.step codec (.session t .allocateIndex) = some after ∧
      after.store.sessions t = .issued (.error (atCapacity listId)) ∧
      after.store.committedCredentials = state.store.committedCredentials ∧
      after.store.committedLists = state.store.committedLists := by
  have read : (state.store.statusLists listId).read t = some list :=
    (Cell.read_unheld (lists_unheld sound (by rw [at_]; rfl) listId)).trans present
  have free : (state.store.statusLists listId).free t = true := by
    rw [Cell.free, unlocked]
  have refused : StatusLists.allocateIndex list = none := by
    rw [StatusLists.allocateIndex, dif_neg]
    have above := of_decide_eq_true full
    omega
  refine ⟨{ state with store := state.store.rollback t (.issued (.error (atCapacity listId))) },
    ?_, Function.update_self .., Table.snapshot_rollback .., Table.snapshot_rollback ..⟩
  show (state.store.allocateIndexStep t).map _ = _
  simp only [Store.allocateIndexStep, at_, read, free, refused, Option.bind_some, if_true]
  rfl

/-- Indices are allocated once: in every committed state of every run two credentials of a list
have different indices, which lie below the list's count, and the count stays within the capacity;
an issuance that finds its list full fails and changes nothing; and whatever was rolled back in
between, an issuance never gets the index of a credential that was committed before. -/
theorem status_indices_are_allocated_once (codec : StatusListCodec) {first middle last : State}
    {trace rest : List Event} (initial : first.Initial)
    (run : Run (Steps (State.step codec)) first trace middle)
    (continued : Run (Steps (State.step codec)) middle rest last) :
    Allocation last.store.committedCredentials last.store.committedLists ∧
      (∀ t request issuer assertionKeyId listId registryUrl list,
        last.store.sessions t = .listResolved request issuer assertionKeyId listId registryUrl →
        last.store.committedLists listId = some list → list.isAtCapacity = true →
        (last.store.statusLists listId).writer = none →
        ∃ after, last.step codec (.session t .allocateIndex) = some after ∧
          after.store.sessions t = .issued (.error (atCapacity listId)) ∧
          after.store.committedCredentials = last.store.committedCredentials ∧
          after.store.committedLists = last.store.committedLists) ∧
      ∀ t id row listId index, middle.store.committedCredentials id = some row →
        (last.store.sessions t).allocates = some (listId, index) → ¬ Owns row listId index := by
  have start : Sound codec first.store := sound_empty codec initial.store
  have soundMiddle := sound_run start run
  have sound := sound_run soundMiddle continued
  have cappedStart : Capped first.store := by
    intro listId list present
    rw [((initial.store.lists listId).2 list present).2.1]
    exact Nat.zero_le _
  have capped := ((run.append continued).invariant_under (fun state => Sound codec state.store)
    (fun state => Capped state.store) (fun _ _ _ sound taken => sound_step sound taken)
    (fun _ _ _ sound capped taken => capped_step sound capped taken) start cappedStart).2
  refine ⟨⟨?_, ?_, capped⟩, ?_, ?_⟩
  · intro id other row rival present presentRival sameList sameIndex
    exact sound.integrity.exclusive id other row rival present presentRival ⟨sameList, sameIndex⟩
  · intro id row present
    rcases sound.integrity.encoded id row present with ⟨list, home, _⟩
    exact ⟨list, home, sound.integrity.allocated id row list present home⟩
  · intro t request issuer assertionKeyId listId registryUrl list at_ present full unlocked
    exact full_list_refuses sound at_ present full unlocked
  · intro t id row listId index present allocating owns
    rcases rowsKept_run soundMiddle continued id row present with ⟨later, kept⟩
    exact allocating_unowned sound allocating kept owns

/-- One issuance commits and a second one rolls back; the third one gets the index after the
first. -/
theorem status_indices_are_allocated_once_sample : ∃ middle last,
    Run (Steps (State.step packedCodec)) sampleStart (sampleIssuance 0) middle ∧
    Run (Steps (State.step packedCodec)) middle ((sampleIssuance 1).take 4 ++
      [.session 1 (.fail "signing")] ++ (sampleIssuance 2).take 4) last ∧
    Allocation last.store.committedCredentials last.store.committedLists := by
  have computed : (exec (State.step packedCodec) sampleStart (sampleIssuance 0 ++
      ((sampleIssuance 1).take 4 ++ [.session 1 (.fail "signing")] ++
        (sampleIssuance 2).take 4))).isSome = true := rfl
  rcases Run.of_exec_append computed with ⟨middle, last, run, continued⟩
  exact ⟨middle, last, run, continued,
    (status_indices_are_allocated_once packedCodec sampleStart_initial run continued).1⟩

end SwiyuIssuer.StatusStore
