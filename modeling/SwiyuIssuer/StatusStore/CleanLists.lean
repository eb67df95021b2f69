import SwiyuIssuer.StatusStore.Publication

/-! A clean list is one that the registry shows as it is committed, as long as the registry does
not put an older version over the current one. -/

namespace SwiyuIssuer.StatusStore

open Library Persistence

variable {codec : StatusListCodec} {state after : State} {event : Event} {p : PublisherId}

/-- The registry applies no PUT of an older version over the list's current committed version. -/
def KeepsCurrent (state : State) : Event → Prop
  | .deliver serial => ∀ put last id row,
      (state.inFlight.find? fun put => put.serial == serial) = some put →
      state.applied put.entryId = some last → state.store.committedLists id = some row →
      row.registryEntryId = some put.entryId → last.version = row.committedVersion →
      last.version ≤ put.version
  | _ => True

/-- If `version` is still the committed one, the registry shows it. -/
def Confirmed (state : State) (id : StatusListId) (version : Nat) : Prop :=
  ∀ row, state.store.committedLists id = some row → row.committedVersion = version →
    ∃ entryId put, row.registryEntryId = some entryId ∧ state.applied entryId = some put ∧
      put.version = version

/-- The snapshot of a round whose PUT the registry has applied. -/
def Round.told (delivered : List Nat) : Round → Option StatusList
  | .sent list _ _ _ _ serial => if serial ∈ delivered then some list else none
  | .succeeded list _ => some list
  | _ => none

structure Confirmations (state : State) : Prop where
  clean : ∀ id row, state.store.committedLists id = some row → 0 < row.publishedVersion →
    row.publishedVersion = row.committedVersion → Confirmed state id row.committedVersion
  rounds : ∀ p list, (state.publishers p).told state.delivered = some list →
    Confirmed state list.id list.committedVersion

theorem confirmations_initial (initial : state.Initial) : Confirmations state := by
  refine ⟨?_, ?_⟩
  · intro id row present positive
    obtain ⟨_, _, _, published⟩ := (initial.store.lists id).2 row present
    omega
  · intro p list told
    rw [initial.publishers p] at told
    cases told

theorem confirmed_grow (grow : ListsGrow state.store.committedLists after.store.committedLists)
    (applied : after.applied = state.applied) {id : StatusListId} {version : Nat}
    (bound : ∀ row, state.store.committedLists id = some row → version ≤ row.committedVersion)
    (confirmed : Confirmed state id version) : Confirmed after id version := by
  intro later present same
  obtain ⟨row, before, grown⟩ := grow.backward present
  have current : row.committedVersion = version := by
    have below := bound row before
    have above := grown.le
    omega
  obtain ⟨entryId, put, entry, shown, version_⟩ := confirmed row before current
  exact ⟨entryId, put, grown.entry.trans entry, by rw [applied]; exact shown, version_⟩

theorem snapshot_bound {list : StatusList} (snapshot : Snapshot state list) (row : StatusList)
    (present : state.store.committedLists list.id = some row) :
    list.committedVersion ≤ row.committedVersion := by
  obtain ⟨known, knownAt, _, _, bound, _⟩ := snapshot
  rw [knownAt] at present
  cases present
  exact bound

theorem told_snapshot {round : Round} {delivered : List Nat} {list : StatusList}
    (sound : RoundSound state round) (told : round.told delivered = some list) :
    Snapshot state list := by
  cases round with
  | sent snapshot entryId now token retried serial =>
      rw [Round.told] at told
      split at told
      · cases told
        exact sound.1
      · cases told
  | succeeded snapshot now =>
      cases told
      exact sound
  | _ => cases told

theorem confirmations_enter (confirmations : Confirmations state) {round : Round}
    (told : ∀ list, round.told state.delivered = some list →
      Confirmed state list.id list.committedVersion) : Confirmations (state.enter p round) := by
  refine ⟨confirmations.clean, ?_⟩
  intro other list heard
  by_cases self : other = p
  · subst self
    simp only [State.enter, Function.update_self] at heard
    exact told list heard
  · simp only [State.enter, Function.update_of_ne self] at heard
    exact confirmations.rounds other list heard

theorem confirmations_quiet (confirmations : Confirmations state) {round : Round}
    (quiet : round.told state.delivered = none) : Confirmations (state.enter p round) := by
  refine confirmations_enter confirmations ?_
  intro list told
  rw [quiet] at told
  cases told

theorem confirmations_grow (publication : PublicationSound state)
    (confirmations : Confirmations state)
    (grow : ListsGrow state.store.committedLists after.store.committedLists)
    (clean : ∀ id later, after.store.committedLists id = some later →
      0 < later.publishedVersion → later.publishedVersion = later.committedVersion →
        Confirmed state id later.committedVersion ∧
          ∀ row, state.store.committedLists id = some row →
            later.committedVersion ≤ row.committedVersion)
    (delivered : after.delivered = state.delivered) (applied : after.applied = state.applied)
    (publishers : after.publishers = state.publishers) : Confirmations after := by
  refine ⟨?_, ?_⟩
  · intro id later present positive same
    obtain ⟨confirmed, bound⟩ := clean id later present positive same
    exact confirmed_grow grow applied bound confirmed
  · intro p list told
    rw [publishers, delivered] at told
    exact confirmed_grow grow applied
      (snapshot_bound (told_snapshot (publication.rounds p) told))
      (confirmations.rounds p list told)

theorem confirmations_rewrite (publication : PublicationSound state)
    (confirmations : Confirmations state) {id : StatusListId} {row later : StatusList}
    (present : state.store.committedLists id = some row) (grown : Grown row later)
    (same : later.committedVersion = row.committedVersion)
    (clean : 0 < later.publishedVersion → later.publishedVersion = later.committedVersion →
      Confirmed state id later.committedVersion) :
    Confirmations (state.rewriteList id later) := by
  refine confirmations_grow publication confirmations ?_ ?_ rfl rfl rfl
  · rw [rewriteList_lists]
    exact listsGrow_update present grown
  · intro other found foundAt positive equal
    rw [rewriteList_lists] at foundAt
    by_cases self : other = id
    · subst self
      rw [Function.update_self] at foundAt
      cases foundAt
      refine ⟨clean positive equal, ?_⟩
      intro old oldAt
      rw [present] at oldAt
      cases oldAt
      exact Nat.le_of_eq same
    · rw [Function.update_of_ne self] at foundAt
      refine ⟨confirmations.clean other found foundAt positive equal, ?_⟩
      intro old oldAt
      rw [foundAt] at oldAt
      cases oldAt
      exact Nat.le_refl _

theorem confirmations_session {t : TxId} {action : Action} {store : Store}
    (sound : Sound codec state.store) (publication : PublicationSound state)
    (confirmations : Confirmations state) (move : Move codec state.store t action store) :
    Confirmations { state with store := store } := by
  obtain ⟨grow, versions⟩ := move_lists sound move
  refine confirmations_grow publication confirmations grow ?_ rfl rfl rfl
  intro id later present positive same
  obtain ⟨row, before, published, more⟩ := versions id later present
  -- a row that is clean after the step has not changed in it
  have bound := publication.order id row before
  have current : later.committedVersion = row.committedVersion := by omega
  refine ⟨?_, ?_⟩
  · rw [current]
    exact confirmations.clean id row before (by omega) (by omega)
  · intro old oldAt
    rw [before] at oldAt
    cases oldAt
    exact Nat.le_of_eq current

theorem confirmations_publisher (publication : PublicationSound state)
    (confirmations : Confirmations state) {action : PublisherAction}
    (taken : state.publisherStep p action = some after) : Confirmations after := by
  cases action with
  | acquireNextDirty now leaseDuration id =>
      simp only [State.publisherStep, State.acquireNextDirtyStep] at taken
      split at taken
      · split at taken
        · next row chosen =>
            cases taken
            obtain ⟨open_, present, dirty⟩ := StatusLists.nextDirty_spec chosen
            have rewritten : Confirmations (state.rewriteList id
                (StatusLists.stampLease row (now + leaseDuration))) := by
              refine confirmations_rewrite publication confirmations present
                ⟨rfl, rfl, rfl, .inl ⟨rfl, rfl⟩⟩ rfl ?_
              intro _ equal
              exact absurd equal (Nat.ne_of_lt dirty)
            exact confirmations_quiet rewritten rfl
        · cases taken
      · cases taken
  | loadIssuer issuer tenantFound =>
      simp only [State.publisherStep, State.loadIssuerStep] at taken
      split at taken
      · split at taken
        · cases taken
          exact confirmations_quiet confirmations rfl
        · split at taken <;> cases taken <;> exact confirmations_quiet confirmations rfl
      · cases taken
  | buildSigned now sign =>
      simp only [State.publisherStep, State.buildSignedStep] at taken
      split at taken
      · split at taken
        · cases taken
        · split at taken <;> cases taken <;> exact confirmations_quiet confirmations rfl
      · cases taken
  | put =>
      simp only [State.publisherStep, State.putStep] at taken
      split at taken
      · next list entryId now token retried at_ =>
          cases taken
          have fresh : state.nextSerial ∉ state.delivered := by
            intro member
            exact Nat.lt_irrefl _ (publication.delivered _ member)
          have quiet : (Round.sent list entryId now token retried state.nextSerial).told
              state.delivered = none := by rw [Round.told, if_neg fresh]
          have entered := confirmations_quiet (p := p) confirmations quiet
          exact ⟨entered.clean, entered.rounds⟩
      · cases taken
  | unauthorized =>
      simp only [State.publisherStep, State.unauthorizedStep] at taken
      split at taken
      · next list entryId now token serial at_ =>
          split at taken
          · cases taken
          · cases taken
            have entered : Confirmations (state.enter p (.signed list entryId now token true)) :=
              confirmations_quiet confirmations rfl
            exact ⟨entered.clean, entered.rounds⟩
      · cases taken
  | answer result word =>
      simp only [State.publisherStep, State.answerStep] at taken
      split at taken
      · split at taken
        · cases taken
          exact confirmations_quiet confirmations rfl
        · cases taken
      · next list entryId now token retried serial at_ =>
          split at taken
          · split at taken
            · next member =>
                cases taken
                refine confirmations_enter confirmations ?_
                intro told heard
                refine confirmations.rounds p told ?_
                rw [at_, Round.told, if_pos member]
                exact heard
            · cases taken
          · cases taken
            exact confirmations_quiet confirmations rfl
      · cases taken
  | record =>
      simp only [State.publisherStep, State.recordStep] at taken
      split at taken
      · next list now at_ =>
          have confirmed := confirmations.rounds p list (by rw [at_]; rfl)
          split at taken
          · next row open_ present =>
              split at taken
              · next recorded recordedBy =>
                  cases taken
                  refine confirmations_quiet ?_ rfl
                  unfold StatusLists.recordPublishSuccess at recordedBy
                  split at recordedBy
                  · cases recordedBy
                    refine confirmations_rewrite publication confirmations present
                      ⟨rfl, rfl, rfl, .inl ⟨rfl, rfl⟩⟩ rfl ?_
                    intro _ equal
                    exact (show list.committedVersion = row.committedVersion from equal) ▸ confirmed
                  · cases recordedBy
              · cases taken
                exact confirmations_quiet confirmations rfl
          · cases taken
      · next list now message nextAttemptAt at_ =>
          split at taken
          · next row open_ present =>
              cases taken
              have rewritten : Confirmations (state.rewriteList list.id
                  (StatusLists.recordPublishFailure row message nextAttemptAt now)) :=
                confirmations_rewrite publication confirmations present
                  ⟨rfl, rfl, rfl, .inl ⟨rfl, rfl⟩⟩ rfl
                  (confirmations.clean list.id row present)
              exact confirmations_quiet rewritten rfl
          · cases taken
      · cases taken
  | crash =>
      cases taken
      exact confirmations_quiet confirmations rfl

theorem confirmations_deliver (publication : PublicationSound state)
    (confirmations : Confirmations state) {serial : Nat}
    (kept : KeepsCurrent state (.deliver serial))
    (taken : state.deliverStep serial = some after) : Confirmations after := by
  unfold State.deliverStep at taken
  split at taken
  · next put found =>
      cases taken
      have member := List.mem_of_find?_eq_some found
      have equal : put.serial = serial := by
        simpa using List.find?_some found
      obtain ⟨⟨home, homeRow, homeAt, homeEntry, _, bound, _⟩, _⟩ :=
        publication.inFlight put member
      have carried : ∀ {id version}, Confirmed state id version →
          ∀ row, state.store.committedLists id = some row → row.committedVersion = version →
            ∃ entryId last, row.registryEntryId = some entryId ∧
              Function.update state.applied put.entryId (some put) entryId = some last ∧
                last.version = version := by
        intro id version confirmed row present current
        obtain ⟨entryId, last, entry, shown, version_⟩ := confirmed row present current
        by_cases same : entryId = put.entryId
        · subst same
          obtain rfl := publication.entries id home row homeRow _ present homeAt entry homeEntry
          rw [homeAt] at present
          cases present
          have newer := kept put last id homeRow found shown homeAt entry (version_.trans current.symm)
          exact ⟨put.entryId, put, entry, Function.update_self .., by omega⟩
        · exact ⟨entryId, last, entry, by rw [Function.update_of_ne same]; exact shown, version_⟩
      refine ⟨?_, ?_⟩
      · intro id row present positive clean
        exact carried (confirmations.clean id row present positive clean)
      · intro q list told
        by_cases before : (state.publishers q).told state.delivered = some list
        · exact carried (confirmations.rounds q list before)
        · -- the delivered PUT is the one that this round has sent
          have round := publication.rounds q
          simp only at told
          cases at_ : state.publishers q with
          | sent sent entryId now token retried own =>
              rw [at_] at told before round
              simp only [Round.told] at told before
              split at told
              · next heard =>
                  cases told
                  obtain ⟨⟨row, present, same, _⟩, entry, _, _, matched⟩ := round
                  have mine : own = serial := by
                    rcases List.mem_cons.mp heard with mine | old
                    · exact mine
                    · rw [if_pos old] at before
                      exact absurd rfl before
                  obtain ⟨sameEntry, version⟩ := matched put member (equal.trans mine.symm)
                  subst sameEntry
                  intro current currentAt _
                  rw [present] at currentAt
                  cases currentAt
                  exact ⟨put.entryId, put, same.trans entry, Function.update_self .., version⟩
              · cases told
          | succeeded list_ now =>
              rw [at_] at told before
              exact absurd told before
          | _ => rw [at_] at told; cases told
  · cases taken

theorem confirmations_step (sound : Sound codec state.store)
    (publication : PublicationSound state) (confirmations : Confirmations state)
    (taken : Guarded KeepsCurrent (Steps (State.step codec)) state event after) :
    Confirmations after := by
  obtain ⟨kept, taken⟩ := taken
  cases event with
  | session t action =>
      obtain ⟨store, moved, rfl⟩ := Option.map_eq_some_iff.mp taken
      exact confirmations_session sound publication confirmations (step_move moved)
  | publisher p action => exact confirmations_publisher publication confirmations taken
  | deliver serial => exact confirmations_deliver publication confirmations kept taken
  | lose serial =>
      cases taken
      exact ⟨confirmations.clean, confirmations.rounds⟩

theorem publication_run {first last : State} {trace : List Event} (initial : first.Initial)
    (run : Run (Steps (State.step codec)) first trace last) :
    Sound codec last.store ∧ PublicationSound last :=
  run.invariant_under (fun state => Sound codec state.store) PublicationSound
    (fun _ _ _ sound taken => sound_step sound taken)
    (fun _ _ _ sound publication taken => publication_step sound publication taken)
    (sound_empty codec initial.store) (publication_initial initial)

/-- What a clean list promises to a verifier. -/
def ShownAsCommitted (state : State) (row : StatusList) : Prop :=
  (row.committedVersion = 0 ∧
    ∀ entryId, row.registryEntryId = some entryId → state.applied entryId = none) ∨
  ∃ entryId put, row.registryEntryId = some entryId ∧ state.applied entryId = some put ∧
    put.token.payload.statusList = row.bitstring

theorem shown_as_committed (publication : PublicationSound state)
    (confirmations : Confirmations state) {id : StatusListId} {row : StatusList}
    (present : state.store.committedLists id = some row)
    (clean : row.publishedVersion = row.committedVersion) : ShownAsCommitted state row := by
  have content : ∀ {entryId put}, row.registryEntryId = some entryId →
      state.applied entryId = some put → Seen row put.version put.token.payload.statusList := by
    intro entryId put entry shown
    obtain ⟨same, home, found, foundAt, foundEntry, seen⟩ := publication.applied entryId put shown
    rw [same] at foundEntry
    obtain rfl := publication.entries id home row found entryId present foundAt entry foundEntry
    rw [present] at foundAt
    cases foundAt
    exact seen
  rcases Nat.eq_zero_or_pos row.publishedVersion with zero | positive
  · refine .inl ⟨by omega, ?_⟩
    intro entryId entry
    cases shown : state.applied entryId with
    | none => rfl
    | some put =>
        obtain ⟨some_, bound, _⟩ := content entry shown
        omega
  · obtain ⟨entryId, put, entry, shown, version⟩ :=
      confirmations.clean id row present positive clean row present rfl
    exact .inr ⟨entryId, put, entry, shown, (content entry shown).2.2 version⟩

def PublishedGrows (before later : Lists) : Prop :=
  ∀ id row, before id = some row →
    ∃ grown, later id = some grown ∧ row.publishedVersion ≤ grown.publishedVersion

theorem published_step (sound : Sound codec state.store)
    (taken : state.step codec event = some after) :
    PublishedGrows state.store.committedLists after.store.committedLists := by
  intro id row present
  rcases step_cases taken with ⟨t, action, _, move, _⟩ | republished
  · obtain ⟨grow, versions⟩ := move_lists sound move
    obtain ⟨later, now, _⟩ := grow.forward present
    obtain ⟨old, before, published, _⟩ := versions id later now
    rw [present] at before
    cases before
    exact ⟨later, now, Nat.le_of_eq published.symm⟩
  · rcases republished.lists id with same | ⟨old, rewritten, before, now, published, _⟩
    · exact ⟨row, by rw [Store.committedLists, Table.snapshot, same]; exact present,
        Nat.le_refl _⟩
    · rw [Store.committedLists, Table.snapshot, before] at present
      cases present
      exact ⟨rewritten, by rw [Store.committedLists, Table.snapshot, now]; rfl, published⟩

theorem published_run {first last : State} {trace : List Event} (sound : Sound codec first.store)
    (run : Run (Steps (State.step codec)) first trace last) :
    PublishedGrows first.store.committedLists last.store.committedLists := by
  induction run with
  | nil state => exact fun id row present => ⟨row, present, Nat.le_refl _⟩
  | cons taken rest ih =>
      intro id row present
      obtain ⟨middle, now, more⟩ := published_step sound taken id row present
      obtain ⟨later, after, rest_⟩ := ih (sound_step sound taken) id middle now
      exact ⟨later, after, Nat.le_trans more rest_⟩

/-- Published versions only grow and never pass the committed one; and where the registry keeps
the current version over older ones, a clean list is shown as it is committed. -/
theorem clean_lists_are_shown (codec : StatusListCodec) {first middle last : State}
    {front back : List Event} (initial : first.Initial)
    (before : Run (Steps (State.step codec)) first front middle)
    (later : Run (Steps (State.step codec)) middle back last) :
    PublishedGrows middle.store.committedLists last.store.committedLists ∧
      (∀ id row, last.store.committedLists id = some row →
        row.publishedVersion ≤ row.committedVersion) ∧
      (Run (Guarded KeepsCurrent (Steps (State.step codec))) first (front ++ back) last →
        ∀ id row, last.store.committedLists id = some row →
          row.publishedVersion = row.committedVersion → ShownAsCommitted last row) := by
  have soundMiddle := sound_run (sound_empty codec initial.store) before
  refine ⟨published_run soundMiddle later,
    (publication_run initial (before.append later)).2.order, ?_⟩
  intro ordered id row present clean
  obtain ⟨⟨_, publication⟩, confirmations⟩ := ordered.invariant_under
    (fun state => Sound codec state.store ∧ PublicationSound state) Confirmations
    (fun _ _ _ known taken =>
      ⟨sound_step known.1 taken.2, publication_step known.1 known.2 taken.2⟩)
    (fun _ _ _ known confirmations taken =>
      confirmations_step known.1 known.2 confirmations taken)
    ⟨sound_empty codec initial.store, publication_initial initial⟩ (confirmations_initial initial)
  exact shown_as_committed publication confirmations present clean

section Sample

def sampleRound (p : PublisherId) (now : DateTime) : List Event :=
  [.publisher p (.acquireNextDirty now (seconds 30) sampleListId),
    .publisher p (.loadIssuer (some sampleIssuer) true),
    .publisher p (.buildSigned now (.ok ())),
    .publisher p .put]

def sampleConfirm (p : PublisherId) : List Event :=
  [.publisher p (.answer (.ok ()) 0), .publisher p .record]

/-- Refuses a delivery over anything that the registry already shows. -/
def firstDelivery (state : State) : Event → Bool
  | .deliver serial =>
      match state.inFlight.find? fun put => put.serial == serial with
      | some put => (state.applied put.entryId).isNone
      | none => true
  | _ => true

theorem firstDelivery_keeps {state : State} {event : Event}
    (first : firstDelivery state event = true) : KeepsCurrent state event := by
  cases event with
  | deliver serial =>
      intro put last id row found shown
      simp only [firstDelivery, found, shown] at first
      cases first
  | _ => trivial

/-- The versions, the entry and the first slot of the list, and that slot at the registry. -/
structure SampleStatus where
  row : Option (Nat × Nat × Option String × Option StatusValue)
  shown : Option (Option StatusValue)
deriving DecidableEq

def sampleStatus (state : State) : SampleStatus where
  row := (state.store.committedLists sampleListId).map fun row =>
    (row.committedVersion, row.publishedVersion, row.registryEntryId, packedGetAt row.bitstring 0)
  shown := (state.applied "entry").map fun put => packedGetAt put.token.payload.statusList 0

theorem clean_lists_are_shown_sample : ∃ last row,
    Run (Steps (State.step packedCodec)) sampleStart
      (sampleIssuance 0 ++ (sampleRound 0 0 ++ [.deliver 0] ++ sampleConfirm 0)) last ∧
    last.store.committedLists sampleListId = some row ∧
    row.publishedVersion = row.committedVersion ∧ ShownAsCommitted last row := by
  have computed : (exec (checked firstDelivery (State.step packedCodec)) sampleStart
      (sampleIssuance 0 ++ (sampleRound 0 0 ++ [.deliver 0] ++ sampleConfirm 0))).map sampleStatus =
        some ⟨some (1, 1, some "entry", some .valid), some (some .valid)⟩ := by decide
  obtain ⟨last, reached, status⟩ := Option.map_eq_some_iff.mp computed
  have ordered : Run (Guarded KeepsCurrent (Steps (State.step packedCodec))) sampleStart _ last :=
    (Run.of_checked reached).mono fun _ _ _ taken => ⟨firstDelivery_keeps taken.1, taken.2⟩
  obtain ⟨row, present, columns⟩ := Option.map_eq_some_iff.mp (SampleStatus.mk.inj status).1
  obtain ⟨committed, published, _⟩ : row.committedVersion = 1 ∧ row.publishedVersion = 1 ∧ _ := by
    simpa using columns
  have clean : row.publishedVersion = row.committedVersion := published.trans committed.symm
  exact ⟨last, row, ordered.forget, present, clean,
    (clean_lists_are_shown packedCodec sampleStart_initial (.nil _) ordered.forget).2.2 ordered
      sampleListId row present clean⟩

/-- A lease runs out while a PUT is under way: the second publisher confirms the revocation, then
the registry applies the first publisher's PUT, and the list stays clean. -/
theorem late_put_over_clean_list : ∃ last row,
    Run (Steps (State.step packedCodec)) sampleStart
      (sampleIssuance 0 ++ sampleRound 0 0 ++ sampleRead 1 .revoke ++ sampleUpdates 1 ++
        [.session 1 (.commit true)] ++ sampleRound 1 (seconds 30) ++ [.deliver 1] ++
        sampleConfirm 1 ++ [.deliver 0]) last ∧
    last.store.committedLists sampleListId = some row ∧
    row.publishedVersion = row.committedVersion ∧ ¬ ShownAsCommitted last row := by
  have computed : (exec (State.step packedCodec) sampleStart
      (sampleIssuance 0 ++ sampleRound 0 0 ++ sampleRead 1 .revoke ++ sampleUpdates 1 ++
        [.session 1 (.commit true)] ++ sampleRound 1 (seconds 30) ++ [.deliver 1] ++
        sampleConfirm 1 ++ [.deliver 0])).map sampleStatus =
          some ⟨some (2, 2, some "entry", some .revoked), some (some .valid)⟩ := by decide
  obtain ⟨last, reached, status⟩ := Option.map_eq_some_iff.mp computed
  obtain ⟨listed, shown⟩ := SampleStatus.mk.inj status
  obtain ⟨row, present, columns⟩ := Option.map_eq_some_iff.mp listed
  obtain ⟨put, putAt, content⟩ := Option.map_eq_some_iff.mp shown
  obtain ⟨committed, published, entry, slot⟩ : row.committedVersion = 2 ∧
      row.publishedVersion = 2 ∧ row.registryEntryId = some "entry" ∧
        packedGetAt row.bitstring 0 = some .revoked := by
    simpa using columns
  refine ⟨last, row, Run.of_exec reached, present, published.trans committed.symm, ?_⟩
  rintro (⟨zero, _⟩ | ⟨entryId, other, entryAt, otherAt, same⟩)
  · omega
  · rw [entry] at entryAt
    cases entryAt
    rw [putAt] at otherAt
    cases otherAt
    rw [same, slot] at content
    cases content

end Sample

end SwiyuIssuer.StatusStore
