import SwiyuIssuer.StatusStore.SlotIntegrity

/-! What the registry holds when a list is clean. -/

namespace SwiyuIssuer.StatusStore

open Library Persistence

variable {codec : StatusListCodec} {state after : State} {event : Event} {p : PublisherId}

/-- What a row keeps while requests and publishers work on it: a new committed version is the only
way to a new bit string. -/
structure Grown (row later : StatusList) : Prop where
  id : later.id = row.id
  owner : later.issuerId = row.issuerId
  entry : later.registryEntryId = row.registryEntryId
  versions : later.committedVersion = row.committedVersion ∧ later.bitstring = row.bitstring ∨
    row.committedVersion < later.committedVersion

theorem Grown.refl (row : StatusList) : Grown row row := ⟨rfl, rfl, rfl, .inl ⟨rfl, rfl⟩⟩

theorem Grown.le {row later : StatusList} (grown : Grown row later) :
    row.committedVersion ≤ later.committedVersion := by
  rcases grown.versions with ⟨same, _⟩ | more
  · exact Nat.le_of_eq same.symm
  · exact Nat.le_of_lt more

/-- `content` was the committed bit string at `version`, as far as `row` can tell. -/
def Seen (row : StatusList) (version : Nat) (content : Bitstring) : Prop :=
  0 < version ∧ version ≤ row.committedVersion ∧
    (version = row.committedVersion → content = row.bitstring)

theorem Seen.grown {row later : StatusList} {version : Nat} {content : Bitstring}
    (grown : Grown row later) (seen : Seen row version content) : Seen later version content := by
  obtain ⟨positive, bound, current⟩ := seen
  refine ⟨positive, Nat.le_trans bound grown.le, ?_⟩
  intro same
  rcases grown.versions with ⟨version_, bits⟩ | more
  · rw [bits]
    exact current (same.trans version_)
  · omega

def Snapshot (state : State) (list : StatusList) : Prop :=
  ∃ row, state.store.committedLists list.id = some row ∧
    row.registryEntryId = list.registryEntryId ∧ Seen row list.committedVersion list.bitstring

def PutSound (state : State) (put : Put) : Prop :=
  ∃ id row, state.store.committedLists id = some row ∧
    row.registryEntryId = some put.entryId ∧
      Seen row put.version put.token.payload.statusList

def RoundSound (state : State) : Round → Prop
  | .acquired list | .loaded list _ | .succeeded list _ => Snapshot state list
  | .signed list entryId _ token _ =>
      Snapshot state list ∧ list.registryEntryId = some entryId ∧
        token.payload.statusList = list.bitstring
  | .sent list entryId _ token _ serial =>
      Snapshot state list ∧ list.registryEntryId = some entryId ∧
        token.payload.statusList = list.bitstring ∧ serial < state.nextSerial ∧
          ∀ put ∈ state.inFlight, put.serial = serial →
            put.entryId = entryId ∧ put.version = list.committedVersion
  | .idle | .failed .. => True

structure PublicationSound (state : State) : Prop where
  keyed : ∀ id row, state.store.committedLists id = some row → row.id = id
  entries : ∀ id other row rival entryId, state.store.committedLists id = some row →
    state.store.committedLists other = some rival → row.registryEntryId = some entryId →
      rival.registryEntryId = some entryId → id = other
  order : ∀ id row, state.store.committedLists id = some row →
    row.publishedVersion ≤ row.committedVersion
  inFlight : ∀ put ∈ state.inFlight, PutSound state put ∧ put.serial < state.nextSerial
  applied : ∀ entryId put, state.applied entryId = some put →
    put.entryId = entryId ∧ PutSound state put
  delivered : ∀ serial ∈ state.delivered, serial < state.nextSerial
  rounds : ∀ p, RoundSound state (state.publishers p)

theorem publication_initial (initial : state.Initial) : PublicationSound state := by
  refine ⟨initial.keyed, initial.entries, ?_, ?_, ?_, ?_, ?_⟩
  · intro id row present
    obtain ⟨_, _, _, published⟩ := (initial.store.lists id).2 row present
    rw [published]
    exact Nat.zero_le _
  · intro put member
    rw [initial.inFlight] at member
    cases member
  · intro entryId put applied
    rw [initial.applied entryId] at applied
    cases applied
  · intro serial member
    rw [initial.delivered] at member
    cases member
  · intro p
    rw [initial.publishers p]
    trivial

/-- Each row of the later table has grown from the row of the same key. -/
def ListsGrow (before later : Lists) : Prop :=
  ∀ id, (before id = none ∧ later id = none) ∨
    ∃ row grown, before id = some row ∧ later id = some grown ∧ Grown row grown

theorem listsGrow_refl (lists : Lists) : ListsGrow lists lists := by
  intro id
  cases found : lists id with
  | none => exact .inl ⟨rfl, rfl⟩
  | some row => exact .inr ⟨row, row, rfl, rfl, .refl row⟩

theorem listsGrow_update {lists : Lists} {id : StatusListId} {row later : StatusList}
    (present : lists id = some row) (grown : Grown row later) :
    ListsGrow lists (Function.update lists id (some later)) := by
  intro other
  by_cases same : other = id
  · subst same
    exact .inr ⟨row, later, present, Function.update_self .., grown⟩
  · rw [Function.update_of_ne same]
    exact listsGrow_refl lists other

theorem ListsGrow.forward {before later : Lists} (grow : ListsGrow before later)
    {id : StatusListId} {row : StatusList} (present : before id = some row) :
    ∃ grown, later id = some grown ∧ Grown row grown := by
  rcases grow id with ⟨absent, _⟩ | ⟨found, grown, foundAt, now, more⟩
  · rw [absent] at present
    cases present
  · rw [foundAt] at present
    cases present
    exact ⟨grown, now, more⟩

theorem ListsGrow.backward {before later : Lists} (grow : ListsGrow before later)
    {id : StatusListId} {grown : StatusList} (present : later id = some grown) :
    ∃ row, before id = some row ∧ Grown row grown := by
  rcases grow id with ⟨_, absent⟩ | ⟨row, found, foundAt, now, more⟩
  · rw [absent] at present
    cases present
  · rw [now] at present
    cases present
    exact ⟨row, foundAt, more⟩

theorem snapshot_grow (grow : ListsGrow state.store.committedLists after.store.committedLists)
    {list : StatusList} (snapshot : Snapshot state list) : Snapshot after list := by
  obtain ⟨row, present, entry, seen⟩ := snapshot
  obtain ⟨later, now, grown⟩ := grow.forward present
  exact ⟨later, now, grown.entry.trans entry, seen.grown grown⟩

theorem putSound_grow (grow : ListsGrow state.store.committedLists after.store.committedLists)
    {put : Put} (sound : PutSound state put) : PutSound after put := by
  obtain ⟨id, row, present, entry, seen⟩ := sound
  obtain ⟨later, now, grown⟩ := grow.forward present
  exact ⟨id, later, now, grown.entry.trans entry, seen.grown grown⟩

theorem roundSound_grow (grow : ListsGrow state.store.committedLists after.store.committedLists)
    (serials : after.nextSerial = state.nextSerial) (inFlight : after.inFlight = state.inFlight)
    {round : Round} (sound : RoundSound state round) : RoundSound after round := by
  cases round with
  | idle => trivial
  | failed list now message nextAttemptAt => trivial
  | acquired list => exact snapshot_grow grow sound
  | loaded list issuer => exact snapshot_grow grow sound
  | succeeded list now => exact snapshot_grow grow sound
  | signed list entryId now token retried => exact ⟨snapshot_grow grow sound.1, sound.2⟩
  | sent list entryId now token retried serial =>
      obtain ⟨snapshot, entry, bits, bound, matched⟩ := sound
      refine ⟨snapshot_grow grow snapshot, entry, bits, by rw [serials]; exact bound, ?_⟩
      rw [inFlight]
      exact matched

/-- A step that only lets rows grow, and keeps published versions within bounds. -/
theorem publication_grow (sound : PublicationSound state)
    (grow : ListsGrow state.store.committedLists after.store.committedLists)
    (order : ∀ id row, after.store.committedLists id = some row →
      row.publishedVersion ≤ row.committedVersion)
    (serials : after.nextSerial = state.nextSerial) (inFlight : after.inFlight = state.inFlight)
    (delivered : after.delivered = state.delivered) (applied : after.applied = state.applied)
    (publishers : after.publishers = state.publishers) : PublicationSound after := by
  refine ⟨?_, ?_, order, ?_, ?_, ?_, ?_⟩
  · intro id row present
    obtain ⟨old, before, grown⟩ := grow.backward present
    exact grown.id.trans (sound.keyed id old before)
  · intro id other row rival entryId present presentRival entry entryRival
    obtain ⟨old, before, grown⟩ := grow.backward present
    obtain ⟨oldRival, beforeRival, grownRival⟩ := grow.backward presentRival
    exact sound.entries id other old oldRival entryId before beforeRival
      (grown.entry.symm.trans entry) (grownRival.entry.symm.trans entryRival)
  · intro put member
    rw [inFlight] at member
    obtain ⟨putSound, bound⟩ := sound.inFlight put member
    exact ⟨putSound_grow grow putSound, by rw [serials]; exact bound⟩
  · intro entryId put found
    rw [applied] at found
    obtain ⟨entry, putSound⟩ := sound.applied entryId put found
    exact ⟨entry, putSound_grow grow putSound⟩
  · intro serial member
    rw [serials]
    rw [delivered] at member
    exact sound.delivered serial member
  · intro p
    rw [publishers]
    exact roundSound_grow grow serials inFlight (sound.rounds p)

theorem publication_enter (sound : PublicationSound state) {round : Round}
    (entered : RoundSound state round) : PublicationSound (state.enter p round) := by
  have same : ∀ {other : Round}, RoundSound state other → RoundSound (state.enter p round) other :=
    fun kept => roundSound_grow (listsGrow_refl _) rfl rfl kept
  refine ⟨sound.keyed, sound.entries, sound.order, sound.inFlight, sound.applied, sound.delivered,
    ?_⟩
  intro other
  by_cases self : other = p
  · subst self
    simp only [State.enter, Function.update_self]
    exact same entered
  · simp only [State.enter, Function.update_of_ne self]
    exact same (sound.rounds other)

theorem rewriteList_lists (id : StatusListId) (row : StatusList) :
    (state.rewriteList id row).store.committedLists =
      Function.update state.store.committedLists id (some row) := by
  funext other
  by_cases same : other = id
  · subst same
    simp [State.rewriteList, Store.committedLists, Table.snapshot]
  · simp [State.rewriteList, Store.committedLists, Table.snapshot, Function.update_of_ne same]

theorem publication_rewrite (sound : PublicationSound state) {id : StatusListId}
    {row later : StatusList} (present : state.store.committedLists id = some row)
    (grown : Grown row later) (order : later.publishedVersion ≤ later.committedVersion) :
    PublicationSound (state.rewriteList id later) := by
  refine publication_grow sound ?_ ?_ rfl rfl rfl rfl rfl
  · rw [rewriteList_lists]
    exact listsGrow_update present grown
  · intro other found now
    rw [rewriteList_lists] at now
    by_cases same : other = id
    · subst same
      rw [Function.update_self] at now
      cases now
      exact order
    · rw [Function.update_of_ne same] at now
      exact sound.order other found now

/-- What a request's statement does to the committed lists. -/
theorem move_lists {t : TxId} {action : Action} {store next : Store} (sound : Sound codec store)
    (move : Move codec store t action next) :
    ListsGrow store.committedLists next.committedLists ∧
      ∀ id later, next.committedLists id = some later →
        ∃ row, store.committedLists id = some row ∧
          later.publishedVersion = row.publishedVersion ∧
            row.committedVersion ≤ later.committedVersion := by
  have unchanged : next.committedLists = store.committedLists →
      ListsGrow store.committedLists next.committedLists ∧
      ∀ id later, next.committedLists id = some later →
        ∃ row, store.committedLists id = some row ∧
          later.publishedVersion = row.publishedVersion ∧
            row.committedVersion ≤ later.committedVersion := by
    intro same
    rw [same]
    exact ⟨listsGrow_refl _, fun id later present => ⟨later, present, rfl, Nat.le_refl _⟩⟩
  have replaced : ∀ {id row later}, store.committedLists id = some row →
      next.committedLists = Function.update store.committedLists id (some later) →
      Grown row later → later.publishedVersion = row.publishedVersion →
      ListsGrow store.committedLists next.committedLists ∧
      ∀ id later, next.committedLists id = some later →
        ∃ row, store.committedLists id = some row ∧
          later.publishedVersion = row.publishedVersion ∧
            row.committedVersion ≤ later.committedVersion := by
    intro id row later present lists grown published
    rw [lists]
    refine ⟨listsGrow_update present grown, ?_⟩
    intro other found now
    by_cases same : other = id
    · subst same
      rw [Function.update_self] at now
      cases now
      exact ⟨row, present, published, grown.le⟩
    · rw [Function.update_of_ne same] at now
      exact ⟨found, now, rfl, Nat.le_refl _⟩
  cases move with
  | plain _ session from_ to_ => exact unchanged rfl
  | load request row moved at_ read allowed => exact unchanged rfl
  | writeState request credential at_ free => exact unchanged rfl
  | lockList request credential row bitstring at_ free read edited =>
      exact unchanged (Table.snapshot_update ..)
  | writeBits request credential bitstring at_ free => exact unchanged (Table.snapshot_update ..)
  | allocate request issuer assertionKeyId listId registryUrl row allocated index at_ free read
      taken =>
      exact unchanged (Table.snapshot_update ..)
  | insert request issuer assertionKeyId listId registryUrl index id integrityHash at_ free read =>
      exact unchanged rfl
  | rollback _ session to_ => exact unchanged (Table.snapshot_rollback ..)
  | commitLifecycle acknowledged request credential session at_ to_ =>
      obtain ⟨row, list, bitstring, _, _, home, _, _, lists⟩ :=
        commitLifecycle_tables sound session at_
      exact replaced home lists ⟨rfl, rfl, rfl, .inr (Nat.lt_succ_self _)⟩ rfl
  | commitIssue acknowledged jwt credential session at_ to_ =>
      obtain ⟨list, allocated, _, _, home, taken, _, lists⟩ := commitIssue_tables sound session at_
      unfold StatusLists.allocateIndex at taken
      split at taken
      · obtain ⟨rfl, _⟩ := Prod.mk.inj (Option.some.inj taken)
        exact replaced home lists ⟨rfl, rfl, rfl, .inr (Nat.lt_succ_self _)⟩ rfl
      · cases taken

theorem publication_filter (sound : PublicationSound state) (keep : Put → Bool) :
    PublicationSound { state with inFlight := state.inFlight.filter keep } := by
  refine ⟨sound.keyed, sound.entries, sound.order, ?_, sound.applied, sound.delivered, ?_⟩
  · intro put member
    exact sound.inFlight put (List.mem_filter.mp member).1
  · intro p
    have round := sound.rounds p
    simp only
    cases found : state.publishers p with
    | sent list entryId now token retried serial =>
        rw [found] at round
        obtain ⟨snapshot, entry, bits, bound, matched⟩ := round
        refine ⟨snapshot, entry, bits, bound, ?_⟩
        intro put member
        exact matched put (List.mem_filter.mp member).1
    | _ => rw [found] at round; exact round

theorem publication_put (sound : PublicationSound state) {list : StatusList} {entryId : String}
    {now : DateTime} {token : StatusListToken} {retried : Bool}
    (at_ : state.publishers p = .signed list entryId now token retried) :
    PublicationSound { state.enter p (.sent list entryId now token retried state.nextSerial) with
      nextSerial := state.nextSerial + 1
      inFlight := ⟨state.nextSerial, entryId, token, list.committedVersion⟩ :: state.inFlight } := by
  have round := sound.rounds p
  rw [at_] at round
  obtain ⟨⟨row, present, same, seen⟩, entry, bits⟩ := round
  have putSound : PutSound state ⟨state.nextSerial, entryId, token, list.committedVersion⟩ :=
    ⟨list.id, row, present, same.trans entry, by rw [← bits] at seen; exact seen⟩
  refine ⟨sound.keyed, sound.entries, sound.order, ?_, sound.applied, ?_, ?_⟩
  · intro put member
    rcases List.mem_cons.mp member with rfl | old
    · exact ⟨putSound, Nat.lt_succ_self _⟩
    · exact ⟨(sound.inFlight put old).1, Nat.lt_succ_of_lt (sound.inFlight put old).2⟩
  · intro serial member
    exact Nat.lt_succ_of_lt (sound.delivered serial member)
  · intro other
    by_cases self : other = p
    · subst self
      simp only [State.enter, Function.update_self]
      refine ⟨⟨row, present, same, seen⟩, entry, bits, Nat.lt_succ_self _, ?_⟩
      intro put member equal
      rcases List.mem_cons.mp member with rfl | old
      · exact ⟨rfl, rfl⟩
      · have bound := (sound.inFlight put old).2
        omega
    · have theirs := sound.rounds other
      simp only [State.enter, Function.update_of_ne self]
      cases found : state.publishers other with
      | sent list_ entryId_ now_ token_ retried_ serial =>
          rw [found] at theirs
          obtain ⟨snapshot, entry_, bits_, bound, matched⟩ := theirs
          refine ⟨snapshot, entry_, bits_, Nat.lt_succ_of_lt bound, ?_⟩
          intro put member equal
          rcases List.mem_cons.mp member with rfl | old
          · exact absurd equal (Nat.ne_of_gt bound)
          · exact matched put old equal
      | _ => rw [found] at theirs; exact theirs

theorem publication_publisher (sound : PublicationSound state) {action : PublisherAction}
    (taken : state.publisherStep p action = some after) : PublicationSound after := by
  have round := sound.rounds p
  cases action with
  | acquireNextDirty now leaseDuration id =>
      simp only [State.publisherStep, State.acquireNextDirtyStep] at taken
      split at taken
      · split at taken
        · next row chosen =>
            cases taken
            obtain ⟨open_, present, dirty⟩ := StatusLists.nextDirty_spec chosen
            have rewritten : PublicationSound (state.rewriteList id
                (StatusLists.stampLease row (now + leaseDuration))) :=
              publication_rewrite sound present ⟨rfl, rfl, rfl, .inl ⟨rfl, rfl⟩⟩
                (sound.order id row present)
            refine publication_enter rewritten ?_
            have keyed := sound.keyed id row present
            refine ⟨StatusLists.stampLease row (now + leaseDuration), ?_, rfl, ?_, Nat.le_refl _,
              fun _ => rfl⟩
            · rw [rewriteList_lists, StatusLists.stampLease, keyed, Function.update_self]
            · exact Nat.lt_of_le_of_lt (Nat.zero_le _) dirty
        · cases taken
      · cases taken
  | loadIssuer issuer tenantFound =>
      simp only [State.publisherStep, State.loadIssuerStep] at taken
      split at taken
      · next list at_ =>
          rw [at_] at round
          split at taken
          · cases taken
            exact publication_enter sound trivial
          · split at taken
            · cases taken
              exact publication_enter sound round
            · cases taken
              exact publication_enter sound trivial
      · cases taken
  | buildSigned now sign =>
      simp only [State.publisherStep, State.buildSignedStep] at taken
      split at taken
      · next list issuer at_ =>
          rw [at_] at round
          split at taken
          · cases taken
          · next entryId entry =>
              split at taken
              · next token built =>
                  cases taken
                  exact publication_enter sound ⟨round, entry, (buildSigned_ok built).1⟩
              · cases taken
                exact publication_enter sound trivial
      · cases taken
  | put =>
      simp only [State.publisherStep, State.putStep] at taken
      split at taken
      · next at_ =>
          cases taken
          exact publication_put sound at_
      · cases taken
  | unauthorized =>
      simp only [State.publisherStep, State.unauthorizedStep] at taken
      split at taken
      · next list entryId now token serial at_ =>
          rw [at_] at round
          obtain ⟨snapshot, entry, bits, _⟩ := round
          split at taken
          · cases taken
          · cases taken
            have entered : RoundSound state (.signed list entryId now token true) :=
              ⟨snapshot, entry, bits⟩
            exact publication_filter (publication_enter sound entered) _
      · cases taken
  | answer result word =>
      simp only [State.publisherStep, State.answerStep] at taken
      split at taken
      · split at taken
        · cases taken
          exact publication_enter sound trivial
        · cases taken
      · next list entryId now token retried serial at_ =>
          rw [at_] at round
          split at taken
          · split at taken
            · cases taken
              exact publication_enter sound round.1
            · cases taken
          · cases taken
            exact publication_enter sound trivial
      · cases taken
  | record =>
      simp only [State.publisherStep, State.recordStep] at taken
      split at taken
      · next list now at_ =>
          rw [at_] at round
          obtain ⟨known, knownAt, _, _, bound, _⟩ := round
          split at taken
          · next row open_ present =>
              split at taken
              · next recorded recordedBy =>
                  cases taken
                  refine publication_enter ?_ trivial
                  unfold StatusLists.recordPublishSuccess at recordedBy
                  split at recordedBy
                  · cases recordedBy
                    have same : known = row := Option.some.inj (knownAt.symm.trans present)
                    subst same
                    exact publication_rewrite sound present ⟨rfl, rfl, rfl, .inl ⟨rfl, rfl⟩⟩ bound
                  · cases recordedBy
              · cases taken
                exact publication_enter sound trivial
          · cases taken
      · next list now message nextAttemptAt at_ =>
          split at taken
          · next row open_ present =>
              cases taken
              have rewritten : PublicationSound (state.rewriteList list.id
                  (StatusLists.recordPublishFailure row message nextAttemptAt now)) :=
                publication_rewrite sound present ⟨rfl, rfl, rfl, .inl ⟨rfl, rfl⟩⟩
                  (sound.order _ row present)
              exact publication_enter rewritten trivial
          · cases taken
      · cases taken
  | crash =>
      cases taken
      exact publication_enter sound trivial

theorem publication_deliver (sound : PublicationSound state) {serial : Nat}
    (taken : state.deliverStep serial = some after) : PublicationSound after := by
  unfold State.deliverStep at taken
  split at taken
  · next put found =>
      cases taken
      have member := List.mem_of_find?_eq_some found
      have equal : put.serial = serial := by
        simpa using List.find?_some found
      obtain ⟨putSound, bound⟩ := sound.inFlight put member
      have filtered := publication_filter sound fun other => other.serial != serial
      refine ⟨sound.keyed, sound.entries, sound.order, filtered.inFlight, ?_, ?_, filtered.rounds⟩
      · intro entryId last applied
        by_cases same : entryId = put.entryId
        · subst same
          simp only [Function.update_self, Option.some.injEq] at applied
          subst applied
          exact ⟨rfl, putSound⟩
        · simp only [Function.update_of_ne same] at applied
          exact sound.applied entryId last applied
      · intro other delivered
        rcases List.mem_cons.mp delivered with rfl | old
        · rw [← equal]
          exact bound
        · exact sound.delivered other old
  · cases taken

theorem publication_step (sound : Sound codec state.store) (publication : PublicationSound state)
    (taken : state.step codec event = some after) : PublicationSound after := by
  cases event with
  | session t action =>
      obtain ⟨store, moved, rfl⟩ := Option.map_eq_some_iff.mp taken
      obtain ⟨grow, versions⟩ := move_lists sound (step_move moved)
      refine publication_grow publication grow ?_ rfl rfl rfl rfl rfl
      intro id later present
      obtain ⟨row, before, published, more⟩ := versions id later present
      rw [published]
      exact Nat.le_trans (publication.order id row before) more
  | publisher p action => exact publication_publisher publication taken
  | deliver serial => exact publication_deliver publication taken
  | lose serial =>
      cases taken
      exact publication_filter publication _

end SwiyuIssuer.StatusStore
