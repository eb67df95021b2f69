import SwiyuIssuer.StatusStore.Integrity

/-! The invariant that carries integrity through every interleaving: who holds which row, and what
a transaction in progress still knows about the rows it has read. -/

namespace SwiyuIssuer.StatusStore

open Library Persistence

def Session.credentialLock : Session → Option IssuedCredentialId
  | .stateWritten _ credential | .bitstringRead _ credential _ | .bitWritten _ credential
  | .inserted _ credential => some credential.id
  | _ => none

def Session.listLock : Session → Option StatusListId
  | .bitstringRead _ credential _ | .bitWritten _ credential | .inserted _ credential =>
      some credential.statusListId
  | .slotAllocated _ _ _ listId _ _ => some listId
  | _ => none

def Store.committedCredentials (store : Store) : Credentials := store.credentials.snapshot

def Store.committedLists (store : Store) : Lists := store.statusLists.snapshot

/-- The loaded aggregate differs from the committed row in its state at most. -/
def Loaded (store : Store) (request : LifecycleRequest) (credential : IssuedCredential) : Prop :=
  ∃ row, store.committedCredentials credential.id = some row ∧
    credential = { row with state := credential.state } ∧
    credential.state.statusValue = request.operation.bitValue

def CredentialPending (store : Store) (t : TxId) (credential : IssuedCredential) : Prop :=
  (store.credentials credential.id).writer = some (t, some credential)

def ListPending (store : Store) (t : TxId) (listId : StatusListId)
    (change : StatusList → StatusList → Prop) : Prop :=
  ∃ list version, store.committedLists listId = some list ∧
    (store.statusLists listId).writer = some (t, some version) ∧ change list version

def Holding (codec : StatusListCodec) (store : Store) (t : TxId) : Session → Prop
  | .transitioned request credential => Loaded store request credential
  | .stateWritten request credential =>
      Loaded store request credential ∧ CredentialPending store t credential
  | .bitstringRead request credential bitstring =>
      Loaded store request credential ∧ CredentialPending store t credential ∧
        ListPending store t credential.statusListId fun list version =>
          version = list ∧ codec.setAt list.bitstring credential.statusListIndex
            request.operation.bitValue = .ok bitstring
  | .bitWritten request credential =>
      Loaded store request credential ∧ CredentialPending store t credential ∧
        ListPending store t credential.statusListId fun list version =>
          ∃ bitstring, codec.setAt list.bitstring credential.statusListIndex
            request.operation.bitValue = .ok bitstring ∧
              version = StatusLists.writeBitstring list bitstring
  | .slotAllocated _ _ _ listId _ index =>
      ListPending store t listId fun list version =>
        StatusLists.allocateIndex list = some (version, index)
  | .inserted _ credential =>
      store.committedCredentials credential.id = none ∧ CredentialPending store t credential ∧
        credential.state = .active ∧
          ListPending store t credential.statusListId fun list version =>
            StatusLists.allocateIndex list = some (version, credential.statusListIndex)
  | _ => True

structure Sound (codec : StatusListCodec) (store : Store) : Prop where
  integrity : Integrity codec store.committedCredentials store.committedLists
  credentialLocks : ∀ id t version, (store.credentials id).writer = some (t, version) →
    (store.sessions t).credentialLock = some id
  listLocks : ∀ id t version, (store.statusLists id).writer = some (t, version) →
    (store.sessions t).listLock = some id
  holding : ∀ t, Holding codec store t (store.sessions t)

/-- No credential, no allocated index, no request under way. -/
structure Store.Empty (store : Store) : Prop where
  credentials : ∀ id, store.credentials id = Cell.clean none
  lists : ∀ id, (store.statusLists id).writer = none ∧
    ∀ list, (store.statusLists id).committed = some list →
      list.bitstring = Bitstring.zeroed ∧ list.allocatedCount = 0 ∧
        list.committedVersion = 0 ∧ list.publishedVersion = 0
  sessions : ∀ t, store.sessions t = .idle

theorem sound_empty (codec : StatusListCodec) {store : Store} (empty : store.Empty) :
    Sound codec store := by
  have noRow : ∀ id row, store.committedCredentials id ≠ some row := by
    intro id row found
    rw [Store.committedCredentials, Table.snapshot, empty.credentials id] at found
    cases found
  refine ⟨⟨?_, ?_, ?_, ?_, ?_⟩, ?_, ?_, ?_⟩
  · intro id row found
    exact absurd found (noRow id row)
  · intro id row found
    exact absurd found (noRow id row)
  · intro id row _ found
    exact absurd found (noRow id row)
  · intro id _ row _ found
    exact absurd found (noRow id row)
  · intro listId list index found _
    rw [((empty.lists listId).2 list found).1]
    exact codec.getAt_zeroed index index.isLt
  · intro id t version held
    rw [empty.credentials id] at held
    cases held
  · intro id t version held
    rw [(empty.lists id).1] at held
    cases held
  · intro t
    rw [empty.sessions t]
    trivial

/-- What a step of `t` leaves to every other request. -/
structure Acts (t : TxId) (before after : Store) : Prop where
  sessions : ∀ other, other ≠ t → after.sessions other = before.sessions other
  credentials : Table.Respects t before.credentials after.credentials
  statusLists : Table.Respects t before.statusLists after.statusLists

variable {codec : StatusListCodec} {store after : Store} {t : TxId} {action : Action}

theorem move_acts (move : Move codec store t action after) : Acts t store after := by
  have elsewhere : ∀ next other, other ≠ t →
      Function.update store.sessions t next other = store.sessions other :=
    fun next other different => Function.update_of_ne different ..
  cases move with
  | plain _ next from_ to_ =>
      exact ⟨elsewhere _, Table.respects_refl .., Table.respects_refl ..⟩
  | load request row moved at_ read allowed =>
      exact ⟨elsewhere _, Table.respects_refl .., Table.respects_refl ..⟩
  | writeState request credential at_ free =>
      exact ⟨elsewhere _, Table.respects_update _ free, Table.respects_refl ..⟩
  | lockList request credential row bitstring at_ free read edited =>
      exact ⟨elsewhere _, Table.respects_refl .., Table.respects_update _ free⟩
  | writeBits request credential bitstring at_ free =>
      exact ⟨elsewhere _, Table.respects_refl .., Table.respects_update _ free⟩
  | allocate request issuer assertionKeyId listId registryUrl row allocated index at_ free read
      taken =>
      exact ⟨elsewhere _, Table.respects_refl .., Table.respects_update _ free⟩
  | insert request issuer assertionKeyId listId registryUrl index id integrityHash at_ free read =>
      exact ⟨elsewhere _, Table.respects_update _ free, Table.respects_refl ..⟩
  | commitLifecycle acknowledged request credential next at_ to_ =>
      exact ⟨elsewhere _, Table.respects_commit .., Table.respects_commit ..⟩
  | commitIssue acknowledged jwt credential next at_ to_ =>
      exact ⟨elsewhere _, Table.respects_commit .., Table.respects_commit ..⟩
  | rollback _ next to_ =>
      exact ⟨elsewhere _, Table.respects_rollback .., Table.respects_rollback ..⟩

/-- Committed rows keep every column but the state. -/
def RowsKept (before after : Store) : Prop :=
  ∀ id row, before.committedCredentials id = some row →
    ∃ state, after.committedCredentials id = some { row with state := state }

theorem loaded_kept (kept : RowsKept store after) {request : LifecycleRequest}
    {credential : IssuedCredential} (loaded : Loaded store request credential) :
    Loaded after request credential := by
  obtain ⟨row, present, same, value⟩ := loaded
  obtain ⟨state, now⟩ := kept _ _ present
  exact ⟨{ row with state := state }, now, by rw [same], value⟩

theorem credentialPending_kept {other : TxId} (acts : Acts t store after) (different : other ≠ t)
    {credential : IssuedCredential} (pending : CredentialPending store other credential) :
    CredentialPending after other credential := by
  rw [CredentialPending, acts.credentials.kept _ _ _ different pending]
  exact pending

theorem listPending_kept {other : TxId} (acts : Acts t store after) (different : other ≠ t)
    {listId : StatusListId} {change : StatusList → StatusList → Prop}
    (pending : ListPending store other listId change) : ListPending after other listId change := by
  obtain ⟨list, version, present, held, changed⟩ := pending
  have same := acts.statusLists.kept _ _ _ different held
  exact ⟨list, version, by rw [Store.committedLists, Table.snapshot, same]; exact present,
    by rw [same]; exact held, changed⟩

theorem holding_kept {other : TxId} (acts : Acts t store after) (different : other ≠ t)
    (kept : RowsKept store after) {session : Session}
    (holding : Holding codec store other session) : Holding codec after other session := by
  cases session with
  | transitioned request credential => exact loaded_kept kept holding
  | stateWritten request credential =>
      exact ⟨loaded_kept kept holding.1, credentialPending_kept acts different holding.2⟩
  | bitstringRead request credential bitstring =>
      exact ⟨loaded_kept kept holding.1, credentialPending_kept acts different holding.2.1,
        listPending_kept acts different holding.2.2⟩
  | bitWritten request credential =>
      exact ⟨loaded_kept kept holding.1, credentialPending_kept acts different holding.2.1,
        listPending_kept acts different holding.2.2⟩
  | slotAllocated request issuer assertionKeyId listId registryUrl index =>
      exact listPending_kept acts different holding
  | inserted jwt credential =>
      obtain ⟨absent, pending, active, listed⟩ := holding
      refine ⟨?_, credentialPending_kept acts different pending, active,
        listPending_kept acts different listed⟩
      rw [Store.committedCredentials, Table.snapshot, acts.credentials.kept _ _ _ different pending]
      exact absent
  | _ => trivial

/-- A step is sound when the committed tables it leaves are, and `t` accounts for what it holds. -/
theorem sound_acts (sound : Sound codec store) (acts : Acts t store after)
    (kept : RowsKept store after)
    (integrity : Integrity codec after.committedCredentials after.committedLists)
    (credentialLocks : ∀ id version, (after.credentials id).writer = some (t, version) →
      (after.sessions t).credentialLock = some id)
    (listLocks : ∀ id version, (after.statusLists id).writer = some (t, version) →
      (after.sessions t).listLock = some id)
    (holding : Holding codec after t (after.sessions t)) : Sound codec after := by
  refine ⟨integrity, ?_, ?_, ?_⟩
  · intro id other version held
    by_cases same : other = t
    · subst same
      exact credentialLocks id version held
    · rw [acts.sessions other same]
      exact sound.credentialLocks id other version (acts.credentials.origin _ _ _ same held)
  · intro id other version held
    by_cases same : other = t
    · subst same
      exact listLocks id version held
    · rw [acts.sessions other same]
      exact sound.listLocks id other version (acts.statusLists.origin _ _ _ same held)
  · intro other
    by_cases same : other = t
    · subst same
      exact holding
    · rw [acts.sessions other same]
      exact holding_kept acts same kept (sound.holding other)

theorem credentials_unheld (sound : Sound codec store)
    (unlocked : (store.sessions t).credentialLock = none) (id : IssuedCredentialId)
    (version : Option IssuedCredential) : (store.credentials id).writer ≠ some (t, version) := by
  intro held
  rw [sound.credentialLocks id t version held] at unlocked
  cases unlocked

theorem lists_unheld (sound : Sound codec store) (unlocked : (store.sessions t).listLock = none)
    (id : StatusListId) (version : Option StatusList) :
    (store.statusLists id).writer ≠ some (t, version) := by
  intro held
  rw [sound.listLocks id t version held] at unlocked
  cases unlocked

theorem plain_credentialLock {session : Session} (plain : session.Plain) :
    session.credentialLock = none := by
  cases session <;> first | rfl | exact plain.elim

theorem plain_listLock {session : Session} (plain : session.Plain) : session.listLock = none := by
  cases session <;> first | rfl | exact plain.elim

theorem plain_holding {session : Session} (plain : session.Plain) :
    Holding codec store t session := by
  cases session <;> first | exact plain.elim | trivial

/-- A step that commits nothing keeps integrity and every committed row. -/
theorem sound_pending (sound : Sound codec store) (acts : Acts t store after)
    (credentials : after.committedCredentials = store.committedCredentials)
    (lists : after.committedLists = store.committedLists)
    (credentialLocks : ∀ id version, (after.credentials id).writer = some (t, version) →
      (after.sessions t).credentialLock = some id)
    (listLocks : ∀ id version, (after.statusLists id).writer = some (t, version) →
      (after.sessions t).listLock = some id)
    (holding : Holding codec after t (after.sessions t)) : Sound codec after := by
  refine sound_acts sound acts ?_ ?_ credentialLocks listLocks holding
  · intro id row present
    exact ⟨row.state, by rw [credentials]; exact present⟩
  · rw [credentials, lists]
    exact sound.integrity

/-- A commit or a rollback leaves `t` holding nothing. -/
theorem sound_released (sound : Sound codec store) (acts : Acts t store after)
    (kept : RowsKept store after)
    (integrity : Integrity codec after.committedCredentials after.committedLists)
    (credentials : ∀ id version, (after.credentials id).writer ≠ some (t, version))
    (lists : ∀ id version, (after.statusLists id).writer ≠ some (t, version))
    (plain : (after.sessions t).Plain) : Sound codec after :=
  sound_acts sound acts kept integrity (fun id version held => absurd held (credentials id version))
    (fun id version held => absurd held (lists id version)) (plain_holding plain)

theorem sound_writeState (sound : Sound codec store) {request : LifecycleRequest}
    {credential : IssuedCredential} (at_ : store.sessions t = .transitioned request credential)
    (free : (store.credentials credential.id).free t = true) :
    Sound codec ({ store with
      credentials := store.credentials.update t credential.id
        (Option.map fun row => { row with state := credential.state }) }.goto t
          (.stateWritten request credential)) := by
  have nothing := credentials_unheld sound (t := t) (by rw [at_]; rfl)
  have noList := lists_unheld sound (t := t) (by rw [at_]; rfl)
  have holding := sound.holding t
  rw [at_] at holding
  obtain ⟨row, present, same, value⟩ := holding
  have acts := @move_acts codec _ _ _ _ (.writeState request credential at_ free)
  refine sound_pending sound acts (Table.snapshot_update ..) rfl ?_ ?_ ?_
  · intro id version held
    rcases Table.holder_update held with rfl | before
    · simp [Store.goto, Session.credentialLock]
    · exact absurd before (nothing id version)
  · intro id version held
    exact absurd held (noList id version)
  · simp only [Store.goto, Function.update_self]
    refine ⟨⟨row, ?_, same, value⟩, ?_⟩
    · rw [Store.committedCredentials, Table.snapshot_update]
      exact present
    · have read : (store.credentials credential.id).read t = some row :=
        (Cell.read_unheld (nothing _)).trans present
      change (store.credentials.update t _ _ _).writer = _
      rw [Table.update_self, Cell.writer_update, read, Option.map_some, ← same]

theorem sound_lockList (sound : Sound codec store) {request : LifecycleRequest}
    {credential : IssuedCredential} {row : StatusList} {bitstring : Bitstring}
    (at_ : store.sessions t = .stateWritten request credential)
    (free : (store.statusLists credential.statusListId).free t = true)
    (read : (store.statusLists credential.statusListId).read t = some row)
    (edited : codec.setAt row.bitstring credential.statusListIndex
      request.operation.bitValue = .ok bitstring) :
    Sound codec ({ store with
      statusLists := store.statusLists.update t credential.statusListId id }.goto t
        (.bitstringRead request credential bitstring)) := by
  have noList := lists_unheld sound (t := t) (by rw [at_]; rfl)
  have holding := sound.holding t
  rw [at_] at holding
  have acts := @move_acts codec _ _ _ _ (.lockList request credential row bitstring at_ free read
    edited)
  refine sound_pending sound acts rfl (Table.snapshot_update ..) ?_ ?_ ?_
  · intro id version held
    have own := sound.credentialLocks id t version held
    rw [at_] at own
    simp only [Store.goto, Function.update_self]
    exact own
  · intro id version held
    rcases Table.holder_update held with rfl | before
    · simp [Store.goto, Session.listLock]
    · exact absurd before (noList id version)
  · simp only [Store.goto, Function.update_self]
    refine ⟨holding.1, holding.2, row, row, ?_, ?_, rfl, edited⟩
    · rw [Store.committedLists, Table.snapshot_update]
      exact (Cell.read_unheld (noList _)).symm.trans read
    · change (store.statusLists.update t _ _ _).writer = _
      rw [Table.update_self, Cell.writer_update, read, id]

theorem sound_writeBits (sound : Sound codec store) {request : LifecycleRequest}
    {credential : IssuedCredential} {bitstring : Bitstring}
    (at_ : store.sessions t = .bitstringRead request credential bitstring)
    (free : (store.statusLists credential.statusListId).free t = true) :
    Sound codec ({ store with
      statusLists := store.statusLists.update t credential.statusListId
        (Option.map fun row => StatusLists.writeBitstring row bitstring) }.goto t
          (.bitWritten request credential)) := by
  have holding := sound.holding t
  rw [at_] at holding
  obtain ⟨loaded, pending, list, version, present, held, rfl, edited⟩ := holding
  have acts := @move_acts codec _ _ _ _ (.writeBits request credential bitstring at_ free)
  refine sound_pending sound acts rfl (Table.snapshot_update ..) ?_ ?_ ?_
  · intro id other held_
    have own := sound.credentialLocks id t other held_
    rw [at_] at own
    simp only [Store.goto, Function.update_self]
    exact own
  · intro id other held_
    simp only [Store.goto, Function.update_self]
    rcases Table.holder_update held_ with rfl | before
    · rfl
    · have own := sound.listLocks id t other before
      rw [at_] at own
      exact own
  · simp only [Store.goto, Function.update_self]
    refine ⟨loaded, pending, version, StatusLists.writeBitstring version bitstring, ?_, ?_,
      bitstring, edited, rfl⟩
    · rw [Store.committedLists, Table.snapshot_update]
      exact present
    · change (store.statusLists.update t _ _ _).writer = _
      rw [Table.update_self, Cell.writer_update, Cell.read_held held, Option.map_some]

theorem sound_allocate (sound : Sound codec store) {request : IssueRequest} {issuer : Issuer}
    {assertionKeyId : KeyPairId} {listId : StatusListId} {registryUrl : String}
    {row allocated : StatusList} {index : StatusListIndex}
    (at_ : store.sessions t = .listResolved request issuer assertionKeyId listId registryUrl)
    (free : (store.statusLists listId).free t = true)
    (read : (store.statusLists listId).read t = some row)
    (taken : StatusLists.allocateIndex row = some (allocated, index)) :
    Sound codec ({ store with
      statusLists := store.statusLists.update t listId fun _ => some allocated }.goto t
        (.slotAllocated request issuer assertionKeyId listId registryUrl index)) := by
  have nothing := credentials_unheld sound (t := t) (by rw [at_]; rfl)
  have noList := lists_unheld sound (t := t) (by rw [at_]; rfl)
  have acts := @move_acts codec _ _ _ _ (.allocate request issuer assertionKeyId listId
    registryUrl row allocated index at_ free read taken)
  refine sound_pending sound acts rfl (Table.snapshot_update ..) ?_ ?_ ?_
  · intro id version held
    exact absurd held (nothing id version)
  · intro id version held
    rcases Table.holder_update held with rfl | before
    · simp [Store.goto, Session.listLock]
    · exact absurd before (noList id version)
  · simp only [Store.goto, Function.update_self]
    refine ⟨row, allocated, ?_, ?_, taken⟩
    · rw [Store.committedLists, Table.snapshot_update]
      exact (Cell.read_unheld (noList _)).symm.trans read
    · change (store.statusLists.update t _ _ _).writer = _
      rw [Table.update_self, Cell.writer_update]

theorem sound_insert (sound : Sound codec store) {request : IssueRequest} {issuer : Issuer}
    {assertionKeyId : KeyPairId} {listId : StatusListId} {registryUrl : String}
    {index : StatusListIndex} {id : IssuedCredentialId}
    {integrityHash : Vector UInt8 integrityHashLen}
    (at_ : store.sessions t =
      .slotAllocated request issuer assertionKeyId listId registryUrl index)
    (free : (store.credentials id).free t = true) (read : (store.credentials id).read t = none) :
    Sound codec ({ store with
      credentials := store.credentials.update t id fun _ =>
        some (newCredential id request issuer listId index integrityHash) }.goto t
      (.inserted
        (buildSdJwtVc assertionKeyId issuer request.vct request.cnfJwk
          (buildStatusClaim registryUrl index) request.now request.expiresAt)
        (newCredential id request issuer listId index integrityHash))) := by
  have nothing := credentials_unheld sound (t := t) (by rw [at_]; rfl)
  have holding := sound.holding t
  rw [at_] at holding
  have acts := @move_acts codec _ _ _ _ (.insert request issuer assertionKeyId listId registryUrl
    index id integrityHash at_ free read)
  refine sound_pending sound acts (Table.snapshot_update ..) rfl ?_ ?_ ?_
  · intro key version held
    rcases Table.holder_update held with rfl | before
    · simp [Store.goto, Session.credentialLock, newCredential]
    · exact absurd before (nothing key version)
  · intro key version held
    have own := sound.listLocks key t version held
    rw [at_] at own
    simp only [Store.goto, Function.update_self]
    exact own
  · simp only [Store.goto, Function.update_self]
    refine ⟨?_, ?_, rfl, holding⟩
    · rw [Store.committedCredentials, Table.snapshot_update]
      exact (Cell.read_unheld (nothing _)).symm.trans read
    · change (store.credentials.update t id _ id).writer = _
      rw [Table.update_self, Cell.writer_update]

theorem commit_credentials_unheld (store : Store) (next : Session) (id : IssuedCredentialId)
    (version : Option IssuedCredential) :
    ((store.commit t next).credentials id).writer ≠ some (t, version) := by
  intro held
  exact (Cell.writer_commit held).1 rfl

theorem commit_lists_unheld (store : Store) (next : Session) (id : StatusListId)
    (version : Option StatusList) :
    ((store.commit t next).statusLists id).writer ≠ some (t, version) := by
  intro held
  exact (Cell.writer_commit held).1 rfl

/-- The committed tables after a lifecycle transaction: its row and its slot, and no other. -/
theorem commitLifecycle_tables (sound : Sound codec store) {request : LifecycleRequest}
    {credential : IssuedCredential} (next : Session)
    (at_ : store.sessions t = .bitWritten request credential) :
    ∃ row list bitstring, store.committedCredentials row.id = some row ∧
      credential = { row with state := credential.state } ∧
      store.committedLists row.statusListId = some list ∧
      codec.setAt list.bitstring row.statusListIndex credential.state.statusValue =
        .ok bitstring ∧
      (store.commit t next).committedCredentials =
        Function.update store.committedCredentials row.id (some credential) ∧
      (store.commit t next).committedLists =
        Function.update store.committedLists row.statusListId
          (some (StatusLists.writeBitstring list bitstring)) := by
  have holding := sound.holding t
  rw [at_] at holding
  obtain ⟨⟨row, present, same, value⟩, pending, list, version, home, held, bitstring, edited,
    rfl⟩ := holding
  have sameId : credential.id = row.id := by rw [same]
  have sameList : credential.statusListId = row.statusListId := by rw [same]
  have sameIndex : credential.statusListIndex = row.statusListIndex := by rw [same]
  rw [CredentialPending, sameId] at pending
  rw [sameList] at home held
  rw [sameIndex, ← value] at edited
  rw [sameId] at present
  refine ⟨row, list, bitstring, present, same, home, edited, ?_, ?_⟩
  · refine Table.snapshot_commit pending ?_
    intro other version_ held_
    have own := sound.credentialLocks other t version_ held_
    rw [at_] at own
    exact (Option.some.inj own).symm.trans sameId
  · refine Table.snapshot_commit held ?_
    intro other version_ held_
    have own := sound.listLocks other t version_ held_
    rw [at_] at own
    exact (Option.some.inj own).symm.trans sameList

theorem commitIssue_tables (sound : Sound codec store) {jwt : SdJwtVc}
    {credential : IssuedCredential} (next : Session)
    (at_ : store.sessions t = .inserted jwt credential) :
    ∃ list allocated, store.committedCredentials credential.id = none ∧
      credential.state = .active ∧ store.committedLists credential.statusListId = some list ∧
      StatusLists.allocateIndex list = some (allocated, credential.statusListIndex) ∧
      (store.commit t next).committedCredentials =
        Function.update store.committedCredentials credential.id (some credential) ∧
      (store.commit t next).committedLists =
        Function.update store.committedLists credential.statusListId (some allocated) := by
  have holding := sound.holding t
  rw [at_] at holding
  obtain ⟨absent, pending, active, list, version, home, held, taken⟩ := holding
  refine ⟨list, version, absent, active, home, taken, ?_, ?_⟩
  · refine Table.snapshot_commit pending ?_
    intro other version_ held_
    have own := sound.credentialLocks other t version_ held_
    rw [at_] at own
    exact (Option.some.inj own).symm
  · refine Table.snapshot_commit held ?_
    intro other version_ held_
    have own := sound.listLocks other t version_ held_
    rw [at_] at own
    exact (Option.some.inj own).symm

theorem sound_commitLifecycle (acknowledged : Bool) (sound : Sound codec store)
    {request : LifecycleRequest} {credential : IssuedCredential} {next : Session}
    (at_ : store.sessions t = .bitWritten request credential) (to_ : next.Plain) :
    Sound codec (store.commit t next) := by
  obtain ⟨row, list, bitstring, present, same, home, edited, rows, lists⟩ :=
    commitLifecycle_tables sound next at_
  have acts := @move_acts codec _ _ _ _
    (.commitLifecycle acknowledged request credential next at_ to_)
  refine sound_released sound acts ?_ ?_ (commit_credentials_unheld store next)
    (commit_lists_unheld store next)
    (by simpa [Store.commit] using to_)
  · intro id found old
    rw [rows]
    by_cases sameKey : id = row.id
    · subst sameKey
      rw [present] at old
      cases old
      exact ⟨credential.state, by rw [Function.update_self, ← same]⟩
    · exact ⟨found.state, by rw [Function.update_of_ne sameKey]; exact old⟩
  · rw [rows, lists, same]
    exact integrity_rewrite sound.integrity present home edited

theorem sound_commitIssue (acknowledged : Bool) (sound : Sound codec store) {jwt : SdJwtVc}
    {credential : IssuedCredential} {next : Session}
    (at_ : store.sessions t = .inserted jwt credential) (to_ : next.Plain) :
    Sound codec (store.commit t next) := by
  obtain ⟨list, allocated, absent, active, home, taken, rows, lists⟩ :=
    commitIssue_tables sound next at_
  have acts := @move_acts codec _ _ _ _ (.commitIssue acknowledged jwt credential next at_ to_)
  refine sound_released sound acts ?_ ?_ (commit_credentials_unheld store next)
    (commit_lists_unheld store next)
    (by simpa [Store.commit] using to_)
  · intro id found old
    rw [rows]
    by_cases sameKey : id = credential.id
    · subst sameKey
      rw [absent] at old
      cases old
    · exact ⟨found.state, by rw [Function.update_of_ne sameKey]; exact old⟩
  · rw [rows, lists]
    exact integrity_issue sound.integrity absent active home taken

theorem sound_rollback (sound : Sound codec store) {next : Session} (to_ : next.Plain) :
    Sound codec (store.rollback t next) := by
  have acts := @move_acts codec store _ t _ (.rollback .find next to_)
  have rows : (store.rollback t next).committedCredentials = store.committedCredentials :=
    Table.snapshot_rollback ..
  have lists : (store.rollback t next).committedLists = store.committedLists :=
    Table.snapshot_rollback ..
  refine sound_released sound acts ?_ ?_ ?_ ?_ (by simpa [Store.rollback] using to_)
  · intro id row present
    exact ⟨row.state, by rw [rows]; exact present⟩
  · rw [rows, lists]
    exact sound.integrity
  · intro id version held
    exact (Cell.writer_rollback held).1 rfl
  · intro id version held
    exact (Cell.writer_rollback held).1 rfl

theorem sound_goto (sound : Sound codec store) {next : Session}
    (acts : Acts t store (store.goto t next))
    (from_ : (store.sessions t).credentialLock = none)
    (fromLists : (store.sessions t).listLock = none)
    (holding : Holding codec store t next) : Sound codec (store.goto t next) := by
  refine sound_pending sound acts rfl rfl ?_ ?_ ?_
  · intro id version held
    exact absurd held (credentials_unheld sound from_ id version)
  · intro id version held
    exact absurd held (lists_unheld sound fromLists id version)
  · simp only [Store.goto, Function.update_self]
    exact holding

/-- Loading under no lock: the row that was read is the committed one. -/
theorem sound_load (sound : Sound codec store) {request : LifecycleRequest}
    {row moved : IssuedCredential} (at_ : store.sessions t = .issuerChecked request)
    (read : (store.credentials request.credentialId).read t = some row)
    (allowed : request.operation.applyTransition row = .ok moved) :
    Sound codec (store.goto t (.transitioned request moved)) := by
  have nothing := credentials_unheld sound (t := t) (by rw [at_]; rfl)
  obtain ⟨same, value, _⟩ := LifecycleOperation.applyTransition_spec allowed
  have present : store.committedCredentials request.credentialId = some row :=
    (Cell.read_unheld (nothing _)).symm.trans read
  have keyed : moved.id = request.credentialId := by
    have key := sound.integrity.keyed _ _ present
    rw [same]
    exact key
  refine sound_goto sound (@move_acts codec _ _ _ _ (.load request row moved at_ read allowed))
    (by rw [at_]; rfl) (by rw [at_]; rfl) ?_
  exact ⟨row, by rw [keyed]; exact present, same, value⟩

theorem sound_move (sound : Sound codec store) (move : Move codec store t action after) :
    Sound codec after := by
  cases move with
  | plain _ next from_ to_ =>
      exact sound_goto sound (@move_acts codec _ _ _ _ (.plain action next from_ to_))
        (plain_credentialLock from_) (plain_listLock from_) (plain_holding to_)
  | load request row moved at_ read allowed => exact sound_load sound at_ read allowed
  | writeState request credential at_ free => exact sound_writeState sound at_ free
  | lockList request credential row bitstring at_ free read edited =>
      exact sound_lockList sound at_ free read edited
  | writeBits request credential bitstring at_ free => exact sound_writeBits sound at_ free
  | allocate request issuer assertionKeyId listId registryUrl row allocated index at_ free read
      taken =>
      exact sound_allocate sound at_ free read taken
  | insert request issuer assertionKeyId listId registryUrl index id integrityHash at_ free read =>
      exact sound_insert sound at_ free read
  | commitLifecycle acknowledged request credential next at_ to_ =>
      exact sound_commitLifecycle acknowledged sound at_ to_
  | commitIssue acknowledged jwt credential next at_ to_ =>
      exact sound_commitIssue acknowledged sound at_ to_
  | rollback _ next to_ => exact sound_rollback sound to_

end SwiyuIssuer.StatusStore
