import SwiyuIssuer.Signing.Signers
import SwiyuIssuer.Signing.Tenure

/-! Whether what the issuer signs verifies under its published log. -/

namespace SwiyuIssuer.Signing

open Library Persistence Worker Saga StatusStore

/-- What every state of a steady run has, for the issuer and the key that the run starts with. -/
structure Standing (ext : Externals) (codec : StatusListCodec) (issuer : Issuer) (key : KeyPairId)
    (site : Site) : Prop where
  tracked : Tracked ext site.world
  tenured : Tenured ext issuer key site.world
  sound : Sound codec site.state.store
  publication : PublicationSound site.state
  signers : Signers issuer.id issuer.did key site.state site.asked

section Runs

variable {ext : Externals} {codec : StatusListCodec} {issuer : Issuer} {key : KeyPairId}
  {site after : Site} {event : Event} {trace : List Event}

theorem standing_initial (initial : site.Initial ext)
    (row : site.world.issuer.assertionKeyId = some key)
    (tail : advertises ext site.world.log key = true) :
    Standing ext codec site.world.issuer key site where
  tracked := tracked_initial ext initial.world
  tenured := by
    refine ⟨rfl, rfl, row, tail, ?_, ?_⟩
    · intro id task triple found _ frozen
      rcases frozen with ⟨state, decoded, kept⟩
      have empty : RotateKeysStateData.decode ext.uuid (.object []) = .ok ⟨none, false⟩ := rfl
      rw [(initial.world.queued id task found).2, empty] at decoded
      cases decoded
      cases kept
    · intro task nextStep result triple stepped
      rw [initial.world.idle] at stepped
      cases stepped
  sound := sound_empty codec initial.state.store
  publication := publication_initial initial.state
  signers := signers_initial initial.state initial.asked

theorem Standing.finds (standing : Standing ext codec issuer key site) {id : IssuerId}
    {found : Issuer} (answered : site.finds id (some found) = true) (this : id = issuer.id) :
    found.did = issuer.did ∧ found.assertionKeyId = some key := by
  simp only [Site.finds, this, standing.tenured.id, bne_self_eq_false, Bool.false_or,
    Bool.and_eq_true, beq_iff_eq] at answered
  rw [answered.2]
  exact ⟨standing.tenured.did, standing.tenured.row⟩

theorem signers_session (standing : Standing ext codec issuer key site) {t : TxId}
    {action : StatusStore.Action} {store : Store}
    (reads : site.reads (.session t action) = true)
    (moved : site.state.store.step codec t action = some store) :
    Signers issuer.id issuer.did key { site.state with store := store }
      (site.asks (.session t action)) := by
  have move := StatusStore.step_move moved
  have grow : ListsGrow site.state.store.committedLists store.committedLists :=
    (move_lists standing.sound move).1
  have others := (move_acts move).sessions
  apply signers_grow grow standing.signers
  · intro other here
    by_cases own : other = t
    · subst own
      cases action with
      | readIssuer request found =>
          rw [Site.asks, Function.update_self] at here
          have read : site.state.store.readIssuerStep other request found = some store := moved
          refine readIssuer_signs ?_ read
          intro row present
          subst present
          exact standing.finds reads (Option.some.inj here)
      | _ =>
          exact session_signs (fun _ _ absurd => by cases absurd)
            (standing.signers.sessions other here) moved
    · have asked : site.asked other = some issuer.id := by
        cases action with
        | readIssuer request found => rwa [Site.asks, Function.update_of_ne own] at here
        | _ => exact here
      rw [others other own]
      exact standing.signers.sessions other asked
  · exact fun _ => .inl rfl
  · exact fun _ member => .inl member
  · exact fun _ _ found => .inl found

theorem signers_step (standing : Standing ext codec issuer key site) {event : StatusStore.Event}
    {state : State} (reads : site.reads event = true)
    (taken : site.state.step codec event = some state) :
    Signers issuer.id issuer.did key state (site.asks event) := by
  cases event with
  | session t action =>
      rcases Option.map_eq_some_iff.mp taken with ⟨store, moved, rfl⟩
      exact signers_session standing reads moved
  | publisher p action =>
      apply publisher_signs standing.publication standing.signers _ taken
      rintro list found tenantFound rfl acquired
      rw [Site.reads, acquired] at reads
      exact standing.finds reads
  | deliver serial => exact deliver_signs standing.signers taken
  | lose serial =>
      cases taken
      exact lose_signs standing.signers serial

theorem standing_step
    (carries : ∀ prev doc now, (ext.core.newDeactivation prev doc now).didDocState =
      .value (.ok doc))
    (standing : Standing ext codec issuer key site) (steady_ : steady site event = true)
    (taken : site.step ext codec event = some after) : Standing ext codec issuer key after := by
  cases event with
  | saga event =>
      rcases Option.map_eq_some_iff.mp taken with ⟨world, moved, rfl⟩
      refine ⟨tracked_step standing.tracked moved, ?_, standing.sound, standing.publication,
        standing.signers⟩
      apply tenured_step carries standing.tracked standing.tenured _ moved
      rintro task calls rfl held
      exact steady_harmless steady_ held
  | status event =>
      simp only [Site.step] at taken
      split at taken
      · next reads =>
          rcases Option.map_eq_some_iff.mp taken with ⟨state, moved, rfl⟩
          exact ⟨standing.tracked, standing.tenured, sound_step standing.sound moved,
            publication_step standing.sound standing.publication moved,
            signers_step standing reads moved⟩
      · cases taken

theorem Standing.verifiable (standing : Standing ext codec issuer key site) :
    site.Verifiable ext where
  credentials := by
    intro t jwt issued asked
    rw [standing.tenured.id] at asked
    have signs := standing.signers.sessions t asked
    rw [issued] at signs
    refine ⟨?_, signs.2 ▸ standing.tenured.tail⟩
    rw [standing.tenured.did]
    exact signs.1
  tokens := by
    intro id list entryId put present owner entry applied
    rw [standing.tenured.id] at owner
    rcases standing.signers.applied entryId put applied id list present owner entry with
      ⟨kid, signedBy⟩
    refine ⟨?_, signedBy ▸ standing.tenured.tail⟩
    rw [standing.tenured.did]
    exact kid

/-- Along every run in which no rotation of the assertion key gets through, everything that the
issuer has signed verifies under its published log. -/
theorem signed_verifies
    (carries : ∀ prev doc now, (ext.core.newDeactivation prev doc now).didDocState =
      .value (.ok doc))
    (initial : site.Initial ext)
    (run : Run (Guarded (fun site event => steady site event = true)
      (Steps (Site.step ext codec))) site trace after) : after.Verifiable ext := by
  rcases initial.advertised with ⟨key, row, tail⟩
  have standing : Standing ext codec site.world.issuer key after := by
    apply run.invariant (Standing ext codec site.world.issuer key)
    · intro before event later standing taken
      exact standing_step carries standing taken.1 taken.2
    · exact standing_initial initial row tail
  exact standing.verifiable

end Runs

section Sample

def sampleSite (roles : List KeyRole) : Site where
  world := sampleWorld [sampleTask "r" (.rotate ⟨roles⟩) 0]
  state := { sampleStart with
    store := { sampleStart.store with
      statusLists := fun id => Cell.clean (if id = sampleListId then
        some { StatusList.new sampleListId Saga.sampleIssuer.id 0 with
          registryEntryId := some "entry", registryUrl := some "https://status/entry.jwt" }
        else none) } }
  asked _ := none

theorem sampleSite_list {roles : List KeyRole} {id : StatusListId} {list : StatusList}
    (present : (sampleSite roles).state.store.committedLists id = some list) :
    id = sampleListId ∧ list =
      { StatusList.new sampleListId Saga.sampleIssuer.id 0 with
        registryEntryId := some "entry", registryUrl := some "https://status/entry.jwt" } := by
  simp only [sampleSite, Store.committedLists, Table.snapshot, Cell.committed_clean] at present
  split at present
  · next same => exact ⟨same, (Option.some.inj present).symm⟩
  · cases present

theorem sampleSite_initial (roles : List KeyRole) : (sampleSite roles).Initial sampleExternals where
  world := sampleWorld_initial (by simp [sampleTask, newTask])
  state := {
    store := {
      credentials := fun _ => rfl
      lists := by
        intro id
        refine ⟨rfl, ?_⟩
        intro list present
        rcases sampleSite_list present with ⟨_, rfl⟩
        exact ⟨rfl, rfl, rfl, rfl⟩
      sessions := fun _ => rfl }
    keyed := by
      intro id list present
      rcases sampleSite_list present with ⟨rfl, rfl⟩
      rfl
    listed := by
      intro id list present
      rw [(sampleSite_list present).1]
      exact List.mem_singleton.mpr rfl
    entries := by
      intro id other list rival entryId present presentRival _ _
      rw [(sampleSite_list present).1, (sampleSite_list presentRival).1]
    publishers := fun _ => rfl
    inFlight := rfl
    delivered := rfl
    applied := fun _ => rfl }
  asked := fun _ => rfl
  advertised := by
    refine ⟨⟨"p1"⟩, rfl, ?_⟩
    show advertises sampleExternals [⟨none, sampleGenesis⟩] ⟨"p1"⟩ = true
    decide

def sampleDispatches (count : Nat) : List Event :=
  (List.replicate count (dispatched "r" 0 (sampleCalls Saga.sampleIssuer))).flatten.map .saga

def sampleIssue : List Event :=
  [.session 0 (.readIssuer ⟨Saga.sampleIssuer.tenantId, Saga.sampleIssuer.id, ⟨"8KpL9zRT5qWnFm"⟩,
      "urn:residence", "cnf", "jkt", 0, 1⟩ (some Saga.sampleIssuer)),
    .session 0 (.lockOffer (.ok ())),
    .session 0 (.readCurrentList (some (sampleListId, some "https://status/entry.jwt"))),
    .session 0 .allocateIndex,
    .session 0 (.insert sampleCredentialId (Vector.replicate integrityHashLen 0)),
    .session 0 (.commit true)].map .status

def samplePublish : List Event :=
  [.publisher 0 (.acquireNextDirty 0 (seconds 30) sampleListId),
    .publisher 0 (.loadIssuer (some Saga.sampleIssuer) true),
    .publisher 0 (.buildSigned 0 (.ok ())),
    .publisher 0 .put,
    .deliver 0,
    .publisher 0 (.answer (.ok ()) 0),
    .publisher 0 .record].map .status

/-- The state of the rotation, the versions of the list, and which of the signatures are of the key
that the log advertises. -/
structure SampleSignatures where
  rotation : Option TaskState
  list : Option (Nat × Nat)
  credential : Option Bool
  token : Option Bool
deriving DecidableEq

def sampleSignatures (site : Site) : SampleSignatures where
  rotation := (site.world.tasks ⟨"r"⟩).map OperationTask.state
  list := (site.state.store.committedLists sampleListId).map fun list =>
    (list.committedVersion, list.publishedVersion)
  credential :=
    match site.state.store.sessions 0 with
    | .issued (.ok jwt) => some (advertises sampleExternals site.world.log jwt.signedBy)
    | _ => none
  token := (site.state.applied "entry").map fun put =>
    advertises sampleExternals site.world.log put.token.signedBy

theorem signed_verifies_sample :
    ∃ last, exec (checked steady (Site.step sampleExternals packedCodec)) (sampleSite [.authorized])
        (sampleDispatches 3 ++ sampleIssue ++ samplePublish ++ sampleDispatches 1) = some last ∧
      sampleSignatures last = ⟨some .completed, some (1, 1), some true, some true⟩ ∧
      last.Verifiable sampleExternals := by
  have computed : (exec (checked steady (Site.step sampleExternals packedCodec))
      (sampleSite [.authorized])
      (sampleDispatches 3 ++ sampleIssue ++ samplePublish ++ sampleDispatches 1)).map
        sampleSignatures = some ⟨some .completed, some (1, 1), some true, some true⟩ := by decide
  rcases Option.map_eq_some_iff.mp computed with ⟨last, taken, seen⟩
  exact ⟨last, taken, seen, signed_verifies (fun _ _ _ => rfl) (sampleSite_initial _)
    (Run.of_checked taken)⟩

theorem not_verifiable_of_signatures {site : Site}
    (asked : site.asked 0 = some site.world.issuer.id)
    (foreign : (sampleSignatures site).credential = some false) :
    ¬site.Verifiable sampleExternals := by
  intro verifiable
  simp only [sampleSignatures] at foreign
  split at foreign
  · next jwt issued =>
      rw [(verifiable.credentials 0 jwt issued asked).2] at foreign
      cases foreign
  · cases foreign

/-- A rotation of the assertion key: a credential that is handed out between its publish step and
its swap is signed with the key that the log no longer has, and so is the status list when the
rotation is over, with nothing left to do for any worker. -/
theorem rotation_leaves_signatures_behind :
    (sampleSite allRoles).Initial sampleExternals ∧
    (∃ last, Run (Steps (Site.step sampleExternals packedCodec)) (sampleSite allRoles)
        (sampleDispatches 3 ++ sampleIssue) last ∧
      sampleSignatures last = ⟨some .inProgress, some (1, 0), some false, none⟩ ∧
      ¬last.Verifiable sampleExternals) ∧
    ∃ last, Run (Steps (Site.step sampleExternals packedCodec)) (sampleSite allRoles)
        (sampleIssue ++ samplePublish ++ sampleDispatches 4) last ∧
      sampleSignatures last = ⟨some .completed, some (1, 1), some false, some false⟩ ∧
      ¬last.Verifiable sampleExternals := by
  refine ⟨sampleSite_initial allRoles, ?_, ?_⟩
  · have computed : (exec (Site.step sampleExternals packedCodec) (sampleSite allRoles)
        (sampleDispatches 3 ++ sampleIssue)).map (fun site => (sampleSignatures site,
          decide (site.asked 0 = some site.world.issuer.id))) =
          some (⟨some .inProgress, some (1, 0), some false, none⟩, true) := by decide
    rcases Option.map_eq_some_iff.mp computed with ⟨last, taken, seen⟩
    rcases Prod.mk.inj seen with ⟨signatures, asked⟩
    exact ⟨last, Run.of_exec taken, signatures,
      not_verifiable_of_signatures (of_decide_eq_true asked) (congrArg (·.credential) signatures)⟩
  · have computed : (exec (Site.step sampleExternals packedCodec) (sampleSite allRoles)
        (sampleIssue ++ samplePublish ++ sampleDispatches 4)).map (fun site =>
          (sampleSignatures site, decide (site.asked 0 = some site.world.issuer.id))) =
          some (⟨some .completed, some (1, 1), some false, some false⟩, true) := by decide
    rcases Option.map_eq_some_iff.mp computed with ⟨last, taken, seen⟩
    rcases Prod.mk.inj seen with ⟨signatures, asked⟩
    exact ⟨last, Run.of_exec taken, signatures,
      not_verifiable_of_signatures (of_decide_eq_true asked) (congrArg (·.credential) signatures)⟩

end Sample

end SwiyuIssuer.Signing
