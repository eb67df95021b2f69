import SwiyuIssuer.Creation.Supplies
import SwiyuIssuer.Worker.Genesis

/-! A creation publishes and persists the same identity, however often its steps are executed. -/

namespace SwiyuIssuer.Creation

open Library Persistence Worker Saga Resume

section Traced

variable {ext : Externals} {genesis : GenesisCore} {state after : State} {id : TaskId}
  {task row : OperationTask} {data data' : CreateIssuerStateData} {line : Json}

/-- The genesis entry of a creation. -/
def IsGenesis (ext : Externals) (genesis : GenesisCore) (task : OperationTask)
    (data : CreateIssuerStateData) (line : Json) : Prop :=
  buildLogEntry ext.core genesis ext.engine {} data task.createdAt = .ok line

theorem isGenesis_built {faults : EngineFaults}
    (built : buildLogEntry ext.core genesis ext.engine faults data task.createdAt = .ok line) :
    IsGenesis ext genesis task data line :=
  buildLogEntry_again built (fun _ held => held) fun _ held => held

/-- It stays the genesis entry, for URL, key ids and creation time stay. -/
theorem IsGenesis.later (derived : IsGenesis ext genesis task data line)
    (same : SameRequest task row) (extended : Extends (.create data) (.create data')) :
    IsGenesis ext genesis row data' line := by
  rw [IsGenesis, same.createdAt]
  exact buildLogEntry_again derived extended.1 extended.2.2.1

/-- The row says of its DID and its keys what the line says. -/
structure Mirrors (record : IssuerRecord) (keyIds : KeyTriple) (line : Json) : Prop where
  did : documentId line = .ok record.did
  authorized : record.authorizedKeyId = some keyIds.authorized
  authentication : record.authenticationKeyId = some keyIds.authentication
  assertion : record.assertionKeyId = some keyIds.assertion

/-- Whatever was derived, sent, published or inserted comes from the one genesis entry of its
creation. -/
structure Traced (ext : Externals) (genesis : GenesisCore) (state : State) : Prop where
  derived : ∀ id, ∀ line ∈ state.derived id, ∃ task data,
    Creates ext state.journal id task data ∧ IsGenesis ext genesis task data line
  sent : ∀ identifier line, (identifier, line) ∈ state.sent → ∃ id task data,
    Creates ext state.journal id task data ∧ data.assignedIdentifier = some identifier ∧
      IsGenesis ext genesis task data line
  log : ∀ identifier, ∀ line ∈ state.log identifier,
    state.log identifier = [line] ∧ (identifier, line) ∈ state.sent
  flagged : ∀ id task data identifier, Creates ext state.journal id task data →
    data.didlogPublished = true → data.assignedIdentifier = some identifier →
    state.log identifier ≠ []
  pending : ∀ task nextStep result visit data identifier,
    state.journal.worker = .stepped task nextStep (.done result) visit →
    Resume.stepName task = "publish_didlog" → Creates ext state.journal task.id task data →
    data.assignedIdentifier = some identifier → state.log identifier ≠ []
  records : ∀ issuerId record, state.records issuerId = some record → ∃ id task data keyIds line,
    Creates ext state.journal id task data ∧ task.resultIssuerId = some issuerId ∧
      data.didlogPublished = true ∧ data.assignedIdentifier.isSome = true ∧
      data.keyIds = some keyIds ∧ IsGenesis ext genesis task data line ∧
      Mirrors record keyIds line

theorem traced_initial (initial : state.Initial) : Traced ext genesis state where
  derived := by
    intro id line there
    rw [initial.derived] at there
    cases there
  sent := by
    intro identifier line there
    rw [initial.sent] at there
    cases there
  log := by
    intro identifier line there
    rw [initial.log] at there
    cases there
  flagged := by
    intro id task data identifier creates
    cases (initial.journal.empty id).symm.trans creates.found
  pending := by
    intro task nextStep result visit data identifier stepped
    rw [initial.journal.idle] at stepped
    cases stepped
  records := by
    intro issuerId record there
    rw [initial.records] at there
    cases there

theorem derives_genesis {visit : Visit} (there : line ∈ State.derives ext genesis task visit) :
    task.taskType = .createIssuer ∧ ∃ data,
      CreateIssuerStateData.decode ext.uuid task.stateData = .ok data ∧
      IsGenesis ext genesis task data line := by
  unfold State.derives at there
  split at there
  · next data read =>
      split at there
      · next kind =>
          rw [Bool.and_eq_true, beq_iff_eq] at kind
          rw [Option.mem_toList] at there
          exact ⟨kind.1, data, read, isGenesis_built (Answers.toOption_some.mp there)⟩
      · cases there
  · cases there

theorem request_genesis {visit : Visit} {identifier : String}
    (asked : State.request ext genesis task visit = some (identifier, line)) :
    task.taskType = .createIssuer ∧ ∃ data,
      CreateIssuerStateData.decode ext.uuid task.stateData = .ok data ∧
      data.assignedIdentifier = some identifier ∧ IsGenesis ext genesis task data line := by
  unfold State.request at asked
  split at asked
  · next nextStep effect executed =>
      rcases List.exists_of_findSome?_eq_some asked with ⟨call, there, found⟩
      split at found
      · next partnerId named entry =>
          cases found
          rcases create_deed executed with ⟨saga, input, data, tenant, arm, read, _, _, made⟩
          rw [made] at there
          rcases (createStep_requests arm.step there).publishes with ⟨assigned, built⟩
          exact ⟨saga, data, read, assigned, isGenesis_built built⟩
      · cases found
  · cases asked

theorem derived_move (sound : Sound ext genesis state) (move : Move ext genesis state after)
    (traced : Traced ext genesis state) (there : line ∈ after.derived id) : ∃ task data,
      Creates ext after.journal id task data ∧ IsGenesis ext genesis task data line := by
  have kept : line ∈ state.derived id → ∃ task data,
      Creates ext after.journal id task data ∧ IsGenesis ext genesis task data line := by
    intro old
    rcases traced.derived id line old with ⟨task, data, creates, derived⟩
    rcases creates.later sound move with ⟨row, data', creates', same, extended⟩
    exact ⟨row, data', creates', derived.later same extended⟩
  have added : ∀ task visit, state.journal.worker = .acquired task →
      line ∈ Function.update state.derived task.id
        (state.derived task.id ++ State.derives ext genesis task visit) id → ∃ task data,
      Creates ext after.journal id task data ∧ IsGenesis ext genesis task data line := by
    intro task visit held found
    by_cases place : id = task.id
    · subst place
      rw [Function.update_self] at found
      rcases List.mem_append.mp found with old | new
      · exact kept old
      · rcases derives_genesis new with ⟨saga, data, read, derived⟩
        have stored := (sound.journal.held task (by rw [held]; rfl)).1
        rcases Creates.later sound move ⟨stored, saga, read⟩ with
          ⟨row, data', creates', same, extended⟩
        exact ⟨row, data', creates', derived.later same extended⟩
    · rw [Function.update_of_ne place] at found
      exact kept found
  cases move with
  | sent task visit _ held => exact added task visit held there
  | performed task visit reached _ effect noted held _ _ _ _ notes =>
      refine added task visit held ?_
      rw [← notes.derived]
      exact there
  | quiet | created | crashed | lookedUp | inserted | pointed | delivered | otherwise =>
      exact kept there

theorem sent_move (sound : Sound ext genesis state) (move : Move ext genesis state after)
    (traced : Traced ext genesis state) {identifier : String}
    (there : (identifier, line) ∈ after.sent) : ∃ id task data,
      Creates ext after.journal id task data ∧ data.assignedIdentifier = some identifier ∧
        IsGenesis ext genesis task data line := by
  have kept : (identifier, line) ∈ state.sent → ∃ id task data,
      Creates ext after.journal id task data ∧ data.assignedIdentifier = some identifier ∧
        IsGenesis ext genesis task data line := by
    intro old
    rcases traced.sent identifier line old with ⟨id, task, data, creates, assigned, derived⟩
    rcases creates.later sound move with ⟨row, data', creates', same, extended⟩
    exact ⟨id, row, data', creates', extended.2.1 _ assigned, derived.later same extended⟩
  cases move with
  | sent task visit issued held asked =>
      rcases List.mem_append.mp there with old | new
      · exact kept old
      · rw [← List.mem_singleton.mp new] at asked
        rcases request_genesis asked with ⟨saga, data, read, assigned, derived⟩
        have stored := (sound.journal.held task (by rw [held]; rfl)).1
        exact ⟨task.id, task, data, ⟨stored, saga, read⟩, assigned, derived⟩
  | performed task visit _ _ _ noted _ _ _ _ _ notes =>
      refine kept ?_
      rw [← notes.sent]
      exact there
  | quiet | created | crashed | lookedUp | inserted | pointed | delivered | otherwise =>
      exact kept there

theorem log_move (move : Move ext genesis state after) (traced : Traced ext genesis state)
    {identifier : String} (there : line ∈ after.log identifier) :
    after.log identifier = [line] ∧ (identifier, line) ∈ after.sent := by
  cases move with
  | delivered place issued sent =>
      dsimp only at there ⊢
      by_cases same : identifier = place
      · subst same
        rw [Function.update_self] at there ⊢
        rw [List.mem_singleton.mp there]
        exact ⟨rfl, sent⟩
      · rw [Function.update_of_ne same] at there ⊢
        exact traced.log identifier line there
  | sent =>
      rcases traced.log identifier line there with ⟨only, sent⟩
      exact ⟨only, List.mem_append_left _ sent⟩
  | performed task visit _ _ _ noted _ _ _ _ _ notes =>
      have same : (State.derive ext genesis noted task visit).log identifier = state.log identifier :=
        congrFun notes.log identifier
      rw [same] at there ⊢
      rcases traced.log identifier line there with ⟨only, sent⟩
      refine ⟨only, ?_⟩
      show (identifier, line) ∈ noted.sent
      rw [notes.sent]
      exact sent
  | quiet | created | crashed | lookedUp | inserted | pointed | otherwise =>
      exact traced.log identifier line there

theorem log_stays (move : Move ext genesis state after) {identifier : String}
    (there : state.log identifier ≠ []) : after.log identifier ≠ [] := by
  cases move with
  | delivered place issued =>
      show Function.update state.log place [issued] identifier ≠ []
      by_cases same : identifier = place
      · subst same
        rw [Function.update_self]
        exact List.cons_ne_nil _ _
      · rw [Function.update_of_ne same]
        exact there
  | performed _ _ _ _ _ noted _ _ _ _ _ notes =>
      show noted.log identifier ≠ []
      rw [notes.log]
      exact there
  | quiet | created | crashed | lookedUp | inserted | pointed | sent | otherwise => exact there

theorem flagged_move (sound : Sound ext genesis state) (move : Move ext genesis state after)
    (traced : Traced ext genesis state) {identifier : String}
    (creates : Creates ext after.journal id row data) (published : data.didlogPublished = true)
    (assigned : data.assignedIdentifier = some identifier) : after.log identifier ≠ [] := by
  refine log_stays move ?_
  cases creates.before sound move with
  | kept task old => exact traced.flagged _ _ _ _ old published assigned
  | finished task _ _ _ _ _ old => exact traced.flagged _ _ _ _ old published assigned
  | advanced task before next result visit held ended keyed old growth =>
      subst keyed
      have stage := old.stage sound.journal
      generalize place : Resume.stepName task = step at growth stage
      cases growth with
      | published => exact traced.pending _ _ _ _ _ _ held place old assigned
      | allocated =>
          rw [stage_allocate stage rfl] at published
          cases published
      | generated | built | persisted | registered =>
          exact traced.flagged _ _ _ _ old published assigned
  | fresh _ blank =>
      rw [blank] at published
      cases published

/-- A success of `publish_didlog` that found no marker has put a log. -/
theorem executePublishDidlog_put {tenant : Tenant} {calls : CreateCalls} {now : DateTime}
    {result : StepResult} (unmarked : data.didlogPublished = false)
    (done : (executePublishDidlog ext.core genesis ext.engine tenant data calls now).outcome =
      .done result) : ∃ identifier entry, data.assignedIdentifier = some identifier ∧
      .publishLogEntry tenant.partnerId identifier entry ∈
        (executePublishDidlog ext.core genesis ext.engine tenant data calls now).requested ∧
      calls.put = .ok () := by
  unfold executePublishDidlog at done ⊢
  rw [unmarked, if_neg Bool.false_ne_true] at done ⊢
  cases assigned : data.assignedIdentifier with
  | none =>
      rw [assigned] at done
      cases done
  | some identifier =>
      rw [assigned] at done
      cases built : buildLogEntry ext.core genesis ext.engine calls.faults data now with
      | error e =>
          simp only [built] at done
          exact absurd done (done_of_fails (outcomeForGenesisError_fails ..))
      | ok entry =>
          simp only [built] at done ⊢
          refine ⟨identifier, entry, rfl, List.mem_singleton_self _, ?_⟩
          cases put : calls.put with
          | ok _ => rfl
          | error e =>
              rw [put] at done
              exact absurd done (done_of_fails (fromTokenAwareError_fails ..))

theorem pending_move (sound : Sound ext genesis state) (move : Move ext genesis state after)
    (traced : Traced ext genesis state) {nextStep : Option String} {result : StepResult}
    {visit : Visit} {identifier : String}
    (stepped : after.journal.worker = .stepped task nextStep (.done result) visit)
    (place : Resume.stepName task = "publish_didlog")
    (creates : Creates ext after.journal task.id task data)
    (assigned : data.assignedIdentifier = some identifier) : after.log identifier ≠ [] := by
  refine log_stays move ?_
  rcases stepped_source move stepped with before | held
  · have stored := (sound.journal.held task (by rw [before]; rfl)).1
    exact traced.pending _ _ _ _ _ _ before place ⟨stored, creates.saga, creates.read⟩ assigned
  · rcases performed_of_worker sound move held stepped creates.saga with
      ⟨effect, reached, data', input, tenant, arm, answered, _, performed⟩
    cases creates.read.symm.trans performed.creates.read
    have known := performed.known
    rw [place] at known
    cases known
    have made := performed.made
    rw [made] at answered
    rcases executePublishDidlog_put (stage_publish (performed.creates.stage sound.journal) place)
      answered with ⟨named, entry, own, asked, put⟩
    cases assigned.symm.trans own
    have applied := performed.answered (.publishLogEntry tenant.partnerId identifier entry)
      (by rw [made]; exact asked)
    simpa [State.answered, put, Except.isOk, Except.toBool] using applied

theorem stage_persisting {ran : String → Option Visit} {step : String}
    {arm : Arm CreateIssuerStep} (stage : CreateStage ran step data)
    (known : createIssuerArm step = some arm) (persists : arm.step = .persistIssuer) :
    data.didlogPublished = true ∧ data.assignedIdentifier.isSome = true := by
  cases stage with
  | persistIssuer => exact ⟨rfl, rfl⟩
  | _ =>
      cases known
      cases persists

theorem records_move (sound : Sound ext genesis state) (move : Move ext genesis state after)
    (traced : Traced ext genesis state) {issuerId : IssuerId} {record : IssuerRecord}
    (there : after.records issuerId = some record) : ∃ id task data keyIds line,
      Creates ext after.journal id task data ∧ task.resultIssuerId = some issuerId ∧
        data.didlogPublished = true ∧ data.assignedIdentifier.isSome = true ∧
        data.keyIds = some keyIds ∧ IsGenesis ext genesis task data line ∧
        Mirrors record keyIds line := by
  have kept : state.records issuerId = some record → ∃ id task data keyIds line,
      Creates ext after.journal id task data ∧ task.resultIssuerId = some issuerId ∧
        data.didlogPublished = true ∧ data.assignedIdentifier.isSome = true ∧
        data.keyIds = some keyIds ∧ IsGenesis ext genesis task data line ∧
        Mirrors record keyIds line := by
    intro old
    rcases traced.records issuerId record old with
      ⟨id, task, data, keyIds, line, creates, named, published, assigned, keyed, derived, mirrors⟩
    rcases creates.later sound move with ⟨row, data', creates', same, extended⟩
    rcases Option.isSome_iff_exists.mp assigned with ⟨identifier, assigned⟩
    refine ⟨id, row, data', keyIds, line, creates', same.resultIssuerId.trans named,
      extended.2.2.2.1 published, ?_, extended.2.2.1 _ keyed, derived.later same extended, mirrors⟩
    rw [extended.2.1 _ assigned]
    rfl
  cases move with
  | performed task visit reached nextStep effect noted held _ executed _ _ notes =>
      rcases notes.records issuerId record there with old | ⟨asked, rfl⟩
      · exact kept old
      · have stored := (sound.journal.held task (by rw [held]; rfl)).1
        rcases create_deed executed with ⟨saga, input, data, tenant, arm, read, known, _, made⟩
        rw [made] at asked
        rcases (createStep_requests arm.step asked).inserts with
          ⟨persists, issuerId, keyIds, line, did, named, keyed, built, document, rfl⟩
        have creates : Creates ext state.journal task.id task data := ⟨stored, saga, read⟩
        rcases stage_persisting (creates.stage sound.journal) known persists with
          ⟨published, assigned⟩
        have tasks : noted.journal.tasks = state.journal.tasks := by
          rw [notes.journal]
        exact ⟨task.id, task, data, keyIds, line, creates.same tasks, named, published, assigned,
          keyed, isGenesis_built built, ⟨document, rfl, rfl, rfl⟩⟩
  | quiet | created | crashed | lookedUp | inserted | pointed | sent | delivered | otherwise =>
      exact kept there

/-- Only `persist_issuer` inserts a row. -/
theorem records_written (move : Move ext genesis state after) {issuerId : IssuerId}
    {record : IssuerRecord} (there : after.records issuerId = some record) :
    state.records issuerId = some record ∨ ∃ tenantId input keyIds did now,
      record = newIssuer tenantId issuerId input keyIds did now := by
  cases move with
  | performed task visit reached nextStep effect noted held _ executed _ _ notes =>
      rcases notes.records issuerId record there with old | ⟨asked, rfl⟩
      · exact .inl old
      · rcases create_deed executed with ⟨_, input, _, _, arm, _, _, _, made⟩
        rw [made] at asked
        rcases (createStep_requests arm.step asked).inserts with
          ⟨_, _, keyIds, _, did, _, _, _, _, rfl⟩
        exact .inr ⟨task.tenantId, input, keyIds, did, task.createdAt, rfl⟩
  | quiet | created | crashed | lookedUp | inserted | pointed | sent | delivered | otherwise =>
      exact .inl there

theorem records_written_run {first last : State} {trace : List Event} (initial : first.Initial)
    (run : Run (Steps (State.step ext genesis)) first trace last) {issuerId : IssuerId}
    {record : IssuerRecord} (there : last.records issuerId = some record) :
    ∃ tenantId input keyIds did now, record = newIssuer tenantId issuerId input keyIds did now := by
  refine run.invariant (fun state => ∀ record, state.records issuerId = some record →
    ∃ tenantId input keyIds did now, record = newIssuer tenantId issuerId input keyIds did now)
    ?_ ?_ record there
  · intro state event after known taken record there
    rcases records_written (move_of_step taken) there with old | written
    · exact known record old
    · exact written
  · intro record there
    rw [initial.records] at there
    cases there

theorem IsGenesis.unique {other : Json} (derived : IsGenesis ext genesis task data line)
    (also : IsGenesis ext genesis task data other) : line = other := by
  cases derived.symm.trans also
  rfl

theorem traced_move (sound : Sound ext genesis state) (move : Move ext genesis state after)
    (traced : Traced ext genesis state) : Traced ext genesis after where
  derived _ _ := derived_move sound move traced
  sent _ _ := sent_move sound move traced
  log _ _ := log_move move traced
  flagged _ _ _ _ := flagged_move sound move traced
  pending _ _ _ _ _ _ := pending_move sound move traced
  records _ _ := records_move sound move traced

theorem traced_run {first last : State} {trace : List Event} (initial : first.Initial)
    (run : Run (Steps (State.step ext genesis)) first trace last) :
    Supplied ext genesis last ∧ Traced ext genesis last :=
  run.invariant_under (Supplied ext genesis) (Traced ext genesis)
    (fun _ _ _ supplied taken => supplied_move supplied (move_of_step taken))
    (fun _ _ _ supplied traced taken =>
      traced_move supplied.sound (move_of_step taken) traced)
    (supplied_initial initial) (traced_initial initial)

end Traced

section Identity

/-- Every row of `issuers` that a creation has inserted has the DID of the document in the one line
of the log that the creation has published, and the keys that the line and its document advertise;
whatever an execution of the three steps derives, at any time and however often, is that line.
`read` is the parser of the registry's lines. -/
theorem creation_publishes_what_it_persists (ext : Externals) (genesis : GenesisCore)
    {read : Json → Option LogEntry} (readable : genesis.Readable ext.core read)
    {first last : State} {trace : List Event} (initial : first.Initial)
    (run : Run (Steps (State.step ext genesis)) first trace last) :
    (∀ id, ∀ one ∈ last.derived id, ∀ two ∈ last.derived id, one = two) ∧
    ∀ id task issuerId record, last.journal.tasks id = some task →
      task.taskType = .createIssuer → task.resultIssuerId = some issuerId →
      last.records issuerId = some record → ∃ data identifier keyIds line shown,
        CreateIssuerStateData.decode ext.uuid task.stateData = .ok data ∧
        data.assignedIdentifier = some identifier ∧ data.keyIds = some keyIds ∧
        last.log identifier = [line] ∧ (∀ derived ∈ last.derived id, derived = line) ∧
        (∀ sent, (identifier, sent) ∈ last.sent → sent = line) ∧
        documentId line = .ok record.did ∧ record.authorizedKeyId = some keyIds.authorized ∧
        record.authenticationKeyId = some keyIds.authentication ∧
        record.assertionKeyId = some keyIds.assertion ∧ read line = some shown ∧
        ShowsTriple ext shown keyIds := by
  obtain ⟨supplied, traced⟩ := traced_run initial run
  constructor
  · intro id one there two also
    rcases traced.derived id one there with ⟨task, data, creates, derived⟩
    rcases traced.derived id two also with ⟨_, _, creates', derived'⟩
    rcases creates.unique creates' with ⟨rfl, rfl⟩
    exact derived.unique derived'
  · intro id task issuerId record found saga named inserted
    rcases Creates.of_task supplied.sound found saga with ⟨data, creates⟩
    rcases traced.records issuerId record inserted with
      ⟨_, _, _, keyIds, line, creates', named', published, assigned, keyed, derived, mirrors⟩
    cases supplied.sound.ownIssuer _ _ _ _ _ _ _ creates creates' named named'
    rcases creates.unique creates' with ⟨rfl, rfl⟩
    rcases Option.isSome_iff_exists.mp assigned with ⟨identifier, assigned⟩
    have sent_line : ∀ sent, (identifier, sent) ∈ last.sent → sent = line := by
      intro sent there
      rcases traced.sent identifier sent there with ⟨_, _, _, owner, own, derived'⟩
      cases supplied.identifiers.own _ _ _ _ _ _ _ creates owner assigned own
      rcases creates.unique owner with ⟨rfl, rfl⟩
      exact derived'.unique derived
    rcases List.exists_mem_of_ne_nil _ (traced.flagged _ _ _ _ creates published assigned) with
      ⟨there, present⟩
    rcases traced.log identifier there present with ⟨only, sent⟩
    rw [sent_line there sent] at only
    rcases buildLogEntry_carries readable derived with
      ⟨_, authentication, assertion, keyed', first, second, shown, doc, shows, updates, document,
        authenticates, asserts⟩
    cases keyed.symm.trans keyed'
    refine ⟨data, identifier, keyIds, line, shown, creates.read, assigned, keyed, only, ?_, sent_line,
      mirrors.did, mirrors.authorized, mirrors.authentication, mirrors.assertion, shows, updates,
      doc, authentication, assertion, document, first, second, authenticates, asserts⟩
    intro derived' derives
    rcases traced.derived id derived' derives with ⟨_, _, owner, again⟩
    rcases creates.unique owner with ⟨rfl, rfl⟩
    exact again.unique derived

end Identity

section Sample

def byteJson (byte : UInt8) : Json := .array (List.replicate byte.toNat .null)

def jsonByte : Json → UInt8
  | .array items => UInt8.ofNat items.length
  | _ => 0

def keyJson (key : P256PublicKey) : Json :=
  .array [.array (key.x.map byteJson), .array (key.y.map byteJson)]

def jsonKey : Json → P256PublicKey
  | .array [.array x, .array y] => ⟨x.map jsonByte, y.map jsonByte⟩
  | _ => ⟨[], []⟩

/-- An entry in the form in which `swiyu_core` has its parameters and its document. -/
def keyedEntry (multikey did : String) (authentication assertion : Json) : Json :=
  .array [.string "", .string "", .object [("updateKeys", .string multikey)],
    .object [("value", .object [("id", .string did), ("authentication", authentication),
      ("assertion", assertion)])]]

def readEntry : Json → Option LogEntry
  | .array [_, _, .object [(_, .string multikey)],
      .object [(_, .object [_, (_, authentication), (_, assertion)])]] => some
      { versionId := ""
        versionTime := ""
        updateKeys := some [multikey]
        deactivated := none
        didDocState := .value (.ok ⟨[(plainCore.authenticationFragment, jsonKey authentication),
          (assertionFragment, jsonKey assertion)]⟩)
        proof := none }
  | _ => none

def keyedGenesis : GenesisCore :=
  { plainGenesis with
    newGenesis := fun multikey did authentication assertion _ =>
      keyedEntry multikey did (keyJson authentication) (keyJson assertion)
    withScid := fun scid entry =>
      match entry with
      | .array [_, _, .object [(_, .string multikey)],
          .object [(_, .object [(_, .string did), (_, authentication), (_, assertion)])]] =>
          keyedEntry multikey (plainReplace scid did) authentication assertion
      | entry => entry }

theorem jsonKey_keyJson (key : P256PublicKey) : jsonKey (keyJson key) = key := by
  have bytes : ∀ byte, jsonByte (byteJson byte) = byte := by
    intro byte
    simp [byteJson, jsonByte]
  simp [keyJson, jsonKey, bytes, Function.comp_def]

theorem keyedGenesis_readable : keyedGenesis.Readable plainCore readEntry where
  made := by
    intro multikey did authentication assertion now
    refine ⟨_, _, rfl, rfl, rfl, ?_, ?_⟩
    · rw [jsonKey_keyJson]
      rfl
    · simp only [jsonKey_keyJson]
      rfl
  stripped := fun carries => carries
  replaced := by
    intro bytes authentication assertion line scid carries
    simp only [keyedGenesis]
    split
    · exact carries
    · exact carries
  versioned := fun _ carries => carries
  signed := fun _ _ _ _ carries => carries

def sampleState : State where
  journal := sampleJournal
  records _ := none
  current _ := none
  lists _ := none
  provisioning := .outside
  log _ := []
  sent := []
  issuerIds := []
  identifiers := []
  entryIds := []
  derived _ := []

theorem sampleState_initial : sampleState.Initial :=
  ⟨⟨rfl, fun _ => rfl⟩, fun _ => rfl, fun _ => rfl, fun _ => rfl, fun _ => rfl, rfl, fun _ => rfl,
    rfl, fun _ => rfl⟩

/-- Every call works, and no issuer is loaded. -/
def sampleCall : Visit :=
  { sampleVisit with loads := ⟨.ok (), .ok (some ⟨⟨"t"⟩, "partner"⟩), .error .notFound⟩ }

def sampleStep (statements : List Event) : List Event :=
  .journal (.acquire ⟨"c"⟩ 0) :: statements ++ [.perform sampleCall true, .journal (.record 0 0)]

/-- The worker crashes after the `PUT` of the log was applied, and puts it again. -/
def samplePublication : List Event :=
  .journal (.createIssuer ⟨"c"⟩ ⟨"t"⟩ ⟨"i"⟩ "" "Issuer i" 0) ::
    (sampleStep [] ++ sampleStep [] ++ sampleStep [] ++
      [.journal (.acquire ⟨"c"⟩ 0), .send sampleCall, .deliver 0, .journal .crash] ++
      sampleStep [.send sampleCall, .deliver 1] ++ sampleStep [])

theorem creation_publishes_what_it_persists_sample : ∃ last task record,
    Run (Steps (State.step sampleExternals keyedGenesis)) sampleState samplePublication last ∧
    last.journal.tasks ⟨"c"⟩ = some task ∧ last.records ⟨"i"⟩ = some record ∧
    ∃ identifier line, last.log identifier = [line] ∧ documentId line = .ok record.did := by
  have computed : (exec (State.step sampleExternals keyedGenesis) sampleState
      samplePublication).map (fun state =>
        ((state.journal.tasks ⟨"c"⟩).map fun task => (task.taskType, task.resultIssuerId),
          (state.records ⟨"i"⟩).isSome)) =
      some (some (.createIssuer, some ⟨"i"⟩), true) := by decide
  rcases Option.map_eq_some_iff.mp computed with ⟨last, executed, seen⟩
  rw [Prod.mk.injEq] at seen
  rcases Option.map_eq_some_iff.mp seen.1 with ⟨task, found, kind⟩
  rw [Prod.mk.injEq] at kind
  rcases Option.isSome_iff_exists.mp seen.2 with ⟨record, inserted⟩
  have run := Run.of_exec executed
  rcases (creation_publishes_what_it_persists sampleExternals keyedGenesis keyedGenesis_readable
    sampleState_initial run).2 ⟨"c"⟩ task ⟨"i"⟩ record found kind.1 kind.2 inserted with
    ⟨_, identifier, _, line, _, _, _, _, published, _, _, document, _⟩
  exact ⟨last, task, record, run, found, inserted, identifier, line, published, document⟩

end Sample

end SwiyuIssuer.Creation
