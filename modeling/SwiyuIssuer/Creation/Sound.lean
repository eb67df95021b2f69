import SwiyuIssuer.Creation.Moves

/-! What every state of a run has: sound rows, issuer ids of their own, and registry values that
are handed out to one creation each. -/

namespace SwiyuIssuer.Creation

open Library Persistence Worker Saga Resume

section Rows

variable {ext : Externals} {genesis : GenesisCore} {state after : State} {id : TaskId}
  {task row : OperationTask} {data : CreateIssuerStateData}

/-- What is known of the rows whatever the registries do. -/
structure Sound (ext : Externals) (genesis : GenesisCore) (state : State) : Prop where
  journal : Resume.Sound ext genesis state.journal
  records : ∀ id, (state.journal.issuers id).isSome = true → (state.records id).isSome = true
  issuerIds : ∀ id task data issuerId, Creates ext state.journal id task data →
    task.resultIssuerId = some issuerId → issuerId ∈ state.issuerIds
  ownIssuer : ∀ id task data id' task' data' issuerId, Creates ext state.journal id task data →
    Creates ext state.journal id' task' data' → task.resultIssuerId = some issuerId →
    task'.resultIssuerId = some issuerId → id = id'
  running : state.provisioning ≠ .outside → ∃ task issuerId,
    state.provisioned = some (task, issuerId)

theorem sound_initial (initial : state.Initial) : Sound ext genesis state where
  journal := Resume.sound_initial initial.journal
  records := by
    intro id there
    rw [initial.issuers] at there
    cases there
  issuerIds := by
    intro id task data issuerId creates
    cases (initial.journal.empty id).symm.trans creates.found
  ownIssuer := by
    intro id task data id' task' data' issuerId creates
    cases (initial.journal.empty id).symm.trans creates.found
  running := by
    intro started
    exact absurd initial.provisioning started

theorem Creates.of_task (sound : Sound ext genesis state) (found : state.journal.tasks id = some task)
    (saga : task.taskType = .createIssuer) : ∃ data, Creates ext state.journal id task data := by
  rcases sound.journal.ready id task found with ⟨_, _, _, ready⟩
  have kind := ready.cases
  cases kind with
  | create _ data _ _ read _ => exact ⟨data, found, saga, read⟩
  | deactivate _ _ other _ _ _ | rotate _ _ other _ _ _ =>
      rw [saga] at other
      cases other

theorem Creates.same {journal next : Journal} (creates : Creates ext journal id task data)
    (tasks : next.tasks = journal.tasks) : Creates ext next id task data :=
  ⟨tasks ▸ creates.found, creates.saga, creates.read⟩

theorem Origin.same {journal next : Journal} (creates : Creates ext journal id row data) :
    Origin ext journal next id row data :=
  .kept row creates ⟨rfl, rfl, rfl, rfl, rfl, rfl⟩ fun completed => completed

/-- A creation after a step was one before it, unless the step is its request. -/
theorem Creates.before (sound : Sound ext genesis state) (move : Move ext genesis state after)
    (creates : Creates ext after.journal id row data) :
    Origin ext state.journal after.journal id row data := by
  cases move with
  | quiet event next taken | created _ _ _ _ _ _ next _ taken =>
      exact creates.origin sound.journal taken
  | performed task visit reached nextStep effect noted _ _ _ _ _ notes =>
      have tasks : noted.journal.tasks = state.journal.tasks := by
        rw [notes.journal]
      exact .same (creates.same tasks.symm)
  | crashed | lookedUp | inserted | pointed | sent | delivered | otherwise =>
      exact .same (creates.same rfl)

theorem Creates.later (sound : Sound ext genesis state) (move : Move ext genesis state after)
    (creates : Creates ext state.journal id task data) : ∃ row data',
      Creates ext after.journal id row data' ∧ SameRequest task row ∧
        Extends (.create data) (.create data') := by
  have same : SameRequest task task := ⟨rfl, rfl, rfl, rfl, rfl, rfl⟩
  cases move with
  | quiet event next taken | created _ _ _ _ _ _ next _ taken =>
      exact creates.move sound.journal (Resume.moves sound.journal taken)
  | performed other visit reached nextStep effect noted _ _ _ _ _ notes =>
      have tasks : noted.journal.tasks = state.journal.tasks := by
        rw [notes.journal]
      exact ⟨task, data, creates.same tasks, same, Extends.refl _⟩
  | crashed | lookedUp | inserted | pointed | sent | delivered | otherwise =>
      exact ⟨task, data, creates.same rfl, same, Extends.refl _⟩

theorem provisioned_some {issuerId : IssuerId}
    (running : state.provisioned = some (task, issuerId)) :
    state.journal.worker = .acquired task ∧ task.taskType = .createIssuer ∧
      Resume.stepName task = "provision_status_list" ∧ task.resultIssuerId = some issuerId := by
  unfold State.provisioned at running
  split at running
  · next other held =>
      split at running
      · next kind =>
          rcases Option.map_eq_some_iff.mp running with ⟨_, named, same⟩
          cases same
          rw [Bool.and_eq_true, beq_iff_eq, beq_iff_eq] at kind
          exact ⟨held, kind.1, kind.2, named⟩
      · cases running
  · cases running

theorem provisioned_worker {other : State}
    (same : other.journal.worker = state.journal.worker) : other.provisioned = state.provisioned := by
  rw [State.provisioned, same, State.provisioned]

theorem provisioned_kept {next : Journal} {issuerId : IssuerId}
    (kept : WorkerKept state.journal next) (running : state.provisioned = some (task, issuerId)) :
    { state with journal := next }.provisioned = some (task, issuerId) := by
  have held := (provisioned_some running).1
  rcases kept with same | ⟨idle, _⟩ | ⟨⟨_, _, _, _, stepped⟩, _⟩
  · rw [← running]
    exact provisioned_worker same
  · rw [held] at idle
    cases idle
  · rw [held] at stepped
    cases stepped

/-- An `INSERT` that was committed has met no row. -/
theorem inserted_absent {calls : CreateCalls} {record : IssuerRecord}
    (answer : state.answered calls true (.insertIssuer record) = true) :
    state.records record.id = none := by
  simp only [State.answered] at answer
  split at answer
  · simpa using answer
  · cases answer
  · simpa using answer

theorem journal_move (sound : Sound ext genesis state) (move : Move ext genesis state after) :
    Resume.Sound ext genesis after.journal := by
  cases move with
  | quiet event next taken | created _ _ _ _ _ _ next _ taken =>
      exact Resume.sound_step sound.journal taken
  | crashed =>
      have taken : state.journal.step ext genesis .crash = some state.journal.release := rfl
      exact Resume.sound_step sound.journal taken
  | lookedUp | inserted | pointed | sent | delivered => exact sound.journal
  | otherwise _ _ _ _ taken => exact Resume.sound_step sound.journal taken
  | performed task visit reached nextStep effect noted held taken _ _ answered notes =>
      have moved := Resume.sound_step sound.journal taken
      have rows : noted.journal = { state.journal with
          worker := .stepped task nextStep effect.outcome visit
          issuers := noted.journal.issuers } := notes.journal
      show Resume.Sound ext genesis noted.journal
      rw [rows]
      refine Resume.sound_move moved (.issuers noted.journal.issuers ?_)
      intro tenantId id there
      rcases notes.issuers id with same | ⟨_, put, record, asked, rfl⟩
      · rw [same]
        exact there
      · subst put
        have absent := inserted_absent (answered _ asked)
        rcases Option.isSome_iff_exists.mp there with ⟨issuer, found⟩
        have stored := (Option.filter_eq_some_iff.mp found).1
        have present := sound.records record.id (by rw [stored]; rfl)
        rw [absent] at present
        cases present

theorem Creates.source (sound : Sound ext genesis state) (move : Move ext genesis state after)
    (creates : Creates ext after.journal id row data) :
    (∃ task before, Creates ext state.journal id task before ∧ SameRequest task row) ∨
      state.journal.tasks id = none := by
  cases creates.before sound move with
  | kept task creates same => exact .inl ⟨task, data, creates, same⟩
  | finished task _ _ _ _ _ creates same => exact .inl ⟨task, data, creates, same⟩
  | advanced task before _ _ _ _ _ _ creates _ same => exact .inl ⟨task, before, creates, same⟩
  | fresh absent => exact .inr absent

/-- A new creation has the issuer id that is drawn for it, and it is the only new one. -/
theorem fresh_created (sound : Sound ext genesis state) (move : Move ext genesis state after)
    (creates : Creates ext after.journal id row data) (absent : state.journal.tasks id = none) :
    ∃ issuerId, row.resultIssuerId = some issuerId ∧ issuerId ∉ state.issuerIds ∧
      after.issuerIds = issuerId :: state.issuerIds ∧
      ∀ other task before, Creates ext after.journal other task before →
        state.journal.tasks other = none → other = id := by
  have stays : after.journal.tasks ≠ state.journal.tasks := by
    intro same
    rw [← same, creates.found] at absent
    cases absent
  cases move with
  | quiet event next taken quiet =>
      rcases (added_row sound.journal taken absent creates.found).2 creates.saga with
        ⟨_, _, _, _, _, request, _⟩
      exact absurd request (quiet _ _ _ _ _ _)
  | created asked tenantId issuerId description displayName now next unused taken =>
      rcases (added_row sound.journal taken absent creates.found).2 creates.saga with
        ⟨_, _, _, _, _, request, named⟩
      cases request
      refine ⟨issuerId, named, unused, rfl, ?_⟩
      intro other task before also missing
      rcases (added_row sound.journal taken missing also.found).2 also.saga with
        ⟨_, _, _, _, _, request, _⟩
      cases request
      rfl
  | performed _ _ _ _ _ noted _ _ _ _ _ notes =>
      refine absurd ?_ stays
      show noted.journal.tasks = state.journal.tasks
      rw [notes.journal]
  | crashed | lookedUp | inserted | pointed | sent | delivered | otherwise =>
      exact absurd rfl stays

theorem issuerIds_grow (move : Move ext genesis state after) :
    ∀ issuerId ∈ state.issuerIds, issuerId ∈ after.issuerIds := by
  intro issuerId drawn
  cases move with
  | created => exact List.mem_cons_of_mem _ drawn
  | performed _ _ _ _ _ noted _ _ _ _ _ notes =>
      show issuerId ∈ noted.issuerIds
      rw [notes.issuerIds]
      exact drawn
  | quiet | crashed | lookedUp | inserted | pointed | sent | delivered | otherwise => exact drawn

theorem records_grow (move : Move ext genesis state after) {issuerId : IssuerId}
    (there : (state.records issuerId).isSome = true) : (after.records issuerId).isSome = true := by
  cases move with
  | performed _ _ _ _ _ noted _ _ _ _ _ notes => exact notes.recorded issuerId there
  | quiet | created | crashed | lookedUp | inserted | pointed | sent | delivered | otherwise =>
      exact there

theorem sound_move (sound : Sound ext genesis state) (move : Move ext genesis state after) :
    Sound ext genesis after where
  journal := journal_move sound move
  records := by
    intro id there
    cases move with
    | quiet event next _ _ _ issuers =>
        rcases issuers id there with before | stored
        · exact sound.records id before
        · exact stored
    | created _ _ _ _ _ _ next _ _ _ issuers =>
        rw [issuers] at there
        exact sound.records id there
    | performed _ _ _ _ _ noted _ _ _ _ _ notes =>
        rcases notes.issuers id with same | ⟨stored, _⟩
        · refine notes.recorded id (sound.records id ?_)
          rw [← same]
          exact there
        · exact stored
    | crashed | lookedUp | inserted | pointed | sent | delivered | otherwise =>
        exact sound.records id there
  issuerIds := by
    intro id row data issuerId creates named
    rcases creates.source sound move with ⟨task, before, creates', same⟩ | absent
    · exact issuerIds_grow move _ (sound.issuerIds _ _ _ _ creates' (same.resultIssuerId ▸ named))
    · rcases fresh_created sound move creates absent with ⟨drawn, named', _, grown, _⟩
      cases named.symm.trans named'
      rw [grown]
      exact List.mem_cons_self
  ownIssuer := by
    intro id row data id' row' data' issuerId creates creates' named named'
    rcases creates.source sound move with ⟨task, before, old, same⟩ | absent
    · have used := sound.issuerIds _ _ _ _ old (same.resultIssuerId ▸ named)
      rcases creates'.source sound move with ⟨task', before', old', same'⟩ | absent'
      · exact sound.ownIssuer _ _ _ _ _ _ _ old old' (same.resultIssuerId ▸ named)
          (same'.resultIssuerId ▸ named')
      · rcases fresh_created sound move creates' absent' with ⟨drawn, own, unused, _⟩
        cases named'.symm.trans own
        exact absurd used unused
    · rcases fresh_created sound move creates absent with ⟨drawn, own, unused, _, only⟩
      cases named.symm.trans own
      rcases creates'.source sound move with ⟨task', before', old', same'⟩ | absent'
      · exact absurd (sound.issuerIds _ _ _ _ old' (same'.resultIssuerId ▸ named')) unused
      · exact (only _ _ _ creates' absent').symm
  running := by
    intro started
    cases move with
    | quiet event next _ _ kept =>
        rcases sound.running started with ⟨task, issuerId, running⟩
        exact ⟨task, issuerId, provisioned_kept kept running⟩
    | created _ _ _ _ _ _ next _ _ kept =>
        rcases sound.running started with ⟨task, issuerId, running⟩
        refine ⟨task, issuerId, ?_⟩
        rw [← provisioned_kept kept running]
        exact provisioned_worker rfl
    | lookedUp task issuerId running | inserted task issuerId _ _ _ _ _ running
    | pointed task issuerId _ running => exact ⟨task, issuerId, running⟩
    | sent | delivered => exact sound.running started
    | performed task visit _ _ _ noted _ _ _ _ _ notes =>
        refine absurd ?_ started
        show noted.provisioning = .outside
        rw [notes.provisioning]
    | crashed | otherwise => exact absurd rfl started

end Rows

section Performed

variable {ext : Externals} {genesis : GenesisCore} {state after : State} {task : OperationTask}
  {visit : Visit} {nextStep : Option String} {outcome : StepOutcome}

/-- The execution of a creation that a step of the system has made. -/
structure Performed (ext : Externals) (genesis : GenesisCore) (state after : State)
    (task : OperationTask) (visit : Visit) (effect : CreateEffect) (reached : Bool)
    (data : CreateIssuerStateData) (input : CreateIssuerInput) (tenant : Tenant)
    (arm : Arm CreateIssuerStep) : Prop where
  creates : Creates ext state.journal task.id task data
  known : createIssuerArm (Resume.stepName task) = some arm
  made : effect = createStep ext genesis task visit.create input data tenant arm.step
  reads : state.readsTables task visit.create = true
  answered : ∀ call ∈ effect.requested, state.answered visit.create reached call = true
  noted : ∃ noted, after = State.derive ext genesis noted task visit ∧
    ∃ worker, Noted visit.create reached effect.requested
      { state with journal := { state.journal with worker := worker }, provisioning := .outside }
      noted

theorem stepped_source (move : Move ext genesis state after)
    (stepped : after.journal.worker = .stepped task nextStep outcome visit) :
    state.journal.worker = .stepped task nextStep outcome visit ∨
      state.journal.worker = .acquired task := by
  have unmoved : ∀ next : Journal, WorkerKept state.journal next →
      next.worker = .stepped task nextStep outcome visit →
      state.journal.worker = .stepped task nextStep outcome visit := by
    intro next kept there
    rcases kept with same | ⟨_, _, acquired⟩ | ⟨_, idle⟩
    · exact same.symm.trans there
    · cases there.symm.trans acquired
    · cases there.symm.trans idle
  cases move with
  | quiet _ next _ _ kept | created _ _ _ _ _ _ next _ _ kept =>
      exact .inl (unmoved next kept stepped)
  | crashed => cases stepped
  | lookedUp | inserted | pointed | delivered | sent => exact .inl stepped
  | otherwise other _ worker holds _ ended =>
      have there : worker = .stepped task nextStep outcome visit := stepped
      rcases ended with idle | ⟨_, _, _, same⟩
      · cases there.symm.trans idle
      · cases there.symm.trans same
        exact .inr holds
  | performed other _ _ _ _ noted holds _ _ _ _ notes =>
      have there : noted.journal.worker = .stepped task nextStep outcome visit := stepped
      rw [notes.journal] at there
      cases there
      exact .inr holds

theorem performed_of_worker (sound : Sound ext genesis state) (move : Move ext genesis state after)
    (held : state.journal.worker = .acquired task)
    (stepped : after.journal.worker = .stepped task nextStep outcome visit)
    (saga : task.taskType = .createIssuer) : ∃ effect reached data input tenant arm,
      effect.outcome = outcome ∧ nextStep = arm.nextStep ∧
        Performed ext genesis state after task visit effect reached data input tenant arm := by
  have unmoved : ∀ next : Journal, WorkerKept state.journal next →
      next.worker ≠ .stepped task nextStep outcome visit := by
    intro next kept there
    rcases kept with same | ⟨idle, _⟩ | ⟨⟨_, _, _, _, before⟩, _⟩
    · rw [same, held] at there
      cases there
    · rw [held] at idle
      cases idle
    · rw [held] at before
      cases before
  cases move with
  | quiet _ next _ _ kept | created _ _ _ _ _ _ next _ _ kept =>
      exact absurd stepped (unmoved next kept)
  | crashed => cases stepped
  | lookedUp | inserted | pointed | delivered | sent =>
      have there : state.journal.worker = .stepped task nextStep outcome visit := stepped
      rw [held] at there
      cases there
  | otherwise other _ worker holds _ ended =>
      have there : worker = .stepped task nextStep outcome visit := stepped
      rcases ended with idle | ⟨different, _, _, same⟩
      · cases there.symm.trans idle
      · cases there.symm.trans same
        exact absurd saga different
  | performed other met reached next effect noted holds taken executed reads answered notes =>
      have there : noted.journal.worker = .stepped task nextStep outcome visit := stepped
      rw [notes.journal] at there
      cases there
      rcases create_deed executed with ⟨_, input, data, tenant, arm, read, known, follows, made⟩
      have stored := (sound.journal.held task (by rw [held]; rfl)).1
      exact ⟨effect, reached, data, input, tenant, arm, rfl, follows,
        ⟨stored, saga, read⟩, known, made, reads, answered, noted, rfl, _, notes⟩

end Performed

section HandedOut

variable {ext : Externals} {genesis : GenesisCore} {state after : State}

/-- What a registry hands out at one step of a creation, which keeps it in one field. -/
structure Supply where
  step : String
  field : CreateIssuerStateData → Option String
  answer : CreateCalls → Option String
  used : State → List String
  blank : field ⟨none, none, none, false, none, none⟩ = none
  drawn : ∀ {calls : CreateCalls} {at_ : String} {before data : CreateIssuerStateData}
    {value : String}, Growth calls at_ before data → field data = some value →
      field before = some value ∨ (at_ = step ∧ answer calls = some value)

/-- Each value that a creation holds, or is about to hold, is its own. -/
structure HandedOut (ext : Externals) (supply : Supply) (state : State) : Prop where
  used : ∀ id task data value, Creates ext state.journal id task data →
    supply.field data = some value → value ∈ supply.used state
  own : ∀ id task data id' task' data' value, Creates ext state.journal id task data →
    Creates ext state.journal id' task' data' → supply.field data = some value →
    supply.field data' = some value → id = id'
  pending : ∀ task nextStep result visit value,
    state.journal.worker = .stepped task nextStep (.done result) visit →
    task.taskType = .createIssuer → Resume.stepName task = supply.step →
    supply.answer visit.create = some value → value ∈ supply.used state ∧
      ∀ id other data, Creates ext state.journal id other data → supply.field data ≠ some value

structure Grants (supply : Supply) (state after : State) : Prop where
  grows : ∀ value ∈ supply.used state, value ∈ supply.used after
  fresh : ∀ task nextStep result visit value, state.journal.worker = .acquired task →
    after.journal.worker = .stepped task nextStep (.done result) visit →
    task.taskType = .createIssuer → Resume.stepName task = supply.step →
    supply.answer visit.create = some value →
      value ∉ supply.used state ∧ value ∈ supply.used after

theorem handedOut_initial (supply : Supply) (initial : state.Initial) :
    HandedOut ext supply state where
  used := by
    intro id task data value creates
    cases (initial.journal.empty id).symm.trans creates.found
  own := by
    intro id task data id' task' data' value creates
    cases (initial.journal.empty id).symm.trans creates.found
  pending := by
    intro task nextStep result visit value stepped
    rw [initial.journal.idle] at stepped
    cases stepped

/-- A value in the data after a step was there before it, or the recorded execution was granted
it. -/
theorem field_source {supply : Supply} (sound : Sound ext genesis state)
    (move : Move ext genesis state after) {id : TaskId} {row : OperationTask}
    {data : CreateIssuerStateData} {value : String} (creates : Creates ext after.journal id row data)
    (holds : supply.field data = some value) :
    (∃ task before, Creates ext state.journal id task before ∧
        supply.field before = some value) ∨
      ∃ task nextStep result visit, state.journal.worker = .stepped task nextStep (.done result) visit ∧
        after.journal.worker = .idle ∧ task.id = id ∧ task.taskType = .createIssuer ∧
        Resume.stepName task = supply.step ∧ supply.answer visit.create = some value := by
  cases creates.before sound move with
  | kept task creates => exact .inl ⟨task, data, creates, holds⟩
  | finished task _ _ _ _ _ creates => exact .inl ⟨task, data, creates, holds⟩
  | advanced task before next result visit held ended keyed creates growth =>
      rcases supply.drawn growth holds with same | ⟨place, answered⟩
      · exact .inl ⟨task, before, creates, same⟩
      · exact .inr ⟨task, some next, result, visit, held, ended, keyed, creates.saga, place, answered⟩
  | fresh _ blank =>
      rw [blank, supply.blank] at holds
      cases holds

theorem handedOut_move {supply : Supply} (sound : Sound ext genesis state)
    (move : Move ext genesis state after) (grants : Grants supply state after)
    (handed : HandedOut ext supply state) : HandedOut ext supply after where
  used := by
    intro id row data value creates holds
    rcases field_source sound move creates holds with ⟨task, before, old, held⟩ |
      ⟨task, nextStep, result, visit, stepped, _, _, saga, place, answered⟩
    · exact grants.grows value (handed.used _ _ _ _ old held)
    · exact grants.grows value (handed.pending _ _ _ _ _ stepped saga place answered).1
  own := by
    intro id row data id' row' data' value creates creates' holds holds'
    rcases field_source sound move creates holds with ⟨task, before, old, held⟩ |
      ⟨task, nextStep, result, visit, stepped, _, keyed, saga, place, answered⟩
    · rcases field_source sound move creates' holds' with ⟨task', before', old', held'⟩ |
        ⟨task', nextStep, result, visit, stepped, _, _, saga, place, answered⟩
      · exact handed.own _ _ _ _ _ _ _ old old' held held'
      · exact absurd held ((handed.pending _ _ _ _ _ stepped saga place answered).2 _ _ _ old)
    · rcases field_source sound move creates' holds' with ⟨task', before', old', held'⟩ |
        ⟨task', _, _, _, stepped', _, keyed', _⟩
      · exact absurd held' ((handed.pending _ _ _ _ _ stepped saga place answered).2 _ _ _ old')
      · cases stepped.symm.trans stepped'
        exact keyed.symm.trans keyed'
  pending := by
    intro task nextStep result visit value stepped saga place answered
    have busy : after.journal.worker ≠ .idle := by
      rw [stepped]
      exact Dispatch.noConfusion
    rcases stepped_source move stepped with before | held
    · rcases handed.pending _ _ _ _ _ before saga place answered with ⟨used, alone⟩
      refine ⟨grants.grows value used, ?_⟩
      intro id row data creates holds
      rcases field_source sound move creates holds with ⟨_, _, old, held⟩ |
        ⟨_, _, _, _, _, idle, _⟩
      · exact alone _ _ _ old held
      · exact busy idle
    · rcases grants.fresh _ _ _ _ _ held stepped saga place answered with ⟨unused, used⟩
      refine ⟨used, ?_⟩
      intro id row data creates holds
      rcases field_source sound move creates holds with ⟨_, _, old, held⟩ |
        ⟨_, _, _, _, _, idle, _⟩
      · exact unused (handed.used _ _ _ _ old held)
      · exact busy idle

end HandedOut

end SwiyuIssuer.Creation
