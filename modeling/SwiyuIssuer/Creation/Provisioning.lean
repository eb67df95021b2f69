import SwiyuIssuer.Creation.Identity

/-! The `INSERT` and the `UPDATE` of `provision_status_list` are committed one by one: an issuer has
one status list as long as no execution ends between them. -/

namespace SwiyuIssuer.Creation

open Library Persistence Worker Saga Resume

/-- An execution ends between its `INSERT` and its `UPDATE`. -/
def State.tears (state : State) : Event → Bool
  | .journal .crash | .perform _ _ =>
      match state.provisioning with
      | .inserted _ => true
      | _ => false
  | _ => false

/-- A step after which no inserted list waits for its `UPDATE` in vain. -/
def WholeStep (ext : Externals) (genesis : GenesisCore) : State → Event → State → Prop :=
  Guarded (fun state event => state.tears event = false) (Steps (State.step ext genesis))

section Listed

variable {ext : Externals} {genesis : GenesisCore} {state after : State} {id : TaskId}
  {task row : OperationTask} {data : CreateIssuerStateData}

/-- What the execution that is under way knows of its issuer. -/
def State.Phase (state : State) (issuerId : IssuerId) : Prop :=
  match state.provisioning with
  | .outside => True
  | .lookedUp found => state.current issuerId = found
  | .inserted listId => state.current issuerId = none ∧
      ∃ list, state.lists listId = some list ∧ list.issuerId = issuerId
  | .pointed listId => state.current issuerId = some listId

/-- What the rows of `status_lists` have in every run. -/
structure Listed (ext : Externals) (state : State) : Prop where
  owned : ∀ listId list, state.lists listId = some list → ∃ id task data entryId,
    Creates ext state.journal id task data ∧ task.resultIssuerId = some list.issuerId ∧
      data.statusListRegistryEntryId = some entryId ∧ list.registryEntryId = some entryId
  stored : ∀ listId list, state.lists listId = some list →
    (state.records list.issuerId).isSome = true
  current : ∀ issuerId listId, state.current issuerId = some listId →
    ∃ list, state.lists listId = some list ∧ list.issuerId = issuerId
  phase : ∀ task issuerId, state.provisioned = some (task, issuerId) → state.Phase issuerId
  pending : ∀ task nextStep result visit issuerId,
    state.journal.worker = .stepped task nextStep (.done result) visit →
    task.taskType = .createIssuer → Resume.stepName task = "provision_status_list" →
    task.resultIssuerId = some issuerId → (state.current issuerId).isSome = true
  completed : ∀ id task data issuerId, Creates ext state.journal id task data →
    task.state = .completed → task.resultIssuerId = some issuerId →
    (state.current issuerId).isSome = true

theorem listed_initial (initial : state.Initial) : Listed ext state where
  owned := by
    intro listId list there
    rw [initial.lists] at there
    cases there
  stored := by
    intro listId list there
    rw [initial.lists] at there
    cases there
  current := by
    intro issuerId listId there
    rw [initial.current] at there
    cases there
  phase := by
    intro task issuerId _
    rw [State.Phase, initial.provisioning]
    trivial
  pending := by
    intro task nextStep result visit issuerId stepped
    rw [initial.journal.idle] at stepped
    cases stepped
  completed := by
    intro id task data issuerId creates
    cases (initial.journal.empty id).symm.trans creates.found

theorem lists_stay (move : Move ext genesis state after) {listId : StatusListId} {list : StatusList}
    (there : state.lists listId = some list) : after.lists listId = some list := by
  cases move with
  | inserted _ _ _ fresh _ _ _ _ _ _ _ absent =>
      show Function.update state.lists fresh _ listId = some list
      have different : listId ≠ fresh := by
        rintro rfl
        rw [absent] at there
        cases there
      rw [Function.update_of_ne different]
      exact there
  | performed _ _ _ _ _ noted _ _ _ _ _ notes =>
      show noted.lists listId = some list
      rw [notes.lists]
      exact there
  | quiet | created | crashed | lookedUp | pointed | sent | delivered | otherwise => exact there

theorem current_stays (move : Move ext genesis state after) {issuerId : IssuerId}
    (there : (state.current issuerId).isSome = true) : (after.current issuerId).isSome = true := by
  cases move with
  | pointed task place listId =>
      show (Function.update state.current place (some listId) issuerId).isSome = true
      by_cases same : issuerId = place
      · subst same
        rw [Function.update_self]
        rfl
      · rw [Function.update_of_ne same]
        exact there
  | performed _ _ _ _ _ noted _ _ _ _ _ notes =>
      show (noted.current issuerId).isSome = true
      rw [notes.current]
      exact there
  | quiet | created | crashed | lookedUp | inserted | sent | delivered | otherwise => exact there

theorem listed_owned (sound : Sound ext genesis state) (move : Move ext genesis state after)
    (listed : Listed ext state) {listId : StatusListId} {list : StatusList}
    (there : after.lists listId = some list) : ∃ id task data entryId,
      Creates ext after.journal id task data ∧ task.resultIssuerId = some list.issuerId ∧
        data.statusListRegistryEntryId = some entryId ∧ list.registryEntryId = some entryId := by
  have kept : state.lists listId = some list → ∃ id task data entryId,
      Creates ext after.journal id task data ∧ task.resultIssuerId = some list.issuerId ∧
        data.statusListRegistryEntryId = some entryId ∧ list.registryEntryId = some entryId := by
    intro old
    rcases listed.owned listId list old with ⟨id, task, data, entryId, creates, named, held, entry⟩
    rcases creates.later sound move with ⟨row, data', creates', same, extended⟩
    exact ⟨id, row, data', entryId, creates', same.resultIssuerId.trans named,
      extended.2.2.2.2.1 _ held, entry⟩
  cases move with
  | inserted task issuerId data fresh entryId registryUrl now running looked read held _ _ =>
      have there : Function.update state.lists fresh
          (some (provisionedList fresh issuerId entryId registryUrl now)) listId = some list := there
      by_cases same : listId = fresh
      · subst same
        rw [Function.update_self] at there
        cases there
        rcases provisioned_some running with ⟨acquired, saga, _, named⟩
        have stored := (sound.journal.held task (by rw [acquired]; rfl)).1
        exact ⟨task.id, task, data, entryId, ⟨stored, saga, read⟩, named, held, rfl⟩
      · rw [Function.update_of_ne same] at there
        exact kept there
  | performed _ _ _ _ _ noted _ _ _ _ _ notes =>
      refine kept ?_
      rw [← notes.lists]
      exact there
  | quiet | created | crashed | lookedUp | pointed | sent | delivered | otherwise =>
      exact kept there

theorem listed_stored (move : Move ext genesis state after) (listed : Listed ext state)
    {listId : StatusListId} {list : StatusList} (there : after.lists listId = some list) :
    (after.records list.issuerId).isSome = true := by
  refine records_grow move ?_
  cases move with
  | inserted _ issuerId _ fresh _ _ _ _ _ _ _ _ owner =>
      have there : Function.update state.lists fresh _ listId = some list := there
      by_cases same : listId = fresh
      · subst same
        rw [Function.update_self] at there
        cases there
        exact owner
      · rw [Function.update_of_ne same] at there
        exact listed.stored listId list there
  | performed _ _ _ _ _ noted _ _ _ _ _ notes =>
      refine listed.stored listId list ?_
      rw [← notes.lists]
      exact there
  | quiet | created | crashed | lookedUp | pointed | sent | delivered | otherwise =>
      exact listed.stored listId list there

theorem listed_current (move : Move ext genesis state after) (listed : Listed ext state)
    {issuerId : IssuerId} {listId : StatusListId} (there : after.current issuerId = some listId) :
    ∃ list, after.lists listId = some list ∧ list.issuerId = issuerId := by
  have kept : state.current issuerId = some listId →
      ∃ list, after.lists listId = some list ∧ list.issuerId = issuerId := by
    intro old
    rcases listed.current issuerId listId old with ⟨list, stored, owner⟩
    exact ⟨list, lists_stay move stored, owner⟩
  cases move with
  | pointed task place fresh running inserted =>
      have there : Function.update state.current place (some fresh) issuerId = some listId := there
      by_cases same : issuerId = place
      · subst same
        rw [Function.update_self] at there
        cases there
        have phase := listed.phase task issuerId running
        rw [State.Phase, inserted] at phase
        exact phase.2
      · rw [Function.update_of_ne same] at there
        exact kept there
  | performed _ _ _ _ _ noted _ _ _ _ _ notes =>
      refine kept ?_
      rw [← notes.current]
      exact there
  | quiet | created | crashed | lookedUp | inserted | sent | delivered | otherwise =>
      exact kept there

theorem phase_journal {next : Journal} (sound : Sound ext genesis state)
    (kept : WorkerKept state.journal next) (listed : Listed ext state) {issuerId : IssuerId}
    (running : { state with journal := next }.provisioned = some (task, issuerId)) :
    state.Phase issuerId := by
  by_cases outside : state.provisioning = .outside
  · rw [State.Phase, outside]
    trivial
  · rcases sound.running outside with ⟨other, place, before⟩
    cases (provisioned_kept kept before).symm.trans running
    exact listed.phase task issuerId before

theorem listed_phase (sound : Sound ext genesis state) (move : Move ext genesis state after)
    (listed : Listed ext state) {issuerId : IssuerId}
    (running : after.provisioned = some (task, issuerId)) : after.Phase issuerId := by
  cases move with
  | quiet _ next _ _ kept => exact phase_journal sound kept listed running
  | created _ _ _ _ _ _ next _ _ kept => exact phase_journal sound kept listed running
  | sent | delivered => exact listed.phase task issuerId running
  | crashed | otherwise => trivial
  | performed other visit _ _ _ noted _ _ _ _ _ notes =>
      have outside : (State.derive ext genesis noted other visit).provisioning = .outside :=
        notes.provisioning
      rw [State.Phase, outside]
      trivial
  | lookedUp other place before =>
      cases before.symm.trans running
      rfl
  | inserted other place data fresh _ _ _ before looked =>
      cases before.symm.trans running
      have phase := listed.phase task issuerId before
      rw [State.Phase, looked] at phase
      exact ⟨phase, _, Function.update_self .., rfl⟩
  | pointed other place fresh before =>
      cases before.symm.trans running
      exact Function.update_self ..

theorem executeProvisionStatusList_done {issuerId : IssuerId} {calls : CreateCalls}
    {result : StepResult}
    (done : (executeProvisionStatusList issuerId data calls).outcome = .done result)
    (answers : state.provisioning.answers calls = true) (phase : state.Phase issuerId) :
    (state.current issuerId).isSome = true := by
  unfold executeProvisionStatusList at done
  split at done
  · cases done
  · exact absurd done (done_of_fails (outcomeForPersistenceError_fails ..))
  · next found pool read =>
      cases standing : state.provisioning with
      | lookedUp current =>
          rw [State.Phase, standing] at phase
          simp only [Provisioning.answers, pool, read, standing, Bool.and_eq_true, beq_iff_eq]
            at answers
          rw [phase, ← answers.1]
          rfl
      | outside | inserted _ | pointed _ =>
          simp [Provisioning.answers, pool, read, standing] at answers
  · next pool read =>
      have provided : calls.provision.isOk = true := by
        split at done
        · cases done
        · cases done
        · cases provision : calls.provision with
          | ok listId => rfl
          | error e =>
              rw [provision] at done
              exact absurd done (done_of_fails (outcomeForPersistenceError_fails ..))
      cases standing : state.provisioning with
      | pointed listId =>
          rw [State.Phase, standing] at phase
          rw [phase]
          rfl
      | lookedUp current =>
          simp only [Provisioning.answers, pool, read, standing, provided, Bool.and_eq_true,
            beq_iff_eq, Bool.or_eq_true, Bool.not_true, Bool.false_eq_true, or_false] at answers
          rw [← answers.1] at answers
          cases answers.2
      | outside | inserted _ =>
          simp [Provisioning.answers, pool, read, standing, provided] at answers

theorem listed_pending (sound : Sound ext genesis state) (move : Move ext genesis state after)
    (listed : Listed ext state) {nextStep : Option String} {result : StepResult} {visit : Visit}
    {issuerId : IssuerId}
    (stepped : after.journal.worker = .stepped task nextStep (.done result) visit)
    (saga : task.taskType = .createIssuer)
    (place : Resume.stepName task = "provision_status_list")
    (named : task.resultIssuerId = some issuerId) : (after.current issuerId).isSome = true := by
  refine current_stays move ?_
  rcases stepped_source move stepped with before | held
  · exact listed.pending _ _ _ _ _ before saga place named
  · rcases performed_of_worker sound move held stepped saga with
      ⟨effect, reached, data, input, tenant, arm, answered, _, performed⟩
    have known := performed.known
    rw [place] at known
    cases known
    have made := performed.made
    rw [made] at answered
    simp only [createStep, named, Option.elim_some] at answered
    have answers : state.provisioning.answers visit.create = true := by
      have reads := performed.reads
      simp only [State.readsTables, place, bne_self_eq_false, Bool.false_or] at reads
      exact (Bool.and_eq_true_iff.mp reads).1
    have running : state.provisioned = some (task, issuerId) := by
      simp [State.provisioned, held, saga, place, named]
    exact executeProvisionStatusList_done answered answers (listed.phase task issuerId running)

theorem last_arm {step : String} {arm : Arm CreateIssuerStep}
    (known : createIssuerArm step = some arm) (ends : arm.nextStep = none) :
    step = "provision_status_list" := by
  unfold createIssuerArm at known
  split at known <;> cases known <;> first | rfl | cases ends

theorem listed_completed (sound : Sound ext genesis state) (move : Move ext genesis state after)
    (listed : Listed ext state) {issuerId : IssuerId} (creates : Creates ext after.journal id row data)
    (completed : row.state = .completed) (named : row.resultIssuerId = some issuerId) :
    (after.current issuerId).isSome = true := by
  refine current_stays move ?_
  cases creates.before sound move with
  | kept task old same before =>
      exact listed.completed _ _ _ _ old (before completed) (same.resultIssuerId ▸ named)
  | finished task result visit held _ _ old same =>
      rcases sound.journal.pending _ _ _ _ held with ⟨deed, executed, _⟩
      cases deed with
      | issuer effect => exact absurd old.saga (issuer_deed executed)
      | create effect =>
          rcases create_deed executed with ⟨saga, _, _, _, arm, _, known, follows, _⟩
          exact listed.pending _ _ _ _ _ held saga (last_arm known follows.symm)
            (same.resultIssuerId ▸ named)
  | advanced _ _ _ _ _ _ _ _ _ _ _ unfinished => exact absurd completed unfinished
  | fresh _ _ unfinished => exact absurd completed unfinished

theorem listed_move (sound : Sound ext genesis state) (move : Move ext genesis state after)
    (listed : Listed ext state) : Listed ext after where
  owned _ _ := listed_owned sound move listed
  stored _ _ := listed_stored move listed
  current _ _ := listed_current move listed
  phase _ _ := listed_phase sound move listed
  pending _ _ _ _ _ := listed_pending sound move listed
  completed _ _ _ _ := listed_completed sound move listed

/-- Each list is the current one of its issuer, or its `UPDATE` is still to come. -/
def AllPointed (state : State) : Prop :=
  ∀ listId list, state.lists listId = some list →
    state.current list.issuerId = some listId ∨ state.provisioning = .inserted listId

theorem whole_waits {event : Event} (taken : state.step ext genesis event = some after)
    (whole : state.tears event = false) {listId : StatusListId}
    (waiting : state.provisioning = .inserted listId) : after.provisioning ≠ .outside := by
  have stays : state.provisioning ≠ .outside := by
    rw [waiting]
    exact Provisioning.noConfusion
  cases event with
  | journal event =>
      cases event with
      | crash => simp [State.tears, waiting] at whole
      | perform visit => simp [State.step, State.admits] at taken
      | putTenant | putIssuer | createIssuer | deactivateIssuer | rotateKeys | acquire | record =>
          simp only [State.step] at taken
          split at taken
          · rcases Option.map_eq_some_iff.mp taken with ⟨next, _, rfl⟩
            exact stays
          · cases taken
  | lookUp => simp [State.step, waiting] at taken
  | insertList => simp [State.step, State.insertList, waiting] at taken
  | pointIssuer =>
      simp only [State.step] at taken
      split at taken
      · cases taken
        exact Provisioning.noConfusion
      · cases taken
  | send =>
      simp only [State.step] at taken
      split at taken
      · rcases Option.map_eq_some_iff.mp taken with ⟨_, _, rfl⟩
        exact stays
      · cases taken
  | deliver =>
      simp only [State.step] at taken
      rcases Option.map_eq_some_iff.mp taken with ⟨_, _, rfl⟩
      exact stays
  | perform => simp [State.tears, waiting] at whole

theorem allPointed_step {event : Event} (listed : Listed ext state)
    (taken : WholeStep ext genesis state event after) (pointed : AllPointed state) :
    AllPointed after := by
  have waits : ∀ listId, state.provisioning = .inserted listId → after.provisioning ≠ .outside :=
    fun listId => whole_waits taken.2 taken.1
  intro listId list there
  cases move_of_step taken.2 with
  | quiet | created | sent | delivered => exact pointed listId list there
  | crashed | otherwise =>
      rcases pointed listId list there with current | waiting
      · exact .inl current
      · exact absurd rfl (waits listId waiting)
  | performed _ _ _ _ _ noted _ _ _ _ _ notes =>
      have stored : state.lists listId = some list := by
        rw [← notes.lists]
        exact there
      rcases pointed listId list stored with current | waiting
      · refine .inl ?_
        show noted.current list.issuerId = some listId
        rw [notes.current]
        exact current
      · exact absurd notes.provisioning (waits listId waiting)
  | lookedUp _ _ _ outside =>
      rcases pointed listId list there with current | waiting
      · exact .inl current
      · cases outside.symm.trans waiting
  | inserted _ issuerId _ fresh entryId registryUrl now _ looked =>
      by_cases same : listId = fresh
      · rw [same]
        exact .inr rfl
      · have stored : state.lists listId = some list := (Function.update_of_ne same ..).symm.trans there
        rcases pointed listId list stored with current | waiting
        · exact .inl current
        · cases looked.symm.trans waiting
  | pointed task place fresh running inserted =>
      have phase := listed.phase task place running
      rw [State.Phase, inserted] at phase
      rcases phase with ⟨unset, row, stored, owner⟩
      show Function.update state.current place (some fresh) list.issuerId = some listId ∨ _
      rcases pointed listId list there with current | waiting
      · have other : list.issuerId ≠ place := by
          intro same
          rw [same, unset] at current
          cases current
        rw [Function.update_of_ne other]
        exact .inl current
      · cases inserted.symm.trans waiting
        cases stored.symm.trans there
        rw [owner, Function.update_self]
        exact .inl rfl

/-- Of two lists of one issuer, neither waits for its `UPDATE`. -/
theorem one_list (sound : Sound ext genesis state) (listed : Listed ext state)
    (pointed : AllPointed state) {one two : StatusListId} {list other : StatusList}
    (first : state.lists one = some list) (second : state.lists two = some other)
    (same : list.issuerId = other.issuerId) : one = two := by
  have alone : ∀ {waiting current : StatusListId} {row : StatusList},
      state.provisioning = .inserted waiting → state.lists waiting = some row →
      state.current row.issuerId ≠ some current := by
    intro waiting current row inserted stored set
    rcases sound.running (by rw [inserted]; exact Provisioning.noConfusion) with
      ⟨task, issuerId, running⟩
    have phase := listed.phase task issuerId running
    rw [State.Phase, inserted] at phase
    rcases phase with ⟨unset, _, stored', owner⟩
    cases stored.symm.trans stored'
    rw [owner, unset] at set
    cases set
  rcases pointed one list first with current | waiting
  · rcases pointed two other second with current' | waiting'
    · rw [same] at current
      exact Option.some.inj (current.symm.trans current')
    · exact absurd (same ▸ current) (alone waiting' second)
  · rcases pointed two other second with current' | waiting'
    · exact absurd (same ▸ current') (alone waiting first)
    · cases waiting.symm.trans waiting'
      rfl

end Listed

section OneList

/-- In a run in which no execution ends between its `INSERT` and its `UPDATE`, no two rows of
`status_lists` are of one issuer or of one registry entry, and a completed creation has exactly
one, to which the row of its issuer points. -/
theorem each_issuer_has_one_status_list (ext : Externals) (genesis : GenesisCore)
    {first last : State} {trace : List Event} (initial : first.Initial)
    (run : Run (WholeStep ext genesis) first trace last) :
    (∀ one list two other, last.lists one = some list → last.lists two = some other →
      list.issuerId = other.issuerId → one = two) ∧
    (∀ one list two other entryId, last.lists one = some list → last.lists two = some other →
      list.registryEntryId = some entryId → other.registryEntryId = some entryId → one = two) ∧
    ∀ id task, last.journal.tasks id = some task → task.taskType = .createIssuer →
      task.state = .completed → ∃ issuerId listId list, task.resultIssuerId = some issuerId ∧
        (last.records issuerId).isSome = true ∧ last.current issuerId = some listId ∧
        last.lists listId = some list ∧ list.issuerId = issuerId ∧
        ∀ other row, last.lists other = some row → row.issuerId = issuerId → other = listId := by
  obtain ⟨⟨supplied, listed⟩, pointed⟩ := run.invariant_under
    (fun state => Supplied ext genesis state ∧ Listed ext state) AllPointed
    (fun _ _ _ known taken => ⟨supplied_move known.1 (move_of_step taken.2),
      listed_move known.1.sound (move_of_step taken.2) known.2⟩)
    (fun _ _ _ known pointed taken => allPointed_step known.2 taken pointed)
    ⟨supplied_initial initial, listed_initial initial⟩
    (fun listId list there => by
      rw [initial.lists] at there
      cases there)
  have unique := fun {one list two other} => @one_list ext genesis last supplied.sound listed pointed
    one two list other
  refine ⟨fun one list two other => unique, ?_, ?_⟩
  · intro one list two other entryId first second held held'
    rcases listed.owned one list first with ⟨id, task, data, _, creates, named, entry, own⟩
    rcases listed.owned two other second with ⟨id', task', data', _, creates', named', entry', own'⟩
    cases held.symm.trans own
    cases held'.symm.trans own'
    cases supplied.entryIds.own _ _ _ _ _ _ _ creates creates' entry entry'
    rcases creates.unique creates' with ⟨rfl, rfl⟩
    exact unique first second (Option.some.inj (named.symm.trans named'))
  · intro id task found saga completed
    rcases Creates.of_task supplied.sound found saga with ⟨data, creates⟩
    rcases creates.ready supplied.sound.journal with ⟨_, _, ready⟩
    rcases Option.isSome_iff_exists.mp ready.named with ⟨issuerId, named⟩
    rcases Option.isSome_iff_exists.mp (listed.completed _ _ _ _ creates completed named) with
      ⟨listId, current⟩
    rcases listed.current issuerId listId current with ⟨list, stored, owner⟩
    refine ⟨issuerId, listId, list, named, ?_, current, stored, owner, ?_⟩
    · rw [← owner]
      exact listed.stored listId list stored
    · intro other row there own
      exact unique there stored (own.trans owner.symm)

def sampleProvisioning : List Event :=
  samplePublication ++ sampleStep [] ++ sampleStep [.lookUp, .insertList ⟨"list"⟩ 0, .pointIssuer]

theorem each_issuer_has_one_status_list_sample : ∃ last task,
    Run (WholeStep sampleExternals keyedGenesis) sampleState sampleProvisioning last ∧
    last.journal.tasks ⟨"c"⟩ = some task ∧ task.state = .completed ∧
    ∃ issuerId listId, last.current issuerId = some listId ∧
      ∀ other row, last.lists other = some row → row.issuerId = issuerId → other = listId := by
  have computed : (exec (checked (fun state event => !state.tears event)
      (State.step sampleExternals keyedGenesis)) sampleState sampleProvisioning).map (fun state =>
        (state.journal.tasks ⟨"c"⟩).map fun task => (task.taskType, task.state)) =
      some (some (.createIssuer, .completed)) := by decide
  rcases Option.map_eq_some_iff.mp computed with ⟨last, executed, seen⟩
  rcases Option.map_eq_some_iff.mp seen with ⟨task, found, kind⟩
  rw [Prod.mk.injEq] at kind
  have run : Run (WholeStep sampleExternals keyedGenesis) sampleState sampleProvisioning last :=
    (Run.of_checked executed).mono fun _ _ _ taken => ⟨by simpa using taken.1, taken.2⟩
  rcases (each_issuer_has_one_status_list sampleExternals keyedGenesis sampleState_initial run).2.2
    ⟨"c"⟩ task found kind.1 kind.2 with ⟨issuerId, listId, _, _, _, current, _, _, only⟩
  exact ⟨last, task, run, found, kind.2, issuerId, listId, current, only⟩

def tornProvisioning : List Event :=
  samplePublication ++ sampleStep [] ++
    [.journal (.acquire ⟨"c"⟩ 0), .lookUp, .insertList ⟨"torn"⟩ 0, .journal .crash] ++
    sampleStep [.lookUp, .insertList ⟨"list"⟩ 0, .pointIssuer]

/-- A completed creation with two rows of its issuer and of its registry entry. -/
theorem torn_provisioning_leaves_two_lists : sampleState.Initial ∧ ∃ last task one two entryId,
    Run (Steps (State.step sampleExternals keyedGenesis)) sampleState tornProvisioning last ∧
    last.journal.tasks ⟨"c"⟩ = some task ∧ task.state = .completed ∧
    last.lists ⟨"torn"⟩ = some one ∧ last.lists ⟨"list"⟩ = some two ∧
    one.issuerId = two.issuerId ∧ one.registryEntryId = some entryId ∧
    two.registryEntryId = some entryId := by
  refine ⟨sampleState_initial, ?_⟩
  have computed : (exec (State.step sampleExternals keyedGenesis) sampleState
      tornProvisioning).map (fun state => ((state.journal.tasks ⟨"c"⟩).map (·.state),
        (state.lists ⟨"torn"⟩).map fun list => (list.issuerId, list.registryEntryId),
        (state.lists ⟨"list"⟩).map fun list => (list.issuerId, list.registryEntryId))) =
      some (some .completed, some (⟨"i"⟩, some "entry"), some (⟨"i"⟩, some "entry")) := by decide
  rcases Option.map_eq_some_iff.mp computed with ⟨last, executed, seen⟩
  rw [Prod.mk.injEq, Prod.mk.injEq] at seen
  rcases seen with ⟨ended, first, second⟩
  rcases Option.map_eq_some_iff.mp ended with ⟨task, found, completed⟩
  rcases Option.map_eq_some_iff.mp first with ⟨one, there, own⟩
  rcases Option.map_eq_some_iff.mp second with ⟨two, there', own'⟩
  rw [Prod.mk.injEq] at own own'
  exact ⟨last, task, one, two, "entry", Run.of_exec executed, found, completed, there, there',
    own.1.trans own'.1.symm, own.2, own'.2⟩

end OneList

end SwiyuIssuer.Creation
