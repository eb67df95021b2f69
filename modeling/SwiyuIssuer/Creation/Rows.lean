import SwiyuIssuer.Creation.Store

/-! The creations among the rows of the journal: what an event makes of one, and where one comes
from. -/

namespace SwiyuIssuer.Creation

open Library Persistence Worker Saga Resume

/-- A creation in the table of tasks, with its accumulated state. -/
structure Creates (ext : Externals) (journal : Journal) (id : TaskId) (task : OperationTask)
    (data : CreateIssuerStateData) : Prop where
  found : journal.tasks id = some task
  saga : task.taskType = .createIssuer
  read : CreateIssuerStateData.decode ext.uuid task.stateData = .ok data

/-- What a successful step adds to the accumulated state. -/
inductive Growth (calls : CreateCalls) :
    String → CreateIssuerStateData → CreateIssuerStateData → Prop
  | allocated (data : CreateIssuerStateData) (allocation : Allocation) :
      calls.allocate = .ok allocation → Growth calls "allocate_did" data { data with
        assignedDidUrl := some allocation.url
        assignedIdentifier := some allocation.identifier }
  | generated (data : CreateIssuerStateData) (keyIds : KeyTriple) :
      Growth calls "generate_keys" data { data with keyIds := some keyIds }
  | built (data : CreateIssuerStateData) : Growth calls "build_initial_didlog" data data
  | published (data : CreateIssuerStateData) :
      Growth calls "publish_didlog" data { data with didlogPublished := true }
  | persisted (data : CreateIssuerStateData) : Growth calls "persist_issuer" data data
  | registered (data : CreateIssuerStateData) (entry : StatusListEntry) :
      calls.createEntry = .ok entry → Growth calls "create_status_list_entry" data { data with
        statusListRegistryEntryId := some entry.id
        statusListRegistryUrl := some entry.registryUrl }

/-- Where a creation of the table after an event comes from. -/
inductive Origin (ext : Externals) (journal after : Journal) (id : TaskId) (row : OperationTask)
    (data : CreateIssuerStateData) : Prop
  | kept (task : OperationTask) : Creates ext journal id task data → SameRequest task row →
      (row.state = .completed → task.state = .completed) → Origin ext journal after id row data
  | finished (task : OperationTask) (result : StepResult) (visit : Visit) :
      journal.worker = .stepped task none (.done result) visit → after.worker = .idle →
      task.id = id → Creates ext journal id task data → SameRequest task row →
      Origin ext journal after id row data
  | advanced (task : OperationTask) (before : CreateIssuerStateData) (next : String)
      (result : StepResult) (visit : Visit) :
      journal.worker = .stepped task (some next) (.done result) visit → after.worker = .idle →
      task.id = id → Creates ext journal id task before →
      Growth visit.create (stepName task) before data → SameRequest task row →
      row.state ≠ .completed → Origin ext journal after id row data
  | fresh : journal.tasks id = none → data = ⟨none, none, none, false, none, none⟩ →
      row.state ≠ .completed → Origin ext journal after id row data

section Stages

variable {ran : String → Option Visit} {visit : Visit} {step next : String}
  {data data' : CreateIssuerStateData} {arm : Arm CreateIssuerStep}

theorem stage_growth (stage : CreateStage ran step data)
    (stage' : CreateStage (Function.update ran step (some visit)) next data')
    (extended : Extends (.create data) (.create data')) (known : createIssuerArm step = some arm)
    (follows : arm.nextStep = some next) : Growth visit.create step data data' := by
  rcases extended with ⟨url, identifier, keyIds, _, _, _⟩
  cases stage with
  | allocateDid =>
      cases known
      cases stage' with
      | generateKeys allocated =>
          rcases allocated with ⟨found, recorded, answered⟩
          rw [Function.update_self] at recorded
          cases recorded
          exact .allocated _ _ answered
      | _ => exact absurd follows (by decide)
  | generateKeys _ =>
      cases known
      cases stage' with
      | buildInitialDidlog _ _ =>
          simp only [Option.some.injEq, forall_eq'] at url identifier
          rw [url, identifier]
          exact .generated _ _
      | _ => exact absurd follows (by decide)
  | buildInitialDidlog _ _ =>
      cases known
      cases stage' with
      | publishDidlog _ _ =>
          simp only [Option.some.injEq, forall_eq'] at url identifier keyIds
          rw [url, identifier, keyIds]
          exact .built _
      | _ => exact absurd follows (by decide)
  | publishDidlog _ _ =>
      cases known
      cases stage' with
      | persistIssuer _ _ =>
          simp only [Option.some.injEq, forall_eq'] at url identifier keyIds
          rw [url, identifier, keyIds]
          exact .published _
      | _ => exact absurd follows (by decide)
  | persistIssuer _ _ =>
      cases known
      cases stage' with
      | createStatusListEntry _ _ =>
          simp only [Option.some.injEq, forall_eq'] at url identifier keyIds
          rw [url, identifier, keyIds]
          exact .persisted _
      | _ => exact absurd follows (by decide)
  | createStatusListEntry _ _ =>
      cases known
      cases stage' with
      | provisionStatusList _ _ registered =>
          rcases registered with ⟨found, recorded, answered⟩
          rw [Function.update_self] at recorded
          cases recorded
          simp only [Option.some.injEq, forall_eq'] at url identifier keyIds
          rw [url, identifier, keyIds]
          exact .registered _ _ answered
      | _ => exact absurd follows (by decide)
  | provisionStatusList _ _ _ =>
      cases known
      cases follows

end Stages

section Journal

variable {ext : Externals} {genesis : GenesisCore} {journal after : Journal} {id : TaskId}
  {task row : OperationTask} {data : CreateIssuerStateData}

theorem Creates.ready (sound : Resume.Sound ext genesis journal)
    (creates : Creates ext journal id task data) : ∃ input, journal.asked id = some (.create input) ∧
      Ready ext (journal.ran id) task (.create input) (.create data) := by
  rcases sound.ready id task creates.found with ⟨input, held, asked, ready⟩
  have kind := ready.cases
  cases kind with
  | create input state saga _ read _ =>
      cases creates.read.symm.trans read
      exact ⟨input, asked, ready⟩
  | deactivate _ _ saga _ _ _ | rotate _ _ saga _ _ _ =>
      rw [creates.saga] at saga
      cases saga

theorem Creates.stage (sound : Resume.Sound ext genesis journal)
    (creates : Creates ext journal id task data) :
    CreateStage (journal.ran id) (stepName task) data := by
  rcases creates.ready sound with ⟨_, _, ready⟩
  exact ready.stage

theorem Creates.unique {other : CreateIssuerStateData} (creates : Creates ext journal id task data)
    (also : Creates ext journal id row other) : task = row ∧ data = other := by
  cases creates.found.symm.trans also.found
  cases creates.read.symm.trans also.read
  exact ⟨rfl, rfl⟩

/-- Only the recording statement changes a row that the table has, and its request stays. -/
theorem sameRequest_move (sound : Resume.Sound ext genesis journal)
    (move : Resume.Move ext genesis journal after) (found : journal.tasks id = some task)
    (there : after.tasks id = some row) : SameRequest task row := by
  cases move with
  | tenants | issuers | stepped | released =>
      cases found.symm.trans there
      exact ⟨rfl, rfl, rfl, rfl, rfl, rfl⟩
  | submitted other _ _ absent _ _ _ =>
      rcases update_some_cases there with ⟨rfl, rfl⟩ | ⟨_, kept⟩
      · rw [absent] at found
        cases found
      · cases found.symm.trans kept
        exact ⟨rfl, rfl, rfl, rfl, rfl, rfl⟩
  | acquired other attempts now _ stored =>
      rcases update_some_cases there with ⟨rfl, rfl⟩ | ⟨_, kept⟩
      · cases found.symm.trans stored
        exact ⟨rfl, rfl, rfl, rfl, rfl, rfl⟩
      · cases found.symm.trans kept
        exact ⟨rfl, rfl, rfl, rfl, rfl, rfl⟩
  | recorded other written _ _ _ held rewritten =>
      rw [note_tasks] at there
      rcases update_some_cases there with ⟨rfl, rfl⟩ | ⟨_, kept⟩
      · have stored := (sound.held other (by rw [held]; rfl)).1
        rw [rewritten.fixed.id] at found
        cases found.symm.trans stored
        exact rewritten.fixed
      · cases found.symm.trans kept
        exact ⟨rfl, rfl, rfl, rfl, rfl, rfl⟩

theorem Creates.move (sound : Resume.Sound ext genesis journal)
    (move : Resume.Move ext genesis journal after) (creates : Creates ext journal id task data) :
    ∃ row data', Creates ext after id row data' ∧ SameRequest task row ∧
      Extends (.create data) (.create data') := by
  rcases creates.ready sound with ⟨input, asked, ready⟩
  rcases ready_move sound move creates.found asked ready with
    ⟨row, held, there, _, ready', kept⟩
  have saga := kept.taskType.trans creates.saga
  have kind := ready'.cases
  cases kind with
  | create _ state _ _ read _ =>
      exact ⟨row, state, ⟨there, saga, read⟩, sameRequest_move sound move creates.found there,
        kept.data⟩

theorem request_of_sameSaga (same : SameSaga task row) : SameRequest task row :=
  ⟨same.id, same.tenantId, same.taskType, same.input, same.resultIssuerId, same.createdAt⟩

theorem Creates.transfer (creates : Creates ext after id row data) (same : SameSaga task row)
    (found : journal.tasks id = some task) : Creates ext journal id task data :=
  ⟨found, same.taskType ▸ creates.saga, same.stateData ▸ creates.read⟩

theorem submitted_row {request : OperationTask} {input : SagaInput}
    (absent : journal.tasks id = none)
    (found : (journal.submit request input).tasks id = some row) : id = request.id ∧ row = request := by
  rcases update_some_cases found with added | ⟨_, kept⟩
  · exact added
  · rw [absent] at kept
    cases kept

theorem putTask_absent {stored written : OperationTask} {worker : Dispatch}
    (there : journal.tasks written.id = some stored) (absent : journal.tasks id = none) :
    (journal.putTask written worker).tasks id = none := by
  have different : id ≠ written.id := by
    intro same
    rw [same, there] at absent
    cases absent
  exact (Function.update_of_ne different ..).trans absent

/-- A task that a request adds waits for the worker, and a creation has the issuer id that was
drawn for it. -/
theorem added_row {event : Resume.Event} (sound : Resume.Sound ext genesis journal)
    (taken : journal.step ext genesis event = some after) (absent : journal.tasks id = none)
    (found : after.tasks id = some row) : row.state = .pending ∧
      (row.taskType = .createIssuer → ∃ tenantId issuerId description displayName now,
        event = .createIssuer id tenantId issuerId description displayName now ∧
          row.resultIssuerId = some issuerId) := by
  have stays : after.tasks id ≠ none := by
    rw [found]
    exact Option.some_ne_none row
  cases event with
  | putTenant | crash =>
      cases taken
      exact absurd absent stays
  | putIssuer issuer =>
      simp only [Journal.step] at taken
      split at taken
      · cases taken
        exact absurd absent stays
      · cases taken
  | createIssuer _ _ _ _ _ _ =>
      simp only [Journal.step] at taken
      split at taken
      · cases taken
        rcases submitted_row absent found with ⟨rfl, rfl⟩
        exact ⟨rfl, fun _ => ⟨_, _, _, _, _, rfl, rfl⟩⟩
      · cases taken
  | deactivateIssuer _ _ _ _ =>
      simp only [Journal.step] at taken
      split at taken
      · cases taken
        rcases submitted_row absent found with ⟨rfl, rfl⟩
        exact ⟨rfl, fun saga => absurd saga (by simp [newTask, RequestKind.taskType])⟩
      · cases taken
  | rotateKeys _ _ _ _ _ =>
      simp only [Journal.step] at taken
      split at taken
      · split at taken
        · cases taken
          rcases submitted_row absent found with ⟨rfl, rfl⟩
          exact ⟨rfl, fun saga => absurd saga (by simp [newTask, RequestKind.taskType])⟩
        · cases taken
      · cases taken
  | acquire =>
      rcases acquire_cases sound taken with rfl | ⟨task, attempts, _, stored, rfl⟩
      · exact absurd absent stays
      · exact (stays (putTask_absent stored absent)).elim
  | perform =>
      rcases perform_cases taken with rfl | ⟨_, _, _, _, _, _, rfl⟩ <;> exact absurd absent stays
  | record =>
      rcases record_cases sound taken with
        rfl | ⟨task, written, nextStep, outcome, visit, held, rewritten, rfl⟩
      · exact absurd absent stays
      · rcases sound.held task (by rw [held]; rfl) with ⟨stored, _⟩
        rw [note_tasks] at stays
        exact absurd (putTask_absent (rewritten.fixed.id.symm ▸ stored) absent) stays

theorem fresh_stage {step : String} (stage : CreateStage (fun _ => none) step data) :
    data = ⟨none, none, none, false, none, none⟩ := by
  cases stage with
  | allocateDid => rfl
  | generateKeys allocated | buildInitialDidlog allocated _ | publishDidlog allocated _
  | persistIssuer allocated _ | createStatusListEntry allocated _
  | provisionStatusList allocated _ _ =>
      rcases allocated with ⟨_, recorded, _⟩
      cases recorded

/-- The data that a recorded success leaves is what the step adds. -/
theorem recorded_growth (sound : Resume.Sound ext genesis journal) {next : String}
    {result : StepResult} {visit : Visit} {now : DateTime}
    (held : journal.worker = .stepped task (some next) (.done result) visit)
    (creates : Creates ext after id (task.advanceStep (some next)
      (OperationTask.mergeStateData task.stateData result.stateDataPatch) now) data) :
    ∃ before, Creates ext journal task.id task before ∧
      Growth visit.create (stepName task) before data := by
  have stored := (sound.held task (by rw [held]; rfl)).1
  rcases sound.pending _ _ _ _ held with ⟨deed, executed, answered⟩
  rcases sound.ready _ _ stored with ⟨input, old, _, ready⟩
  rcases ready.advance executed answered now with ⟨new, ready', extended⟩
  have saga : task.taskType = .createIssuer := creates.saga
  have kind := ready.cases
  cases kind with
  | create _ before _ _ read stage =>
      have kind' := ready'.cases
      cases kind' with
      | create _ _ _ _ read' stage' =>
          cases creates.read.symm.trans read'
          refine ⟨before, ⟨stored, saga, read⟩, ?_⟩
          simp only [executeVisit, saga] at executed
          rcases Saga.execute_ok _ executed with ⟨_, _, _, arm, _, _, _, known, _, follows, _⟩
          have place : createIssuerArm (stepName task) = some arm := by
            rw [Resume.stepName, saga]
            exact known
          exact stage_growth stage stage' extended place follows.symm
  | deactivate _ _ saga' _ _ _ | rotate _ _ saga' _ _ _ =>
      rw [saga] at saga'
      cases saga'

theorem Creates.origin {event : Resume.Event} (sound : Resume.Sound ext genesis journal)
    (taken : journal.step ext genesis event = some after) (creates : Creates ext after id row data) :
    Origin ext journal after id row data := by
  have same : SameRequest row row := ⟨rfl, rfl, rfl, rfl, rfl, rfl⟩
  have added := fun absent => (added_row sound taken absent creates.found).1
  rcases creates with ⟨found, saga, read⟩
  cases moves sound taken with
  | tenants | issuers | stepped | released =>
      exact .kept row ⟨found, saga, read⟩ same fun completed => completed
  | submitted task input held absent _ _ ready =>
      rcases update_some_cases found with ⟨rfl, rfl⟩ | ⟨_, kept⟩
      · have kind := ready.cases
        refine .fresh absent ?_ (by rw [added absent]; decide)
        cases kind with
        | create _ state _ _ stored stage =>
            cases read.symm.trans stored
            exact fresh_stage stage
        | deactivate _ _ other _ _ _ | rotate _ _ other _ _ _ =>
            rw [saga] at other
            cases other
      · exact .kept row ⟨kept, saga, read⟩ same fun completed => completed
  | acquired task attempts now _ stored =>
      rcases update_some_cases found with ⟨rfl, rfl⟩ | ⟨_, kept⟩
      · refine .kept task ⟨stored, saga, read⟩ ⟨rfl, rfl, rfl, rfl, rfl, rfl⟩ ?_
        intro completed
        cases completed
      · exact .kept row ⟨kept, saga, read⟩ same fun completed => completed
  | recorded task written nextStep outcome visit held rewritten =>
      rcases sound.held task (by rw [held]; rfl) with ⟨stored, running⟩
      have present := found
      rw [note_tasks] at found
      rcases update_some_cases found with ⟨rfl, rfl⟩ | ⟨_, kept⟩
      · have keyed := rewritten.fixed.id
        rw [← keyed] at stored
        cases rewritten with
        | completed _ done last _ same =>
            cases outcome with
            | done result =>
                rw [last] at held
                exact .finished task result visit held (note_worker ..) keyed.symm
                  (Creates.transfer ⟨present, saga, read⟩ same stored) (request_of_sameSaga same)
            | _ => cases done
        | advanced result next now done follows =>
            rw [done, follows] at held
            rcases recorded_growth sound held ⟨present, saga, read⟩ with ⟨before, creates, growth⟩
            refine .advanced task before next result visit held (note_worker ..) rfl creates growth
              ⟨rfl, rfl, rfl, rfl, rfl, rfl⟩ ?_
            intro completed
            cases running.symm.trans completed
        | delayed _ fails unchanged same =>
            exact .kept task (Creates.transfer ⟨present, saga, read⟩ same stored) (request_of_sameSaga same)
              fun completed => unchanged.symm.trans completed
        | failed _ fails terminal same =>
            refine .kept task (Creates.transfer ⟨present, saga, read⟩ same stored) (request_of_sameSaga same) ?_
            intro completed
            rw [terminal] at completed
            cases completed
      · exact .kept row ⟨kept, saga, read⟩ same fun completed => completed

end Journal

end SwiyuIssuer.Creation
