import SwiyuIssuer.Resume.Journal
import SwiyuIssuer.Resume.Ready
import SwiyuIssuer.Saga.RotationRequest

/-! Every row of every run is ready for its next step. -/

namespace SwiyuIssuer.Resume

open Library Persistence Worker Saga

section Runs

variable {ext : Externals} {genesis : GenesisCore} {journal after : Journal}

/-- What every state of a run has: the worker's aggregate is the row, each row is ready for its
next step, and the rows it refers to stand. -/
structure Sound (ext : Externals) (genesis : GenesisCore) (journal : Journal) : Prop where
  keyed : ∀ id task, journal.tasks id = some task → task.id = id
  held : ∀ task, journal.worker.task = some task →
    journal.tasks task.id = some task ∧ task.state = .inProgress
  pending : ∀ task nextStep outcome visit,
    journal.worker = .stepped task nextStep outcome visit →
    ∃ deed, executeVisit ext genesis task visit = .ok (nextStep, deed) ∧ deed.outcome = outcome
  ready : ∀ id task, journal.tasks id = some task →
    ∃ input data, journal.asked id = some input ∧ Ready ext (journal.ran id) task input data
  tenant : ∀ id task, journal.tasks id = some task →
    (journal.tenants task.tenantId).isSome = true
  issuer : ∀ id task, journal.tasks id = some task → task.taskType ≠ .createIssuer →
    (task.resultIssuerId.bind (journal.findIssuer task.tenantId)).isSome = true

theorem sound_initial (initial : journal.Initial) : Sound ext genesis journal where
  keyed := by
    intro id task found
    rw [initial.empty] at found
    cases found
  held := by
    intro task held
    rw [initial.idle] at held
    cases held
  pending := by
    intro task nextStep outcome visit held
    rw [initial.idle] at held
    cases held
  ready := by
    intro id task found
    rw [initial.empty] at found
    cases found
  tenant := by
    intro id task found
    rw [initial.empty] at found
    cases found
  issuer := by
    intro id task found
    rw [initial.empty] at found
    cases found

inductive Move (ext : Externals) (genesis : GenesisCore) (journal : Journal) : Journal → Prop
  | tenants (tenants : TenantId → Option Tenant) :
      (∀ id, (journal.tenants id).isSome = true → (tenants id).isSome = true) →
      Move ext genesis journal { journal with tenants := tenants }
  | issuers (issuers : IssuerId → Option Issuer) :
      (∀ tenantId id, (journal.findIssuer tenantId id).isSome = true →
        ((issuers id).filter fun issuer => issuer.tenantId == tenantId).isSome = true) →
      Move ext genesis journal { journal with issuers := issuers }
  | submitted (task : OperationTask) (input : SagaInput) (data : SagaData) :
      journal.tasks task.id = none → (journal.tenants task.tenantId).isSome = true →
      (task.taskType ≠ .createIssuer →
        (task.resultIssuerId.bind (journal.findIssuer task.tenantId)).isSome = true) →
      Ready ext (fun _ => none) task input data → Move ext genesis journal (journal.submit task input)
  | acquired (task : OperationTask) (attempts : Nat) (now : DateTime) :
      journal.worker = .idle → journal.tasks task.id = some task →
      Move ext genesis journal
        (journal.putTask (task.claimed attempts now) (.acquired (task.claimed attempts now)))
  | stepped (task : OperationTask) (visit : Visit) (nextStep : Option String) (deed : Deed) :
      journal.worker = .acquired task → journal.answers task visit.loads = true →
      executeVisit ext genesis task visit = .ok (nextStep, deed) →
      Move ext genesis journal
        { journal with worker := .stepped task nextStep deed.outcome visit }
  | recorded (task row : OperationTask) (nextStep : Option String) (outcome : StepOutcome)
      (visit : Visit) : journal.worker = .stepped task nextStep outcome visit →
      Rewritten task nextStep outcome row →
      Move ext genesis journal ((journal.putTask row .idle).note task outcome visit)
  | released : Move ext genesis journal journal.release

theorem newCreateTask_ready (id : TaskId) (tenantId : TenantId) (issuerId : IssuerId)
    (description displayName : String) (now : DateTime) :
    Ready ext (fun _ => none) (newCreateTask id tenantId issuerId description displayName now)
      (.create ⟨description, displayName⟩)
      (.create ⟨none, none, none, false, none, none⟩) where
  named := rfl
  inputRead := rfl
  object := ⟨_, rfl⟩
  dataRead := rfl
  stage := .allocateDid

theorem newTask_ready_deactivate (tenantId : TenantId) (issuerId : IssuerId) (id : TaskId)
    (now : DateTime) :
    Ready ext (fun _ => none) (newTask ⟨tenantId, issuerId, .deactivate⟩ id now) (.deactivate {})
      (.deactivate ⟨false⟩) where
  named := rfl
  inputRead := rfl
  object := ⟨_, rfl⟩
  dataRead := rfl
  stage := .buildDeactivationDidlog

theorem foldl_distinct (roles : List KeyRole) {front : List KeyRole} (distinct : front.Nodup) :
    (roles.foldl (fun out role => if out.contains role then out else out ++ [role]) front).Nodup ∧
      (front ≠ [] → roles.foldl (fun out role => if out.contains role then out else out ++ [role])
        front ≠ []) := by
  induction roles generalizing front with
  | nil => exact ⟨distinct, id⟩
  | cons role roles ih =>
      rw [List.foldl_cons]
      split
      · exact ih distinct
      · next absent =>
          rw [List.contains_iff_mem] at absent
          have longer : (front ++ [role]).Nodup := by
            rw [List.nodup_append]
            refine ⟨distinct, by simp, ?_⟩
            rintro first present last one rfl
            exact absent (List.mem_singleton.mp one ▸ present)
          exact ⟨(ih longer).1, fun _ => (ih longer).2 (by simp)⟩

theorem wireRoles_ok {value : Json} {roles : List KeyRole} (read : wireRoles value = .ok roles) :
    roles ≠ [] ∧ roles.Nodup := by
  rcases Answers.bind_ok.mp read with ⟨raw, _, read⟩
  split at read
  · cases read
  · next nonempty =>
      split at read
      · split at read
        · cases read
        · cases read
          exact ⟨by simp, by decide⟩
      · rcases Answers.map_ok.mp read with ⟨named, parsed, rfl⟩
        cases raw with
        | nil => exact absurd rfl nonempty
        | cons name raw =>
            rw [List.mapM_cons] at parsed
            rcases Answers.bind_ok.mp parsed with ⟨role, _, parsed⟩
            rcases Answers.bind_ok.mp parsed with ⟨rest, _, made⟩
            cases made
            have distinct := foldl_distinct rest (show [role].Nodup by simp)
            exact ⟨distinct.2 (by simp), distinct.1⟩

/-- What a rotation stores is the input that its body decodes to. -/
theorem newTask_ready_rotate {body : Json} {input : RotateKeysInput}
    (decoded : RotateKeysInput.decode body = .ok input) (tenantId : TenantId) (issuerId : IssuerId)
    (id : TaskId) (now : DateTime) :
    Ready ext (fun _ => none) (newTask ⟨tenantId, issuerId, .rotate input⟩ id now) (.rotate input)
      (.rotate ⟨none, false⟩) where
  named := rfl
  inputRead := by
    rcases Answers.bind_ok.mp decoded with ⟨fields, _, required⟩
    rcases Answers.bind_ok.mp required with ⟨roles, found, made⟩
    cases made
    have wired : roles ≠ [] ∧ roles.Nodup := by
      unfold JsonMap.required at found
      split at found
      · exact wireRoles_ok found
      · cases found
    exact congrArg (Except.map SagaInput.rotate) (decode_rotate_input wired.1 wired.2)
  object := ⟨_, rfl⟩
  dataRead := rfl
  stage := .generateNewKeys

theorem accepts_ok {id : TaskId} {tenantId : TenantId} (accepted : journal.accepts id tenantId = true) :
    journal.tasks id = none ∧ (journal.tenants tenantId).isSome = true := by
  simpa [Journal.accepts] using accepted

theorem acquire_cases {id : TaskId} {now : DateTime} (sound : Sound ext genesis journal)
    (taken : journal.step ext genesis (.acquire id now) = some after) :
    after = journal ∨ ∃ task attempts, journal.worker = .idle ∧
      journal.tasks task.id = some task ∧
      after = journal.putTask (task.claimed attempts now) (.acquired (task.claimed attempts now)) := by
  simp only [Journal.step] at taken
  split at taken
  · next task idle found =>
      split at taken
      · split at taken
        · next acquired claims =>
            cases taken
            have persisted := OperationTask.setAcquired_tryAcquire claims
            rcases OperationTask.tryAcquire_ok claims with ⟨_, attempts, rfl⟩
            rw [persisted]
            exact .inr ⟨task, attempts, idle, sound.keyed id task found ▸ found, rfl⟩
        · cases taken
          exact .inl rfl
      · cases taken
  · cases taken

/-- A visit gives its task back, or leaves what its step answered with the worker. -/
theorem perform_cases {visit : Visit}
    (taken : journal.step ext genesis (.perform visit) = some after) :
    after = journal.release ∨ ∃ task nextStep deed, journal.worker = .acquired task ∧
      journal.answers task visit.loads = true ∧
      executeVisit ext genesis task visit = .ok (nextStep, deed) ∧
      after = { journal with worker := .stepped task nextStep deed.outcome visit } := by
  simp only [Journal.step] at taken
  split at taken
  · next task held =>
      split at taken
      · next agree =>
          split at taken
          · cases taken
            exact .inl rfl
          · next nextStep deed executed =>
              cases taken
              exact .inr ⟨task, nextStep, deed, held, agree, executed, rfl⟩
      · cases taken
  · cases taken

theorem record_cases {now : DateTime} {word : UInt64} (sound : Sound ext genesis journal)
    (taken : journal.step ext genesis (.record now word) = some after) :
    after = journal.release ∨ ∃ task row nextStep outcome visit,
      journal.worker = .stepped task nextStep outcome visit ∧
      Rewritten task nextStep outcome row ∧
      after = (journal.putTask row .idle).note task outcome visit := by
  simp only [Journal.step] at taken
  split at taken
  · next task nextStep outcome visit held =>
      rcases sound.held task (by rw [held]; rfl) with ⟨stored, running⟩
      split at taken
      · next write row finished present =>
          cases taken
          rw [stored] at present
          cases present
          exact .inr ⟨task, _, nextStep, outcome, visit, held,
            rewritten_of_finish running finished, rfl⟩
      · cases taken
        exact .inl rfl
  · cases taken

theorem moves (sound : Sound ext genesis journal) {event : Event}
    (taken : journal.step ext genesis event = some after) : Move ext genesis journal after := by
  cases event with
  | putTenant tenant =>
      cases taken
      apply Move.tenants
      intro id present
      by_cases same : id = tenant.id
      · rw [same, Function.update_self]
        rfl
      · rw [Function.update_of_ne same]
        exact present
  | putIssuer issuer =>
      simp only [Journal.step] at taken
      split at taken
      · next owned =>
          cases taken
          apply Move.issuers
          intro tenantId id present
          by_cases same : id = issuer.id
          · subst same
            rcases Option.isSome_iff_exists.mp present with ⟨row, found⟩
            rcases Option.filter_eq_some_iff.mp found with ⟨stored, own⟩
            rw [stored] at owned
            simp only [Option.all_some, beq_iff_eq] at owned own
            rw [Function.update_self]
            simp [← owned, own]
          · rw [Function.update_of_ne same]
            exact present
      · cases taken
  | createIssuer id tenantId issuerId description displayName now =>
      simp only [Journal.step] at taken
      split at taken
      · next accepted =>
          cases taken
          rcases accepts_ok accepted with ⟨absent, there⟩
          exact .submitted _ _ _ absent there (fun other => absurd rfl other)
            (newCreateTask_ready ..)
      · cases taken
  | deactivateIssuer id tenantId issuerId now =>
      simp only [Journal.step] at taken
      split at taken
      · next accepted =>
          cases taken
          rw [Bool.and_eq_true] at accepted
          rcases accepts_ok accepted.1 with ⟨absent, there⟩
          exact .submitted _ _ _ absent there (fun _ => accepted.2) (newTask_ready_deactivate ..)
      · cases taken
  | rotateKeys id tenantId issuerId body now =>
      simp only [Journal.step] at taken
      split at taken
      · next input decoded =>
          split at taken
          · next accepted =>
              cases taken
              rw [Bool.and_eq_true] at accepted
              rcases accepts_ok accepted.1 with ⟨absent, there⟩
              exact .submitted _ _ _ absent there (fun _ => accepted.2)
                (newTask_ready_rotate decoded ..)
          · cases taken
      · cases taken
  | acquire id now =>
      rcases acquire_cases sound taken with rfl | ⟨task, attempts, idle, stored, rfl⟩
      · exact .tenants after.tenants fun _ present => present
      · exact .acquired task attempts now idle stored
  | perform visit =>
      rcases perform_cases taken with rfl | ⟨task, nextStep, deed, held, agree, executed, rfl⟩
      · exact .released
      · exact .stepped task visit nextStep deed held agree executed
  | record now word =>
      rcases record_cases sound taken with
        rfl | ⟨task, row, nextStep, outcome, visit, held, rewritten, rfl⟩
      · exact .released
      · exact .recorded task row nextStep outcome visit held rewritten
  | crash =>
      cases taken
      exact .released

theorem Ready.claimed {ran : String → Option Visit} {task : OperationTask} {input : SagaInput}
    {data : SagaData} (ready : Ready ext ran task input data) (attempts : Nat) (now : DateTime) :
    Ready ext ran (task.claimed attempts now) input data :=
  ready.transfer ⟨rfl, rfl, rfl, rfl, rfl, rfl, rfl, rfl⟩

/-- A stage speaks of the executions before its step only. -/
theorem Ready.rerun {ran : String → Option Visit} {task : OperationTask} {input : SagaInput}
    {data : SagaData} (ready : Ready ext ran task input data) (visit : Visit) :
    Ready ext (Function.update ran (stepName task) (some visit)) task input data := by
  rcases ready with ⟨named, inputRead, object, dataRead, stage⟩
  refine ⟨named, inputRead, object, dataRead, ?_⟩
  cases input with
  | create input =>
      cases data with
      | create state =>
          simp only [Stage] at stage ⊢
          generalize stepName task = step at stage ⊢
          cases stage with
          | allocateDid => exact .allocateDid
          | generateKeys a => exact .generateKeys (a.keep (by decide))
          | buildInitialDidlog a g =>
              exact .buildInitialDidlog (a.keep (by decide)) (g.keep (by decide))
          | publishDidlog a g => exact .publishDidlog (a.keep (by decide)) (g.keep (by decide))
          | persistIssuer a g => exact .persistIssuer (a.keep (by decide)) (g.keep (by decide))
          | createStatusListEntry a g =>
              exact .createStatusListEntry (a.keep (by decide)) (g.keep (by decide))
          | provisionStatusList a g r =>
              exact .provisionStatusList (a.keep (by decide)) (g.keep (by decide))
                (r.keep (by decide))
      | deactivate | rotate => exact stage.elim
  | deactivate input =>
      cases data with
      | deactivate state => exact stage
      | create | rotate => exact stage.elim
  | rotate input =>
      cases data with
      | rotate state =>
          simp only [Stage] at stage ⊢
          generalize stepName task = step at stage ⊢
          cases stage with
          | generateNewKeys => exact .generateNewKeys
          | buildRotationDidlog f => exact .buildRotationDidlog (f.keep (by decide))
          | publishDidlog f => exact .publishDidlog (f.keep (by decide))
          | swapKeys f => exact .swapKeys (f.keep (by decide))
      | create | deactivate => exact stage.elim

@[simp] theorem note_tasks (task : OperationTask) (outcome : StepOutcome) (visit : Visit) :
    (journal.note task outcome visit).tasks = journal.tasks := by
  unfold Journal.note
  split <;> rfl

@[simp] theorem note_asked (task : OperationTask) (outcome : StepOutcome) (visit : Visit) :
    (journal.note task outcome visit).asked = journal.asked := by
  unfold Journal.note
  split <;> rfl

@[simp] theorem note_worker (task : OperationTask) (outcome : StepOutcome) (visit : Visit) :
    (journal.note task outcome visit).worker = journal.worker := by
  unfold Journal.note
  split <;> rfl

@[simp] theorem note_tenants (task : OperationTask) (outcome : StepOutcome) (visit : Visit) :
    (journal.note task outcome visit).tenants = journal.tenants := by
  unfold Journal.note
  split <;> rfl

@[simp] theorem note_issuers (task : OperationTask) (outcome : StepOutcome) (visit : Visit) :
    (journal.note task outcome visit).issuers = journal.issuers := by
  unfold Journal.note
  split <;> rfl

theorem note_done {task : OperationTask} {outcome : StepOutcome} (done : outcome.isDone = true)
    (visit : Visit) : (journal.note task outcome visit).ran task.id =
      Function.update (journal.ran task.id) (stepName task) (some visit) := by
  rw [Journal.note, if_pos done]
  exact Function.update_self ..

theorem note_fails {task : OperationTask} {outcome : StepOutcome} (fails : outcome.isDone = false)
    (visit : Visit) : journal.note task outcome visit = journal := by
  rw [Journal.note, if_neg (by rw [fails]; decide)]

theorem note_other {task : OperationTask} {id : TaskId} (other : id ≠ task.id)
    (outcome : StepOutcome) (visit : Visit) :
    (journal.note task outcome visit).ran id = journal.ran id := by
  unfold Journal.note
  split
  · exact Function.update_of_ne other ..
  · rfl

/-- What an event leaves of a row and of its accumulated state. -/
structure Kept (task row : OperationTask) (data data' : SagaData) : Prop where
  id : row.id = task.id
  tenantId : row.tenantId = task.tenantId
  taskType : row.taskType = task.taskType
  resultIssuerId : row.resultIssuerId = task.resultIssuerId
  data : Extends data data'

theorem ready_move (sound : Sound ext genesis journal) (move : Move ext genesis journal after)
    {id : TaskId} {task : OperationTask} {input : SagaInput} {data : SagaData}
    (found : journal.tasks id = some task) (asked : journal.asked id = some input)
    (ready : Ready ext (journal.ran id) task input data) :
    ∃ row data', after.tasks id = some row ∧ after.asked id = some input ∧
      Ready ext (after.ran id) row input data' ∧ Kept task row data data' := by
  have same : Kept task task data data := ⟨rfl, rfl, rfl, rfl, Extends.refl data⟩
  cases move with
  | tenants | issuers | stepped | released => exact ⟨task, data, found, asked, ready, same⟩
  | submitted other asked' data' absent _ _ _ =>
      have different : id ≠ other.id := by
        rintro rfl
        rw [found] at absent
        cases absent
      refine ⟨task, data, ?_, ?_, ?_, same⟩
      · simp only [Journal.submit, Function.update_of_ne different, found]
      · simp only [Journal.submit, Function.update_of_ne different, asked]
      · simpa only [Journal.submit, Function.update_of_ne different] using ready
  | acquired other attempts now idle stored =>
      by_cases place : id = other.id
      · subst place
        cases found.symm.trans stored
        exact ⟨_, data, Function.update_self .., asked, ready.claimed attempts now,
          ⟨rfl, rfl, rfl, rfl, Extends.refl data⟩⟩
      · exact ⟨task, data, (Function.update_of_ne place ..).trans found, asked, ready, same⟩
  | recorded other row nextStep outcome visit held rewritten =>
      have stored := (sound.held other (by rw [held]; rfl)).1
      have keyed := rewritten.fixed.id
      have asks : ((journal.putTask row .idle).note other outcome visit).asked id = some input :=
        (congrFun (note_asked ..) id).trans asked
      by_cases place : id = other.id
      · subst place
        cases found.symm.trans stored
        have written : ((journal.putTask row .idle).note task outcome visit).tasks task.id =
            some row := by
          rw [note_tasks, ← keyed]
          exact Function.update_self ..
        have fixed := rewritten.fixed
        cases rewritten with
        | completed _ done _ _ driven =>
            refine ⟨row, data, written, asks, ?_, fixed.id, fixed.tenantId, fixed.taskType,
              fixed.resultIssuerId, Extends.refl data⟩
            rw [note_done done]
            exact (ready.rerun visit).transfer driven
        | advanced result next now done follows =>
            rcases sound.pending _ _ _ _ held with ⟨deed, executed, answered⟩
            rw [follows] at executed
            rcases ready.advance executed (answered.trans done) now with ⟨data', ready', kept⟩
            refine ⟨_, data', written, asks, ?_, fixed.id, fixed.tenantId, fixed.taskType,
              fixed.resultIssuerId, kept⟩
            rw [note_done (by rw [done]; rfl)]
            exact ready'
        | delayed _ fails _ driven | failed _ fails _ driven =>
            refine ⟨row, data, written, asks, ?_, fixed.id, fixed.tenantId, fixed.taskType,
              fixed.resultIssuerId, Extends.refl data⟩
            rw [note_fails fails]
            exact ready.transfer driven
      · refine ⟨task, data, ?_, asks, ?_, same⟩
        · rw [note_tasks]
          exact (Function.update_of_ne (by rw [keyed]; exact place) ..).trans found
        · rw [note_other place]
          exact ready

theorem tenants_move (move : Move ext genesis journal after) {id : TenantId}
    (there : (journal.tenants id).isSome = true) : (after.tenants id).isSome = true := by
  cases move with
  | tenants _ kept => exact kept id there
  | recorded =>
      rw [note_tenants]
      exact there
  | issuers | submitted | acquired | stepped | released => exact there

theorem issuers_move (move : Move ext genesis journal after) {tenantId : TenantId} {id : IssuerId}
    (there : (journal.findIssuer tenantId id).isSome = true) :
    (after.findIssuer tenantId id).isSome = true := by
  cases move with
  | issuers _ kept => exact kept tenantId id there
  | recorded =>
      rw [Journal.findIssuer, note_issuers]
      exact there
  | tenants | submitted | acquired | stepped | released => exact there

/-- A row after an event is one that was there before, or the one of a new request. -/
theorem rows_move (sound : Sound ext genesis journal) (move : Move ext genesis journal after)
    {id : TaskId} {row : OperationTask} (found : after.tasks id = some row) :
    (∃ task, journal.tasks id = some task) ∨ ∃ input data, row.id = id ∧
      after.asked id = some input ∧ Ready ext (after.ran id) row input data ∧
      (journal.tenants row.tenantId).isSome = true ∧ (row.taskType ≠ .createIssuer →
        (row.resultIssuerId.bind (journal.findIssuer row.tenantId)).isSome = true) := by
  cases move with
  | tenants | issuers | stepped | released => exact .inl ⟨row, found⟩
  | submitted task input data absent tenantThere issuerThere ready =>
      rcases update_some_cases found with ⟨rfl, rfl⟩ | ⟨_, other⟩
      · refine .inr ⟨input, data, rfl, Function.update_self .., ?_, tenantThere, issuerThere⟩
        simpa only [Journal.submit, Function.update_self] using ready
      · exact .inl ⟨row, other⟩
  | acquired task attempts now idle stored =>
      rcases update_some_cases found with ⟨rfl, rfl⟩ | ⟨_, other⟩
      · exact .inl ⟨task, stored⟩
      · exact .inl ⟨row, other⟩
  | recorded task written nextStep outcome visit held rewritten =>
      rw [note_tasks] at found
      rcases update_some_cases found with ⟨rfl, rfl⟩ | ⟨_, other⟩
      · rw [rewritten.fixed.id]
        exact .inl ⟨task, (sound.held task (by rw [held]; rfl)).1⟩
      · exact .inl ⟨row, other⟩

/-- What the invariant says of each row of a table of tasks. -/
theorem row_move (sound : Sound ext genesis journal) (move : Move ext genesis journal after)
    {id : TaskId} {row : OperationTask} (found : after.tasks id = some row) :
    ∃ input data, row.id = id ∧ after.asked id = some input ∧
      Ready ext (after.ran id) row input data ∧ (journal.tenants row.tenantId).isSome = true ∧
      (row.taskType ≠ .createIssuer →
        (row.resultIssuerId.bind (journal.findIssuer row.tenantId)).isSome = true) := by
  rcases rows_move sound move found with ⟨task, stored⟩ | fresh
  · rcases sound.ready id task stored with ⟨input, data, asked, ready⟩
    rcases ready_move sound move stored asked ready with ⟨row', data', there, asks, ready', kept⟩
    cases found.symm.trans there
    refine ⟨input, data', kept.id.trans (sound.keyed id task stored), asks, ready', ?_, ?_⟩
    · rw [kept.tenantId]
      exact sound.tenant id task stored
    · rw [kept.taskType, kept.resultIssuerId, kept.tenantId]
      exact sound.issuer id task stored
  · exact fresh

theorem held_move (sound : Sound ext genesis journal) (move : Move ext genesis journal after)
    {task : OperationTask} (held : after.worker.task = some task) :
    after.tasks task.id = some task ∧ task.state = .inProgress := by
  cases move with
  | tenants | issuers => exact sound.held task held
  | submitted other _ _ absent _ _ _ =>
      rcases sound.held task held with ⟨stored, running⟩
      have different : task.id ≠ other.id := by
        intro same
        rw [same, absent] at stored
        cases stored
      exact ⟨(Function.update_of_ne different ..).trans stored, running⟩
  | acquired other attempts now idle stored =>
      cases held
      exact ⟨Function.update_self .., rfl⟩
  | stepped other visit nextStep deed holds _ _ =>
      cases held
      exact sound.held task (by rw [holds]; rfl)
  | recorded =>
      rw [note_worker] at held
      cases held
  | released => cases held

theorem sound_move (sound : Sound ext genesis journal) (move : Move ext genesis journal after) :
    Sound ext genesis after where
  keyed := by
    intro id row found
    rcases row_move sound move found with ⟨_, _, keyed, _⟩
    exact keyed
  held := fun task => held_move sound move
  pending := by
    intro task nextStep outcome visit held
    cases move with
    | tenants | issuers | submitted => exact sound.pending _ _ _ _ held
    | acquired | released => cases held
    | stepped other met next deed _ _ executed =>
        cases held
        exact ⟨deed, executed, rfl⟩
    | recorded =>
        rw [note_worker] at held
        cases held
  ready := by
    intro id row found
    rcases row_move sound move found with ⟨input, data, _, asked, ready, _⟩
    exact ⟨input, data, asked, ready⟩
  tenant := by
    intro id row found
    rcases row_move sound move found with ⟨_, _, _, _, _, there, _⟩
    exact tenants_move move there
  issuer := by
    intro id row found other
    rcases row_move sound move found with ⟨_, _, _, _, _, _, there⟩
    have there := there other
    cases named : row.resultIssuerId with
    | none =>
        rw [named] at there
        cases there
    | some issuerId =>
        rw [named] at there
        exact issuers_move move there

theorem sound_step {event : Event} (sound : Sound ext genesis journal)
    (taken : Steps (Journal.step ext genesis) journal event after) : Sound ext genesis after :=
  sound_move sound (moves sound taken)

/-- The markers of a row along a run. -/
theorem ready_run {first last : Journal} {trace : List Event} (sound : Sound ext genesis first)
    (run : Run (Steps (Journal.step ext genesis)) first trace last) {id : TaskId}
    {task : OperationTask} {input : SagaInput} {data : SagaData}
    (found : first.tasks id = some task) (asked : first.asked id = some input)
    (ready : Ready ext (first.ran id) task input data) :
    ∃ row data', last.tasks id = some row ∧ last.asked id = some input ∧
      Ready ext (last.ran id) row input data' ∧ Extends data data' := by
  induction run generalizing task data with
  | nil => exact ⟨task, data, found, asked, ready, Extends.refl data⟩
  | cons taken _ ih =>
      rcases ready_move sound (moves sound taken) found asked ready with
        ⟨row, data', there, asks, ready', kept⟩
      rcases ih (sound_step sound taken) there asks ready' with
        ⟨row', later, finds, asked', ready'', extended⟩
      exact ⟨row', later, finds, asked', ready'', kept.data.trans extended⟩

theorem answers_standing (sound : Sound ext genesis journal) {id : TaskId} {task : OperationTask}
    (found : journal.tasks id = some task) {loads : Loads}
    (agree : journal.answers task loads = true) : Standing task loads := by
  rw [Journal.answers, Bool.and_eq_true] at agree
  rcases agree with ⟨tenantAgrees, issuerAgrees⟩
  constructor
  · intro answer read
    rw [read, beq_iff_eq] at tenantAgrees
    rw [tenantAgrees]
    exact sound.tenant id task found
  · intro other answer read
    rw [read, beq_iff_eq] at issuerAgrees
    rw [issuerAgrees]
    exact sound.issuer id task found other

/-- Whatever happens to the journal, the row keeps its markers with their values, and a step whose
marker is there is skipped when the row stands at it again. -/
def MarkersStay (ext : Externals) (genesis : GenesisCore) (journal : Journal) (id : TaskId)
    (data : SagaData) : Prop :=
  ∀ trace later, Run (Steps (Journal.step ext genesis)) journal trace later →
    ∃ row data', later.tasks id = some row ∧
      decodeData ext.uuid row.taskType row.stateData = .ok data' ∧ Extends data data' ∧
      ∀ owner, marked data owner = true → ∀ visit nextStep deed,
        executeVisit ext genesis { row with step := some owner } visit = .ok (nextStep, deed) →
          deed.Skipped

theorem markersStay (sound : Sound ext genesis journal) {id : TaskId} {task : OperationTask}
    {input : SagaInput} {data : SagaData} (found : journal.tasks id = some task)
    (asked : journal.asked id = some input) (ready : Ready ext (journal.ran id) task input data) :
    MarkersStay ext genesis journal id data := by
  intro trace later run
  rcases ready_run sound run found asked ready with ⟨row, data', there, _, ready', extended⟩
  refine ⟨row, data', there, ready'.dataRead, extended, ?_⟩
  intro owner left visit nextStep deed executed
  exact executeVisit_skipped ready'.dataRead (extended.marked left) executed

/-- Every row of every run has what its current step needs: the runner knows the step, input and
accumulated state decode, to what the request and the steps before have put there, no execution
ends for a lack of data, and what a step has recorded stays. -/
theorem sagas_have_their_data (ext : Externals) (genesis : GenesisCore) {first last : Journal}
    {trace : List Event} (initial : first.Initial)
    (run : Run (Steps (Journal.step ext genesis)) first trace last) :
    (∀ task, last.worker.task = some task → last.tasks task.id = some task) ∧
    ∀ id task, last.tasks id = some task → ∃ input data,
      last.asked id = some input ∧ Ready ext (last.ran id) task input data ∧
      dispatches task.taskType (stepName task) = true ∧
      (∀ visit, last.answers task visit.loads = true →
        Unbroken (executeVisit ext genesis task visit)) ∧
      MarkersStay ext genesis last id data := by
  have sound : Sound ext genesis last :=
    run.invariant (Sound ext genesis) (fun _ _ _ now taken => sound_step now taken)
      (sound_initial initial)
  constructor
  · intro task held
    exact (sound.held task held).1
  · intro id task found
    rcases sound.ready id task found with ⟨input, data, asked, ready⟩
    refine ⟨input, data, asked, ready, ready.dispatches, ?_, markersStay sound found asked ready⟩
    intro visit agree
    exact ready.unbroken (answers_standing sound found agree)

end Runs

section Sample

/-- The document of a genesis entry where `swiyu_core` puts it, without its keys. -/
def plainEntry (did : String) : Json :=
  .array [.string "", .string "", .object [], .object [("value", .object [("id", .string did)])]]

def plainReplace (scid did : String) : String :=
  match "did:tdw:\x7bSCID\x7d".toList.isPrefixOf? did.toList with
  | some rest => "did:tdw:" ++ scid ++ String.ofList rest
  | none => did

def plainGenesis : GenesisCore where
  tryNewTdw domain path := .ok ("did:tdw:\x7bSCID\x7d:" ++ domain ++ ":" ++ path.getD "")
  newGenesis _ did _ _ _ := plainEntry did
  stripProofSlot entry := entry
  deriveScid _ := "Qm"
  withScid scid entry :=
    match documentId entry with
    | .ok did => plainEntry (plainReplace scid did)
    | .error _ => entry
  deriveEntryHash _ := "Qn"
  setVersionId entry _ := entry
  appendProof entry _ _ _ _ := entry

def sampleJournal : Journal where
  tenants id := some ⟨id, "partner"⟩
  issuers _ := none
  tasks _ := none
  worker := .idle
  asked _ := none
  ran _ _ := none

def sampleVisit : Visit where
  loads := ⟨.ok (), .ok (some ⟨⟨"t"⟩, "partner"⟩), .ok none⟩
  create := {
    allocate := .ok ⟨"https://reg.example/api/v1/did/abc/did.jsonl", "abc"⟩
    generated := fun role => .ok (sampleOld.forRole role)
    put := .ok ()
    findIssuer := .ok none
    insert := .ok ()
    createEntry := .ok ⟨"entry", "https://status.example/entry"⟩
    current := .ok none
    provision := .ok ⟨"list"⟩ }
  world := sampleWorld []
  step := sampleCalls sampleIssuer

def sampleDispatch : List Event := [.acquire ⟨"c"⟩ 0, .perform sampleVisit, .record 0 0]

/-- A creation; the worker crashes once before it records the allocation. -/
def sampleTrace : List Event :=
  [.createIssuer ⟨"c"⟩ ⟨"t"⟩ ⟨"i"⟩ "" "Issuer i" 0, .acquire ⟨"c"⟩ 0, .perform sampleVisit, .crash] ++
    (List.replicate 7 sampleDispatch).flatten

theorem sagas_have_their_data_sample :
    ∃ last task, exec (Journal.step sampleExternals plainGenesis) sampleJournal sampleTrace =
        some last ∧ last.tasks ⟨"c"⟩ = some task ∧ task.state = .completed ∧
      ∃ input data, last.asked ⟨"c"⟩ = some input ∧
        Ready sampleExternals (last.ran ⟨"c"⟩) task input data ∧
        MarkersStay sampleExternals plainGenesis last ⟨"c"⟩ data := by
  have computed : (exec (Journal.step sampleExternals plainGenesis) sampleJournal sampleTrace).map
      (fun journal => (journal.tasks ⟨"c"⟩).map (·.state)) = some (some .completed) := by decide
  rcases Option.map_eq_some_iff.mp computed with ⟨last, taken, seen⟩
  rcases Option.map_eq_some_iff.mp seen with ⟨task, found, completed⟩
  rcases (sagas_have_their_data sampleExternals plainGenesis ⟨rfl, fun _ => rfl⟩
    (Run.of_exec taken)).2 ⟨"c"⟩ task found with ⟨input, data, asked, ready, _, _, stay⟩
  exact ⟨last, task, taken, found, completed, input, data, asked, ready, stay⟩

end Sample

end SwiyuIssuer.Resume
