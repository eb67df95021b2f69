import SwiyuIssuer.Saga.Moves
import SwiyuIssuer.Library.Update

/-! The rows of the queued tasks along a run: what a recording statement rewrites, and how the
accumulated state of a saga follows its steps. -/

namespace SwiyuIssuer.Saga

open Library Persistence Worker

/-- The columns that a saga is driven by. -/
structure SameSaga (task row : OperationTask) : Prop where
  id : row.id = task.id
  tenantId : row.tenantId = task.tenantId
  taskType : row.taskType = task.taskType
  step : row.step = task.step
  input : row.input = task.input
  stateData : row.stateData = task.stateData
  resultIssuerId : row.resultIssuerId = task.resultIssuerId
  createdAt : row.createdAt = task.createdAt

/-- The row after the recording statement of a dispatch. -/
inductive Rewritten (task : OperationTask) (nextStep : Option String) (outcome : StepOutcome) :
    OperationTask → Prop
  | completed (row : OperationTask) : outcome.isDone = true → nextStep = none →
      row.state = .completed → SameSaga task row → Rewritten task nextStep outcome row
  | advanced (result : StepResult) (next : String) (now : DateTime) : outcome = .done result →
      nextStep = some next → Rewritten task nextStep outcome
        (task.advanceStep (some next)
          (OperationTask.mergeStateData task.stateData result.stateDataPatch) now)
  | delayed (row : OperationTask) : outcome.isDone = false → row.state = task.state →
      SameSaga task row → Rewritten task nextStep outcome row
  | failed (row : OperationTask) : outcome.isDone = false → row.state = .failed →
      SameSaga task row → Rewritten task nextStep outcome row

theorem rewritten_of_finish {task : OperationTask} {nextStep : Option String}
    {outcome : StepOutcome} {now : DateTime} {word : UInt64} {write : TaskWrite}
    (running : task.state = .inProgress)
    (finished : finish task nextStep outcome now word = .ok write) :
    Rewritten task nextStep outcome (write.perform task) := by
  cases finish_ok running finished with
  | completed task' done last completes =>
      simp only [OperationTask.tryComplete, running] at completes
      cases completes
      exact .completed _ done last rfl ⟨rfl, rfl, rfl, rfl, rfl, rfl, rfl, rfl⟩
  | advanced result step done follows => exact .advanced result step now done follows
  | scheduled errorCode errorMessage delay retried young =>
      exact .delayed _ (by rw [retried]; rfl) rfl ⟨rfl, rfl, rfl, rfl, rfl, rfl, rfl, rfl⟩
  | failed errorCode errorMessage task' why fails =>
      simp only [OperationTask.tryFail, running] at fails
      cases fails
      have unsuccessful : outcome.isDone = false := by
        rcases why with ended | ⟨ended, _⟩ <;> rw [ended] <;> rfl
      exact .failed _ unsuccessful rfl ⟨rfl, rfl, rfl, rfl, rfl, rfl, rfl, rfl⟩

theorem decode_merge_triple {uuid : UuidFormat} {map : JsonMap} {state : RotateKeysStateData}
    (decoded : RotateKeysStateData.decode uuid (.object map) = .ok state) (triple : KeyTriple) :
    RotateKeysStateData.decode uuid (OperationTask.mergeStateData (.object map)
      [("new_key_triple", triple.toJson)]) = .ok { state with newKeyTriple := some triple } := by
  simp only [RotateKeysStateData.decode, Answers.bind_ok] at decoded ⊢
  rcases decoded with ⟨_, same, old, _, flag, flagRead, made⟩
  cases same
  cases made
  refine ⟨_, rfl, some triple, ?_, flag, ?_, rfl⟩
  · have set : JsonMap.get (JsonMap.merge map [("new_key_triple", triple.toJson)])
        "new_key_triple" = some triple.toJson := JsonMap.get_insert_self ..
    simp only [JsonMap.orDefault, set]
    exact congrArg (Except.map some) (KeyTriple.decode_toJson uuid triple)
  · have kept : JsonMap.get (JsonMap.merge map [("new_key_triple", triple.toJson)])
        "didlog_published" = map.get "didlog_published" :=
      JsonMap.get_insert_ne map _ (show "didlog_published" ≠ "new_key_triple" by decide)
    simpa only [JsonMap.orDefault, kept] using flagRead

theorem decode_merge_published {uuid : UuidFormat} {map : JsonMap} {state : RotateKeysStateData}
    (decoded : RotateKeysStateData.decode uuid (.object map) = .ok state) :
    RotateKeysStateData.decode uuid (OperationTask.mergeStateData (.object map)
      didlogPublishedPatch.stateDataPatch) = .ok { state with didlogPublished := true } := by
  simp only [RotateKeysStateData.decode, Answers.bind_ok] at decoded ⊢
  rcases decoded with ⟨_, same, triple, tripleRead, old, _, made⟩
  cases same
  cases made
  refine ⟨_, rfl, triple, ?_, true, ?_, rfl⟩
  · have kept : JsonMap.get (JsonMap.merge map didlogPublishedPatch.stateDataPatch)
        "new_key_triple" = map.get "new_key_triple" :=
      JsonMap.get_insert_ne map _ (by decide)
    simpa only [JsonMap.orDefault, kept] using tripleRead
  · have set : JsonMap.get (JsonMap.merge map didlogPublishedPatch.stateDataPatch)
        "didlog_published" = some (.bool true) := JsonMap.get_insert_self ..
    simp only [JsonMap.orDefault, set]
    rfl

theorem decode_merge_deactivated {map : JsonMap} {state : DeactivateIssuerStateData}
    (_ : DeactivateIssuerStateData.decode (.object map) = .ok state) :
    DeactivateIssuerStateData.decode (OperationTask.mergeStateData (.object map)
      didlogPublishedPatch.stateDataPatch) = .ok ⟨true⟩ := by
  simp only [DeactivateIssuerStateData.decode, Answers.bind_ok]
  have set : JsonMap.get (JsonMap.merge map didlogPublishedPatch.stateDataPatch)
      "didlog_published" = some (.bool true) := JsonMap.get_insert_self ..
  refine ⟨_, rfl, true, ?_, rfl⟩
  simp only [JsonMap.orDefault, set]
  rfl

/-- The accumulated state of a rotation, as its row has it. -/
structure RotateData (ext : Externals) (task : OperationTask) (state : RotateKeysStateData) :
    Prop where
  object : ∃ map, task.stateData = .object map
  decoded : RotateKeysStateData.decode ext.uuid task.stateData = .ok state
  flag : state.didlogPublished = true → task.step = some "swap_keys"

structure DeactivateData (task : OperationTask) (state : DeactivateIssuerStateData) : Prop where
  object : ∃ map, task.stateData = .object map
  decoded : DeactivateIssuerStateData.decode task.stateData = .ok state
  flag : state.didlogPublished = true → task.step = some "mark_deactivated"

/-- What a successful step merges into the accumulated state. -/
inductive PatchOf (ext : Externals) (task : OperationTask) (result : StepResult) : Prop
  | empty : result.stateDataPatch = [] → task.step ≠ some "publish_didlog" →
      PatchOf ext task result
  | keys (triple : KeyTriple) : result.stateDataPatch = [("new_key_triple", triple.toJson)] →
      task.taskType = .rotateKeys → task.step.getD "generate_new_keys" = "generate_new_keys" →
      (∀ state, RotateKeysStateData.decode ext.uuid task.stateData = .ok state →
        state.newKeyTriple = none) → PatchOf ext task result
  | published : result = didlogPublishedPatch → task.step = some "publish_didlog" →
      PatchOf ext task result

/-- Rows and aggregates belong together: only the worker writes a row, and it holds the row. -/
structure Tracked (ext : Externals) (world : World) : Prop where
  keyed : ∀ id task, world.tasks id = some task → task.id = id
  listed : ∀ id task, world.tasks id = some task → id ∈ world.ids
  aggregate : ∀ task, world.worker.task = some task →
    world.tasks task.id = some task ∧ task.state = .inProgress
  pending : ∀ task nextStep outcome, world.worker = .stepped task nextStep outcome →
    nextStep = successor task.taskType task.step ∧
      ∀ result, outcome = .done result → PatchOf ext task result
  rotate : ∀ id task, world.tasks id = some task → task.taskType = .rotateKeys →
    ∃ state, RotateData ext task state
  deactivate : ∀ id task, world.tasks id = some task → task.taskType = .deactivateIssuer →
    ∃ state, DeactivateData task state

/-- The tasks wait in the queue, the worker has not started, and the log is older than they are. -/
structure Initial (world : World) : Prop where
  idle : world.worker = .idle
  keyed : ∀ id task, world.tasks id = some task → task.id = id
  listed : ∀ id task, world.tasks id = some task → id ∈ world.ids
  queued : ∀ id task, world.tasks id = some task → task.step = none ∧ task.stateData = .object []
  unauthored : ∀ published ∈ world.log, published.author = none
  unrecorded : ∀ id, world.recorded id = false

theorem rotateData_empty (ext : Externals) {task : OperationTask}
    (empty : task.stateData = .object []) : RotateData ext task ⟨none, false⟩ where
  object := ⟨[], empty⟩
  decoded := by rw [empty]; rfl
  flag := fun absurd => by cases absurd

theorem deactivateData_empty {task : OperationTask} (empty : task.stateData = .object []) :
    DeactivateData task ⟨false⟩ where
  object := ⟨[], empty⟩
  decoded := by rw [empty]; rfl
  flag := fun absurd => by cases absurd

theorem tracked_initial (ext : Externals) {world : World} (initial : Initial world) :
    Tracked ext world where
  keyed := initial.keyed
  listed := initial.listed
  aggregate := by
    intro task holds
    rw [initial.idle] at holds
    cases holds
  pending := by
    intro task nextStep outcome holds
    rw [initial.idle] at holds
    cases holds
  rotate := by
    intro id task found _
    exact ⟨_, rotateData_empty ext (initial.queued id task found).2⟩
  deactivate := by
    intro id task found _
    exact ⟨_, deactivateData_empty (initial.queued id task found).2⟩

theorem RotateData.transfer {ext : Externals} {task row : OperationTask}
    {state : RotateKeysStateData} (data : RotateData ext task state)
    (stateData : row.stateData = task.stateData) (step : row.step = task.step) :
    RotateData ext row state where
  object := stateData ▸ data.object
  decoded := stateData ▸ data.decoded
  flag := step ▸ data.flag

theorem DeactivateData.transfer {task row : OperationTask} {state : DeactivateIssuerStateData}
    (data : DeactivateData task state) (stateData : row.stateData = task.stateData)
    (step : row.step = task.step) : DeactivateData row state where
  object := stateData ▸ data.object
  decoded := stateData ▸ data.decoded
  flag := step ▸ data.flag

theorem done_of_fails {outcome : StepOutcome} {result : StepResult}
    (fails : outcome.isDone = false) : outcome ≠ .done result := by
  rintro rfl
  cases fails

theorem afterPut_done {answer : Except TokenAwareError Unit} {result : StepResult}
    (done : afterPut answer = .done result) : result = didlogPublishedPatch := by
  cases answer with
  | ok _ =>
      cases done
      rfl
  | error error => exact (done_of_fails afterPut_fails done).elim

theorem publish_patch {world : World} {calls : StepCalls} {flag : Bool}
    {Already Built : LogEntry → Prop} {effect : Effect} {result : StepResult}
    (published : PublishCase world calls flag Already Built effect) (unflagged : flag = false)
    (done : effect.outcome = .done result) : result = didlogPublishedPatch := by
  cases published with
  | kept flagged =>
      rw [unflagged] at flagged
      cases flagged
  | already last _ tail found =>
      cases done
      rfl
  | failed outcome fails => exact (done_of_fails fails done).elim
  | put entry _ built stored => exact afterPut_done done

/-- The publish step of a rotation, with the triple that its task has frozen. -/
theorem rotation_publishCase (ext : Externals) (world : World) (task : OperationTask)
    (calls : StepCalls) (state : RotateKeysStateData) :
    PublishCase world calls state.didlogPublished
      (fun last => ∃ triple, state.newKeyTriple = some triple ∧
        last.updateKeys.bind List.head? = some (ext.engine.multikey ext.core triple.authorized))
      (fun entry => ∃ triple, state.newKeyTriple = some triple ∧
        Addressed ext.core world.issuer ∧ buildRotationEntry ext.core ext.engine calls.faults world.issuer triple
          (entries world.log) task.createdAt = .ok entry)
      (publishEffect (prepareRotationPublish ext.core ext.engine world.issuer state
        (fetched world.log calls) calls.faults task.createdAt) calls.put) := by
  unfold prepareRotationPublish
  cases flagged : state.didlogPublished with
  | true => exact .kept rfl
  | false =>
      cases frozen : state.newKeyTriple with
      | none => exact .failed missingTriple rfl
      | some triple =>
          exact (publishCase fun _ => buildRotationEntry_already).imp
            (fun _ found => ⟨triple, rfl, found⟩) (fun _ built => ⟨triple, rfl, built⟩)

theorem deactivation_publishCase (ext : Externals) (world : World) (task : OperationTask)
    (calls : StepCalls) (state : DeactivateIssuerStateData) :
    PublishCase world calls state.didlogPublished (fun last => last.deactivated = some true)
      (fun entry => Addressed ext.core world.issuer ∧ buildDeactivationEntry ext.core ext.engine calls.faults world.issuer
        (entries world.log) task.createdAt = .ok entry)
      (publishEffect (prepareDeactivationPublish ext.core ext.engine world.issuer state
        (fetched world.log calls) calls.faults task.createdAt) calls.put) := by
  unfold prepareDeactivationPublish
  cases flagged : state.didlogPublished with
  | true => exact .kept rfl
  | false => exact publishCase fun _ => buildDeactivationEntry_already

theorem RotateData.unflagged {ext : Externals} {task : OperationTask}
    {state : RotateKeysStateData} (data : RotateData ext task state)
    (earlier : task.step ≠ some "swap_keys") : state.didlogPublished = false := by
  cases flagged : state.didlogPublished with
  | false => rfl
  | true => exact absurd (data.flag flagged) earlier

theorem DeactivateData.unflagged {task : OperationTask} {state : DeactivateIssuerStateData}
    (data : DeactivateData task state) (earlier : task.step ≠ some "mark_deactivated") :
    state.didlogPublished = false := by
  cases flagged : state.didlogPublished with
  | false => rfl
  | true => exact absurd (data.flag flagged) earlier

/-- The tracked data of a row are what any reader decodes from it. -/
theorem Tracked.rotateData {ext : Externals} {world : World} (tracked : Tracked ext world)
    {id : TaskId} {task : OperationTask} (found : world.tasks id = some task)
    (saga : task.taskType = .rotateKeys) {state : RotateKeysStateData}
    (decoded : RotateKeysStateData.decode ext.uuid task.stateData = .ok state) :
    RotateData ext task state := by
  rcases tracked.rotate id task found saga with ⟨known, data⟩
  have same := data.decoded
  rw [decoded] at same
  cases same
  exact data

theorem Tracked.deactivateData {ext : Externals} {world : World} (tracked : Tracked ext world)
    {id : TaskId} {task : OperationTask} (found : world.tasks id = some task)
    (saga : task.taskType = .deactivateIssuer) {state : DeactivateIssuerStateData}
    (decoded : DeactivateIssuerStateData.decode task.stateData = .ok state) :
    DeactivateData task state := by
  rcases tracked.deactivate id task found saga with ⟨known, data⟩
  have same := data.decoded
  rw [decoded] at same
  cases same
  exact data

theorem performed_patch {ext : Externals} {world : World} {task : OperationTask}
    {calls : StepCalls} {nextStep : Option String} {effect : Effect} (tracked : Tracked ext world)
    (held : world.worker = .acquired task)
    (performed : Performed ext world task calls nextStep effect) {result : StepResult}
    (done : effect.outcome = .done result) : PatchOf ext task result := by
  have found : world.tasks task.id = some task :=
    (tracked.aggregate task (by rw [held]; rfl)).1
  cases performed with
  | generateNewKeys input state saga named inputRead stateRead =>
      have earlier : task.step ≠ some "publish_didlog" := by
        intro absurd
        rw [absurd] at named
        simp at named
      rcases executeGenerateNewKeys_done done with ⟨_, empty⟩ | ⟨unfrozen, triple, patch, _⟩
      · exact .empty empty earlier
      · apply PatchOf.keys triple patch saga named
        intro other decoded
        rw [stateRead] at decoded
        cases decoded
        exact unfrozen
  | buildRotation state saga named stateRead =>
      have earlier : task.step ≠ some "publish_didlog" := by simp [named]
      unfold executeBuildRotationDidlog at done
      split at done
      · cases done
      · exact .empty (executeBuildDidlog_done done).1 earlier
  | buildDeactivation saga named =>
      have earlier : task.step ≠ some "publish_didlog" := by
        intro absurd
        rw [absurd] at named
        simp at named
      exact .empty (executeBuildDidlog_done done).1 earlier
  | publishRotation state saga named stateRead =>
      have unflagged := (tracked.rotateData found saga stateRead).unflagged (by simp [named])
      exact .published (publish_patch (rotation_publishCase ..) unflagged done) named
  | publishDeactivation state saga named stateRead =>
      have unflagged := (tracked.deactivateData found saga stateRead).unflagged (by simp [named])
      exact .published (publish_patch (deactivation_publishCase ..) unflagged done) named
  | swapKeys state saga named stateRead =>
      have swapped := (executeSwapKeys_cases rfl).2 result done
      exact .empty swapped.1 (by simp [named])
  | markDeactivated saga named =>
      have marked := (executeMarkDeactivated_cases rfl).2 result done
      exact .empty marked.1 (by simp [named])

theorem ne_last_of_follows {task : OperationTask} {last next : String}
    (ends : successor task.taskType (some last) = none)
    (follows : successor task.taskType task.step = some next) : task.step ≠ some last := by
  intro at_
  rw [at_, ends] at follows
  cases follows

theorem RotateData.advance {ext : Externals} {task : OperationTask} {state : RotateKeysStateData}
    (data : RotateData ext task state) (saga : task.taskType = .rotateKeys) {result : StepResult}
    (patch : PatchOf ext task result) {next : String}
    (follows : successor task.taskType task.step = some next) (now : DateTime) :
    ∃ state', RotateData ext (task.advanceStep (some next)
        (OperationTask.mergeStateData task.stateData result.stateDataPatch) now) state' ∧
      (state'.newKeyTriple = state.newKeyTriple ∨ state.newKeyTriple = none ∧ ∃ triple : KeyTriple,
        result.stateDataPatch = [("new_key_triple", triple.toJson)] ∧
        state'.newKeyTriple = some triple) := by
  rcases data.object with ⟨map, object⟩
  have decoded := data.decoded
  rw [object] at decoded ⊢
  have earlier : state.didlogPublished = false :=
    data.unflagged (ne_last_of_follows (by rw [saga]; rfl) follows)
  cases patch with
  | empty nothing _ =>
      rw [nothing]
      exact ⟨state, ⟨⟨map, rfl⟩, decoded, by simp [earlier]⟩, .inl rfl⟩
  | keys triple set _ named unfrozen =>
      rw [set]
      exact ⟨_, ⟨⟨_, rfl⟩, decode_merge_triple decoded triple, by simp [earlier]⟩,
        .inr ⟨unfrozen state data.decoded, triple, rfl, rfl⟩⟩
  | published published named =>
      rw [published]
      refine ⟨_, ⟨⟨_, rfl⟩, decode_merge_published decoded, ?_⟩, .inl rfl⟩
      intro _
      rw [saga, named] at follows
      cases follows
      rfl

theorem DeactivateData.advance {ext : Externals} {task : OperationTask}
    {state : DeactivateIssuerStateData} (data : DeactivateData task state)
    (saga : task.taskType = .deactivateIssuer) {result : StepResult}
    (patch : PatchOf ext task result) {next : String}
    (follows : successor task.taskType task.step = some next) (now : DateTime) :
    ∃ state', DeactivateData (task.advanceStep (some next)
        (OperationTask.mergeStateData task.stateData result.stateDataPatch) now) state' := by
  rcases data.object with ⟨map, object⟩
  have decoded := data.decoded
  rw [object] at decoded ⊢
  have earlier : state.didlogPublished = false :=
    data.unflagged (ne_last_of_follows (by rw [saga]; rfl) follows)
  cases patch with
  | empty nothing _ =>
      rw [nothing]
      exact ⟨state, ⟨map, rfl⟩, decoded, by simp [earlier]⟩
  | keys triple set rotates _ _ =>
      rw [saga] at rotates
      cases rotates
  | published published named =>
      rw [published]
      refine ⟨_, ⟨_, rfl⟩, decode_merge_deactivated decoded, ?_⟩
      intro _
      rw [saga, named] at follows
      cases follows
      rfl

inductive RowStep (world : World) (task : OperationTask) : OperationTask → Prop
  | kept : RowStep world task task
  | claimed (attempts : Nat) (now : DateTime) : task.state.isTerminal = false →
      RowStep world task (task.claimed attempts now)
  | recorded (nextStep : Option String) (outcome : StepOutcome) (row : OperationTask) :
      world.worker = .stepped task nextStep outcome → Rewritten task nextStep outcome row →
      RowStep world task row

/-- Only the claim, the recording statement and a new request write rows. -/
theorem rows_step {ext : Externals} {world after : World} {event : Event}
    (tracked : Tracked ext world) (move : Move ext world event after) {id : TaskId}
    {row : OperationTask} (found : after.tasks id = some row) :
    (∃ task, world.tasks id = some task ∧ RowStep world task row) ∨
      ∃ r now submission, event = .insert r id now ∧ world.requests r = .inserting submission ∧
        world.tasks id = none ∧ row = newTask submission id now := by
  cases move with
  | acquire acquired now task attempts idle held live =>
      rcases update_some_cases found with ⟨rfl, rfl⟩ | ⟨_, other⟩
      · exact .inl ⟨task, held, .claimed attempts now live⟩
      · exact .inl ⟨row, other, .kept⟩
  | record now word task nextStep outcome write old stepped finished present =>
      have held := tracked.aggregate task (by rw [stepped]; rfl)
      rw [held.1] at present
      cases present
      rcases update_some_cases found with ⟨rfl, rfl⟩ | ⟨_, other⟩
      · exact .inl ⟨task, held.1, .recorded nextStep outcome _ stepped
          (rewritten_of_finish held.2 finished)⟩
      · exact .inl ⟨row, other, .kept⟩
  | insert r fresh now submission inserting absent =>
      rcases update_some_cases found with ⟨rfl, rfl⟩ | ⟨_, other⟩
      · exact .inr ⟨r, now, submission, rfl, inserting, absent, rfl⟩
      · exact .inl ⟨row, other, .kept⟩
  | perform | release | checkIssuer | lookup | fail => exact .inl ⟨row, found, .kept⟩

theorem rows_kept {ext : Externals} {world after : World} {event : Event}
    (tracked : Tracked ext world) (move : Move ext world event after) {id : TaskId}
    {task : OperationTask} (found : world.tasks id = some task) :
    ∃ row, after.tasks id = some row ∧ RowStep world task row := by
  have present : (after.tasks id).isSome = true := by
    cases move with
    | acquire other | record _ _ other | insert _ other =>
        simp only [World.setTask, Function.update_apply]
        split
        · rfl
        · rw [found]
          rfl
    | perform | release | checkIssuer | lookup | fail => exact Option.isSome_iff_exists.mpr ⟨_, found⟩
  rcases Option.isSome_iff_exists.mp present with ⟨row, there⟩
  rcases rows_step tracked move there with ⟨old, same, step⟩ | ⟨_, _, _, _, _, absent, _⟩
  · rw [found] at same
    cases same
    exact ⟨row, there, step⟩
  · rw [found] at absent
    cases absent

theorem RowStep.live {world : World} {task row : OperationTask} (step : RowStep world task row)
    (live : row.state.isTerminal = false) : task.state.isTerminal = false := by
  cases step with
  | kept => exact live
  | claimed _ _ claimable => exact claimable
  | recorded _ _ _ _ rewritten =>
      cases rewritten with
      | completed _ _ _ ended | failed _ _ ended =>
          rw [ended] at live
          cases live
      | advanced => exact live
      | delayed _ _ same =>
          rw [same] at live
          exact live

/-- The columns that no statement on a row changes. -/
structure SameRequest (task row : OperationTask) : Prop where
  id : row.id = task.id
  tenantId : row.tenantId = task.tenantId
  taskType : row.taskType = task.taskType
  input : row.input = task.input
  resultIssuerId : row.resultIssuerId = task.resultIssuerId
  createdAt : row.createdAt = task.createdAt

theorem Rewritten.fixed {task row : OperationTask} {nextStep : Option String}
    {outcome : StepOutcome} (rewritten : Rewritten task nextStep outcome row) :
    SameRequest task row := by
  cases rewritten with
  | advanced => exact ⟨rfl, rfl, rfl, rfl, rfl, rfl⟩
  | completed _ _ _ _ same | delayed _ _ _ same | failed _ _ _ same =>
      exact ⟨same.id, same.tenantId, same.taskType, same.input, same.resultIssuerId,
        same.createdAt⟩

theorem RowStep.fixed {world : World} {task row : OperationTask} (step : RowStep world task row) :
    SameRequest task row := by
  cases step with
  | kept | claimed => exact ⟨rfl, rfl, rfl, rfl, rfl, rfl⟩
  | recorded _ _ _ _ rewritten => exact rewritten.fixed

/-- A row keeps its place in its saga, or a successful step moves it on. -/
theorem RowStep.place {world : World} {task row : OperationTask} (step : RowStep world task row) :
    (row.step = task.step ∧ row.stateData = task.stateData) ∨
      ∃ result next now, world.worker = .stepped task (some next) (.done result) ∧
        row = task.advanceStep (some next)
          (OperationTask.mergeStateData task.stateData result.stateDataPatch) now := by
  cases step with
  | kept | claimed => exact .inl ⟨rfl, rfl⟩
  | recorded _ _ _ stepped rewritten =>
      cases rewritten with
      | advanced result next now done follows =>
          rw [done, follows] at stepped
          exact .inr ⟨result, next, now, stepped, rfl⟩
      | completed _ _ _ _ same | delayed _ _ _ same | failed _ _ _ same =>
          exact .inl ⟨same.step, same.stateData⟩

/-- A frozen triple is never replaced; a new one comes from the step that has frozen it. -/
theorem rotate_row {ext : Externals} {world : World} {task row : OperationTask}
    (tracked : Tracked ext world) (step : RowStep world task row) (saga : task.taskType = .rotateKeys)
    {state : RotateKeysStateData} (data : RotateData ext task state) :
    ∃ state', RotateData ext row state' ∧
      (state'.newKeyTriple = state.newKeyTriple ∨ state.newKeyTriple = none ∧
        ∃ nextStep result, ∃ triple : KeyTriple,
          world.worker = .stepped task nextStep (.done result) ∧
          result.stateDataPatch = [("new_key_triple", triple.toJson)] ∧
          state'.newKeyTriple = some triple) := by
  rcases step.place with ⟨place, stateData⟩ | ⟨result, next, now, stepped, rfl⟩
  · exact ⟨state, data.transfer stateData place, .inl rfl⟩
  · rcases tracked.pending task _ _ stepped with ⟨follows, patched⟩
    rcases data.advance saga (patched result rfl) follows.symm now with ⟨state', data', new⟩
    refine ⟨state', data', new.imp_right ?_⟩
    rintro ⟨unfrozen, triple, set, frozen⟩
    exact ⟨unfrozen, _, result, triple, stepped, set, frozen⟩

theorem deactivate_row {ext : Externals} {world : World} {task row : OperationTask}
    (tracked : Tracked ext world) (step : RowStep world task row)
    (saga : task.taskType = .deactivateIssuer) {state : DeactivateIssuerStateData}
    (data : DeactivateData task state) : ∃ state', DeactivateData row state' := by
  rcases step.place with ⟨place, stateData⟩ | ⟨result, next, now, stepped, rfl⟩
  · exact ⟨state, data.transfer stateData place⟩
  · rcases tracked.pending task _ _ stepped with ⟨follows, patched⟩
    exact data.advance saga (patched result rfl) follows.symm now

/-- The row has frozen this triple for its publish and swap steps. -/
def Frozen (ext : Externals) (task : OperationTask) (triple : KeyTriple) : Prop :=
  ∃ state, RotateKeysStateData.decode ext.uuid task.stateData = .ok state ∧
    state.newKeyTriple = some triple

theorem Frozen.unique {ext : Externals} {task : OperationTask} {triple other : KeyTriple}
    (frozen : Frozen ext task triple) (again : Frozen ext task other) : triple = other := by
  rcases frozen with ⟨state, decoded, kept⟩
  rcases again with ⟨_, same, found⟩
  rw [decoded] at same
  cases same
  rw [kept] at found
  cases found
  rfl

theorem Frozen.row {ext : Externals} {world : World} {task row : OperationTask}
    {triple : KeyTriple} (frozen : Frozen ext task triple) (tracked : Tracked ext world)
    (found : world.tasks task.id = some task) (saga : task.taskType = .rotateKeys)
    (step : RowStep world task row) : Frozen ext row triple := by
  rcases frozen with ⟨state, decoded, kept⟩
  rcases rotate_row tracked step saga (tracked.rotateData found saga decoded) with
    ⟨state', data, same | ⟨unfrozen, _⟩⟩
  · exact ⟨state', data.decoded, same.trans kept⟩
  · rw [kept] at unfrozen
    cases unfrozen

theorem Frozen.origin {ext : Externals} {world : World} {task row : OperationTask}
    {triple : KeyTriple} (frozen : Frozen ext row triple) (tracked : Tracked ext world)
    (found : world.tasks task.id = some task) (saga : task.taskType = .rotateKeys)
    (step : RowStep world task row) : Frozen ext task triple ∨ ∃ nextStep result,
      world.worker = .stepped task nextStep (.done result) ∧
      result.stateDataPatch = [("new_key_triple", triple.toJson)] := by
  rcases frozen with ⟨after, read, kept⟩
  rcases tracked.rotate _ task found saga with ⟨state, data⟩
  rcases rotate_row tracked step saga data with ⟨state', data', source⟩
  have same := data'.decoded
  rw [read] at same
  cases same
  rcases source with same | ⟨_, nextStep, result, made, stepped, set, frozen⟩
  · exact .inl ⟨state, data.decoded, same.symm.trans kept⟩
  · rw [kept] at frozen
    cases frozen
    exact .inr ⟨nextStep, result, stepped, set⟩

inductive RowWritten (ext : Externals) (world : World) (task : OperationTask) : Issuer → Prop
  | kept : RowWritten ext world task world.issuer
  | swapped (triple : KeyTriple) : task.taskType = .rotateKeys → Frozen ext task triple →
      RowWritten ext world task (triple.install world.issuer)
  | deactivated : task.taskType = .deactivateIssuer →
      RowWritten ext world task { world.issuer with state := some .deactivated }

theorem publishEffect_row (prepared : Except StepOutcome (List LogEntry × LogEntry))
    (put : PutResult) : (publishEffect prepared put).row = none := by
  cases prepared <;> rfl

theorem performed_row {ext : Externals} {world : World} {task : OperationTask}
    {calls : StepCalls} {nextStep : Option String} {effect : Effect}
    (performed : Performed ext world task calls nextStep effect) :
    RowWritten ext world task (effect.row.getD world.issuer) := by
  cases performed with
  | generateNewKeys | buildRotation | buildDeactivation => exact .kept
  | publishRotation | publishDeactivation =>
      rw [publishEffect_row]
      exact .kept
  | swapKeys state saga named stateRead =>
      cases executed : executeSwapKeys world.issuer task.tenantId world.issuer.id state calls.swap with
      | mk row outcome =>
      rcases (executeSwapKeys_cases executed).1 with rfl | ⟨triple, frozen, _, rfl⟩
      · exact .kept
      · exact .swapped triple saga ⟨state, stateRead, frozen⟩
  | markDeactivated saga named =>
      cases executed : executeMarkDeactivated world.issuer task.tenantId world.issuer.id calls.mark with
      | mk row outcome =>
      rcases (executeMarkDeactivated_cases executed).1 with rfl | rfl
      · exact .kept
      · exact .deactivated saga

theorem tracked_step {ext : Externals} {world after : World} {event : Event}
    (tracked : Tracked ext world) (taken : world.step ext event = some after) :
    Tracked ext after := by
  have move := step_move taken
  constructor
  case keyed =>
    intro id row found
    rcases rows_step tracked move found with ⟨task, old, step⟩ | ⟨_, _, _, _, _, _, rfl⟩
    · rw [step.fixed.id]
      exact tracked.keyed id task old
    · rfl
  case listed =>
    intro id row found
    cases move with
    | acquire acquired now task attempts idle held live =>
        rcases update_some_cases found with ⟨rfl, _⟩ | ⟨_, other⟩
        · exact tracked.listed _ _ held
        · exact tracked.listed _ _ other
    | record now word task nextStep outcome write old stepped finished present =>
        rcases update_some_cases found with ⟨rfl, _⟩ | ⟨_, other⟩
        · exact tracked.listed _ _ present
        · exact tracked.listed _ _ other
    | insert r fresh now submission inserting absent =>
        rcases update_some_cases found with ⟨rfl, _⟩ | ⟨_, other⟩
        · exact List.mem_cons_self
        · exact List.mem_cons_of_mem _ (tracked.listed _ _ other)
    | perform | release | checkIssuer | lookup | fail => exact tracked.listed _ _ found
  case aggregate =>
    intro row holds
    cases move with
    | acquire id now task attempts idle found live =>
        cases holds
        have keyed : task.id = id := tracked.keyed id task found
        refine ⟨?_, rfl⟩
        show Function.update world.tasks id _ task.id = _
        rw [keyed, Function.update_self]
    | perform calls task nextStep effect held =>
        cases holds
        exact tracked.aggregate _ (by rw [held]; rfl)
    | record | release => cases holds
    | checkIssuer | lookup | fail => exact tracked.aggregate row holds
    | insert r id now submission inserting absent =>
        rcases tracked.aggregate row holds with ⟨found, running⟩
        refine ⟨?_, running⟩
        show Function.update world.tasks id _ row.id = _
        rw [Function.update_of_ne ?_, found]
        rintro rfl
        rw [absent] at found
        cases found
  case pending =>
    intro row nextStep outcome holds
    cases move with
    | acquire | record | release => cases holds
    | perform calls task next effect held concerned performed unused =>
        cases holds
        exact ⟨performed.nextStep_eq, fun result done => performed_patch tracked held performed done⟩
    | checkIssuer | lookup | insert | fail => exact tracked.pending row nextStep outcome holds
  case rotate =>
    intro id row found saga
    rcases rows_step tracked move found with ⟨task, old, step⟩ | ⟨_, _, _, _, _, _, rfl⟩
    · have rotates : task.taskType = .rotateKeys := step.fixed.taskType ▸ saga
      rcases tracked.rotate id task old rotates with ⟨state, data⟩
      rcases rotate_row tracked step rotates data with ⟨state', data', _⟩
      exact ⟨state', data'⟩
    · exact ⟨_, rotateData_empty ext rfl⟩
  case deactivate =>
    intro id row found saga
    rcases rows_step tracked move found with ⟨task, old, step⟩ | ⟨_, _, _, _, _, _, rfl⟩
    · have deactivates : task.taskType = .deactivateIssuer := step.fixed.taskType ▸ saga
      rcases tracked.deactivate id task old deactivates with ⟨state, data⟩
      exact deactivate_row tracked step deactivates data
    · exact ⟨_, deactivateData_empty rfl⟩

section Sample

def sampleExternals : Externals := ⟨plainCore, hyphenatedUuid, letterEngine⟩

def sampleIssuer : Issuer where
  id := ⟨"1111111111"⟩
  tenantId := ⟨"1111111111"⟩
  did := "did:tdw:scid:host:api:v1:did:sample"
  state := some .active
  authorizedKeyId := some ⟨"e0"⟩
  authenticationKeyId := some ⟨"p0"⟩
  assertionKeyId := some ⟨"p1"⟩

def sampleGenesis : LogEntry where
  versionId := "1-Qm"
  versionTime := plainCore.rfc3339 0
  updateKeys := some [letterEngine.multikey plainCore ⟨"e0"⟩]
  deactivated := none
  didDocState := .value (.ok ⟨[("authentication-key-01", ⟨List.replicate 32 48, List.replicate 32 48⟩),
    ("assertion-key-01", ⟨List.replicate 32 49, List.replicate 32 49⟩)]⟩)
  proof := none

def sampleTask (id : String) (kind : RequestKind) (createdAt : DateTime) : OperationTask :=
  newTask ⟨sampleIssuer.tenantId, sampleIssuer.id, kind⟩ ⟨id⟩ createdAt

def sampleWorld (tasks : List OperationTask) : World where
  issuer := sampleIssuer
  log := [⟨none, sampleGenesis⟩]
  tasks id := tasks.find? fun task => task.id == id
  ids := tasks.map (·.id)
  worker := .idle
  requests _ := .idle
  keys := [⟨"e0"⟩, ⟨"p0"⟩, ⟨"p1"⟩]
  recorded _ := false

theorem sampleWorld_initial {tasks : List OperationTask}
    (queued : ∀ task ∈ tasks, task.step = none ∧ task.stateData = .object []) :
    Initial (sampleWorld tasks) where
  idle := rfl
  keyed := by
    intro id task found
    simpa using List.find?_some found
  listed := by
    intro id task found
    have named : task.id = id := by simpa using List.find?_some found
    exact List.mem_map.mpr ⟨task, List.mem_of_find?_eq_some found, named⟩
  queued := fun _ task found => queued task (List.mem_of_find?_eq_some found)
  unauthored := by
    intro published member
    rw [List.mem_singleton.mp member]
  unrecorded := fun _ => rfl

def sampleCalls (issuer : Issuer) : StepCalls where
  loads := ⟨.ok (), .ok (some ⟨issuer.tenantId, "partner"⟩), .ok (some issuer)⟩
  generated role := .ok (match role with
    | .authorized => ⟨"e2"⟩
    | .authentication => ⟨"p2"⟩
    | .assertion => ⟨"p3"⟩)

def dispatched (id : String) (now : DateTime) (calls : StepCalls) : List Event :=
  [.acquire ⟨id⟩ now, .perform calls, .record now 0]

end Sample

end SwiyuIssuer.Saga
