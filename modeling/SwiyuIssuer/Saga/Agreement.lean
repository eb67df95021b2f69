import SwiyuIssuer.Saga.ChainAuthorisation

/-! Whether the issuer row and the published log agree when a task has ended. -/

namespace SwiyuIssuer.Saga

open Library Persistence Worker

/-- The entry advertises the public keys of the triple. -/
def ShowsTriple (ext : Externals) (entry : LogEntry) (triple : KeyTriple) : Prop :=
  entry.updateKeys = some [ext.engine.multikey ext.core triple.authorized] ∧
    ∃ doc authentication assertion, entry.didDocState = .value (.ok doc) ∧
      sec1ToP256 "authentication" (ext.engine.publicKey triple.authentication) =
        .ok authentication ∧
      sec1ToP256 "assertion" (ext.engine.publicKey triple.assertion) = .ok assertion ∧
      doc.key ext.core.authenticationFragment = some authentication ∧
      doc.key assertionFragment = some assertion

/-- One entry of the log is the task's, and the row says what the tail says. -/
def Reconciled (ext : Externals) (world : World) (task : OperationTask) : Prop :=
  (world.log.filter fun published => published.author == some task.id).length = 1 ∧
    ∃ last, world.log.getLast? = some last ∧
      match task.taskType with
      | .rotateKeys => ∃ triple : KeyTriple, ShowsTriple ext last.entry triple ∧
          ∀ role, world.issuer.keyIdForRole role = some (triple.forRole role)
      | .deactivateIssuer =>
          last.entry.deactivated = some true ∧ world.issuer.state = some .deactivated
      | .createIssuer => False

/-- The worker dispatches this task only; a `PUT` that is stored without being acknowledged answers
with a transient error; and from there until the last step has written the row, the other calls
fail with transient errors, and no failure is recorded a day or more after the task's creation. -/
def graceful (id : TaskId) (world : World) : Event → Bool
  | .acquire acquired _ => acquired == id
  | .perform calls =>
      (match calls.put with
        | .unacknowledged error => isTransient error
        | _ => true) &&
      (!world.outstanding id || (calls.fetch.all RegistryError.isRetryable &&
        calls.faults.areBackend))
  | .record now _ =>
      match world.worker with
      | .stepped task _ outcome =>
          !world.outstanding id || outcome.isDone || !pastCap task now
      | _ => true
  | _ => true

/-- The builder would find the tail of the log in its final state already. -/
inductive Already (ext : Externals) (task : OperationTask) (last : LogEntry) : Prop
  | rotation (triple : KeyTriple) : task.taskType = .rotateKeys → Frozen ext task triple →
      last.updateKeys.bind List.head? = some (ext.engine.multikey ext.core triple.authorized) →
      Already ext task last
  | deactivation : task.taskType = .deactivateIssuer → last.deactivated = some true →
      Already ext task last

def Unpublished (ext : Externals) (log : List Published) (task : OperationTask) : Prop :=
  ∀ last, log.getLast? = some last → ¬ Already ext task last.entry

/-- The entry that a task has built on the log, and the issuer row that its last step writes. -/
inductive Result (ext : Externals) (issuer : Issuer) (log : List Published)
    (task : OperationTask) : LogEntry → Issuer → Prop
  | rotation (triple : KeyTriple) (faults : EngineFaults) (entry : LogEntry) :
      task.taskType = .rotateKeys → Frozen ext task triple →
      buildRotationEntry ext.core ext.engine faults issuer triple (entries log)
        task.createdAt = .ok entry → Result ext issuer log task entry (triple.install issuer)
  | deactivation (faults : EngineFaults) (entry : LogEntry) :
      task.taskType = .deactivateIssuer →
      buildDeactivationEntry ext.core ext.engine faults issuer (entries log)
        task.createdAt = .ok entry →
      Result ext issuer log task entry { issuer with state := some .deactivated }

/-- Nothing has been published: the task is before its last step. -/
structure Untouched (ext : Externals) (id : TaskId) (first world : World) : Prop where
  log : world.log = first.log
  issuer : world.issuer = first.issuer
  recorded : world.recorded id = false
  early : ∀ task, world.tasks id = some task → task.step ≠ some (lastStep task.taskType) ∧
    task.state ≠ .completed ∧
    (task.step = some "publish_didlog" → Unpublished ext first.log task)
  pending : ∀ task nextStep result, world.worker = .stepped task nextStep (.done result) →
    ∃ name, nextStep = some name ∧ name ≠ lastStep task.taskType ∧
      (name = "publish_didlog" → result.stateDataPatch = [] ∧ Unpublished ext first.log task)

/-- The entry is at the registry and the row is the old one: the task is not terminal. -/
structure Pushed (ext : Externals) (id : TaskId) (first world : World) (task : OperationTask)
    (entry : LogEntry) (row : Issuer) : Prop where
  log : world.log = first.log ++ [⟨some id, entry⟩]
  issuer : world.issuer = first.issuer
  recorded : world.recorded id = false
  found : world.tasks id = some task
  result : Result ext first.issuer first.log task entry row
  addressed : Addressed ext.core first.issuer
  live : task.state.isTerminal = false
  late : task.step = some "publish_didlog" ∨ task.step = some (lastStep task.taskType)
  pending : ∀ stepped nextStep outcome, world.worker = .stepped stepped nextStep outcome →
    isTerminal outcome = false ∧
      (outcome.isDone = true → stepped.step = some "publish_didlog")

structure Settled (ext : Externals) (id : TaskId) (first world : World) (task : OperationTask)
    (entry : LogEntry) : Prop where
  log : world.log = first.log ++ [⟨some id, entry⟩]
  recorded : world.recorded id = true
  found : world.tasks id = some task
  result : Result ext first.issuer first.log task entry world.issuer
  last : task.step = some (lastStep task.taskType)

inductive Stage (ext : Externals) (id : TaskId) (first world : World) : Prop
  | untouched : Untouched ext id first world → Stage ext id first world
  | pushed (task : OperationTask) (entry : LogEntry) (row : Issuer) :
      Pushed ext id first world task entry row → Stage ext id first world
  | settled (task : OperationTask) (entry : LogEntry) :
      Settled ext id first world task entry → Stage ext id first world

theorem Pushed.outstanding {ext : Externals} {id : TaskId} {first world : World}
    {task : OperationTask} {entry : LogEntry} {row : Issuer}
    (pushed : Pushed ext id first world task entry row) : world.outstanding id = true := by
  apply outstanding_iff.mpr
  rw [pushed.log]
  exact ⟨⟨_, List.mem_append_right _ (List.mem_singleton_self _), rfl⟩, pushed.recorded⟩

structure SamePlace (task row : OperationTask) : Prop where
  taskType : row.taskType = task.taskType
  step : row.step = task.step
  stateData : row.stateData = task.stateData
  createdAt : row.createdAt = task.createdAt

theorem SamePlace.frozen {ext : Externals} {task row : OperationTask} {triple : KeyTriple}
    (place : SamePlace task row) : Frozen ext row triple ↔ Frozen ext task triple := by
  rw [Frozen, Frozen, place.stateData]

theorem SamePlace.result {ext : Externals} {issuer made : Issuer} {log : List Published}
    {task row : OperationTask} {entry : LogEntry} (place : SamePlace task row)
    (result : Result ext issuer log task entry made) : Result ext issuer log row entry made := by
  cases result with
  | rotation triple faults _ rotates frozen built =>
      rw [← place.createdAt] at built
      exact .rotation triple faults entry (place.taskType.trans rotates) (place.frozen.mpr frozen)
        built
  | deactivation faults _ deactivates built =>
      rw [← place.createdAt] at built
      exact .deactivation faults entry (place.taskType.trans deactivates) built

theorem SamePlace.unpublished {ext : Externals} {log : List Published} {task row : OperationTask}
    (place : SamePlace task row) (unpublished : Unpublished ext log task) :
    Unpublished ext log row := by
  intro last tail already
  apply unpublished last tail
  cases already with
  | rotation triple rotates frozen head =>
      exact .rotation triple (place.taskType.symm.trans rotates) (place.frozen.mp frozen) head
  | deactivation deactivates ended =>
      exact .deactivation (place.taskType.symm.trans deactivates) ended

/-- The task's row stays in its place: nothing but its state and its timing may change. -/
theorem stage_placed {ext : Externals} {id : TaskId} {first world after : World}
    (stage : Stage ext id first world) (log : after.log = world.log)
    (issuer : after.issuer = world.issuer) (recorded : after.recorded = world.recorded)
    (worker : ∀ task nextStep outcome, after.worker = .stepped task nextStep outcome →
      world.worker = .stepped task nextStep outcome)
    (kept : ∀ task, world.tasks id = some task → ∃ row, after.tasks id = some row ∧
      SamePlace task row ∧ (task.state ≠ .completed → row.state ≠ .completed) ∧
      (∀ entry made, Pushed ext id first world task entry made → row.state.isTerminal = false))
    (new : world.tasks id = none → ∀ row, after.tasks id = some row →
      row.step = none ∧ row.state = .pending) : Stage ext id first after := by
  cases stage with
  | untouched untouched =>
      refine .untouched ⟨log.trans untouched.log, issuer.trans untouched.issuer,
        recorded ▸ untouched.recorded, ?_, ?_⟩
      · intro row found
        cases before : world.tasks id with
        | none =>
            rcases new before row found with ⟨step, state⟩
            rw [step, state]
            refine ⟨?_, ?_, ?_⟩ <;> intro absurd <;> cases absurd
        | some task =>
            rcases kept task before with ⟨_, same, place, uncompleted, _⟩
            rw [found] at same
            cases same
            rcases untouched.early task before with ⟨early, unfinished, unpublished⟩
            rw [place.step, place.taskType]
            exact ⟨early, uncompleted unfinished,
              fun publishes => place.unpublished (unpublished publishes)⟩
      · exact fun task nextStep result stepped =>
          untouched.pending task nextStep result (worker _ _ _ stepped)
  | pushed task entry made pushed =>
      rcases kept task pushed.found with ⟨row, found, place, _, live⟩
      refine .pushed row entry made ⟨log.trans pushed.log, issuer.trans pushed.issuer,
        recorded ▸ pushed.recorded, found, place.result pushed.result, pushed.addressed,
        live entry made pushed, ?_, ?_⟩
      · rw [place.step, place.taskType]
        exact pushed.late
      · exact fun other nextStep outcome stepped =>
          pushed.pending other nextStep outcome (worker _ _ _ stepped)
  | settled task entry settled =>
      rcases kept task settled.found with ⟨row, found, place, _, _⟩
      refine .settled row entry ⟨log.trans settled.log, recorded ▸ settled.recorded, found, ?_, ?_⟩
      · rw [issuer]
        exact place.result settled.result
      · rw [place.step, place.taskType]
        exact settled.last

theorem Result.row {ext : Externals} {world : World} {issuer made : Issuer} {log : List Published}
    {task row : OperationTask} {entry : LogEntry} (result : Result ext issuer log task entry made)
    (tracked : Tracked ext world) (found : world.tasks task.id = some task)
    (step : RowStep world task row) : Result ext issuer log row entry made := by
  rcases step.fixed with ⟨_, _, saga, _, _, created⟩
  cases result with
  | rotation triple faults _ rotates frozen built =>
      rw [← created] at built
      exact .rotation triple faults entry (saga.trans rotates)
        (frozen.row tracked found rotates step) built
  | deactivation faults _ deactivates built =>
      rw [← created] at built
      exact .deactivation faults entry (saga.trans deactivates) built

theorem Result.successor_publish {ext : Externals} {issuer made : Issuer} {log : List Published}
    {task : OperationTask} {entry : LogEntry} (result : Result ext issuer log task entry made) :
    successor task.taskType (some "publish_didlog") = some (lastStep task.taskType) := by
  cases result with
  | rotation _ _ _ rotates => rw [rotates]; rfl
  | deactivation _ _ deactivates => rw [deactivates]; rfl

theorem stage_record {ext : Externals} {id : TaskId} {first world : World} {now : DateTime}
    {word : UInt64} {task : OperationTask} {nextStep : Option String} {outcome : StepOutcome}
    {write : TaskWrite} (tracked : Tracked ext world) (stage : Stage ext id first world)
    (own : task.id = id) (graceful_ : graceful id world (.record now word) = true)
    (stepped : world.worker = .stepped task nextStep outcome)
    (finished : finish task nextStep outcome now word = .ok write) :
    Stage ext id first (world.setTask task.id (write.perform task) .idle) := by
  subst own
  rcases tracked.aggregate task (by rw [stepped]; rfl) with ⟨found, running⟩
  have set : (world.setTask task.id (write.perform task) .idle).tasks task.id =
      some (write.perform task) := Function.update_self ..
  have step : RowStep world task (write.perform task) :=
    .recorded nextStep outcome _ stepped (rewritten_of_finish running finished)
  have follows := (tracked.pending task nextStep outcome stepped).1
  have kept := finish_ok running finished
  -- the writes that keep the row in its place
  have placed : SamePlace task (write.perform task) →
      (task.state ≠ .completed → (write.perform task).state ≠ .completed) →
      (∀ entry made, Pushed ext task.id first world task entry made →
        (write.perform task).state.isTerminal = false) →
      Stage ext task.id first (world.setTask task.id (write.perform task) .idle) := by
    intro place uncompleted live
    refine stage_placed stage rfl rfl rfl (fun _ _ _ absurd => by cases absurd) ?_ ?_
    · intro other same
      rw [found] at same
      cases same
      exact ⟨_, set, place, uncompleted, live⟩
    · intro absent
      rw [found] at absent
      cases absent
  cases kept with
  | scheduled errorCode errorMessage delay retried young =>
      exact placed ⟨rfl, rfl, rfl, rfl⟩ (fun same => same) fun _ _ pushed => pushed.live
  | failed errorCode errorMessage failed why fails =>
      simp only [OperationTask.tryFail, running] at fails
      cases fails
      refine placed ⟨rfl, rfl, rfl, rfl⟩ (fun _ absurd => by cases absurd) ?_
      intro entry made pushed
      exfalso
      rcases why with ended | ⟨retried, late⟩
      · have live := (pushed.pending task nextStep outcome stepped).1
        rw [ended] at live
        cases live
      · simp [graceful, stepped, pushed.outstanding, retried, late, StepOutcome.isDone] at graceful_
  | completed completed done last completes =>
      cases stage with
      | untouched untouched =>
          cases outcome with
          | done result =>
              rcases untouched.pending task nextStep result stepped with ⟨name, same, _⟩
              rw [last] at same
              cases same
          | retry | terminal => cases done
      | pushed other entry made pushed =>
          have same := pushed.found
          rw [found] at same
          cases same
          rw [(pushed.pending task nextStep outcome stepped).2 done,
            pushed.result.successor_publish, last] at follows
          cases follows
      | settled other entry settled =>
          have same := settled.found
          rw [found] at same
          cases same
          exact .settled _ entry ⟨settled.log, settled.recorded, set,
            settled.result.row tracked found step, step.last tracked settled.last⟩
  | advanced result next done next_ =>
      cases stage with
      | untouched untouched =>
          rw [done] at stepped
          rcases untouched.pending task nextStep result stepped with ⟨name, same, early, publishes⟩
          rw [next_] at same
          cases same
          refine .untouched ⟨untouched.log, untouched.issuer, untouched.recorded, ?_,
            fun _ _ _ absurd => by cases absurd⟩
          intro row there
          rw [set] at there
          cases there
          refine ⟨?_, ?_, ?_⟩
          · intro last
            exact early (Option.some.inj last)
          · intro completed
            rw [show (TaskWrite.perform _ task).state = task.state from rfl, running] at completed
            cases completed
          · intro publish
            rcases publishes (Option.some.inj publish) with ⟨nothing, unpublished⟩
            intro last tail already
            apply unpublished last tail
            cases already with
            | rotation triple rotates frozen head =>
                have saga : task.taskType = .rotateKeys := rotates
                rcases frozen.origin tracked found saga step with
                  before | ⟨other, made, again, keys⟩
                · exact .rotation triple saga before head
                · rw [stepped] at again
                  cases again
                  rw [nothing] at keys
                  cases keys
            | deactivation deactivates ended => exact .deactivation deactivates ended
      | pushed other entry made pushed =>
          have same := pushed.found
          rw [found] at same
          cases same
          have publishes := (pushed.pending task nextStep outcome stepped).2 (by rw [done]; rfl)
          rw [publishes, pushed.result.successor_publish, next_] at follows
          exact .pushed _ entry made ⟨pushed.log, pushed.issuer, pushed.recorded, set,
            pushed.result.row tracked found step, pushed.addressed, pushed.live, .inr follows,
            fun _ _ _ absurd => by cases absurd⟩
      | settled other entry settled =>
          have same := settled.found
          rw [found] at same
          cases same
          rw [settled.last, successor_lastStep, next_] at follows
          cases follows

/-- A step before the `PUT`, from an untouched state. -/
theorem untouched_quiet {ext : Externals} {id : TaskId} {first world : World}
    {task : OperationTask} {nextStep : Option String} {outcome : StepOutcome}
    {generated : List KeyPairId} (untouched : Untouched ext id first world)
    (pending : ∀ result, outcome = .done result → ∃ name, nextStep = some name ∧
      name ≠ lastStep task.taskType ∧ (name = "publish_didlog" →
        result.stateDataPatch = [] ∧ Unpublished ext first.log task)) :
    Stage ext id first
      (world.takes task nextStep { outcome := outcome, generated := generated }) := by
  refine .untouched ⟨?_, untouched.issuer, ?_, untouched.early, ?_⟩
  · exact (List.append_nil _).trans untouched.log
  · simp [World.takes, untouched.recorded, Effect.records]
  · intro other next result stepped
    cases stepped
    exact pending result rfl

theorem untouched_put {ext : Externals} {id : TaskId} {first world : World}
    {task : OperationTask} {nextStep : Option String} {calls : StepCalls} {entry : LogEntry}
    {made : Issuer} (untouched : Untouched ext id first world) (own : task.id = id)
    (found : world.tasks task.id = some task) (live : task.state.isTerminal = false)
    (graceful_ : graceful id world (.perform calls) = true)
    (publishes : task.step = some "publish_didlog") (stored : calls.put.stored = true)
    (result : Result ext world.issuer world.log task entry made)
    (addressed : Addressed ext.core world.issuer) :
    Stage ext id first (world.takes task nextStep
      { outcome := afterPut calls.put.answer, stored := some entry }) := by
  subst own
  rw [untouched.log, untouched.issuer] at result
  rw [untouched.issuer] at addressed
  refine .pushed task entry made ⟨?_, untouched.issuer, ?_, found, result, addressed, live,
    .inl publishes, ?_⟩
  · simp [World.takes, untouched.log]
  · simp [World.takes, untouched.recorded, Effect.records]
  · intro other next outcome stepped
    cases stepped
    refine ⟨?_, fun _ => publishes⟩
    simp only [graceful, Bool.and_eq_true] at graceful_
    have answered := graceful_.1
    cases put : calls.put with
    | acknowledged => rfl
    | unacknowledged error =>
        rw [put] at answered
        exact fromTokenAwareError_transient answered
    | refused error =>
        rw [put] at stored
        cases stored

theorem unpublished_of_rotation {ext : Externals} {log : List Published} {task : OperationTask}
    {faults : EngineFaults} {issuer : Issuer} {triple : KeyTriple} {now : DateTime}
    {entry : LogEntry} (saga : task.taskType = .rotateKeys) (frozen : Frozen ext task triple)
    (built : buildRotationEntry ext.core ext.engine faults issuer triple (entries log) now =
      .ok entry) : Unpublished ext log task := by
  rcases buildRotationEntry_ok built with ⟨_, _, last, _, tail, unrotated, _⟩
  intro published same already
  rw [getLast?_entries, same] at tail
  cases tail
  cases already with
  | rotation other _ found head =>
      cases found.unique frozen
      exact unrotated head
  | deactivation deactivates _ =>
      rw [saga] at deactivates
      cases deactivates

theorem unpublished_of_deactivation {ext : Externals} {log : List Published}
    {task : OperationTask} {faults : EngineFaults} {issuer : Issuer} {now : DateTime}
    {entry : LogEntry} (saga : task.taskType = .deactivateIssuer)
    (built : buildDeactivationEntry ext.core ext.engine faults issuer (entries log) now =
      .ok entry) : Unpublished ext log task := by
  rcases buildDeactivationEntry_ok built with ⟨_, _, last, _, tail, live, _⟩
  intro published same already
  rw [getLast?_entries, same] at tail
  cases tail
  cases already with
  | rotation _ rotates _ _ =>
      rw [saga] at rotates
      cases rotates
  | deactivation _ ended => exact live ended

theorem untouched_performed {ext : Externals} {id : TaskId} {first world : World}
    {calls : StepCalls} {task : OperationTask} {nextStep : Option String} {effect : Effect}
    (tracked : Tracked ext world) (untouched : Untouched ext id first world) (own : task.id = id)
    (graceful_ : graceful id world (.perform calls) = true)
    (held : world.worker = .acquired task)
    (performed : Performed ext world task calls nextStep effect) :
    Stage ext id first (world.takes task nextStep effect) := by
  rcases tracked.aggregate task (by rw [held]; rfl) with ⟨found, running⟩
  have live : task.state.isTerminal = false := by rw [running]; rfl
  rcases untouched.early task (own ▸ found) with ⟨early, _, unpublished⟩
  cases performed with
  | generateNewKeys input state saga named =>
      apply untouched_quiet untouched
      intro result done
      refine ⟨_, rfl, ?_, ?_⟩
      · rw [saga]
        decide
      · intro absurd_
        exact absurd absurd_ (by decide)
  | buildRotation state saga named stateRead =>
      apply untouched_quiet untouched
      intro result done
      refine ⟨_, rfl, ?_, ?_⟩
      · rw [saga]
        decide
      · intro _
        unfold executeBuildRotationDidlog at done
        split at done
        · cases done
        · next triple frozen =>
            rcases executeBuildDidlog_done done with ⟨nothing, log, entry, read, built⟩
            rw [fetched_ok read, untouched.log] at built
            exact ⟨nothing, unpublished_of_rotation saga ⟨state, stateRead, frozen⟩ built⟩
  | buildDeactivation saga named =>
      apply untouched_quiet untouched
      intro result done
      refine ⟨_, rfl, ?_, ?_⟩
      · rw [saga]
        decide
      · intro _
        rcases executeBuildDidlog_done done with ⟨nothing, log, entry, read, built⟩
        rw [fetched_ok read, untouched.log] at built
        exact ⟨nothing, unpublished_of_deactivation saga built⟩
  | swapKeys state saga named => exact absurd named (by rw [saga] at early; exact early)
  | markDeactivated saga named => exact absurd named (by rw [saga] at early; exact early)
  | publishRotation state saga named stateRead =>
      have unflagged := (tracked.rotateData found saga stateRead).unflagged (by simp [named])
      have published := rotation_publishCase ext world task calls state
      generalize publishEffect _ _ = effect at published ⊢
      cases published with
      | kept flagged =>
          rw [unflagged] at flagged
          cases flagged
      | failed outcome fails =>
          exact untouched_quiet untouched fun _ done => (done_of_fails fails done).elim
      | already last _ tail rotated =>
          rcases rotated with ⟨triple, frozen, head⟩
          rw [untouched.log] at tail
          exact (unpublished named last tail
            (.rotation triple saga ⟨state, stateRead, frozen⟩ head)).elim
      | put entry _ built stored =>
          rcases built with ⟨triple, frozen, addressed, built⟩
          exact untouched_put untouched own found live graceful_ named stored
            (.rotation triple _ entry saga ⟨state, stateRead, frozen⟩ built) addressed
  | publishDeactivation state saga named stateRead =>
      have unflagged := (tracked.deactivateData found saga stateRead).unflagged (by simp [named])
      have published := deactivation_publishCase ext world task calls state
      generalize publishEffect _ _ = effect at published ⊢
      cases published with
      | kept flagged =>
          rw [unflagged] at flagged
          cases flagged
      | failed outcome fails =>
          exact untouched_quiet untouched fun _ done => (done_of_fails fails done).elim
      | already last _ tail ended =>
          rw [untouched.log] at tail
          exact (unpublished named last tail (.deactivation saga ended)).elim
      | put entry _ built stored =>
          exact untouched_put untouched own found live graceful_ named stored
            (.deactivation _ entry saga built.2) built.1

theorem fetched_again {log : List Published} {calls : StepCalls}
    (build : List LogEntry → Except BuildError LogEntry) (transient : calls.fetch.all RegistryError.isRetryable = true)
    (published : Worker.Published (build (entries log))) :
    (∃ error, fetched log calls = .error error ∧ error.isRetryable = true) ∨
      ∃ read, fetched log calls = .ok read ∧ Worker.Published (build read) := by
  unfold fetched
  cases failing : calls.fetch with
  | none => exact .inr ⟨_, rfl, published⟩
  | some error =>
      rw [failing] at transient
      exact .inl ⟨error, rfl, transient⟩

/-- The publish step executed again: it finds its entry, or is delayed. -/
theorem pushed_again {ext : Externals} {id : TaskId} {first world : World} {task : OperationTask}
    {nextStep : Option String} {entry : LogEntry} {made : Issuer} {outcome : StepOutcome}
    (pushed : Pushed ext id first world task entry made) (live : isTerminal outcome = false)
    (publishes : task.step = some "publish_didlog") :
    Stage ext id first (world.takes task nextStep { outcome := outcome }) := by
  refine .pushed task entry made ⟨?_, pushed.issuer, ?_, pushed.found, pushed.result,
    pushed.addressed, pushed.live, pushed.late, ?_⟩
  · exact (List.append_nil _).trans pushed.log
  · simp [World.takes, pushed.recorded, Effect.records]
  · intro other next ended stepped
    cases stepped
    exact ⟨live, fun _ => publishes⟩

/-- The last step, when the entry is out: the row stays as it is and the step is tried again, or it
has what the entry says. -/
theorem pushed_last {ext : Externals} {id : TaskId} {first world : World} {task : OperationTask}
    {entry : LogEntry} {made row : Issuer} {outcome : StepOutcome}
    (pushed : Pushed ext id first world task entry made) (own : task.id = id)
    (last : task.step = some (lastStep task.taskType)) (live : isTerminal outcome = false)
    (written : row = world.issuer ∨ row = made) (finished : outcome.isDone = true → row = made) :
    Stage ext id first (world.takes task none { outcome := outcome, row := some row }) := by
  subst own
  have log : (world.takes task none { outcome := outcome, row := some row }).log =
      first.log ++ [⟨some task.id, entry⟩] := (List.append_nil _).trans pushed.log
  have recorded : (world.takes task none
      { outcome := outcome, row := some row }).recorded task.id =
      (row != world.issuer || outcome.isDone) := by
    simp [World.takes, pushed.recorded, Effect.records]
  by_cases settles : row ≠ world.issuer ∨ outcome.isDone = true
  · have same : row = made := by
      rcases settles with changed | done
      · exact written.resolve_left changed
      · exact finished done
    refine .settled task entry ⟨log, ?_, pushed.found, ?_, last⟩
    · rw [recorded]
      simpa using settles
    · show Result ext first.issuer first.log task entry row
      rw [same]
      exact pushed.result
  · rw [not_or, not_not] at settles
    refine .pushed task entry made ⟨log, settles.1.trans pushed.issuer, ?_, pushed.found,
      pushed.result, pushed.addressed, pushed.live, .inr last, ?_⟩
    · rw [recorded]
      simp [settles.1, settles.2]
    · intro other next ended stepped
      cases stepped
      exact ⟨live, fun done => (settles.2 done).elim⟩

theorem Result.active {ext : Externals} {issuer made : Issuer} {log : List Published}
    {task : OperationTask} {entry : LogEntry} (result : Result ext issuer log task entry made) :
    issuer.state = some .active := by
  cases result with
  | rotation _ _ _ _ _ built => exact (buildRotationEntry_ok built).1
  | deactivation _ _ _ built => exact (buildDeactivationEntry_ok built).1

theorem Result.rotated {ext : Externals} {issuer made : Issuer} {log : List Published}
    {task : OperationTask} {entry : LogEntry} {state : RotateKeysStateData}
    (result : Result ext issuer log task entry made) (saga : task.taskType = .rotateKeys)
    (stateRead : RotateKeysStateData.decode ext.uuid task.stateData = .ok state) :
    ∃ triple faults, state.newKeyTriple = some triple ∧ made = triple.install issuer ∧
      buildRotationEntry ext.core ext.engine faults issuer triple (entries log) task.createdAt =
        .ok entry := by
  cases result with
  | rotation triple faults _ _ frozen built =>
      rcases frozen with ⟨known, read, kept⟩
      rw [stateRead] at read
      cases read
      exact ⟨triple, faults, kept, rfl, built⟩
  | deactivation _ _ deactivates _ =>
      rw [saga] at deactivates
      cases deactivates

theorem Result.ended {ext : Externals} {issuer made : Issuer} {log : List Published}
    {task : OperationTask} {entry : LogEntry} (result : Result ext issuer log task entry made)
    (saga : task.taskType = .deactivateIssuer) :
    ∃ faults, made = { issuer with state := some .deactivated } ∧
      buildDeactivationEntry ext.core ext.engine faults issuer (entries log) task.createdAt =
        .ok entry := by
  cases result with
  | rotation _ _ _ rotates _ _ =>
      rw [saga] at rotates
      cases rotates
  | deactivation faults _ _ built => exact ⟨faults, rfl, built⟩

section Pushed

variable {ext : Externals} {id : TaskId} {first world : World} {calls : StepCalls}
  {task : OperationTask} {nextStep : Option String} {effect : Effect} {entry : LogEntry}
  {made : Issuer}

theorem Pushed.tail (pushed : Pushed ext id first world task entry made) :
    (entries world.log).getLast? = some entry := by
  rw [getLast?_entries, pushed.log, List.getLast?_concat]
  rfl

theorem Pushed.active (pushed : Pushed ext id first world task entry made) :
    world.issuer.state = some .active := by
  rw [pushed.issuer]
  exact pushed.result.active

/-- The build steps are behind a task whose entry is out. -/
theorem Pushed.built (pushed : Pushed ext id first world task entry made) {name : String}
    (named : task.step.getD name = name) :
    name = "publish_didlog" ∨ name = lastStep task.taskType := by
  rcases pushed.late with late | late <;> rw [late] at named
  · exact .inl named.symm
  · exact .inr named.symm

theorem publishRotation_pushed (pushed : Pushed ext id first world task entry made)
    {state : RotateKeysStateData} (saga : task.taskType = .rotateKeys)
    (named : task.step = some "publish_didlog")
    (stateRead : RotateKeysStateData.decode ext.uuid task.stateData = .ok state)
    (unflagged : state.didlogPublished = false)
    (transient : calls.fetch.all RegistryError.isRetryable = true)
    (backend : calls.faults.areBackend = true) :
    Stage ext id first (world.takes task nextStep
      (publishEffect (prepareRotationPublish ext.core ext.engine world.issuer state
        (fetched world.log calls) calls.faults task.createdAt) calls.put)) := by
  rcases pushed.result.rotated saga stateRead with ⟨triple, faults, kept, _, built⟩
  have again : Worker.Published (buildRotationEntry ext.core ext.engine calls.faults
      world.issuer triple (entries world.log) task.createdAt) := by
    rw [pushed.issuer]
    exact buildRotationEntry_again built pushed.tail backend
  rcases preparePublish_again (pushed.issuer ▸ pushed.addressed)
    (fetched_again (fun log => buildRotationEntry ext.core ext.engine calls.faults
      world.issuer triple log task.createdAt) transient again) with ⟨outcome, prepared, live⟩
  have unprepared : prepareRotationPublish ext.core ext.engine world.issuer state
      (fetched world.log calls) calls.faults task.createdAt = .error outcome := by
    rw [prepareRotationPublish, unflagged, kept]
    exact prepared
  rw [unprepared]
  exact pushed_again pushed live named

theorem publishDeactivation_pushed (pushed : Pushed ext id first world task entry made)
    {state : DeactivateIssuerStateData} (saga : task.taskType = .deactivateIssuer)
    (named : task.step = some "publish_didlog")
    (unflagged : state.didlogPublished = false)
    (transient : calls.fetch.all RegistryError.isRetryable = true) :
    Stage ext id first (world.takes task nextStep
      (publishEffect (prepareDeactivationPublish ext.core ext.engine world.issuer state
        (fetched world.log calls) calls.faults task.createdAt) calls.put)) := by
  rcases pushed.result.ended saga with ⟨faults, _, built⟩
  have again : Worker.Published (buildDeactivationEntry ext.core ext.engine calls.faults
      world.issuer (entries world.log) task.createdAt) := by
    rw [pushed.issuer]
    exact .inl (buildDeactivationEntry_again built pushed.tail)
  rcases preparePublish_again (pushed.issuer ▸ pushed.addressed)
    (fetched_again (fun log => buildDeactivationEntry ext.core ext.engine calls.faults
      world.issuer log task.createdAt) transient again) with ⟨outcome, prepared, live⟩
  have unprepared : prepareDeactivationPublish ext.core ext.engine world.issuer state
      (fetched world.log calls) calls.faults task.createdAt = .error outcome := by
    rw [prepareDeactivationPublish, unflagged]
    exact prepared
  rw [unprepared]
  exact pushed_again pushed live named

theorem swapKeys_pushed (pushed : Pushed ext id first world task entry made) (own : task.id = id)
    {state : RotateKeysStateData} (saga : task.taskType = .rotateKeys)
    (named : task.step = some "swap_keys")
    (stateRead : RotateKeysStateData.decode ext.uuid task.stateData = .ok state)
    (ownRow : isRow world.issuer task.tenantId world.issuer.id = true) :
    Stage ext id first (world.takes task none (rowEffect
      (executeSwapKeys world.issuer task.tenantId world.issuer.id state calls.swap))) := by
  rcases pushed.result.rotated saga stateRead with ⟨triple, _, kept, installed, _⟩
  rw [← pushed.issuer] at installed
  have live := executeSwapKeys_live ownRow pushed.active kept calls.swap
  cases executed : executeSwapKeys world.issuer task.tenantId world.issuer.id state calls.swap with
  | mk row outcome =>
  rw [executed] at live
  rcases executeSwapKeys_cases executed with ⟨written, finished⟩
  have same : ∀ other : KeyTriple, state.newKeyTriple = some other ∧
      world.issuer.state = some .active ∧ row = other.install world.issuer → row = made := by
    rintro other ⟨frozen, _, rfl⟩
    rw [kept] at frozen
    cases frozen
    exact installed.symm
  refine pushed_last pushed own (by rw [saga]; exact named) live ?_ ?_
  · exact written.imp_right fun ⟨other, set⟩ => same other set
  · intro done
    cases outcome with
    | done result =>
        rcases (finished result rfl).2 with ⟨other, set⟩
        exact same other set
    | retry | terminal => cases done

theorem markDeactivated_pushed (pushed : Pushed ext id first world task entry made)
    (own : task.id = id) (saga : task.taskType = .deactivateIssuer)
    (named : task.step = some "mark_deactivated")
    (ownRow : isRow world.issuer task.tenantId world.issuer.id = true) :
    Stage ext id first (world.takes task none (rowEffect
      (executeMarkDeactivated world.issuer task.tenantId world.issuer.id calls.mark))) := by
  rcases pushed.result.ended saga with ⟨_, marked, _⟩
  rw [← pushed.issuer] at marked
  have live := executeMarkDeactivated_live ownRow pushed.active calls.mark
  cases executed :
      executeMarkDeactivated world.issuer task.tenantId world.issuer.id calls.mark with
  | mk row outcome =>
  rw [executed] at live
  rcases executeMarkDeactivated_cases executed with ⟨written, finished⟩
  refine pushed_last pushed own (by rw [saga]; exact named) live ?_ ?_
  · rw [marked]
    exact written
  · intro done
    cases outcome with
    | done result =>
        rw [marked]
        exact (finished result rfl).2
    | retry | terminal => cases done

theorem pushed_performed (tracked : Tracked ext world)
    (pushed : Pushed ext id first world task entry made) (own : task.id = id)
    (graceful_ : graceful id world (.perform calls) = true)
    (held : world.worker = .acquired task)
    (concerned : task.tenantId = world.issuer.tenantId ∧
      task.resultIssuerId = some world.issuer.id)
    (performed : Performed ext world task calls nextStep effect) :
    Stage ext id first (world.takes task nextStep effect) := by
  rcases tracked.aggregate task (by rw [held]; rfl) with ⟨found, running⟩
  simp only [graceful, Bool.and_eq_true, pushed.outstanding, Bool.not_true, Bool.false_or]
    at graceful_
  rcases graceful_ with ⟨_, transient, backend⟩
  have ownRow : isRow world.issuer task.tenantId world.issuer.id = true := by
    simp [isRow, concerned.1]
  cases performed with
  | generateNewKeys input state saga named =>
      rcases pushed.built named with absurd_ | absurd_
      · exact absurd absurd_ (by decide)
      · rw [saga] at absurd_
        exact absurd absurd_ (by decide)
  | buildRotation state saga named =>
      rcases pushed.built (congrArg (Option.getD · _) named) with absurd_ | absurd_
      · exact absurd absurd_ (by decide)
      · rw [saga] at absurd_
        exact absurd absurd_ (by decide)
  | buildDeactivation saga named =>
      rcases pushed.built named with absurd_ | absurd_
      · exact absurd absurd_ (by decide)
      · rw [saga] at absurd_
        exact absurd absurd_ (by decide)
  | publishRotation state saga named stateRead =>
      have unflagged := (tracked.rotateData found saga stateRead).unflagged (by simp [named])
      exact publishRotation_pushed pushed saga named stateRead unflagged transient backend
  | publishDeactivation state saga named stateRead =>
      have unflagged := (tracked.deactivateData found saga stateRead).unflagged (by simp [named])
      exact publishDeactivation_pushed pushed saga named unflagged transient
  | swapKeys state saga named stateRead =>
      exact swapKeys_pushed pushed own saga named stateRead ownRow
  | markDeactivated saga named => exact markDeactivated_pushed pushed own saga named ownRow

end Pushed

theorem settled_performed {ext : Externals} {id : TaskId} {first world : World}
    {calls : StepCalls} {task : OperationTask} {nextStep : Option String} {effect : Effect}
    {entry : LogEntry} (settled : Settled ext id first world task entry)
    (performed : Performed ext world task calls nextStep effect) :
    Stage ext id first (world.takes task nextStep effect) := by
  have late := settled.last
  -- the last step once more: it leaves the row as it has made it
  have again : ∀ row outcome, Result ext first.issuer first.log task entry row →
      Stage ext id first (world.takes task nextStep { outcome := outcome, row := some row }) := by
    intro row outcome result
    refine .settled task entry ⟨?_, ?_, settled.found, result, settled.last⟩
    · exact (List.append_nil _).trans settled.log
    · simp [World.takes, settled.recorded]
  cases performed with
  | generateNewKeys input state saga named =>
      rw [late, saga] at named
      exact absurd named (by decide)
  | buildRotation state saga named | publishRotation state saga named =>
      rw [late, saga] at named
      exact absurd named (by decide)
  | buildDeactivation saga named =>
      rw [late, saga] at named
      exact absurd named (by decide)
  | publishDeactivation state saga named =>
      rw [late, saga] at named
      exact absurd named (by decide)
  | swapKeys state saga named stateRead =>
      cases executed :
          executeSwapKeys world.issuer task.tenantId world.issuer.id state calls.swap with
      | mk row outcome =>
      apply again row outcome
      rcases (executeSwapKeys_cases executed).1 with rfl | ⟨triple, kept, _, rfl⟩
      · exact settled.result
      · have result := settled.result
        generalize world.issuer = issuer at result ⊢
        cases result with
        | deactivation _ _ deactivates _ =>
            rw [saga] at deactivates
            cases deactivates
        | rotation other faults _ rotates frozen built =>
            cases frozen.unique ⟨state, stateRead, kept⟩
            exact .rotation triple faults entry rotates frozen built
  | markDeactivated saga named =>
      cases executed :
          executeMarkDeactivated world.issuer task.tenantId world.issuer.id calls.mark with
      | mk row outcome =>
      apply again row outcome
      rcases (executeMarkDeactivated_cases executed).1 with rfl | rfl
      · exact settled.result
      · have result := settled.result
        generalize world.issuer = issuer at result ⊢
        cases result with
        | rotation _ _ _ rotates _ _ =>
            rw [saga] at rotates
            cases rotates
        | deactivation faults _ deactivates built =>
            exact .deactivation faults entry deactivates built

/-- The worker holds no other task. -/
def Only (id : TaskId) (world : World) : Prop :=
  ∀ task, world.worker.task = some task → task.id = id

theorem only_step {ext : Externals} {id : TaskId} {world after : World} {event : Event}
    (tracked : Tracked ext world) (only : Only id world)
    (graceful_ : graceful id world event = true) (move : Move ext world event after) :
    Only id after := by
  intro task holds
  cases move with
  | acquire acquired now row attempts idle found live =>
      cases holds
      have same : acquired = id := by simpa [graceful] using graceful_
      exact (tracked.keyed acquired row found).trans same
  | perform calls held _ _ acquired =>
      cases holds
      exact only _ (by rw [acquired]; rfl)
  | record | release => cases holds
  | checkIssuer | lookup | insert | fail => exact only task holds

theorem stage_step {ext : Externals} {id : TaskId} {first world after : World} {event : Event}
    (tracked : Tracked ext world) (only : Only id world) (stage : Stage ext id first world)
    (graceful_ : graceful id world event = true) (taken : world.step ext event = some after) :
    Stage ext id first after := by
  -- the events that touch neither the row of the task nor the worker
  have aside : after.log = world.log → after.issuer = world.issuer →
      after.recorded = world.recorded → (∀ task nextStep outcome,
        after.worker = .stepped task nextStep outcome →
          world.worker = .stepped task nextStep outcome) →
      (∀ task, world.tasks id = some task → after.tasks id = some task) →
      (world.tasks id = none → ∀ row, after.tasks id = some row →
        row.step = none ∧ row.state = .pending) → Stage ext id first after := by
    intro log issuer recorded worker same new
    refine stage_placed stage log issuer recorded worker ?_ new
    intro task found
    exact ⟨task, same task found, ⟨rfl, rfl, rfl, rfl⟩, fun same => same,
      fun _ _ pushed => pushed.live⟩
  have unchanged : after.tasks = world.tasks → world.tasks id = none → ∀ row,
      after.tasks id = some row → row.step = none ∧ row.state = .pending := by
    intro same absent row found
    rw [same, absent] at found
    cases found
  cases step_move taken with
  | acquire acquired now task attempts idle found live =>
      have same : acquired = id := by simpa [graceful] using graceful_
      subst same
      refine stage_placed stage rfl rfl rfl (fun _ _ _ absurd => by cases absurd) ?_ ?_
      · intro other present
        rw [found] at present
        cases present
        exact ⟨_, Function.update_self .., ⟨rfl, rfl, rfl, rfl⟩, (fun _ absurd => by cases absurd),
          fun _ _ _ => rfl⟩
      · intro absent
        rw [found] at absent
        cases absent
  | record now word task nextStep outcome write row stepped finished present =>
      have held := (tracked.aggregate task (by rw [stepped]; rfl)).1
      rw [present] at held
      cases held
      exact stage_record tracked stage (only _ (by rw [stepped]; rfl)) graceful_ stepped finished
  | perform calls task nextStep effect held concerned performed unused =>
      have own := only task (by rw [held]; rfl)
      have found := (tracked.aggregate task (by rw [held]; rfl)).1
      cases stage with
      | untouched untouched =>
          exact untouched_performed tracked untouched own graceful_ held performed
      | pushed other entry made pushed =>
          have same := pushed.found
          rw [← own, found] at same
          cases same
          exact pushed_performed tracked pushed own graceful_ held concerned performed
      | settled other entry settled =>
          have same := settled.found
          rw [← own, found] at same
          cases same
          exact settled_performed settled performed
  | release =>
      exact aside rfl rfl rfl (fun _ _ _ absurd => by cases absurd) (fun _ same => same)
        (unchanged rfl)
  | checkIssuer | lookup | fail =>
      exact aside rfl rfl rfl (fun _ _ _ same => same) (fun _ same => same) (unchanged rfl)
  | insert r new now submission inserting absent =>
      refine aside rfl rfl rfl (fun _ _ _ same => same) ?_ ?_
      · intro task found
        show Function.update world.tasks new _ id = some task
        rw [Function.update_of_ne ?_, found]
        rintro rfl
        rw [absent] at found
        cases found
      · intro before row found
        rcases update_some_cases found with ⟨_, rfl⟩ | ⟨_, old⟩
        · exact ⟨rfl, rfl⟩
        · rw [before] at old
          cases old

theorem stage_initial {ext : Externals} {id : TaskId} {world : World} (initial : Initial world)
    (queued : ∀ task, world.tasks id = some task → task.state.isTerminal = false) :
    Stage ext id world world := by
  refine .untouched ⟨rfl, rfl, initial.unrecorded id, ?_, ?_⟩
  · intro task found
    rw [(initial.queued id task found).1]
    refine ⟨(fun absurd => by cases absurd), ?_, (fun absurd => by cases absurd)⟩
    intro completed
    have live := queued task found
    rw [completed] at live
    cases live
  · intro task nextStep result stepped
    rw [initial.idle] at stepped
    cases stepped

theorem showsTriple_of_built {ext : Externals} {faults : EngineFaults} {issuer : Issuer}
    {triple : KeyTriple} {log : List LogEntry} {now : DateTime} {entry : LogEntry}
    (built : buildRotationEntry ext.core ext.engine faults issuer triple log now = .ok entry) :
    ShowsTriple ext entry triple := by
  rcases buildRotationEntry_ok built with
    ⟨_, _, _, _, _, _, keys, _, _, doc, authentication, assertion, shown⟩
  exact ⟨keys, doc, authentication, assertion, shown⟩

theorem Settled.reconciled {ext : Externals} {id : TaskId} {first world : World}
    {task : OperationTask} {entry : LogEntry} (settled : Settled ext id first world task entry)
    (own : task.id = id) (unauthored : ∀ published ∈ first.log, published.author = none) :
    Reconciled ext world task := by
  subst own
  constructor
  · have none_ : first.log.filter (fun published => published.author == some task.id) = [] := by
      apply List.filter_eq_nil_iff.mpr
      intro published member
      simp [unauthored published member]
    rw [settled.log, List.filter_append, none_]
    simp
  · refine ⟨⟨some task.id, entry⟩, ?_, ?_⟩
    · rw [settled.log, List.getLast?_concat]
    · have result := settled.result
      generalize world.issuer = issuer at result ⊢
      cases result with
      | rotation triple faults _ rotates frozen built =>
          rw [rotates]
          refine ⟨triple, showsTriple_of_built built, ?_⟩
          intro role
          cases role <;> rfl
      | deactivation faults _ deactivates built =>
          rw [deactivates]
          rcases buildDeactivationEntry_ok built with ⟨_, _, _, _, _, _, ended, _⟩
          exact ⟨ended, rfl⟩

/-- As long as nothing but transient failures happens between the `PUT` that is stored and the last
step, and none of them is recorded a day after the task's creation, a completed task leaves the row
and the log in agreement, and a failed one leaves both as they were or both changed. -/
theorem terminal_tasks_agree {ext : Externals} {id : TaskId} {first last : World}
    {trace : List Event} {task : OperationTask} (initial : Initial first)
    (queued : ∀ task, first.tasks id = some task → task.state.isTerminal = false)
    (run : Run (Guarded (fun world event => graceful id world event = true)
      (Steps (World.step ext))) first trace last) (found : last.tasks id = some task) :
    (task.state = .completed → Reconciled ext last task) ∧
      (task.state = .failed → (last.log = first.log ∧ last.issuer = first.issuer) ∨
        Reconciled ext last task) := by
  have idle : Only id first := by
    intro held absurd
    rw [initial.idle] at absurd
    cases absurd
  have kept := run.invariant_under (fun world => Tracked ext world ∧ Only id world)
    (Stage ext id first)
    (fun _ _ _ known taken =>
      ⟨tracked_step known.1 taken.2, only_step known.1 known.2 taken.1 (step_move taken.2)⟩)
    (fun _ _ _ known stage taken => stage_step known.1 known.2 stage taken.1 taken.2)
    ⟨tracked_initial ext initial, idle⟩ (stage_initial initial queued)
  have own := kept.1.1.keyed id task found
  cases kept.2 with
  | untouched untouched =>
      exact ⟨fun completed => absurd completed (untouched.early task found).2.1,
        fun _ => .inl ⟨untouched.log, untouched.issuer⟩⟩
  | pushed other entry made pushed =>
      have same := pushed.found
      rw [found] at same
      cases same
      have live := pushed.live
      constructor <;> intro ended <;> rw [ended] at live <;> cases live
  | settled other entry settled =>
      have same := settled.found
      rw [found] at same
      cases same
      have reconciled := settled.reconciled own initial.unauthored
      exact ⟨fun _ => reconciled, fun _ => .inr reconciled⟩

section Sample

def oneRotation : World := sampleWorld [sampleTask "1" (.rotate ⟨[.authorized]⟩) 0]

theorem oneRotation_initial : Initial oneRotation := by
  apply sampleWorld_initial
  simp [sampleTask, newTask]

theorem oneRotation_queued (task : OperationTask) (found : oneRotation.tasks ⟨"1"⟩ = some task) :
    task.state.isTerminal = false := by
  cases found
  rfl

def unacknowledged : StepCalls :=
  { sampleCalls sampleIssuer with
    put := .unacknowledged (.registry ⟨.transport, "timeout", true⟩) }

def repeatedPublish : List Event :=
  [1, 2].flatMap (fun now => dispatched "1" now (sampleCalls sampleIssuer)) ++
    dispatched "1" 3 unacknowledged ++
    [1, 2].flatMap fun hour => dispatched "1" (hours hour) (sampleCalls sampleIssuer)

def taskState (world : World) : Option TaskState := (world.tasks ⟨"1"⟩).map (·.state)

theorem terminal_tasks_agree_sample : ∃ last task,
    Run (Guarded (fun world event => graceful ⟨"1"⟩ world event = true)
      (Steps (World.step sampleExternals))) oneRotation repeatedPublish last ∧
    last.tasks ⟨"1"⟩ = some task ∧ task.state = .completed ∧
    Reconciled sampleExternals last task := by
  have computed : (exec (checked (graceful ⟨"1"⟩) (World.step sampleExternals)) oneRotation
      repeatedPublish).map taskState = some (some .completed) := by decide
  rcases Option.map_eq_some_iff.mp computed with ⟨last, executed, state⟩
  rcases Option.map_eq_some_iff.mp state with ⟨task, found, completed⟩
  have run := Run.of_checked executed
  exact ⟨last, task, run, found, completed, (terminal_tasks_agree oneRotation_initial
    oneRotation_queued run found).1 completed⟩

/-- The failure of the stored `PUT` is recorded a day after the task's creation. -/
def cappedPublish : List Event :=
  [1, 2].flatMap (fun now => dispatched "1" now (sampleCalls sampleIssuer)) ++
    [.acquire ⟨"1"⟩ 3, .perform unacknowledged, .record (hours 25) 0]

structure CapReport where
  state : Option TaskState
  entries : Nat
  tail : Option (Option (List String))
  authorized : Option KeyPairId
  row : Option IssuerState
deriving DecidableEq

def capReport (world : World) : CapReport where
  state := taskState world
  entries := world.log.length
  tail := world.log.getLast?.map (·.entry.updateKeys)
  authorized := world.issuer.authorizedKeyId
  row := world.issuer.state

/-- The task has failed, the log has its entry and the row has the old keys. -/
theorem capped_publish_splits_row_and_log : Initial oneRotation ∧ ∃ last task,
    Run (Steps (World.step sampleExternals)) oneRotation cappedPublish last ∧
    last.tasks ⟨"1"⟩ = some task ∧ task.state = .failed ∧
    ¬ ((last.log = oneRotation.log ∧ last.issuer = oneRotation.issuer) ∨
      Reconciled sampleExternals last task) := by
  refine ⟨oneRotation_initial, ?_⟩
  have computed : (exec (World.step sampleExternals) oneRotation cappedPublish).map capReport =
      some ⟨some .failed, 2, some (some [letterEngine.multikey plainCore ⟨"e2"⟩]),
        some ⟨"e0"⟩, some .active⟩ := by decide
  rcases Option.map_eq_some_iff.mp computed with ⟨last, executed, report⟩
  simp only [capReport, CapReport.mk.injEq] at report
  rcases report with ⟨state, length, shown, authorized, active⟩
  rcases Option.map_eq_some_iff.mp state with ⟨task, found, failed⟩
  have run := Run.of_exec executed
  refine ⟨last, task, run, found, failed, ?_⟩
  rintro (⟨unchanged, _⟩ | ⟨_, tail, there, agreed⟩)
  · rw [unchanged] at length
    cases length
  · split at agreed
    · rcases agreed with ⟨triple, ⟨keys, _⟩, row⟩
      rw [there, Option.map_some, keys] at shown
      have own := row .authorized
      simp only [Issuer.keyIdForRole, authorized, KeyTriple.forRole, Option.some.injEq] at own
      rw [← own] at shown
      exact absurd shown (by decide)
    · have ended := agreed.2
      rw [active] at ended
      cases ended
    · exact agreed

end Sample

end SwiyuIssuer.Saga
