import SwiyuIssuer.Saga.World
import SwiyuIssuer.Worker.Rebuild

/-! What one step of the system can do. -/

namespace SwiyuIssuer.Saga

open Library Persistence Worker

theorem outcomeForBuildError_fails (texts : SagaTexts) (step : String) (error : BuildError) :
    (outcomeForBuildError texts step error).isDone = false := by
  unfold outcomeForBuildError
  split <;> rfl

theorem fromTokenAwareError_fails (error : TokenAwareError) (retryCode terminalCode : String) :
    (fromTokenAwareError error retryCode terminalCode).isDone = false := by
  unfold fromTokenAwareError
  split
  · split <;> rfl
  · rfl
  · split <;> rfl
  · split <;> rfl

theorem parseIssuerDid_fails {core : SwiyuCore} {issuer : Issuer} {outcome : StepOutcome}
    (failed : parseIssuerDid core issuer = .error outcome) : outcome.isDone = false := by
  unfold parseIssuerDid at failed
  cases parsed : core.parseDid issuer.did <;> rw [parsed] at failed <;> cases failed
  rfl

theorem fetchLog_ok {answer : Except RegistryError (List LogEntry)} {log : List LogEntry} :
    fetchLog answer = .ok log ↔ answer = .ok log :=
  Answers.mapError_ok

theorem fetchLog_fails {answer : Except RegistryError (List LogEntry)} {outcome : StepOutcome}
    (failed : fetchLog answer = .error outcome) : outcome.isDone = false := by
  unfold fetchLog at failed
  cases answer with
  | ok log => cases failed
  | error e =>
      cases failed
      show (if e.isRetryable then _ else _ : StepOutcome).isDone = false
      split <;> rfl

theorem settleBuild_error {texts : SagaTexts} {built : Except BuildError LogEntry}
    {outcome : StepOutcome} (failed : settleBuild texts built = .error outcome) :
    (built = .error .already ∧ outcome = .done didlogPublishedPatch) ∨ outcome.isDone = false := by
  unfold settleBuild at failed
  split at failed <;> cases failed
  · exact .inl ⟨rfl, rfl⟩
  · exact .inr (outcomeForBuildError_fails ..)

theorem settleBuild_ok {texts : SagaTexts} {built : Except BuildError LogEntry} {entry : LogEntry}
    (settled : settleBuild texts built = .ok entry) : built = .ok entry := by
  unfold settleBuild at settled
  split at settled <;> cases settled
  rfl

theorem requireIdentifier_fails {issuer : Issuer} {path : Option String} {outcome : StepOutcome}
    (failed : requireIdentifier issuer path = .error outcome) : outcome.isDone = false := by
  unfold requireIdentifier at failed
  split at failed <;> cases failed
  rfl

section Publish

variable {core : SwiyuCore} {texts : SagaTexts} {issuer : Issuer}
  {answer : Except RegistryError (List LogEntry)}
  {build : List LogEntry → Except BuildError LogEntry}

theorem preparePublish_ok {log : List LogEntry} {entry : LogEntry}
    (prepared : preparePublish core texts issuer answer build = .ok (log, entry)) :
    answer = .ok log ∧ Addressed core issuer ∧ build log = .ok entry := by
  simp only [preparePublish, Answers.bind_ok] at prepared
  rcases prepared with ⟨_, parsed, _, identified, read, fetched, built, settled, same⟩
  cases same
  exact ⟨fetchLog_ok.mp fetched, ⟨_, _, parsed, identified⟩, settleBuild_ok settled⟩

theorem preparePublish_error {outcome : StepOutcome}
    (failed : preparePublish core texts issuer answer build = .error outcome) :
    (∃ log, answer = .ok log ∧ build log = .error .already ∧
      outcome = .done didlogPublishedPatch) ∨ outcome.isDone = false := by
  simp only [preparePublish, Answers.bind_error] at failed
  rcases failed with unparsed | ⟨path, _, unidentified | ⟨_, _, unread | ⟨log, read, unbuilt |
    ⟨_, _, absurd⟩⟩⟩⟩
  · exact .inr (parseIssuerDid_fails unparsed)
  · exact .inr (requireIdentifier_fails unidentified)
  · exact .inr (fetchLog_fails unread)
  · rcases settleBuild_error unbuilt with ⟨built, same⟩ | fails
    · exact .inl ⟨log, fetchLog_ok.mp read, built, same⟩
    · exact .inr fails
  · cases absurd

theorem executeBuildDidlog_done {step : String} {result : StepResult}
    (executed : executeBuildDidlog core texts step issuer answer build = .done result) :
    result.stateDataPatch = [] ∧ ∃ log entry, answer = .ok log ∧ build log = .ok entry := by
  unfold executeBuildDidlog stepOutcome at executed
  split at executed
  · next outcome taken =>
      simp only [Answers.bind_ok, Answers.mapError_ok] at taken
      rcases taken with ⟨_, _, log, read, entry, built, same⟩
      cases same
      cases executed
      exact ⟨rfl, log, entry, fetchLog_ok.mp read, built⟩
  · next outcome taken =>
      simp only [Answers.bind_error] at taken
      have fails : outcome.isDone = false := by
        rcases taken with unparsed | ⟨_, _, unread | ⟨log, _, unbuilt | ⟨_, _, absurd⟩⟩⟩
        · exact parseIssuerDid_fails unparsed
        · exact fetchLog_fails unread
        · cases built : build log with
          | ok entry =>
              rw [built] at unbuilt
              cases unbuilt
          | error error =>
              rw [built] at unbuilt
              cases unbuilt
              exact outcomeForBuildError_fails ..
        · cases absurd
      rw [executed] at fails
      cases fails

end Publish

theorem getLast?_entries (log : List Published) :
    (entries log).getLast? = log.getLast?.map Published.entry :=
  List.getLast?_map

theorem fetched_ok {log : List Published} {calls : StepCalls} {read : List LogEntry}
    (answered : fetched log calls = .ok read) : read = entries log := by
  unfold fetched at answered
  split at answered <;> cases answered
  rfl

/-- The publish step of either saga: nothing is stored, or the entry built on the current log is.
`Already` is what the builder finds in the tail when it reports the entry as published. -/
inductive PublishCase (world : World) (calls : StepCalls) (flag : Bool)
    (Already : LogEntry → Prop) (Built : LogEntry → Prop) : Effect → Prop
  | kept : flag = true → PublishCase world calls flag Already Built { outcome := .done {} }
  | already (last : Published) : flag = false → world.log.getLast? = some last →
      Already last.entry →
      PublishCase world calls flag Already Built { outcome := .done didlogPublishedPatch }
  | failed (outcome : StepOutcome) : outcome.isDone = false →
      PublishCase world calls flag Already Built { outcome := outcome }
  | put (entry : LogEntry) : flag = false → Built entry → calls.put.stored = true →
      PublishCase world calls flag Already Built
        { outcome := afterPut calls.put.answer, stored := some entry }

theorem PublishCase.imp {world : World} {calls : StepCalls} {flag : Bool}
    {Already Built Already' Built' : LogEntry → Prop} {effect : Effect}
    (published : PublishCase world calls flag Already Built effect)
    (already : ∀ last, Already last → Already' last) (built : ∀ entry, Built entry → Built' entry) :
    PublishCase world calls flag Already' Built' effect := by
  cases published with
  | kept flagged => exact .kept flagged
  | already last unflagged tail found => exact .already last unflagged tail (already _ found)
  | failed outcome fails => exact .failed outcome fails
  | put entry unflagged made stored => exact .put entry unflagged (built _ made) stored

theorem afterPut_fails {error : TokenAwareError} : (afterPut (.error error)).isDone = false :=
  fromTokenAwareError_fails ..

theorem publishCase {world : World} {calls : StepCalls} {core : SwiyuCore} {texts : SagaTexts}
    {issuer : Issuer} {build : List LogEntry → Except BuildError LogEntry}
    {Already : LogEntry → Prop}
    (already : ∀ log, build log = .error .already → ∃ last, log.getLast? = some last ∧ Already last) :
    PublishCase world calls false Already
      (fun entry => Addressed core issuer ∧ build (entries world.log) = .ok entry)
      (publishEffect (preparePublish core texts issuer (fetched world.log calls) build)
        calls.put) := by
  cases prepared : preparePublish core texts issuer (fetched world.log calls) build with
  | ok read =>
      rcases read with ⟨log, entry⟩
      rcases preparePublish_ok prepared with ⟨read, addressed, built⟩
      rw [fetched_ok read] at built
      by_cases stored : calls.put.stored = true
      · simp only [publishEffect, stored, if_true]
        exact .put entry rfl ⟨addressed, built⟩ stored
      · simp only [publishEffect, stored]
        have refused : ∃ error, calls.put.answer = .error error := by
          cases put : calls.put <;> simp_all [PutResult.stored, PutResult.answer]
        rcases refused with ⟨error, answered⟩
        rw [answered]
        exact .failed _ afterPut_fails
  | error outcome =>
      rcases preparePublish_error prepared with ⟨log, read, built, rfl⟩ | fails
      · rcases already log built with ⟨last, found, rotated⟩
        rw [fetched_ok read, getLast?_entries] at found
        rcases Option.map_eq_some_iff.mp found with ⟨published, tail, rfl⟩
        exact .already published rfl tail rotated
      · exact .failed outcome fails

/-- A step that reaches its executor, with what it has decoded: one case for each arm. -/
inductive Performed (ext : Externals) (world : World) (task : OperationTask) (calls : StepCalls) :
    Option String → Effect → Prop
  | generateNewKeys (input : RotateKeysInput) (state : RotateKeysStateData) :
      task.taskType = .rotateKeys →
      task.step.getD "generate_new_keys" = "generate_new_keys" →
      RotateKeysInput.decode task.input = .ok input →
      RotateKeysStateData.decode ext.uuid task.stateData = .ok state →
      Performed ext world task calls (some "build_rotation_didlog")
        { outcome := executeGenerateNewKeys world.issuer input state calls.generated
          generated :=
            if state.newKeyTriple.isSome then [] else created calls.generated input.roles }
  | buildRotation (state : RotateKeysStateData) : task.taskType = .rotateKeys →
      task.step = some "build_rotation_didlog" →
      RotateKeysStateData.decode ext.uuid task.stateData = .ok state →
      Performed ext world task calls (some "publish_didlog")
        { outcome := executeBuildRotationDidlog ext.core ext.engine world.issuer state
            (fetched world.log calls) calls.faults task.createdAt }
  | publishRotation (state : RotateKeysStateData) : task.taskType = .rotateKeys →
      task.step = some "publish_didlog" →
      RotateKeysStateData.decode ext.uuid task.stateData = .ok state →
      Performed ext world task calls (some "swap_keys")
        (publishEffect (prepareRotationPublish ext.core ext.engine world.issuer state
          (fetched world.log calls) calls.faults task.createdAt) calls.put)
  | swapKeys (state : RotateKeysStateData) : task.taskType = .rotateKeys →
      task.step = some "swap_keys" →
      RotateKeysStateData.decode ext.uuid task.stateData = .ok state →
      Performed ext world task calls none
        (rowEffect (executeSwapKeys world.issuer task.tenantId world.issuer.id state calls.swap))
  | buildDeactivation : task.taskType = .deactivateIssuer →
      task.step.getD "build_deactivation_didlog" = "build_deactivation_didlog" →
      Performed ext world task calls (some "publish_didlog")
        { outcome := executeBuildDeactivationDidlog ext.core ext.engine world.issuer
            (fetched world.log calls) calls.faults task.createdAt }
  | publishDeactivation (state : DeactivateIssuerStateData) :
      task.taskType = .deactivateIssuer → task.step = some "publish_didlog" →
      DeactivateIssuerStateData.decode task.stateData = .ok state →
      Performed ext world task calls (some "mark_deactivated")
        (publishEffect (prepareDeactivationPublish ext.core ext.engine world.issuer state
          (fetched world.log calls) calls.faults task.createdAt) calls.put)
  | markDeactivated : task.taskType = .deactivateIssuer → task.step = some "mark_deactivated" →
      Performed ext world task calls none
        (rowEffect (executeMarkDeactivated world.issuer task.tenantId world.issuer.id calls.mark))

theorem step_of_getD {step : Option String} {first name : String}
    (named : step.getD first = name) (later : name ≠ first) : step = some name := by
  cases step with
  | none => exact absurd named.symm later
  | some current => exact congrArg some named

theorem answersFromRow_issuer {world : World} {task : OperationTask} {loads : Loads}
    {issuer : Issuer} (consistent : answersFromRow world task loads = true)
    (read : loads.issuer = .ok (some issuer)) :
    issuer = world.issuer ∧ task.tenantId = world.issuer.tenantId ∧
      task.resultIssuerId = some world.issuer.id := by
  unfold answersFromRow at consistent
  rw [read] at consistent
  simp only [Bool.and_eq_true, beq_iff_eq] at consistent
  rcases consistent with ⟨⟨rfl, tenant⟩, named⟩
  exact ⟨rfl, tenant, named⟩

theorem rotate_performed {ext : Externals} {world : World} {task : OperationTask}
    {calls : StepCalls} {input : RotateKeysInput} {state : RotateKeysStateData} {tenant : Tenant}
    {arm : Arm RotateKeysStep} (saga : task.taskType = .rotateKeys)
    (inputRead : RotateKeysInput.decode task.input = .ok input)
    (stateRead : RotateKeysStateData.decode ext.uuid task.stateData = .ok state)
    (known : rotateKeysArm (task.step.getD "generate_new_keys") = some arm) :
    Performed ext world task calls arm.nextStep
      (rotateStep ext world task calls input state (tenant, world.issuer) arm.step) := by
  unfold rotateKeysArm at known
  split at known
  all_goals cases known
  · next named => exact .generateNewKeys input state saga named inputRead stateRead
  · next named => exact .buildRotation state saga (step_of_getD named (by decide)) stateRead
  · next named => exact .publishRotation state saga (step_of_getD named (by decide)) stateRead
  · next named => exact .swapKeys state saga (step_of_getD named (by decide)) stateRead

theorem deactivate_performed {ext : Externals} {world : World} {task : OperationTask}
    {calls : StepCalls} {input : DeactivateIssuerInput} {state : DeactivateIssuerStateData}
    {tenant : Tenant} {arm : Arm DeactivateIssuerStep} (saga : task.taskType = .deactivateIssuer)
    (stateRead : DeactivateIssuerStateData.decode task.stateData = .ok state)
    (known : deactivateIssuerArm (task.step.getD "build_deactivation_didlog") = some arm) :
    Performed ext world task calls arm.nextStep
      (deactivateStep ext world task calls input state (tenant, world.issuer) arm.step) := by
  unfold deactivateIssuerArm at known
  split at known
  all_goals cases known
  · next named => exact .buildDeactivation saga named
  · next named => exact .publishDeactivation state saga (step_of_getD named (by decide)) stateRead
  · next named => exact .markDeactivated saga (step_of_getD named (by decide))

theorem executeStep_performed {ext : Externals} {world : World} {task : OperationTask}
    {calls : StepCalls} {nextStep : Option String} {effect : Effect}
    (consistent : answersFromRow world task calls.loads = true)
    (executed : executeStep ext world task calls = some (.ok (nextStep, effect))) :
    (task.tenantId = world.issuer.tenantId ∧ task.resultIssuerId = some world.issuer.id) ∧
      Performed ext world task calls nextStep effect := by
  unfold executeStep at executed
  split at executed
  · next saga =>
      rcases Saga.execute_ok _ (Option.some.inj executed) with
        ⟨input, state, ⟨tenant, issuer⟩, arm, inputRead, stateRead, loaded, known, _, rfl, rfl⟩
      rcases loadTenantAndIssuer_ok.mp loaded with ⟨_, _, _, read⟩
      rcases answersFromRow_issuer consistent read with ⟨rfl, concerned⟩
      exact ⟨concerned, rotate_performed saga inputRead stateRead known⟩
  · next saga =>
      rcases Saga.execute_ok _ (Option.some.inj executed) with
        ⟨input, state, ⟨tenant, issuer⟩, arm, _, stateRead, loaded, known, _, rfl, rfl⟩
      rcases loadTenantAndIssuer_ok.mp loaded with ⟨_, _, _, read⟩
      rcases answersFromRow_issuer consistent read with ⟨rfl, concerned⟩
      exact ⟨concerned, deactivate_performed saga stateRead known⟩
  · cases executed

theorem Performed.nextStep_eq {ext : Externals} {world : World} {task : OperationTask}
    {calls : StepCalls} {nextStep : Option String} {effect : Effect}
    (performed : Performed ext world task calls nextStep effect) :
    nextStep = successor task.taskType task.step := by
  cases performed with
  | generateNewKeys _ _ saga named | buildDeactivation saga named =>
      simp only [successor, saga, named]
      rfl
  | buildRotation _ saga named | publishRotation _ saga named | swapKeys _ saga named
  | publishDeactivation _ saga named | markDeactivated saga named =>
      simp only [successor, saga, named]
      rfl

/-- What one step can do. -/
inductive Move (ext : Externals) (world : World) : Event → World → Prop
  | acquire (id : TaskId) (now : DateTime) (task : OperationTask) (attempts : Nat) :
      world.worker = .idle → world.tasks id = some task → task.state.isTerminal = false →
      Move ext world (.acquire id now)
        (world.setTask id (task.claimed attempts now) (.acquired (task.claimed attempts now)))
  | perform (calls : StepCalls) (task : OperationTask) (nextStep : Option String)
      (effect : Effect) : world.worker = .acquired task →
      task.tenantId = world.issuer.tenantId ∧ task.resultIssuerId = some world.issuer.id →
      Performed ext world task calls nextStep effect → fresh ext world effect.generated = true →
      Move ext world (.perform calls) (world.takes task nextStep effect)
  | record (now : DateTime) (word : UInt64) (task : OperationTask) (nextStep : Option String)
      (outcome : StepOutcome) (write : TaskWrite) (row : OperationTask) :
      world.worker = .stepped task nextStep outcome →
      finish task nextStep outcome now word = .ok write → world.tasks task.id = some row →
      Move ext world (.record now word) (world.setTask task.id (write.perform row) .idle)
  | release (event : Event) : Move ext world event world.release
  | checkIssuer (r : Nat) (submission : Submission) (request : Request) :
      world.requests r = .idle →
      request = (match issuerState world.issuer submission with
        | .ok state => .checked submission state
        | .error error => .answered (.error error)) →
      Move ext world (.checkIssuer r submission) (world.answer r request)
  | lookup (r : Nat) (latest : Option TaskId) (submission : Submission) (state : IssuerState) :
      world.requests r = .checked submission state →
      world.isLatest submission latest = true →
      Move ext world (.lookup r latest)
        (world.answer r (decideSubmission submission state (latest.bind world.tasks)))
  | insert (r : Nat) (id : TaskId) (now : DateTime) (submission : Submission) :
      world.requests r = .inserting submission → world.tasks id = none →
      Move ext world (.insert r id now) { world.answer r (.answered (.ok (some id))) with
        tasks := Function.update world.tasks id (some (newTask submission id now))
        ids := id :: world.ids }
  | fail (r : Nat) (details : String) : Move ext world (.fail r details)
      (world.answer r (.answered (.error (.internal details))))

theorem step_move {ext : Externals} {world after : World} {event : Event}
    (taken : world.step ext event = some after) : Move ext world event after := by
  cases event with
  | acquire id now =>
      simp only [World.step] at taken
      split at taken
      · next task idle found =>
          split at taken
          · next ready =>
              split at taken
              · next acquired claimed =>
                  cases taken
                  rw [OperationTask.setAcquired_tryAcquire claimed]
                  rcases OperationTask.tryAcquire_ok claimed with ⟨live, attempts, rfl⟩
                  exact .acquire id now task attempts idle found live
              · next refused =>
                  have live : task.state.isTerminal = false := by
                    simp only [OperationTask.acquirable, Bool.and_eq_true, Bool.not_eq_true']
                      at ready
                    exact ready.1.1
                  rcases OperationTask.tryAcquire_runnable live now with ⟨acquired, claimed⟩
                  rw [claimed] at refused
                  cases refused
          · cases taken
      · cases taken
  | perform calls =>
      simp only [World.step] at taken
      split at taken
      · next task holds =>
          split at taken
          · next consistent =>
              split at taken
              · cases taken
              · cases taken
                exact .release _
              · next nextStep effect executed =>
                  split at taken
                  · next unused =>
                      cases taken
                      rcases executeStep_performed consistent executed with ⟨concerned, performed⟩
                      exact .perform calls task nextStep effect holds concerned performed unused
                  · cases taken
          · cases taken
      · cases taken
  | record now word =>
      simp only [World.step] at taken
      split at taken
      · next task nextStep outcome holds =>
          split at taken
          · next write row finished found =>
              cases taken
              exact .record now word task nextStep outcome write row holds finished found
          · cases taken
            exact .release _
      · cases taken
  | crash =>
      cases taken
      exact .release _
  | checkIssuer r submission =>
      simp only [World.step] at taken
      split at taken
      · next idle =>
          split at taken
          · next state checked =>
              cases taken
              exact .checkIssuer r submission _ idle (by rw [checked])
          · next error refused =>
              cases taken
              exact .checkIssuer r submission _ idle (by rw [refused])
      · cases taken
  | lookup r latest =>
      simp only [World.step] at taken
      split at taken
      · next submission state holds =>
          split at taken
          · next found =>
              cases taken
              exact .lookup r latest submission state holds found
          · cases taken
      · cases taken
  | insert r id now =>
      simp only [World.step] at taken
      split at taken
      · next submission holds absent =>
          cases taken
          exact .insert r id now submission holds absent
      · cases taken
  | fail r details =>
      simp only [World.step] at taken
      split at taken
      · cases taken
        exact .fail r details
      · cases taken
        exact .fail r details
      · cases taken

end SwiyuIssuer.Saga
