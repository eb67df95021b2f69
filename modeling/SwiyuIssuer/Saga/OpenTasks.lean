import SwiyuIssuer.Saga.Tasks

/-! How many tasks of one type an issuer has open, and which keys a rotation writes. -/

namespace SwiyuIssuer.Saga

open Library Persistence Worker

namespace World

/-- A task of this type on this issuer that is not terminal. -/
def isOpen (world : World) (taskType : TaskType) (id : TaskId) : Prop :=
  ∃ task, world.tasks id = some task ∧ task.tenantId = world.issuer.tenantId ∧
    task.resultIssuerId = some world.issuer.id ∧ task.taskType = taskType ∧
    task.state.isTerminal = false

instance (world : World) (taskType : TaskType) (id : TaskId) :
    Decidable (world.isOpen taskType id) :=
  inferInstanceAs (Decidable (∃ task ∈ world.tasks id, _))

def AtMostOneOpen (world : World) : Prop :=
  ∀ taskType first second, world.isOpen taskType first → world.isOpen taskType second →
    first = second

/-- Whatever key of the issuer row a step replaces, its task was asked to rotate it. -/
def SwapsRequested (ext : Externals) (world : World) : Prop :=
  ∀ calls after, world.step ext (.perform calls) = some after →
    ∀ role, after.issuer.keyIdForRole role ≠ world.issuer.keyIdForRole role →
      ∃ task input, world.worker = .acquired task ∧ task.taskType = .rotateKeys ∧
        RotateKeysInput.decode task.input = .ok input ∧ role ∈ input.roles

end World

/-- A handler inserts its task while no other one of the kind stands between its lookup and its
insert, and stamps it later than every earlier task of the kind. -/
def Unraced (world : World) : Event → Prop
  | .insert r _ now => ∀ submission, world.requests r = .inserting submission →
      (∀ other rival, other ≠ r → world.requests other = .inserting rival →
        rival.kind.taskType ≠ submission.kind.taskType) ∧
      ∀ id task, world.tasks id = some task → task.taskType = submission.kind.taskType →
        task.createdAt < now
  | _ => True

/-- Outside the roles that the task is asked to rotate, the triple has the keys of the row. -/
def Keeps (issuer : Issuer) (task : OperationTask) (triple : KeyTriple) : Prop :=
  ∃ input, RotateKeysInput.decode task.input = .ok input ∧
    ∀ role, role ∉ input.roles → issuer.keyIdForRole role = some (triple.forRole role)

def Asks (issuer : Issuer) (submission : Submission) : Prop :=
  submission.tenantId = issuer.tenantId ∧ submission.issuerId = issuer.id

structure Exclusive (ext : Externals) (world : World) : Prop where
  owned : ∀ id task, world.tasks id = some task →
    task.tenantId = world.issuer.tenantId ∧ task.resultIssuerId = some world.issuer.id
  checked : ∀ r submission state, world.requests r = .checked submission state →
    Asks world.issuer submission
  inserting : ∀ r submission, world.requests r = .inserting submission →
    Asks world.issuer submission ∧ ∀ id task, world.tasks id = some task →
      task.taskType = submission.kind.taskType → task.state.isTerminal = true
  latest : ∀ id task other row, world.tasks id = some task → task.state.isTerminal = false →
    world.tasks other = some row → row.taskType = task.taskType →
    other = id ∨ row.createdAt < task.createdAt
  kept : ∀ id task triple, world.tasks id = some task → task.state.isTerminal = false →
    task.taskType = .rotateKeys → Frozen ext task triple → Keeps world.issuer task triple
  freezing : ∀ task nextStep result triple, world.worker = .stepped task nextStep (.done result) →
    result.stateDataPatch = [("new_key_triple", KeyTriple.toJson triple)] →
    Keeps world.issuer task triple

theorem Exclusive.atMostOneOpen {ext : Externals} {world : World}
    (exclusive : Exclusive ext world) : world.AtMostOneOpen := by
  intro taskType first second
  rintro ⟨one, found, _, _, typeOne, liveOne⟩ ⟨two, there, _, _, typeTwo, liveTwo⟩
  have same : two.taskType = one.taskType := by rw [typeOne, typeTwo]
  rcases exclusive.latest first one second two found liveOne there same with equal | earlier
  · exact equal.symm
  · rcases exclusive.latest second two first one there liveTwo found same.symm with equal | later
    · exact equal
    · exact absurd earlier (lt_asymm later)

theorem keyIdForRole_install (triple : KeyTriple) (row : Issuer) (role : KeyRole) :
    (triple.install row).keyIdForRole role = some (triple.forRole role) := by
  cases role <;> rfl

theorem Exclusive.swapsRequested {ext : Externals} {world : World} (tracked : Tracked ext world)
    (exclusive : Exclusive ext world) : world.SwapsRequested ext := by
  intro calls after taken role changed
  cases step_move taken with
  | release => exact absurd rfl changed
  | perform _ task nextStep effect held concerned performed unused =>
      rcases tracked.aggregate task (by rw [held]; rfl) with ⟨found, running⟩
      have written := performed_row performed
      change (effect.row.getD world.issuer).keyIdForRole role ≠ _ at changed
      generalize effect.row.getD world.issuer = row at written changed
      cases written with
      | kept => exact absurd rfl changed
      | deactivated => exact absurd (by cases role <;> rfl) changed
      | swapped triple saga frozen =>
          have live : task.state.isTerminal = false := by rw [running]; rfl
          rcases exclusive.kept _ task triple found live saga frozen with ⟨input, read, others⟩
          refine ⟨task, input, held, saga, read, ?_⟩
          by_contra unrequested
          rw [keyIdForRole_install, others role unrequested] at changed
          exact changed rfl

theorem Keeps.transfer {issuer issuer' : Issuer} {task row : OperationTask} {triple : KeyTriple}
    (keeps : Keeps issuer task triple) (input : row.input = task.input)
    (keys : ∀ role, issuer'.keyIdForRole role = issuer.keyIdForRole role) :
    Keeps issuer' row triple := by
  rcases keeps with ⟨asked, read, others⟩
  refine ⟨asked, input ▸ read, ?_⟩
  intro role unrequested
  rw [keys, others role unrequested]

theorem issuer_identity {ext : Externals} {world after : World} {event : Event}
    (move : Move ext world event after) :
    after.issuer.id = world.issuer.id ∧ after.issuer.tenantId = world.issuer.tenantId := by
  cases move with
  | perform _ _ _ effect _ _ performed _ =>
      have written := performed_row performed
      change (effect.row.getD world.issuer).id = _ ∧ (effect.row.getD world.issuer).tenantId = _
      generalize effect.row.getD world.issuer = row at written
      cases written with
      | kept | swapped | deactivated => exact ⟨rfl, rfl⟩
  | acquire | record | release | checkIssuer | lookup | insert | fail => exact ⟨rfl, rfl⟩

theorem Asks.of_issuerState {issuer : Issuer} {submission : Submission} {state : IssuerState}
    (checked : issuerState issuer submission = .ok state) : Asks issuer submission := by
  unfold issuerState at checked
  split at checked
  · next found =>
      simp only [isRow, Bool.and_eq_true, beq_iff_eq] at found
      exact ⟨found.2.symm, found.1.symm⟩
  · cases checked

theorem answer_cases {world : World} {r other : Nat} {request found : Request}
    (answered : (world.answer r request).requests other = found) :
    (other = r ∧ found = request) ∨ (other ≠ r ∧ world.requests other = found) := by
  by_cases same : other = r
  · subst same
    rw [← answered]
    exact .inl ⟨rfl, Function.update_self ..⟩
  · refine .inr ⟨same, ?_⟩
    rw [← answered]
    exact (Function.update_of_ne same ..).symm

theorem checked_step {ext : Externals} {world after : World} {event : Event}
    (exclusive : Exclusive ext world) (move : Move ext world event after) {r : Nat}
    {submission : Submission} {state : IssuerState}
    (found : after.requests r = .checked submission state) : Asks after.issuer submission := by
  have same := issuer_identity move
  have old : world.requests r = .checked submission state → Asks after.issuer submission := by
    intro before
    have asks := exclusive.checked r submission state before
    exact ⟨asks.1.trans same.2.symm, asks.2.trans same.1.symm⟩
  cases move with
  | acquire | perform | record | release => exact old found
  | checkIssuer at_ wanted request idle decided =>
      rcases answer_cases found with ⟨rfl, made⟩ | ⟨_, before⟩
      · rw [← made] at decided
        split at decided
        · next checked =>
            cases decided
            exact Asks.of_issuerState checked
        · cases decided
      · exact old before
  | lookup at_ latest wanted known _ _ =>
      rcases answer_cases found with ⟨rfl, made⟩ | ⟨_, before⟩
      · unfold decideSubmission at made
        split at made
        · cases made
        · split at made <;> cases made
        · cases made
      · exact old before
  | insert at_ id now wanted _ _ | fail at_ details =>
      rcases answer_cases found with ⟨rfl, made⟩ | ⟨_, before⟩
      · cases made
      · exact old before

theorem concerns_iff {issuer : Issuer} {submission : Submission} {task : OperationTask}
    (asks : Asks issuer submission)
    (owned : task.tenantId = issuer.tenantId ∧ task.resultIssuerId = some issuer.id) :
    World.concerns submission task = true ↔ task.taskType = submission.kind.taskType := by
  simp [World.concerns, asks.1, asks.2, owned.1, owned.2]

/-- An open task is the latest of its kind: when the latest one is terminal, all are. -/
theorem terminal_of_latest {ext : Externals} {world : World} {submission : Submission}
    {latest : Option TaskId} (tracked : Tracked ext world) (exclusive : Exclusive ext world)
    (asks : Asks world.issuer submission) (found : world.isLatest submission latest = true)
    (ended : ∀ task, latest.bind world.tasks = some task → task.state.isTerminal = true)
    {id : TaskId} {task : OperationTask} (there : world.tasks id = some task)
    (kind : task.taskType = submission.kind.taskType) : task.state.isTerminal = true := by
  have listed := tracked.listed id task there
  have concerned := (concerns_iff asks (exclusive.owned id task there)).mpr kind
  cases latest with
  | none =>
      have none_ := List.all_eq_true.mp found id listed
      simp [there, concerned] at none_
  | some last =>
      simp only [World.isLatest] at found
      split at found
      · next final present =>
          simp only [Bool.and_eq_true] at found
          have finalKind := (concerns_iff asks (exclusive.owned last final present)).mp found.1
          have older : task.createdAt ≤ final.createdAt := by
            have bound := List.all_eq_true.mp found.2 id listed
            simpa [there, concerned] using bound
          by_contra live
          rw [Bool.not_eq_true] at live
          rcases exclusive.latest id task last final there live present (by rw [finalKind, kind])
            with same | earlier
          · rw [same, there] at present
            cases present
            rw [ended task (by rw [← there, same]; rfl)] at live
            cases live
          · exact absurd older (not_le.mpr earlier)
      · cases found

theorem decideSubmission_inserting {submission wanted : Submission} {state : IssuerState}
    {latest : Option OperationTask}
    (decided : decideSubmission submission state latest = .inserting wanted) :
    wanted = submission ∧ ∀ task, latest = some task → task.state.isTerminal = true := by
  unfold decideSubmission at decided
  split at decided
  · cases decided
  · split at decided
    · next ended =>
        cases decided
        exact ⟨rfl, fun _ same => by cases same; exact ended⟩
    · cases decided
  · cases decided
    exact ⟨rfl, fun _ absurd => by cases absurd⟩

theorem RowStep.terminal {world : World} {task row : OperationTask}
    (step : RowStep world task row) (ended : task.state.isTerminal = true) :
    row.state.isTerminal = true := by
  cases live : row.state.isTerminal with
  | true => rfl
  | false =>
      rw [step.live live] at ended
      cases ended

theorem inserting_step {ext : Externals} {world after : World} {event : Event}
    (tracked : Tracked ext world) (exclusive : Exclusive ext world)
    (unraced : Unraced world event) (move : Move ext world event after) {r : Nat}
    {submission : Submission} (found : after.requests r = .inserting submission) :
    Asks after.issuer submission ∧ ∀ id task, after.tasks id = some task →
      task.taskType = submission.kind.taskType → task.state.isTerminal = true := by
  have same := issuer_identity move
  -- a request that already stood before its insert, seen from the rows after the event
  have old : world.requests r = .inserting submission →
      (∀ r' id now, event = .insert r' id now → r ≠ r') →
      Asks after.issuer submission ∧ ∀ id task, after.tasks id = some task →
        task.taskType = submission.kind.taskType → task.state.isTerminal = true := by
    intro before other
    rcases exclusive.inserting r submission before with ⟨asks, ended⟩
    refine ⟨⟨asks.1.trans same.2.symm, asks.2.trans same.1.symm⟩, ?_⟩
    intro id row there kind
    rcases rows_step tracked move there with
      ⟨task, present, step⟩ | ⟨r', now, wanted, rfl, asked, _, rfl⟩
    · exact step.terminal (ended id task present (step.fixed.taskType.symm.trans kind))
    · exact absurd kind.symm ((unraced wanted asked).1 r submission (other r' id now rfl) before)
  cases move with
  | acquire | perform | record => exact old found fun _ _ _ absurd => by cases absurd
  | release => exact exclusive.inserting r submission found
  | checkIssuer at_ wanted request idle decided =>
      rcases answer_cases found with ⟨rfl, made⟩ | ⟨_, before⟩
      · rw [← made] at decided
        split at decided <;> cases decided
      · exact old before fun _ _ _ absurd => by cases absurd
  | lookup at_ latest wanted state checked isLatest =>
      rcases answer_cases found with ⟨rfl, made⟩ | ⟨_, before⟩
      · rcases decideSubmission_inserting made.symm with ⟨rfl, ended⟩
        have asks := exclusive.checked r submission state checked
        exact ⟨asks, fun id task there kind =>
          terminal_of_latest tracked exclusive asks isLatest ended there kind⟩
      · exact old before fun _ _ _ absurd => by cases absurd
  | insert at_ id now wanted _ _ =>
      rcases answer_cases found with ⟨rfl, made⟩ | ⟨other, before⟩
      · cases made
      · refine old before ?_
        rintro _ _ _ ⟨⟩
        exact other
  | fail at_ details =>
      rcases answer_cases found with ⟨rfl, made⟩ | ⟨_, before⟩
      · cases made
      · exact old before fun _ _ _ absurd => by cases absurd

theorem latest_step {ext : Externals} {world after : World} {event : Event}
    (tracked : Tracked ext world) (exclusive : Exclusive ext world)
    (unraced : Unraced world event) (move : Move ext world event after) {id other : TaskId}
    {task row : OperationTask} (found : after.tasks id = some task)
    (live : task.state.isTerminal = false) (there : after.tasks other = some row)
    (kind : row.taskType = task.taskType) : other = id ∨ row.createdAt < task.createdAt := by
  rcases rows_step tracked move found with
    ⟨before, present, step⟩ | ⟨r, now, submission, rfl, asked, _, rfl⟩
  · rcases rows_step tracked move there with
      ⟨rowBefore, rowPresent, rowStep⟩ | ⟨r, now, submission, rfl, asked, _, rfl⟩
    · rw [step.fixed.createdAt, rowStep.fixed.createdAt]
      rw [step.fixed.taskType, rowStep.fixed.taskType] at kind
      exact exclusive.latest id before other rowBefore present (step.live live) rowPresent kind
    · -- nothing of its kind was open when the new task was inserted
      have ended := (exclusive.inserting r submission asked).2 id before present
        (step.fixed.taskType.symm.trans kind.symm)
      rw [step.live live] at ended
      cases ended
  · rcases rows_step tracked move there with
      ⟨rowBefore, rowPresent, rowStep⟩ | ⟨_, _, _, same, _, _, _⟩
    · rw [rowStep.fixed.createdAt]
      rw [rowStep.fixed.taskType] at kind
      exact .inr ((unraced submission asked).2 other rowBefore rowPresent kind)
    · cases same
      exact .inl rfl

theorem patch_generates {ext : Externals} {world : World} {task : OperationTask}
    {calls : StepCalls} {nextStep : Option String} {effect : Effect} {result : StepResult}
    {triple : KeyTriple} (tracked : Tracked ext world) (held : world.worker = .acquired task)
    (performed : Performed ext world task calls nextStep effect)
    (done : effect.outcome = .done result)
    (set : result.stateDataPatch = [("new_key_triple", triple.toJson)]) :
    effect.row = none ∧ Keeps world.issuer task triple := by
  have patch := performed_patch tracked held performed done
  cases patch with
  | empty nothing _ =>
      rw [set] at nothing
      cases nothing
  | published published _ =>
      rw [published] at set
      have names := (Prod.mk.inj (List.cons.inj set).1).1
      exact absurd names (by decide)
  | keys other same saga named unfrozen =>
      rw [same] at set
      cases KeyTriple.toJson_injective (Prod.mk.inj (List.cons.inj set).1).2
      cases performed with
      | generateNewKeys input state _ _ inputRead _ =>
          refine ⟨rfl, input, inputRead, ?_⟩
          rcases executeGenerateNewKeys_done done with ⟨_, nothing⟩ | ⟨_, made, patch, roles⟩
          · rw [same] at nothing
            cases nothing
          · rw [same] at patch
            cases KeyTriple.toJson_injective (Prod.mk.inj (List.cons.inj patch).1).2
            exact fun role => (roles role).2
      | buildRotation _ _ step | publishRotation _ _ step | swapKeys _ _ step =>
          rw [step] at named
          exact absurd named (by decide)
      | buildDeactivation other | publishDeactivation _ other | markDeactivated other =>
          rw [saga] at other
          cases other

theorem kept_step {ext : Externals} {world after : World} {event : Event}
    (tracked : Tracked ext world) (exclusive : Exclusive ext world)
    (move : Move ext world event after) {id : TaskId} {row : OperationTask} {triple : KeyTriple}
    (found : after.tasks id = some row) (live : row.state.isTerminal = false)
    (saga : row.taskType = .rotateKeys) (frozen : Frozen ext row triple) :
    Keeps after.issuer row triple := by
  have old : after.issuer = world.issuer → Keeps after.issuer row triple := by
    intro same
    rw [same]
    rcases rows_step tracked move found with
      ⟨task, present, step⟩ | ⟨_, _, submission, _, _, _, rfl⟩
    · have rotates : task.taskType = .rotateKeys := step.fixed.taskType ▸ saga
      have keyed : world.tasks task.id = some task := by rw [tracked.keyed id task present, present]
      rcases frozen.origin tracked keyed rotates step with before | ⟨next, result, stepped, set⟩
      · exact (exclusive.kept id task triple present (step.live live) rotates before).transfer
          step.fixed.input fun _ => rfl
      · exact (exclusive.freezing task next result triple stepped set).transfer
          step.fixed.input fun _ => rfl
    · rcases frozen with ⟨state, read, kept⟩
      cases read
      cases kept
  cases move with
  | acquire | record | release | checkIssuer | lookup | insert | fail => exact old rfl
  | perform calls task nextStep effect held concerned performed unused =>
      rcases tracked.aggregate task (by rw [held]; rfl) with ⟨present, running⟩
      have written := performed_row performed
      change Keeps (effect.row.getD world.issuer) row triple
      replace found : world.tasks id = some row := found
      have keeps := exclusive.kept id row triple found live saga frozen
      generalize effect.row.getD world.issuer = issuer at written
      cases written with
      | kept => exact keeps
      | deactivated => exact keeps.transfer rfl fun role => by cases role <;> rfl
      | swapped other rotates swapping =>
          -- the swapping task is the only open rotation
          have own : id = task.id := by
            rcases exclusive.latest id row task.id task found live present
              (by rw [rotates, saga]) with same | earlier
            · exact same.symm
            · rcases exclusive.latest task.id task id row present (by rw [running]; rfl) found
                (by rw [rotates, saga]) with same | later
              · exact same
              · exact absurd earlier (lt_asymm later)
          rw [own, present] at found
          cases found
          cases swapping.unique frozen
          rcases keeps with ⟨input, read, _⟩
          exact ⟨input, read, fun role _ => keyIdForRole_install _ _ role⟩

theorem freezing_step {ext : Externals} {world after : World} {event : Event}
    (tracked : Tracked ext world) (exclusive : Exclusive ext world)
    (move : Move ext world event after) {task : OperationTask} {nextStep : Option String}
    {result : StepResult} {triple : KeyTriple}
    (stepped : after.worker = .stepped task nextStep (.done result))
    (set : result.stateDataPatch = [("new_key_triple", triple.toJson)]) :
    Keeps after.issuer task triple := by
  cases move with
  | acquire | record | release => cases stepped
  | checkIssuer | lookup | insert | fail =>
      exact exclusive.freezing task nextStep result triple stepped set
  | perform calls acquired next effect held concerned performed unused =>
      simp only [World.takes, Phase.stepped.injEq] at stepped
      rcases stepped with ⟨rfl, rfl, done⟩
      rcases patch_generates tracked held performed done set with ⟨unwritten, keeps⟩
      change Keeps (effect.row.getD world.issuer) acquired triple
      rw [unwritten]
      exact keeps

theorem exclusive_step {ext : Externals} {world after : World} {event : Event}
    (tracked : Tracked ext world) (exclusive : Exclusive ext world)
    (taken : Guarded Unraced (Steps (World.step ext)) world event after) :
    Exclusive ext after := by
  rcases taken with ⟨unraced, taken⟩
  have move := step_move taken
  have same := issuer_identity move
  constructor
  case owned =>
    intro id row found
    rw [same.1, same.2]
    rcases rows_step tracked move found with
      ⟨task, present, step⟩ | ⟨r, now, submission, _, asked, _, rfl⟩
    · rw [step.fixed.tenantId, step.fixed.resultIssuerId]
      exact exclusive.owned id task present
    · rcases (exclusive.inserting r submission asked).1 with ⟨tenant, issuer⟩
      exact ⟨tenant, congrArg some issuer⟩
  case checked => exact fun r submission state found => checked_step exclusive move found
  case inserting =>
    exact fun r submission found => inserting_step tracked exclusive unraced move found
  case latest =>
    exact fun id task other row found live there kind =>
      latest_step tracked exclusive unraced move found live there kind
  case kept =>
    exact fun id task triple found live saga frozen =>
      kept_step tracked exclusive move found live saga frozen
  case freezing =>
    exact fun task nextStep result triple stepped set =>
      freezing_step tracked exclusive move stepped set

/-- No request has been made yet. -/
structure Unasked (world : World) : Prop where
  initial : Initial world
  tasks : ∀ id, world.tasks id = none
  requests : ∀ r, world.requests r = .idle

theorem exclusive_initial {ext : Externals} {world : World} (unasked : Unasked world) :
    Exclusive ext world where
  owned := by
    intro id task found
    rw [unasked.tasks id] at found
    cases found
  checked := by
    intro r submission state found
    rw [unasked.requests r] at found
    cases found
  inserting := by
    intro r submission found
    rw [unasked.requests r] at found
    cases found
  latest := by
    intro id task other row found
    rw [unasked.tasks id] at found
    cases found
  kept := by
    intro id task triple found
    rw [unasked.tasks id] at found
    cases found
  freezing := by
    intro task nextStep result triple stepped
    rw [unasked.initial.idle] at stepped
    cases stepped

/-- As long as no two handlers of one kind overlap between lookup and insert, and the clock moves on
between their tasks, an issuer has at most one open task of each type, and a swap replaces only the
keys that its task was asked to rotate. -/
theorem one_open_task_per_type {ext : Externals} {first last : World} {trace : List Event}
    (unasked : Unasked first)
    (run : Run (Guarded Unraced (Steps (World.step ext))) first trace last) :
    last.AtMostOneOpen ∧ last.SwapsRequested ext := by
  have kept := run.invariant_under (Tracked ext) (Exclusive ext)
    (fun _ _ _ tracked taken => tracked_step tracked taken.2)
    (fun _ _ _ tracked exclusive taken => exclusive_step tracked exclusive taken)
    (tracked_initial ext unasked.initial) (exclusive_initial unasked)
  exact ⟨kept.2.atMostOneOpen, kept.2.swapsRequested kept.1⟩

section Sample

def rotation (roles : List KeyRole) : Submission :=
  ⟨sampleIssuer.tenantId, sampleIssuer.id, .rotate ⟨roles⟩⟩

theorem sampleWorld_unasked : Unasked (sampleWorld []) where
  initial := sampleWorld_initial (by simp)
  tasks _ := rfl
  requests _ := rfl

def isInsert : Event → Bool
  | .insert .. => true
  | _ => false

theorem unraced_of_no_insert {ext : Externals} {first last : World} {trace : List Event}
    (none_ : ∀ event ∈ trace, isInsert event = false)
    (run : Run (Steps (World.step ext)) first trace last) :
    Run (Guarded Unraced (Steps (World.step ext))) first trace last := by
  induction run with
  | nil => exact .nil _
  | @cons first middle last event trace taken _ ih =>
      refine .cons ⟨?_, taken⟩ (ih fun later member => none_ later (List.mem_cons_of_mem _ member))
      have silent := none_ event List.mem_cons_self
      cases event with
      | insert => cases silent
      | _ => trivial

def inserting : World :=
  ((sampleWorld []).answer 0 (.checked (rotation [.authorized]) .active)).answer 0
    (.inserting (rotation [.authorized]))

def inserted : World :=
  { inserting.answer 0 (.answered (.ok (some ⟨"1"⟩))) with
    tasks := Function.update inserting.tasks ⟨"1"⟩
      (some (newTask (rotation [.authorized]) ⟨"1"⟩ 0))
    ids := ⟨"1"⟩ :: inserting.ids }

theorem inserted_run : Run (Guarded Unraced (Steps (World.step sampleExternals))) (sampleWorld [])
    [.checkIssuer 0 (rotation [.authorized]), .lookup 0 none, .insert 0 ⟨"1"⟩ 0] inserted := by
  refine .cons ⟨trivial, rfl⟩ (.cons ⟨trivial, rfl⟩ (.cons ⟨?_, rfl⟩ (.nil _)))
  intro submission asked
  constructor
  · intro other rival different found
    have idle : inserting.requests other = .idle := by
      rw [inserting, World.answer, World.answer]
      simp [different, sampleWorld]
    change inserting.requests other = _ at found
    rw [idle] at found
    cases found
  · intro id task found
    cases found

def repeatedTrace : List Event :=
  [.checkIssuer 1 (rotation [.authorized]), .lookup 1 (some ⟨"1"⟩)] ++
    [1, 2, 3, 4].flatMap fun now => dispatched "1" now (sampleCalls sampleIssuer)

theorem one_open_task_per_type_sample : ∃ trace last,
    Run (Guarded Unraced (Steps (World.step sampleExternals))) (sampleWorld []) trace last ∧
    last.issuer.authorizedKeyId = some ⟨"e2"⟩ ∧ last.AtMostOneOpen ∧
    last.SwapsRequested sampleExternals := by
  have computed : (exec (World.step sampleExternals) inserted repeatedTrace).map
      (fun world => world.issuer.authorizedKeyId) = some (some ⟨"e2"⟩) := by decide
  rcases Option.map_eq_some_iff.mp computed with ⟨last, executed, key⟩
  have later := unraced_of_no_insert (by decide) (Run.of_exec executed)
  have run := inserted_run.append later
  exact ⟨_, last, run, key, one_open_task_per_type sampleWorld_unasked run⟩

/-- Both handlers look for a task before either inserts one. -/
def racingTrace : List Event :=
  [.checkIssuer 0 (rotation [.authorized, .assertion]), .checkIssuer 1 (rotation [.authorized]),
    .lookup 0 none, .lookup 1 none, .insert 0 ⟨"1"⟩ 0, .insert 1 ⟨"2"⟩ 1]

def unavailable (calls : StepCalls) : StepCalls :=
  { calls with fetch := some ⟨.httpStatus 503, "HTTP 503", true⟩ }

def swappedIssuer : Issuer :=
  { sampleIssuer with authorizedKeyId := some ⟨"e2"⟩, assertionKeyId := some ⟨"p3"⟩ }

def secondCalls (issuer : Issuer) : StepCalls :=
  { sampleCalls issuer with generated := fun _ => .ok ⟨"e4"⟩ }

/-- The second rotation freezes its triple before the first one is swapped in, and reaches its own
swap after it. -/
def overtakenTrace : List Event :=
  dispatched "1" 2 (sampleCalls sampleIssuer) ++
    dispatched "1" 3 (unavailable (sampleCalls sampleIssuer)) ++
    dispatched "2" 4 (secondCalls sampleIssuer) ++
    dispatched "2" 5 (unavailable (secondCalls sampleIssuer)) ++
    [1, 2, 3].flatMap (fun hour => dispatched "1" (hours hour) (sampleCalls sampleIssuer)) ++
    [4, 5].flatMap (fun hour => dispatched "2" (hours hour) (secondCalls swappedIssuer)) ++
    [.acquire ⟨"2"⟩ (hours 6)]

/-- What the reader of the race looks at: both tasks open in the middle, and around the last swap
the assertion key and the roles that its task was asked to rotate. -/
structure RaceReport where
  firstOpen : Bool
  secondOpen : Bool
  before : Option KeyPairId
  after : Option KeyPairId
  requested : Option RotateKeysInput
deriving DecidableEq

def raceReport (middle last after : World) : RaceReport where
  firstOpen := middle.isOpen .rotateKeys ⟨"1"⟩
  secondOpen := middle.isOpen .rotateKeys ⟨"2"⟩
  before := last.issuer.assertionKeyId
  after := after.issuer.assertionKeyId
  requested := last.worker.task.bind fun task => (RotateKeysInput.decode task.input).toOption

/-- The two tasks are open at once, and the second one puts the replaced assertion key back. -/
theorem racing_rotations_restore_a_key : Unasked (sampleWorld []) ∧ ∃ middle last,
    Run (Steps (World.step sampleExternals)) (sampleWorld []) racingTrace middle ∧
    Run (Steps (World.step sampleExternals)) middle overtakenTrace last ∧
    ¬ middle.AtMostOneOpen ∧ ¬ last.SwapsRequested sampleExternals := by
  refine ⟨sampleWorld_unasked, ?_⟩
  have computed : ((exec (World.step sampleExternals) (sampleWorld []) racingTrace).bind
      fun middle => (exec (World.step sampleExternals) middle overtakenTrace).bind
        fun last => (last.step sampleExternals (.perform (secondCalls swappedIssuer))).map
          (raceReport middle last)) =
      some ⟨true, true, some ⟨"p3"⟩, some ⟨"p1"⟩, some ⟨[.authorized]⟩⟩ := by decide
  rcases Option.bind_eq_some_iff.mp computed with ⟨middle, raced, computed⟩
  rcases Option.bind_eq_some_iff.mp computed with ⟨last, overtaken, computed⟩
  rcases Option.map_eq_some_iff.mp computed with ⟨after, swapped, report⟩
  simp only [raceReport, RaceReport.mk.injEq, decide_eq_true_eq] at report
  rcases report with ⟨firstOpen, secondOpen, before, restored, requested⟩
  refine ⟨middle, last, Run.of_exec raced, Run.of_exec overtaken, ?_, ?_⟩
  · intro single
    exact absurd (single _ _ _ firstOpen secondOpen) (by decide)
  · intro asked
    have changed : after.issuer.keyIdForRole .assertion ≠ last.issuer.keyIdForRole .assertion := by
      simp only [Issuer.keyIdForRole, before, restored]
      decide
    rcases asked _ after swapped .assertion changed with ⟨task, input, held, _, read, member⟩
    rw [held] at requested
    simp only [Phase.task, Option.bind_some, read, Except.toOption, Option.some.injEq] at requested
    rw [requested] at member
    exact absurd member (by decide)

end Sample

end SwiyuIssuer.Saga
