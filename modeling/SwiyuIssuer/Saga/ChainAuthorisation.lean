import Mathlib.Data.List.Chain
import SwiyuIssuer.Saga.Tasks

/-! Whether every entry that the worker appends is authorised by the entry before it. -/

namespace SwiyuIssuer.Saga

open Library Persistence Worker

def lastStep : TaskType → String
  | .createIssuer => "provision_status_list"
  | .deactivateIssuer => "mark_deactivated"
  | .rotateKeys => "swap_keys"

def Advertises (ext : Externals) (entry : LogEntry) (key : KeyPairId) : Prop :=
  ∃ keys, entry.updateKeys = some keys ∧ ext.engine.multikey ext.core key ∈ keys

instance (ext : Externals) (entry : LogEntry) (key : KeyPairId) :
    Decidable (Advertises ext entry key) :=
  inferInstanceAs (Decidable (∃ keys ∈ entry.updateKeys, _ ∈ keys))

/-- The entry is no deactivation, and the next one is signed by one of its update keys. -/
def Authorises (ext : Externals) (before next : LogEntry) : Prop :=
  before.deactivated ≠ some true ∧
    ∃ proof, next.proof = some proof ∧ Advertises ext before proof.signedBy

instance (ext : Externals) (before next : LogEntry) : Decidable (Authorises ext before next) :=
  inferInstanceAs (Decidable (_ ∧ ∃ proof ∈ next.proof, Advertises ext before proof.signedBy))

def ChainAuthorised (ext : Externals) (log : List Published) : Prop :=
  log.IsChain fun before next =>
    next.author.isSome = true → Authorises ext before.entry next.entry

instance (ext : Externals) (log : List Published) : Decidable (ChainAuthorised ext log) :=
  inferInstanceAs (Decidable (log.IsChain _))

/-- The row's authorized key is one that the tail of the log accepts. -/
def Agrees (ext : Externals) (world : World) : Prop :=
  ∃ last key, world.log.getLast? = some last ∧ world.issuer.authorizedKeyId = some key ∧
    last.entry.deactivated ≠ some true ∧ Advertises ext last.entry key

namespace World

/-- The task's entry is on the log, and its last step has not written the issuer row. -/
def outstanding (world : World) (id : TaskId) : Bool :=
  world.log.any (fun published => published.author == some id) && !world.recorded id

def atLastStep (world : World) (id : TaskId) : Bool :=
  match world.tasks id with
  | some task => !task.state.isTerminal && task.step == some (lastStep task.taskType)
  | none => false

def unsettled (world : World) (id : TaskId) : Bool := world.outstanding id || world.atLastStep id

end World

/-- No `PUT` takes effect while another task stands between its publish and its last step. -/
def orderly (world : World) : Event → Bool
  | .perform calls =>
      match world.worker with
      | .acquired task => !(task.step == some "publish_didlog" && calls.put.stored) ||
          world.ids.all fun id => id == task.id || !world.unsettled id
      | _ => true
  | _ => true

theorem outstanding_iff {world : World} {id : TaskId} : world.outstanding id = true ↔
    (∃ published ∈ world.log, published.author = some id) ∧ world.recorded id = false := by
  simp [World.outstanding]

theorem atLastStep_of {world : World} {id : TaskId} {task : OperationTask}
    (found : world.tasks id = some task) (live : task.state.isTerminal = false)
    (last : task.step = some (lastStep task.taskType)) : world.atLastStep id = true := by
  simp [World.atLastStep, found, live, last]

/-- What an outstanding task has put at the end of the log. -/
inductive Shows (ext : Externals) (task : OperationTask) (entry : LogEntry) : Prop
  | rotation (triple : KeyTriple) : task.taskType = .rotateKeys → Frozen ext task triple →
      entry.updateKeys = some [ext.engine.multikey ext.core triple.authorized] →
      entry.deactivated ≠ some true → Shows ext task entry
  | deactivation : task.taskType = .deactivateIssuer → entry.deactivated = some true →
      Shows ext task entry

/-- A rotation that may swap its triple in: unless the log has ended, the tail accepts the key. -/
def Ready (ext : Externals) (log : List Published) (task : OperationTask) : Prop :=
  ∃ triple, Frozen ext task triple ∧ ∀ last, log.getLast? = some last →
    last.entry.deactivated ≠ some true → Advertises ext last.entry triple.authorized

structure Coherent (ext : Externals) (world : World) : Prop where
  chain : ChainAuthorised ext world.log
  known : ∀ published ∈ world.log, ∀ id, published.author = some id → id ∈ world.ids
  agrees : world.issuer.state = some .active →
    (∃ id, world.outstanding id = true) ∨ Agrees ext world
  outstanding : ∀ id, world.outstanding id = true → ∃ task last, world.tasks id = some task ∧
    world.log.getLast? = some last ∧ last.author = some id ∧ Shows ext task last.entry
  ready : ∀ id task, world.tasks id = some task → task.state.isTerminal = false →
    task.taskType = .rotateKeys → task.step = some "swap_keys" → Ready ext world.log task
  pending : ∀ task nextStep result, world.worker = .stepped task nextStep (.done result) →
    task.taskType = .rotateKeys → task.step = some "publish_didlog" → Ready ext world.log task
  recorded : ∀ id, world.recorded id = true →
    ∃ task, world.tasks id = some task ∧ task.step = some (lastStep task.taskType)

theorem coherent_initial {ext : Externals} {world : World} (initial : Initial world)
    (agrees : world.issuer.state = some .active → Agrees ext world) : Coherent ext world where
  chain := by
    apply List.isChain_iff_forall_rel_of_append_cons_cons.mpr
    intro before next front back split authored
    have member : next ∈ world.log := by rw [split]; simp
    rw [initial.unauthored next member] at authored
    cases authored
  known := by
    intro published member id authored
    rw [initial.unauthored published member] at authored
    cases authored
  agrees := fun active => .inr (agrees active)
  outstanding := by
    intro id out
    rcases (outstanding_iff.mp out).1 with ⟨published, member, authored⟩
    rw [initial.unauthored published member] at authored
    cases authored
  ready := by
    intro id task found _ _ last
    rw [(initial.queued id task found).1] at last
    cases last
  pending := by
    intro task nextStep result stepped
    rw [initial.idle] at stepped
    cases stepped
  recorded := by
    intro id absurd
    rw [initial.unrecorded id] at absurd
    cases absurd

theorem successor_lastStep (taskType : TaskType) :
    successor taskType (some (lastStep taskType)) = none := by
  cases taskType <;> rfl

theorem RowStep.last {ext : Externals} {world : World} {task row : OperationTask}
    (step : RowStep world task row) (tracked : Tracked ext world)
    (last : task.step = some (lastStep task.taskType)) :
    row.step = some (lastStep row.taskType) := by
  rw [step.fixed.taskType]
  rcases step.place with ⟨place, _⟩ | ⟨result, next, now, stepped, _⟩
  · rw [place, last]
  · have follows := (tracked.pending task _ _ stepped).1
    rw [last, successor_lastStep] at follows
    cases follows

theorem Shows.row {ext : Externals} {world : World} {task row : OperationTask} {entry : LogEntry}
    (shows_ : Shows ext task entry) (tracked : Tracked ext world)
    (found : world.tasks task.id = some task) (step : RowStep world task row) :
    Shows ext row entry := by
  have saga := step.fixed.taskType
  cases shows_ with
  | rotation triple rotates frozen keys live =>
      exact .rotation triple (saga.trans rotates) (frozen.row tracked found rotates step) keys live
  | deactivation deactivates ended => exact .deactivation (saga.trans deactivates) ended

theorem Ready.row {ext : Externals} {world : World} {task row : OperationTask}
    {log : List Published} (ready : Ready ext log task) (tracked : Tracked ext world)
    (found : world.tasks task.id = some task) (saga : task.taskType = .rotateKeys)
    (step : RowStep world task row) : Ready ext log row := by
  rcases ready with ⟨triple, frozen, accepted⟩
  exact ⟨triple, frozen.row tracked found saga step, accepted⟩

theorem successor_swapKeys {step : Option String}
    (follows : some "swap_keys" = successor .rotateKeys step) : step = some "publish_didlog" := by
  cases step with
  | none => exact absurd follows (by decide)
  | some name =>
      unfold successor rotateKeysArm at follows
      dsimp only [Option.getD_some] at follows
      split at follows
      · exact absurd follows (by decide)
      · exact absurd follows (by decide)
      · rfl
      · cases follows
      · cases follows

theorem coherent_rows {ext : Externals} {world after : World} {event : Event}
    (tracked : Tracked ext world) (coherent : Coherent ext world)
    (move : Move ext world event after) (log : after.log = world.log)
    (issuer : after.issuer = world.issuer) (recorded : after.recorded = world.recorded)
    (ids : ∀ id ∈ world.ids, id ∈ after.ids)
    (pending : ∀ task nextStep result, after.worker = .stepped task nextStep (.done result) →
      task.taskType = .rotateKeys → task.step = some "publish_didlog" →
      Ready ext world.log task) : Coherent ext after := by
  have out : ∀ id, after.outstanding id = world.outstanding id := by
    intro id
    rw [World.outstanding, World.outstanding, log, recorded]
  constructor
  case chain => rw [log]; exact coherent.chain
  case known =>
    intro published member id authored
    rw [log] at member
    exact ids id (coherent.known published member id authored)
  case agrees =>
    intro active
    rw [issuer] at active
    simpa only [out, Agrees, log, issuer] using coherent.agrees active
  case outstanding =>
    intro id outstanding
    rw [out] at outstanding
    rcases coherent.outstanding id outstanding with ⟨task, last, found, tail, author, shows_⟩
    rcases rows_kept tracked move found with ⟨row, there, step⟩
    have keyed : world.tasks task.id = some task := by rw [tracked.keyed id task found, found]
    exact ⟨row, last, there, log ▸ tail, author, shows_.row tracked keyed step⟩
  case ready =>
    intro id row found live saga last
    rw [log]
    rcases rows_step tracked move found with ⟨task, old, step⟩ | ⟨_, _, _, _, _, _, rfl⟩
    · have rotates : task.taskType = .rotateKeys := step.fixed.taskType ▸ saga
      have keyed : world.tasks task.id = some task := by rw [tracked.keyed id task old, old]
      rcases step.place with ⟨place, _⟩ | ⟨result, next, now, stepped, advanced⟩
      · exact (coherent.ready id task old (step.live live) rotates (place ▸ last)).row tracked keyed
          rotates step
      · have follows := (tracked.pending task _ _ stepped).1
        rw [advanced] at last
        cases last
        rw [rotates] at follows
        exact (coherent.pending task _ result stepped rotates (successor_swapKeys follows)).row
          tracked keyed rotates step
    · cases last
  case pending =>
    intro task nextStep result stepped saga publishes
    rw [log]
    exact pending task nextStep result stepped saga publishes
  case recorded =>
    intro id done
    rw [recorded] at done
    rcases coherent.recorded id done with ⟨task, found, last⟩
    rcases rows_kept tracked move found with ⟨row, there, step⟩
    exact ⟨row, there, step.last tracked last⟩

theorem Shows.ready {ext : Externals} {task : OperationTask} {entry : LogEntry}
    (shows_ : Shows ext task entry) (saga : task.taskType = .rotateKeys) (log : List Published)
    (author : Option TaskId) : Ready ext (log ++ [⟨author, entry⟩]) task := by
  cases shows_ with
  | rotation triple _ frozen keys _ =>
      refine ⟨triple, frozen, ?_⟩
      intro last tail _
      rw [List.getLast?_concat] at tail
      cases tail
      exact ⟨_, keys, List.mem_singleton_self _⟩
  | deactivation deactivates _ =>
      rw [saga] at deactivates
      cases deactivates

/-- A `PUT` by a task that alone stands between publish and last step: the log was in agreement
with the row, whose key has signed the entry. -/
theorem coherent_put {ext : Externals} {world : World} {task : OperationTask}
    {nextStep : Option String} {outcome : StepOutcome} {entry : LogEntry}
    (tracked : Tracked ext world) (coherent : Coherent ext world)
    (held : world.worker = .acquired task) (publishes : task.step = some "publish_didlog")
    (alone : ∀ id ∈ world.ids, id ≠ task.id → world.unsettled id = false)
    (active : world.issuer.state = some .active) (shows_ : Shows ext task entry)
    (unshown : ∀ last, world.log.getLast? = some last → ¬ Shows ext task last.entry)
    (signed : ∃ proof, entry.proof = some proof ∧
      world.issuer.authorizedKeyId = some proof.signedBy) :
    Coherent ext (world.takes task nextStep { outcome := outcome, stored := some entry }) := by
  have found : world.tasks task.id = some task := (tracked.aggregate task (by rw [held]; rfl)).1
  have unsettled : ∀ id row, world.tasks id = some row → id ≠ task.id →
      world.unsettled id = false :=
    fun id row there other => alone id (tracked.listed id row there) other
  have settled : ∀ id, world.outstanding id = false := by
    intro id
    cases out : world.outstanding id with
    | false => rfl
    | true =>
        rcases coherent.outstanding id out with ⟨row, last, there, tail, _, shown⟩
        by_cases own : id = task.id
        · rw [own, found] at there
          cases there
          exact absurd shown (unshown last tail)
        · have clear := unsettled id row there own
          simp [World.unsettled, out] at clear
  have agreed : Agrees ext world := by
    rcases coherent.agrees active with ⟨id, out⟩ | agreed
    · rw [settled id] at out
      cases out
    · exact agreed
  have notRecorded : world.recorded task.id = false := by
    cases done : world.recorded task.id with
    | false => rfl
    | true =>
        rcases coherent.recorded task.id done with ⟨row, there, last⟩
        rw [found] at there
        cases there
        rw [publishes] at last
        have different : "publish_didlog" ≠ lastStep task.taskType := by
          cases task.taskType <;> decide
        exact absurd (Option.some.inj last) different
  have outstandingIs : ∀ id, (world.takes task nextStep
      { outcome := outcome, stored := some entry }).outstanding id = true → id = task.id := by
    intro id out
    rcases outstanding_iff.mp out with ⟨⟨published, member, author⟩, unrecorded⟩
    rcases List.mem_append.mp member with old | new
    · have before : world.outstanding id = true := by
        apply outstanding_iff.mpr
        refine ⟨⟨published, old, author⟩, ?_⟩
        simp only [World.takes, Bool.or_eq_false_iff] at unrecorded
        exact unrecorded.1
      rw [settled id] at before
      cases before
    · simp only [Option.map_some, Option.toList_some, List.mem_singleton] at new
      rw [new] at author
      exact (Option.some.inj author).symm
  have tailIs : (world.takes task nextStep
      { outcome := outcome, stored := some entry }).log.getLast? = some ⟨some task.id, entry⟩ :=
    List.getLast?_concat ..
  constructor
  case chain =>
    apply coherent.chain.append (List.isChain_singleton _)
    intro last tail next head _
    cases head
    rcases agreed with ⟨_, key, known, row, live, advertised⟩
    rw [Option.mem_def.mp tail] at known
    cases known
    rcases signed with ⟨proof, made, signer⟩
    rw [signer] at row
    cases row
    exact ⟨live, proof, made, advertised⟩
  case known =>
    intro published member id author
    rcases List.mem_append.mp member with old | new
    · exact coherent.known published old id author
    · simp only [Option.map_some, Option.toList_some, List.mem_singleton] at new
      rw [new] at author
      cases author
      exact tracked.listed _ _ found
  case agrees =>
    intro _
    refine .inl ⟨task.id, outstanding_iff.mpr ⟨⟨⟨some task.id, entry⟩, ?_, rfl⟩, ?_⟩⟩
    · exact List.mem_append_right _ (List.mem_singleton_self _)
    · simp [World.takes, notRecorded, Effect.records]
  case outstanding =>
    intro id out
    rw [outstandingIs id out]
    exact ⟨task, _, found, tailIs, rfl, shows_⟩
  case ready =>
    intro id row there live saga last
    by_cases own : id = task.id
    · have same : world.tasks id = some row := there
      rw [own, found] at same
      cases same
      rw [publishes] at last
      exact absurd (Option.some.inj last) (by decide)
    · have clear := unsettled id row there own
      have standing : world.atLastStep id = true := atLastStep_of there live (by rw [saga]; exact last)
      simp [World.unsettled, standing] at clear
  case pending =>
    intro row next result stepped saga _
    cases stepped
    exact shows_.ready saga _ _
  case recorded =>
    intro id done
    simp only [World.takes, Effect.records, Bool.and_false, Bool.or_false] at done
    exact coherent.recorded id done

/-- The last step of a task, whatever it leaves in the issuer row. -/
theorem coherent_settle {ext : Externals} {world : World} {task : OperationTask}
    {nextStep : Option String} {outcome : StepOutcome} {row : Issuer}
    (tracked : Tracked ext world) (coherent : Coherent ext world)
    (held : world.worker = .acquired task) (last : task.step = some (lastStep task.taskType))
    (agrees : row.state = some .active →
      let after := world.takes task nextStep { outcome := outcome, row := some row }
      (∃ id, after.outstanding id = true) ∨ Agrees ext after) :
    Coherent ext (world.takes task nextStep { outcome := outcome, row := some row }) := by
  have found : world.tasks task.id = some task := (tracked.aggregate task (by rw [held]; rfl)).1
  have log : (world.takes task nextStep { outcome := outcome, row := some row }).log = world.log :=
    List.append_nil _
  constructor
  case chain => rw [log]; exact coherent.chain
  case known => rw [log]; exact coherent.known
  case agrees => exact agrees
  case outstanding =>
    intro id out
    rcases outstanding_iff.mp out with ⟨authored, unrecorded⟩
    rw [log] at authored ⊢
    simp only [World.takes, Bool.or_eq_false_iff] at unrecorded
    exact coherent.outstanding id (outstanding_iff.mpr ⟨authored, unrecorded.1⟩)
  case ready => rw [log]; exact coherent.ready
  case pending =>
    intro other next result stepped _ publishes
    cases stepped
    rw [last] at publishes
    have different : lastStep task.taskType ≠ "publish_didlog" := by
      cases task.taskType <;> decide
    exact absurd (Option.some.inj publishes) different
  case recorded =>
    intro id done
    simp only [World.takes, Bool.or_eq_true, Bool.and_eq_true, beq_iff_eq] at done
    rcases done with before | ⟨rfl, _⟩
    · exact coherent.recorded id before
    · exact ⟨task, found, last⟩

theorem coherent_quiet {ext : Externals} {world : World} {calls : StepCalls}
    {task : OperationTask} {nextStep : Option String} {outcome : StepOutcome}
    {generated : List KeyPairId} (tracked : Tracked ext world) (coherent : Coherent ext world)
    (move : Move ext world (.perform calls)
      (world.takes task nextStep { outcome := outcome, generated := generated }))
    (pending : ∀ result, outcome = .done result → task.taskType = .rotateKeys →
      task.step = some "publish_didlog" → Ready ext world.log task) :
    Coherent ext (world.takes task nextStep { outcome := outcome, generated := generated }) := by
  apply coherent_rows tracked coherent move
  · exact List.append_nil _
  · rfl
  · funext id
    simp [World.takes, Effect.records]
  · exact fun _ present => present
  · intro other next result stepped saga publishes
    cases stepped
    exact pending result rfl saga publishes

theorem advertises_head {ext : Externals} {entry : LogEntry} {key : KeyPairId}
    (first : entry.updateKeys.bind List.head? = some (ext.engine.multikey ext.core key)) :
    Advertises ext entry key := by
  rcases Option.bind_eq_some_iff.mp first with ⟨keys, set, head⟩
  exact ⟨keys, set, List.mem_of_mem_head? head⟩

theorem orderly_alone {world : World} {calls : StepCalls} {task : OperationTask}
    (ordered : orderly world (.perform calls) = true) (held : world.worker = .acquired task)
    (publishes : task.step = some "publish_didlog") (stored : calls.put.stored = true) :
    ∀ id ∈ world.ids, id ≠ task.id → world.unsettled id = false := by
  intro id listed other
  have clear : ∀ id ∈ world.ids, id = task.id ∨ world.unsettled id = false := by
    simpa [orderly, held, publishes, stored] using ordered
  exact (clear id listed).resolve_left other

/-- A step that is not done and writes the row as it is moves only the worker. -/
theorem takes_same_row (world : World) (task : OperationTask) {outcome : StepOutcome}
    (unfinished : outcome.isDone = false) :
    world.takes task none (rowEffect (world.issuer, outcome)) =
      { world with worker := .stepped task none outcome } := by
  have unchanged : (fun id => world.recorded id || (id == task.id &&
      ({ outcome := outcome, row := some world.issuer } : Effect).records world.issuer)) =
        world.recorded := by
    funext id
    simp [Effect.records, unfinished]
  simp [World.takes, rowEffect, unchanged]

theorem coherent_swap {ext : Externals} {world : World} {task : OperationTask}
    {state : RotateKeysStateData} {calls : StepCalls} (tracked : Tracked ext world)
    (coherent : Coherent ext world) (held : world.worker = .acquired task)
    (saga : task.taskType = .rotateKeys) (named : task.step = some "swap_keys")
    (stateRead : RotateKeysStateData.decode ext.uuid task.stateData = .ok state) :
    Coherent ext (world.takes task none (rowEffect
      (executeSwapKeys world.issuer task.tenantId world.issuer.id state calls.swap))) := by
  rcases tracked.aggregate task (by rw [held]; rfl) with ⟨found, running⟩
  cases executed : executeSwapKeys world.issuer task.tenantId world.issuer.id state calls.swap with
  | mk row outcome =>
  rcases executeSwapKeys_cases executed with ⟨written, finished⟩
  apply coherent_settle tracked coherent held (by rw [saga]; exact named)
  intro active after
  have log : after.log = world.log := List.append_nil _
  by_cases installs : ∃ triple, state.newKeyTriple = some triple ∧
      world.issuer.state = some .active ∧ row = triple.install world.issuer
  · rcases installs with ⟨triple, frozen, activeBefore, rfl⟩
    by_cases others : ∃ id, id ≠ task.id ∧ world.outstanding id = true
    · rcases others with ⟨id, other, out⟩
      refine .inl ⟨id, ?_⟩
      rcases outstanding_iff.mp out with ⟨authored, unrecorded⟩
      apply outstanding_iff.mpr
      rw [log]
      exact ⟨authored, by simp [after, World.takes, unrecorded, other]⟩
    · -- every entry has reached the row: the tail decides about the triple's key
      right
      have live : ∃ last, world.log.getLast? = some last ∧ last.entry.deactivated ≠ some true := by
        rcases coherent.agrees activeBefore with ⟨id, out⟩ | ⟨last, _, tail, _, live, _⟩
        · have own : id = task.id := by
            by_contra other
            exact others ⟨id, other, out⟩
          rcases coherent.outstanding id out with ⟨row, last, there, tail, _, shown⟩
          rw [own, found] at there
          cases there
          cases shown with
          | rotation _ _ _ _ live => exact ⟨last, tail, live⟩
          | deactivation deactivates _ =>
              rw [saga] at deactivates
              cases deactivates
        · exact ⟨last, tail, live⟩
      rcases live with ⟨last, tail, live⟩
      rcases coherent.ready task.id task found (by rw [running]; rfl) saga named with
        ⟨known, kept, accepted⟩
      cases kept.unique ⟨state, stateRead, frozen⟩
      exact ⟨last, _, log ▸ tail, rfl, live, accepted last tail live⟩
  · have kept : row = world.issuer := written.resolve_right installs
    subst kept
    have unfinished : outcome.isDone = false := by
      cases outcome with
      | done result => exact absurd (finished result rfl).2 installs
      | retry | terminal => rfl
    have same : after = { world with worker := .stepped task none outcome } :=
      takes_same_row world task unfinished
    rw [same]
    exact coherent.agrees active

theorem coherent_mark {ext : Externals} {world : World} {task : OperationTask} {calls : StepCalls}
    (tracked : Tracked ext world) (coherent : Coherent ext world)
    (held : world.worker = .acquired task) (saga : task.taskType = .deactivateIssuer)
    (named : task.step = some "mark_deactivated") :
    Coherent ext (world.takes task none (rowEffect
      (executeMarkDeactivated world.issuer task.tenantId world.issuer.id calls.mark))) := by
  cases executed : executeMarkDeactivated world.issuer task.tenantId world.issuer.id calls.mark with
  | mk row outcome =>
  rcases executeMarkDeactivated_cases executed with ⟨written, finished⟩
  apply coherent_settle tracked coherent held (by rw [saga]; exact named)
  intro active after
  rcases written with rfl | rfl
  · have unfinished : outcome.isDone = false := by
      cases outcome with
      | done result =>
          have ended := (finished result rfl).2
          rw [ended] at active
          cases active
      | retry | terminal => rfl
    have same : after = { world with worker := .stepped task none outcome } :=
      takes_same_row world task unfinished
    rw [same]
    exact coherent.agrees active
  · cases active

/-- A rotation that is put on the log shows its new key, and the tail before it did not. -/
theorem rotation_shows {ext : Externals} {world : World} {task : OperationTask}
    {faults : EngineFaults} {triple : KeyTriple} {now : DateTime} {entry : LogEntry}
    (saga : task.taskType = .rotateKeys) (frozen : Frozen ext task triple)
    (built : buildRotationEntry ext.core ext.engine faults world.issuer triple
      (entries world.log) now = .ok entry) :
    Shows ext task entry ∧
      ∀ last, world.log.getLast? = some last → ¬ Shows ext task last.entry := by
  rcases buildRotationEntry_ok built with ⟨_, _, _, _, tail, unrotated, keys, live, _⟩
  refine ⟨.rotation triple saga frozen keys live, ?_⟩
  intro published same shown
  rw [getLast?_entries, same] at tail
  cases tail
  cases shown with
  | rotation other _ known keys _ =>
      cases known.unique frozen
      rw [keys] at unrotated
      exact unrotated rfl
  | deactivation deactivates _ =>
      rw [saga] at deactivates
      cases deactivates

theorem deactivation_shows {ext : Externals} {world : World} {task : OperationTask}
    {faults : EngineFaults} {now : DateTime} {entry : LogEntry}
    (saga : task.taskType = .deactivateIssuer)
    (built : buildDeactivationEntry ext.core ext.engine faults world.issuer
      (entries world.log) now = .ok entry) :
    Shows ext task entry ∧
      ∀ last, world.log.getLast? = some last → ¬ Shows ext task last.entry := by
  rcases buildDeactivationEntry_ok built with ⟨_, _, _, _, tail, live, ended, _⟩
  refine ⟨.deactivation saga ended, ?_⟩
  intro published same shown
  rw [getLast?_entries, same] at tail
  cases tail
  cases shown with
  | rotation _ rotates _ _ _ =>
      rw [saga] at rotates
      cases rotates
  | deactivation _ shown => exact live shown

theorem coherent_performed {ext : Externals} {world : World} {calls : StepCalls}
    {task : OperationTask} {nextStep : Option String} {effect : Effect}
    (tracked : Tracked ext world) (coherent : Coherent ext world)
    (ordered : orderly world (.perform calls) = true) (held : world.worker = .acquired task)
    (performed : Performed ext world task calls nextStep effect)
    (move : Move ext world (.perform calls) (world.takes task nextStep effect)) :
    Coherent ext (world.takes task nextStep effect) := by
  have found : world.tasks task.id = some task := (tracked.aggregate task (by rw [held]; rfl)).1
  have alone := orderly_alone ordered held
  cases performed with
  | generateNewKeys input state saga named =>
      apply coherent_quiet tracked coherent move
      intro _ _ _ publishes
      rw [publishes] at named
      exact absurd named (by decide)
  | buildRotation state saga named =>
      apply coherent_quiet tracked coherent move
      intro _ _ _ publishes
      rw [publishes] at named
      exact absurd (Option.some.inj named) (by decide)
  | buildDeactivation saga =>
      apply coherent_quiet tracked coherent move
      intro _ _ rotates _
      rw [saga] at rotates
      cases rotates
  | swapKeys state saga named stateRead =>
      exact coherent_swap tracked coherent held saga named stateRead
  | markDeactivated saga named => exact coherent_mark tracked coherent held saga named
  | publishRotation state saga named stateRead =>
      have unflagged := (tracked.rotateData found saga stateRead).unflagged (by simp [named])
      have published := rotation_publishCase ext world task calls state
      generalize publishEffect _ _ = effect at published move ⊢
      cases published with
      | kept flagged =>
          rw [unflagged] at flagged
          cases flagged
      | failed outcome fails =>
          apply coherent_quiet tracked coherent move
          intro _ done
          exact (done_of_fails fails done).elim
      | already last _ tail rotated =>
          apply coherent_quiet tracked coherent move
          intro _ _ _ _
          rcases rotated with ⟨triple, frozen, first⟩
          refine ⟨triple, ⟨state, stateRead, frozen⟩, ?_⟩
          intro other same _
          rw [tail] at same
          cases same
          exact advertises_head first
      | put entry _ built stored =>
          rcases built with ⟨triple, frozen, _, built⟩
          rcases rotation_shows saga ⟨state, stateRead, frozen⟩ built with ⟨shows_, unshown⟩
          rcases buildRotationEntry_ok built with
            ⟨active, outgoing, _, row, _, _, _, _, ⟨proof, made, signer⟩, _⟩
          exact coherent_put tracked coherent held named (alone named stored) active shows_ unshown
            ⟨proof, made, signer ▸ row⟩
  | publishDeactivation state saga named stateRead =>
      have unflagged := (tracked.deactivateData found saga stateRead).unflagged (by simp [named])
      have published := deactivation_publishCase ext world task calls state
      generalize publishEffect _ _ = effect at published move ⊢
      cases published with
      | kept flagged =>
          rw [unflagged] at flagged
          cases flagged
      | failed outcome fails =>
          apply coherent_quiet tracked coherent move
          intro _ done
          exact (done_of_fails fails done).elim
      | already last _ tail ended =>
          apply coherent_quiet tracked coherent move
          intro _ _ rotates _
          rw [saga] at rotates
          cases rotates
      | put entry _ built stored =>
          rcases deactivation_shows saga built.2 with ⟨shows_, unshown⟩
          rcases buildDeactivationEntry_ok built.2 with
            ⟨active, authorized, _, row, _, _, _, proof, made, signer⟩
          exact coherent_put tracked coherent held named (alone named stored) active shows_ unshown
            ⟨proof, made, signer ▸ row⟩

theorem coherent_step {ext : Externals} {world after : World} {event : Event}
    (tracked : Tracked ext world) (coherent : Coherent ext world)
    (taken : Guarded (fun world event => orderly world event = true) (Steps (World.step ext))
      world event after) : Coherent ext after := by
  have move := step_move taken.2
  cases step_move taken.2 with
  | perform calls task nextStep effect held concerned performed unused =>
      exact coherent_performed tracked coherent taken.1 held performed
        (.perform calls task nextStep effect held concerned performed unused)
  | insert =>
      exact coherent_rows tracked coherent move rfl rfl rfl
        (fun _ present => List.mem_cons_of_mem _ present) coherent.pending
  | checkIssuer | lookup | fail =>
      exact coherent_rows tracked coherent move rfl rfl rfl (fun _ present => present)
        coherent.pending
  | acquire | record | release =>
      refine coherent_rows tracked coherent move rfl rfl rfl (fun _ present => present) ?_
      intro _ _ _ absurd
      cases absurd

/-- As long as no `PUT` takes effect while another task stands between its publish and its last
step, every appended entry is signed by an update key of the entry before it, and no entry
follows a deactivation. -/
theorem appended_entries_are_authorised {ext : Externals} {first last : World}
    {trace : List Event} (initial : Initial first)
    (agrees : first.issuer.state = some .active → Agrees ext first)
    (run : Run (Guarded (fun world event => orderly world event = true) (Steps (World.step ext)))
      first trace last) : ChainAuthorised ext last.log := by
  have kept := run.invariant_under (Tracked ext) (Coherent ext)
    (fun _ _ _ tracked taken => tracked_step tracked taken.2)
    (fun _ _ _ tracked coherent taken => coherent_step tracked coherent taken)
    (tracked_initial ext initial) (coherent_initial initial agrees)
  exact kept.2.chain

section Sample

def rotationAndDeactivation : World :=
  sampleWorld [sampleTask "1" (.rotate ⟨[.authorized]⟩) 0, sampleTask "2" .deactivate 1]

theorem rotationAndDeactivation_initial : Initial rotationAndDeactivation := by
  apply sampleWorld_initial
  simp [sampleTask, newTask]

theorem rotationAndDeactivation_agrees :
    rotationAndDeactivation.issuer.state = some .active →
      Agrees sampleExternals rotationAndDeactivation := by
  intro _
  exact ⟨_, _, rfl, rfl, by decide, by decide⟩

def rotatedIssuer : Issuer := { sampleIssuer with authorizedKeyId := some ⟨"e2"⟩ }

def settledTrace : List Event :=
  [1, 2, 3, 4].flatMap (fun now => dispatched "1" now (sampleCalls sampleIssuer)) ++
    [5, 6, 7].flatMap fun now => dispatched "2" now (sampleCalls rotatedIssuer)

theorem appended_entries_are_authorised_sample : ∃ last,
    Run (Guarded (fun world event => orderly world event = true)
      (Steps (World.step sampleExternals))) rotationAndDeactivation settledTrace last ∧
    last.log.length = 3 ∧ ChainAuthorised sampleExternals last.log := by
  have computed : (exec (checked orderly (World.step sampleExternals)) rotationAndDeactivation
      settledTrace).map (fun world => world.log.length) = some 3 := by decide
  rcases Option.map_eq_some_iff.mp computed with ⟨last, executed, length⟩
  have run := Run.of_checked executed
  exact ⟨last, run, length, appended_entries_are_authorised rotationAndDeactivation_initial
    rotationAndDeactivation_agrees run⟩

def interleavedTrace : List Event :=
  [1, 2, 3].flatMap (fun now => dispatched "1" now (sampleCalls sampleIssuer)) ++
    dispatched "1" 4
      { sampleCalls sampleIssuer with swap := { update := .failed "connection reset" } } ++
    [5, 6].flatMap fun now => dispatched "2" now (sampleCalls sampleIssuer)

/-- The deactivation is signed by the key that the published rotation has replaced. -/
theorem unsettled_rotation_breaks_the_chain :
    Initial rotationAndDeactivation ∧
      (rotationAndDeactivation.issuer.state = some .active →
        Agrees sampleExternals rotationAndDeactivation) ∧
      ∃ last, Run (Steps (World.step sampleExternals)) rotationAndDeactivation interleavedTrace
        last ∧ ¬ ChainAuthorised sampleExternals last.log := by
  refine ⟨rotationAndDeactivation_initial, rotationAndDeactivation_agrees, ?_⟩
  have computed : (exec (World.step sampleExternals) rotationAndDeactivation
      interleavedTrace).map (fun world => decide (ChainAuthorised sampleExternals world.log)) =
        some false := by decide
  rcases Option.map_eq_some_iff.mp computed with ⟨last, executed, broken⟩
  exact ⟨last, Run.of_exec executed, of_decide_eq_false broken⟩

end Sample

end SwiyuIssuer.Saga
