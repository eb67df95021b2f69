import SwiyuIssuer.Saga.ChainAuthorisation

/-! Whether the entries that the worker appends are in the order of their times. -/

namespace SwiyuIssuer.Saga

open Library Persistence Worker

/-- What `SecondsFormat::Secs` leaves of a time. -/
def second (time : DateTime) : Int := time / seconds 1

/-- `readTime` reads the times that `to_rfc3339_opts` writes, and an entry has the time that it was
made with. -/
structure Clocked (core : SwiyuCore) (readTime : String → Option Int) : Prop where
  written : ∀ time, readTime (core.rfc3339 time) = some (second time)
  rotation : ∀ prev did key authentication assertion now,
    (core.newRotation prev did key authentication assertion now).versionTime = now
  deactivation : ∀ prev doc now, (core.newDeactivation prev doc now).versionTime = now

section

variable (readTime : String → Option Int)

/-- The entry is of a strictly later time than the one before it. -/
def Follows (before next : LogEntry) : Prop :=
  ∃ earlier ∈ readTime before.versionTime, ∃ later ∈ readTime next.versionTime, earlier < later

instance (before next : LogEntry) : Decidable (Follows readTime before next) :=
  inferInstanceAs (Decidable (∃ earlier ∈ readTime before.versionTime,
    ∃ later ∈ readTime next.versionTime, earlier < later))

def InTimeOrder (log : List Published) : Prop :=
  log.IsChain fun before next =>
    next.author.isSome = true → Follows readTime before.entry next.entry

instance (log : List Published) : Decidable (InTimeOrder readTime log) :=
  inferInstanceAs (Decidable (log.IsChain _))

/-- The second in which the author of an entry was submitted; without an author, the entry's own. -/
def World.origin (world : World) (published : Published) : Option Int :=
  match published.author with
  | some id => (world.tasks id).map fun task => second task.createdAt
  | none => readTime published.entry.versionTime

def World.isBefore (world : World) (time : DateTime) (published : Published) : Bool :=
  (world.origin readTime published).any fun earlier => decide (earlier < second time)

/-- The step stores an entry. -/
def World.stores (ext : Externals) (world : World) (calls : StepCalls) : Bool :=
  match world.worker with
  | .acquired task =>
      match executeStep ext world task calls with
      | some (.ok (_, effect)) => effect.stored.isSome
      | _ => false
  | _ => false

/-- A task that stores an entry was submitted in a later second than the author of the tail. -/
def chronological (ext : Externals) (world : World) : Event → Bool
  | .perform calls =>
      match world.worker, world.log.getLast? with
      | .acquired task, some tail =>
          !world.stores ext calls || world.isBefore readTime task.createdAt tail
      | _, _ => true
  | _ => true

/-- A task is submitted while no task is open, in a later second than all authors of the log. -/
def spaced (world : World) : Event → Bool
  | .insert _ _ now =>
      (world.ids.all fun id => (world.tasks id).all fun task => task.state.isTerminal) &&
        world.log.all (world.isBefore readTime now)
  | _ => true

/-- The entries of the tasks have the seconds in which the tasks were submitted. -/
def Dated (ext : Externals) (world : World) : Prop :=
  ∀ published ∈ world.log, ∀ id, published.author = some id → ∃ task, world.tasks id = some task ∧
    Shows ext task published.entry ∧
    readTime published.entry.versionTime = some (second task.createdAt)

end

section Build

variable {core : SwiyuCore} {engine : Engine} {faults : EngineFaults} {issuer : Issuer}
  {log : List LogEntry} {now : DateTime} {entry : LogEntry} {readTime : String → Option Int}

theorem buildRotationEntry_time (clocked : Clocked core readTime) {triple : KeyTriple}
    (built : buildRotationEntry core engine faults issuer triple log now = .ok entry) :
    readTime entry.versionTime = some (second now) := by
  simp only [buildRotationEntry, Answers.bind_ok] at built
  rcases built with ⟨_, _, outgoing, _, last, _, _, _, multikey, _, authentication, _, assertion, _,
    built⟩
  split at built
  · cases built
  · rw [(chainEntry_ok built).versionTime, clocked.rotation, clocked.written]

theorem buildDeactivationEntry_time (clocked : Clocked core readTime)
    (built : buildDeactivationEntry core engine faults issuer log now = .ok entry) :
    readTime entry.versionTime = some (second now) := by
  simp only [buildDeactivationEntry, Answers.bind_ok] at built
  rcases built with ⟨_, _, authorized, _, last, _, built⟩
  split at built
  · cases built
  · rcases Answers.bind_ok.mp built with ⟨doc, _, built⟩
    rw [(chainEntry_ok built).versionTime, clocked.deactivation, clocked.written]

end Build

/-- What a step that stores an entry puts on the log, and what the tail was not. -/
structure Stores (ext : Externals) (readTime : String → Option Int) (world : World)
    (task : OperationTask) (entry : LogEntry) : Prop where
  shows_ : Shows ext task entry
  unshown : ∀ last, world.log.getLast? = some last → ¬ Shows ext task last.entry
  nonempty : world.log ≠ []
  time : readTime entry.versionTime = some (second task.createdAt)

section Steps

variable {ext : Externals} {readTime : String → Option Int} {world after : World} {event : Event}

theorem performed_stores {task : OperationTask} {calls : StepCalls} {nextStep : Option String}
    {effect : Effect} {entry : LogEntry} (clocked : Clocked ext.core readTime)
    (performed : Performed ext world task calls nextStep effect)
    (stored : effect.stored = some entry) : Stores ext readTime world task entry := by
  have nonempty : ∀ last, (entries world.log).getLast? = some last → world.log ≠ [] := by
    rintro last tail empty
    rw [empty] at tail
    cases tail
  cases performed with
  | generateNewKeys | buildRotation | buildDeactivation | swapKeys | markDeactivated => cases stored
  | publishRotation state saga _ stateRead =>
      have published := rotation_publishCase ext world task calls state
      generalize publishEffect _ _ = effect at published stored
      cases published with
      | kept | already | failed => cases stored
      | put entry _ built =>
          cases stored
          rcases built with ⟨triple, frozen, _, built⟩
          rcases rotation_shows saga ⟨state, stateRead, frozen⟩ built with ⟨shows_, unshown⟩
          rcases buildRotationEntry_ok built with ⟨_, _, last, _, tail, _⟩
          exact ⟨shows_, unshown, nonempty last tail, buildRotationEntry_time clocked built⟩
  | publishDeactivation state saga =>
      have published := deactivation_publishCase ext world task calls state
      generalize publishEffect _ _ = effect at published stored
      cases published with
      | kept | already | failed => cases stored
      | put entry _ built =>
          cases stored
          rcases deactivation_shows saga built.2 with ⟨shows_, unshown⟩
          rcases buildDeactivationEntry_ok built.2 with ⟨_, _, last, _, tail, _⟩
          exact ⟨shows_, unshown, nonempty last tail, buildDeactivationEntry_time clocked built.2⟩

/-- The log stays, or the worker's task puts an entry on it. -/
theorem step_log (taken : world.step ext event = some after) :
    (after.log = world.log ∧ ∀ calls, event = .perform calls → world.stores ext calls = false) ∨
      ∃ calls task nextStep effect entry, event = .perform calls ∧
        world.worker = .acquired task ∧ after = world.takes task nextStep effect ∧
        effect.stored = some entry ∧ world.stores ext calls = true ∧
        Performed ext world task calls nextStep effect := by
  cases event with
  | perform calls =>
      simp only [World.step] at taken
      split at taken
      · next task holds =>
          split at taken
          · next consistent =>
              split at taken
              · cases taken
              · next error executed =>
                  cases taken
                  refine .inl ⟨rfl, ?_⟩
                  rintro _ ⟨⟩
                  simp only [World.stores, holds, executed]
              · next nextStep effect executed =>
                  split at taken
                  · cases taken
                    have stores : world.stores ext calls = effect.stored.isSome := by
                      simp only [World.stores, holds, executed]
                    cases stored : effect.stored with
                    | none =>
                        rw [stored] at stores
                        refine .inl ⟨by simp [World.takes, stored], ?_⟩
                        rintro _ ⟨⟩
                        exact stores
                    | some entry =>
                        rw [stored] at stores
                        exact .inr ⟨calls, task, nextStep, effect, entry, rfl, holds, rfl, stored,
                          stores, (executeStep_performed consistent executed).2⟩
                  · cases taken
          · cases taken
      · cases taken
  | _ =>
      refine .inl ⟨?_, fun _ other => by cases other⟩
      cases step_move taken <;> rfl

theorem takes_log {task : OperationTask} {nextStep : Option String} {effect : Effect}
    {entry : LogEntry} (stored : effect.stored = some entry) :
    (world.takes task nextStep effect).log = world.log ++ [⟨some task.id, entry⟩] := by
  simp [World.takes, stored]

theorem dated_step (clocked : Clocked ext.core readTime) (tracked : Tracked ext world)
    (dated : Dated readTime ext world) (taken : world.step ext event = some after) :
    Dated readTime ext after := by
  have move := step_move taken
  have kept : ∀ published ∈ world.log, ∀ id, published.author = some id →
      ∃ task, after.tasks id = some task ∧ Shows ext task published.entry ∧
        readTime published.entry.versionTime = some (second task.createdAt) := by
    intro published member id author
    rcases dated published member id author with ⟨task, found, shows_, time⟩
    rcases rows_kept tracked move found with ⟨row, there, step⟩
    have keyed : world.tasks task.id = some task := by rw [tracked.keyed id task found, found]
    exact ⟨row, there, shows_.row tracked keyed step, step.fixed.createdAt ▸ time⟩
  intro published member id author
  rcases step_log taken with ⟨same, _⟩ |
    ⟨calls, task, nextStep, effect, entry, rfl, held, rfl, stored, _, performed⟩
  · rw [same] at member
    exact kept published member id author
  · rw [takes_log stored] at member
    rcases List.mem_append.mp member with old | new
    · exact kept published old id author
    · rw [List.mem_singleton.mp new] at author ⊢
      cases author
      have made := performed_stores clocked performed stored
      exact ⟨task, (tracked.aggregate task (by rw [held]; rfl)).1, made.shows_, made.time⟩

/-- An entry keeps the second of its author. -/
theorem origin_step (tracked : Tracked ext world) (dated : Dated readTime ext world)
    (taken : world.step ext event = some after) {published : Published}
    (member : published ∈ world.log) :
    after.origin readTime published = world.origin readTime published := by
  unfold World.origin
  cases author : published.author with
  | none => rfl
  | some id =>
      rcases dated published member id author with ⟨task, found, _⟩
      rcases rows_kept tracked (step_move taken) found with ⟨row, there, step⟩
      show (after.tasks id).map _ = (world.tasks id).map _
      rw [there, found, Option.map_some, Option.map_some, step.fixed.createdAt]

theorem origin_time (dated : Dated readTime ext world) {published : Published}
    (member : published ∈ world.log) :
    readTime published.entry.versionTime = world.origin readTime published := by
  unfold World.origin
  cases author : published.author with
  | none => rfl
  | some id =>
      rcases dated published member id author with ⟨task, found, _, time⟩
      show _ = (world.tasks id).map _
      rw [time, found]
      rfl

theorem isBefore_iff (dated : Dated readTime ext world) {published : Published}
    (member : published ∈ world.log) {time : DateTime} {next : LogEntry}
    (read : readTime next.versionTime = some (second time)) :
    world.isBefore readTime time published = true ↔ Follows readTime published.entry next := by
  rw [World.isBefore, ← origin_time dated member, Option.any_eq_true]
  constructor
  · rintro ⟨earlier, shown, before⟩
    exact ⟨earlier, shown, _, read, of_decide_eq_true before⟩
  · rintro ⟨earlier, shown, later, written, before⟩
    rw [Option.mem_def, read] at written
    cases written
    exact ⟨earlier, shown, decide_eq_true before⟩

theorem chronological_idle
    (idle : ∀ calls, event = .perform calls → world.stores ext calls = false) :
    chronological readTime ext world event = true := by
  cases event with
  | perform calls =>
      simp only [chronological, idle calls rfl]
      split <;> rfl
  | _ => rfl

theorem chronological_stores {calls : StepCalls} {task : OperationTask} {tail : Published}
    (held : world.worker = .acquired task) (last : world.log.getLast? = some tail)
    (stores : world.stores ext calls = true) :
    chronological readTime ext world (.perform calls) =
      world.isBefore readTime task.createdAt tail := by
  simp [chronological, held, last, stores]

/-- A step leaves the log in order exactly when it stores nothing, or nothing too old. -/
theorem inTimeOrder_step (clocked : Clocked ext.core readTime) (dated : Dated readTime ext world)
    (taken : world.step ext event = some after) :
    InTimeOrder readTime after.log ↔
      InTimeOrder readTime world.log ∧ chronological readTime ext world event = true := by
  rcases step_log taken with ⟨same, idle⟩ |
    ⟨calls, task, nextStep, effect, entry, rfl, held, rfl, stored, stores, performed⟩
  · rw [same, chronological_idle idle]
    exact (and_iff_left rfl).symm
  · have made := performed_stores clocked performed stored
    rcases Option.isSome_iff_exists.mp (List.getLast?_isSome.mpr made.nonempty) with ⟨tail, last⟩
    rw [takes_log stored, chronological_stores held last stores,
      isBefore_iff dated (List.mem_of_getLast? last) made.time]
    unfold InTimeOrder
    rw [List.isChain_append]
    simp [last]

/-- At most one task is open, and what the others have put on the log is older. -/
structure Sequential (readTime : String → Option Int) (world : World) : Prop where
  alone : ∀ id other task row, world.tasks id = some task → task.state.isTerminal = false →
    world.tasks other = some row → row.state.isTerminal = false → id = other
  later : ∀ id task, world.tasks id = some task → task.state.isTerminal = false →
    ∀ published ∈ world.log, published.author ≠ some id →
      world.isBefore readTime task.createdAt published = true

theorem spaced_insert {r : Nat} {id other : TaskId} {now : DateTime} {task : OperationTask}
    (tracked : Tracked ext world) (apart : spaced readTime world (.insert r id now) = true)
    (found : world.tasks other = some task) : task.state.isTerminal = true := by
  simp only [spaced, Bool.and_eq_true, List.all_eq_true] at apart
  have ended := apart.1 other (tracked.listed other task found)
  rwa [found] at ended

theorem alone_step (tracked : Tracked ext world) (sequential : Sequential readTime world)
    (apart : spaced readTime world event = true) (taken : world.step ext event = some after)
    {id other : TaskId} {task row : OperationTask} (found : after.tasks id = some task)
    (live : task.state.isTerminal = false) (there : after.tasks other = some row)
    (open_ : row.state.isTerminal = false) : id = other := by
  have move := step_move taken
  rcases rows_step tracked move found with ⟨old, before, step⟩ | ⟨r, now, _, rfl, _, absent, _⟩
  · rcases rows_step tracked move there with ⟨prior, held, moved⟩ | ⟨_, _, _, rfl, _⟩
    · exact sequential.alone id other old prior before (step.live live) held (moved.live open_)
    · have ended := spaced_insert tracked apart before
      rw [step.live live] at ended
      cases ended
  · rcases rows_step tracked move there with ⟨prior, held, moved⟩ | ⟨_, _, _, same, _⟩
    · have ended := spaced_insert tracked apart held
      rw [moved.live open_] at ended
      cases ended
    · cases same
      rfl

theorem sequential_step (tracked : Tracked ext world) (dated : Dated readTime ext world)
    (sequential : Sequential readTime world) (apart : spaced readTime world event = true)
    (taken : world.step ext event = some after) : Sequential readTime after := by
  refine ⟨fun _ _ _ _ found live there open_ =>
    alone_step tracked sequential apart taken found live there open_, ?_⟩
  intro id row found live published member foreign
  have kept : ∀ time, published ∈ world.log →
      after.isBefore readTime time published = world.isBefore readTime time published := by
    intro time old
    rw [World.isBefore, World.isBefore, origin_step tracked dated taken old]
  rcases rows_step tracked (step_move taken) found with ⟨task, held, step⟩ |
    ⟨r, now, submission, rfl, _, _, rfl⟩
  · have open_ := step.live live
    rw [step.fixed.createdAt]
    have earlier : published ∈ world.log := by
      rcases step_log taken with ⟨same, _⟩ |
        ⟨calls, worked, nextStep, effect, entry, rfl, busy, rfl, stored, _⟩
      · exact same ▸ member
      · rw [takes_log stored] at member
        rcases List.mem_append.mp member with old | new
        · exact old
        · -- the worker's task is open, so it is the one that the entry is not by
          rcases tracked.aggregate worked (by rw [busy]; rfl) with ⟨own, running⟩
          have unfinished : worked.state.isTerminal = false := by rw [running]; rfl
          have same := sequential.alone id worked.id task worked held open_ own unfinished
          rw [List.mem_singleton.mp new, same] at foreign
          exact absurd rfl foreign
    rw [kept _ earlier]
    exact sequential.later id task held open_ published earlier foreign
  · rcases step_log taken with ⟨same, _⟩ | ⟨_, _, _, _, _, other, _⟩
    · rw [same] at member
      rw [kept _ member]
      simp only [spaced, Bool.and_eq_true, List.all_eq_true] at apart
      exact apart.2 published member
    · cases other

/-- A task that works alone stores no entry over its own, and none that is too old. -/
theorem chronological_step (clocked : Clocked ext.core readTime) (tracked : Tracked ext world)
    (dated : Dated readTime ext world) (sequential : Sequential readTime world)
    (taken : world.step ext event = some after) :
    chronological readTime ext world event = true := by
  rcases step_log taken with ⟨_, idle⟩ |
    ⟨calls, task, nextStep, effect, entry, rfl, held, rfl, stored, stores, performed⟩
  · exact chronological_idle idle
  · have made := performed_stores clocked performed stored
    rcases Option.isSome_iff_exists.mp (List.getLast?_isSome.mpr made.nonempty) with ⟨tail, last⟩
    have member := List.mem_of_getLast? last
    rcases tracked.aggregate task (by rw [held]; rfl) with ⟨found, running⟩
    rw [chronological_stores held last stores]
    apply sequential.later task.id task found (by rw [running]; rfl) tail member
    intro own
    rcases dated tail member task.id own with ⟨_, same, shows_, _⟩
    rw [found] at same
    cases same
    exact made.unshown tail last shows_

end Steps

section Runs

variable {ext : Externals} {readTime : String → Option Int} {first last : World}
  {trace : List Event}

theorem inTimeOrder_initial (initial : Initial first) : InTimeOrder readTime first.log := by
  apply List.isChain_iff_forall_rel_of_append_cons_cons.mpr
  intro before next front back split authored
  rw [initial.unauthored next (by rw [split]; simp)] at authored
  cases authored

theorem dated_initial (initial : Initial first) : Dated readTime ext first := by
  intro published member id author
  rw [initial.unauthored published member] at author
  cases author

theorem known_step (clocked : Clocked ext.core readTime) (world : World) (event : Event)
    (after : World) (known : Tracked ext world ∧ Dated readTime ext world)
    (taken : Steps (World.step ext) world event after) :
    Tracked ext after ∧ Dated readTime ext after :=
  ⟨tracked_step known.1 taken, dated_step clocked known.1 known.2 taken⟩

theorem spaced_inTimeOrder (clocked : Clocked ext.core readTime) (initial : Initial first)
    (ended : ∀ id task, first.tasks id = some task → task.state.isTerminal = true)
    (run : Run (Guarded (fun world event => spaced readTime world event = true)
      (Steps (World.step ext))) first trace last) : InTimeOrder readTime last.log := by
  have sequential : Sequential readTime first := by
    constructor
    · intro id other task row found live
      rw [ended id task found] at live
      cases live
    · intro id task found live
      rw [ended id task found] at live
      cases live
  refine (run.invariant_under
    (fun world => (Tracked ext world ∧ Dated readTime ext world) ∧ Sequential readTime world)
    (fun world => InTimeOrder readTime world.log) ?_ ?_
    ⟨⟨tracked_initial ext initial, dated_initial initial⟩, sequential⟩
    (inTimeOrder_initial initial)).2
  · rintro world event after ⟨known, sequential⟩ ⟨apart, taken⟩
    exact ⟨known_step clocked world event after known taken,
      sequential_step known.1 known.2 sequential apart taken⟩
  · rintro world event after ⟨known, sequential⟩ ordered ⟨_, taken⟩
    exact (inTimeOrder_step clocked known.2 taken).mpr
      ⟨ordered, chronological_step clocked known.1 known.2 sequential taken⟩

/-- An appended entry has the second in which its task was submitted. The entries are in the order
of their times exactly when every task that stores one was submitted after the author of the tail,
and they are when the tasks are submitted one after the other. -/
theorem entries_have_their_tasks_times (clocked : Clocked ext.core readTime)
    (initial : Initial first) (run : Run (Steps (World.step ext)) first trace last) :
    (∀ published ∈ last.log, ∀ id, published.author = some id → ∃ task, last.tasks id = some task ∧
        readTime published.entry.versionTime = some (second task.createdAt)) ∧
      (InTimeOrder readTime last.log ↔
        Run (Guarded (fun world event => chronological readTime ext world event = true)
          (Steps (World.step ext))) first trace last) ∧
      ((∀ id task, first.tasks id = some task → task.state.isTerminal = true) →
        Run (Guarded (fun world event => spaced readTime world event = true)
          (Steps (World.step ext))) first trace last →
        InTimeOrder readTime last.log) := by
  have start : Tracked ext first ∧ Dated readTime ext first :=
    ⟨tracked_initial ext initial, dated_initial initial⟩
  have known := run.invariant _ (known_step clocked) start
  refine ⟨?_, ?_, spaced_inTimeOrder clocked initial⟩
  · intro published member id author
    rcases known.2 published member id author with ⟨task, found, _, time⟩
    exact ⟨task, found, time⟩
  · exact run.holds_iff_guarded _ (fun world => InTimeOrder readTime world.log) (known_step clocked)
      (fun _ _ _ known taken => inTimeOrder_step clocked known.2 taken) start
      (inTimeOrder_initial initial)

end Runs

section Sample

/-- The first ten seconds of 1970 as `chrono` writes them, and any other second as a number. -/
def clockText (time : DateTime) : String :=
  let count := second time
  String.ofList (
    if 0 ≤ count ∧ count < 10 then "1970-01-01T00:00:0".toList ++ [count.toNat.digitChar, 'Z']
    else if 0 ≤ count then '+' :: Nat.toDigits 10 count.toNat
    else '-' :: Nat.toDigits 10 count.natAbs)

def readClock (text : String) : Option Int :=
  match text.toList with
  | '+' :: digits => some (Nat.ofDigitChars 10 digits 0)
  | '-' :: digits => some (-Nat.ofDigitChars 10 digits 0)
  | chars => chars[18]?.map fun digit => (digit.toNat : Int) - 48

def clockCore : SwiyuCore := { plainCore with rfc3339 := clockText }

theorem clockCore_clocked : Clocked clockCore readClock where
  written time := by
    show readClock (clockText time) = _
    unfold clockText readClock
    generalize second time = count
    rw [String.toList_ofList]
    split_ifs with early later
    · have digits : ∀ digit < 10, (Nat.digitChar digit).toNat = 48 + digit := by decide
      have small : count.toNat < 10 := by omega
      have read := digits _ small
      simp only [String.reduceToList, List.cons_append, List.nil_append]
      simp [read]
      omega
    · have read : ((count.toNat : Nat) : Int) = count := by omega
      simp only [Nat.ofDigitChars_ten_toDigits, read]
    · have read : -((count.natAbs : Nat) : Int) = count := by omega
      simp only [Nat.ofDigitChars_ten_toDigits, read]
  rotation _ _ _ _ _ _ := rfl
  deactivation _ _ _ := rfl

def clockExternals : Externals := { sampleExternals with core := clockCore }

def clockWorld (tasks : List OperationTask) : World :=
  { sampleWorld tasks with
    log := [⟨none, { sampleGenesis with versionTime := clockText 0 }⟩] }

theorem clockWorld_initial {tasks : List OperationTask}
    (queued : ∀ task ∈ tasks, task.step = none ∧ task.stateData = .object []) :
    Initial (clockWorld tasks) :=
  { sampleWorld_initial queued with
    unauthored := by
      intro published member
      rw [List.mem_singleton.mp member] }

def submitted (r : Nat) (kind : RequestKind) (id : String) (now : DateTime) : List Event :=
  [.checkIssuer r ⟨sampleIssuer.tenantId, sampleIssuer.id, kind⟩, .lookup r none,
    .insert r ⟨id⟩ now]

/-- A rotation, and after its end a deactivation. -/
def spacedTrace : List Event :=
  submitted 0 (.rotate ⟨[.authorized]⟩) "1" (seconds 1) ++
    [1, 2, 3, 4].flatMap (fun now => dispatched "1" (seconds now) (sampleCalls sampleIssuer)) ++
    submitted 1 .deactivate "2" (seconds 5) ++
    [5, 6, 7].flatMap fun now => dispatched "2" (seconds now) (sampleCalls rotatedIssuer)

theorem entries_have_their_tasks_times_sample : ∃ last,
    Run (Steps (World.step clockExternals)) (clockWorld []) spacedTrace last ∧
      last.log.length = 3 ∧ InTimeOrder readClock last.log := by
  have computed : (exec (checked (spaced readClock) (World.step clockExternals)) (clockWorld [])
      spacedTrace).map (fun world => world.log.length) = some 3 := by decide
  rcases Option.map_eq_some_iff.mp computed with ⟨last, executed, length⟩
  have initial : Initial (clockWorld []) := clockWorld_initial (by simp)
  have run := Run.of_checked executed
  have times := entries_have_their_tasks_times clockCore_clocked initial run.forget
  refine ⟨last, run.forget, length, times.2.2 ?_ run⟩
  intro id task found
  cases found

def retriedDeactivation : World :=
  clockWorld [sampleTask "1" .deactivate (seconds 1),
    sampleTask "2" (.rotate ⟨[.authorized]⟩) (seconds 2)]

def unreachable : RegistryError := ⟨.transport, "connection refused", true⟩

/-- The deactivation waits for its second try while the younger rotation goes through. -/
def retriedTrace : List Event :=
  dispatched "1" (seconds 3) (sampleCalls sampleIssuer) ++
    dispatched "1" (seconds 4) { sampleCalls sampleIssuer with fetch := some unreachable } ++
    [4, 5, 6, 7].flatMap (fun now => dispatched "2" (seconds now) (sampleCalls sampleIssuer)) ++
    dispatched "1" (seconds 100) (sampleCalls rotatedIssuer)

theorem retried_task_turns_time_back :
    Clocked clockExternals.core readClock ∧ Initial retriedDeactivation ∧
      ∃ last, Run (Steps (World.step clockExternals)) retriedDeactivation retriedTrace last ∧
        last.log.map (fun published => published.entry.versionTime) =
          ["1970-01-01T00:00:00Z", "1970-01-01T00:00:02Z", "1970-01-01T00:00:01Z"] ∧
        ¬ InTimeOrder readClock last.log := by
  refine ⟨clockCore_clocked, clockWorld_initial (by simp [sampleTask, newTask]), ?_⟩
  have computed : (exec (World.step clockExternals) retriedDeactivation retriedTrace).map
      (fun world => (world.log.map fun published => published.entry.versionTime,
        decide (InTimeOrder readClock world.log))) =
      some (["1970-01-01T00:00:00Z", "1970-01-01T00:00:02Z", "1970-01-01T00:00:01Z"], false) := by
    decide
  rcases Option.map_eq_some_iff.mp computed with ⟨last, executed, seen⟩
  rcases Prod.mk.inj seen with ⟨times, broken⟩
  exact ⟨last, Run.of_exec executed, times, of_decide_eq_false broken⟩

end Sample

end SwiyuIssuer.Saga
