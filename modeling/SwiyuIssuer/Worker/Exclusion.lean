import SwiyuIssuer.Worker.Queue

/-! Where polls are staggered, a task has one worker at a time and a terminal row is final. -/

namespace SwiyuIssuer.Worker.Queue

open Library Persistence

variable {n : Nat}

/-- A row and the task of the one dispatch that is open on it. -/
structure Sound (queue : Queue n) : Prop where
  keyed : ∀ id task, (queue.tasks id).committed = some task → task.id = id
  locked : ∀ id w version, (queue.tasks id).writer = some (w, version) →
    (queue.workers w).acquiring = true ∧
      ∃ task, (queue.workers w).task = some task ∧ task.id = id ∧ version = some task
  running : ∀ w task, (queue.workers w).task = some task → task.state.isTerminal = false ∧
    ∃ row, (queue.tasks task.id).committed = some row ∧ row.state.isTerminal = false
  owned : ∀ w task, (queue.workers w).task = some task → (queue.workers w).acquiring = true →
    (queue.tasks task.id).writer = some (w, some task)
  exclusive : queue.Exclusive

theorem sound_initial {queue : Queue n} (initial : queue.Initial) : queue.Sound where
  keyed := initial.keyed
  locked := by
    intro id w version held
    rw [initial.unlocked id] at held
    cases held
  running := by
    intro w task holds
    rw [initial.idle w] at holds
    cases holds
  owned := by
    intro w task holds
    rw [initial.idle w] at holds
    cases holds
  exclusive := by
    intro v w _ task holds
    rw [initial.idle v] at holds
    cases holds

/-- What a statement of `w` has to respect: the rows and locks of the other dispatches, and in its
own session the same facts as before. -/
structure Respectful (queue : Queue n) (tasks : Table (Fin n) TaskId (Option OperationTask))
    (w : Fin n) (session : Session) : Prop where
  keyed : ∀ id task, (tasks id).committed = some task → task.id = id
  framed : ∀ v task, v ≠ w → (queue.workers v).task = some task →
    tasks task.id = queue.tasks task.id
  origin : ∀ id v version, v ≠ w → (tasks id).writer = some (v, version) →
    (queue.tasks id).writer = some (v, version)
  locked : ∀ id version, (tasks id).writer = some (w, version) → session.acquiring = true ∧
    ∃ task, session.task = some task ∧ task.id = id ∧ version = some task
  running : ∀ task, session.task = some task → task.state.isTerminal = false ∧
    ∃ row, (tasks task.id).committed = some row ∧ row.state.isTerminal = false
  owned : ∀ task, session.task = some task → session.acquiring = true →
    (tasks task.id).writer = some (w, some task)
  apart : ∀ task, session.task = some task → ∀ v other, v ≠ w →
    (queue.workers v).task = some other → other.id ≠ task.id

theorem sound_place {queue : Queue n} (sound : queue.Sound)
    {tasks : Table (Fin n) TaskId (Option OperationTask)} {w : Fin n} {session : Session}
    (respectful : queue.Respectful tasks w session) : (queue.place tasks w session).Sound where
  keyed := respectful.keyed
  locked := by
    intro id v version held
    by_cases own : v = w
    · subst own
      rw [workers_place_self]
      exact respectful.locked id version held
    · rw [workers_place_ne _ _ _ own]
      exact sound.locked id v version (respectful.origin id v version own held)
  running := by
    intro v task holds
    by_cases own : v = w
    · subst own
      rw [workers_place_self] at holds
      exact respectful.running task holds
    · rw [workers_place_ne _ _ _ own] at holds
      rw [tasks_place, respectful.framed v task own holds]
      exact sound.running v task holds
  owned := by
    intro v task holds acquiring
    by_cases own : v = w
    · subst own
      rw [workers_place_self] at holds acquiring
      exact respectful.owned task holds acquiring
    · rw [workers_place_ne _ _ _ own] at holds acquiring
      rw [tasks_place, respectful.framed v task own holds]
      exact sound.owned v task holds acquiring
  exclusive := by
    intro u v different task holds other holdsOther
    by_cases ownU : u = w
    · subst ownU
      rw [workers_place_self] at holds
      rw [workers_place_ne _ _ _ different.symm] at holdsOther
      exact (respectful.apart task holds v other different.symm holdsOther).symm
    · rw [workers_place_ne _ _ _ ownU] at holds
      by_cases ownV : v = w
      · subst ownV
        rw [workers_place_self] at holdsOther
        exact respectful.apart other holdsOther u task ownU holds
      · rw [workers_place_ne _ _ _ ownV] at holdsOther
        exact sound.exclusive u v different task holds other holdsOther

/-- A worker locks only the row of its own dispatch. -/
theorem Sound.holder_id {queue : Queue n} (sound : queue.Sound) {id : TaskId} {w : Fin n}
    {task : OperationTask} {version : Option OperationTask}
    (locked : (queue.tasks id).writer = some (w, version))
    (holds : (queue.workers w).task = some task) : task.id = id := by
  rcases (sound.locked id w version locked).2 with ⟨other, holdsOther, same, _⟩
  rw [holds] at holdsOther
  cases holdsOther
  exact same

theorem sound_insert {queue : Queue n} (sound : queue.Sound) {task : OperationTask}
    (absent : queue.tasks task.id = Cell.clean none) : Sound { queue with
      tasks := Function.update queue.tasks task.id (Cell.clean (some task))
      ids := task.id :: queue.ids } := by
  have elsewhere : ∀ w other, (queue.workers w).task = some other → other.id ≠ task.id := by
    intro w other holds same
    rcases (sound.running w other holds).2 with ⟨row, found, _⟩
    rw [same, absent] at found
    cases found
  constructor
  · intro id row found
    by_cases same : id = task.id
    · subst same
      simp only [Function.update_self] at found
      cases found
      rfl
    · simp only [Function.update_of_ne same] at found
      exact sound.keyed id row found
  · intro id w version held
    by_cases same : id = task.id
    · subst same
      simp only [Function.update_self] at held
      cases held
    · simp only [Function.update_of_ne same] at held
      exact sound.locked id w version held
  · intro w other holds
    simp only [Function.update_of_ne (elsewhere w other holds)]
    exact sound.running w other holds
  · intro w other holds acquiring
    simp only [Function.update_of_ne (elsewhere w other holds)]
    exact sound.owned w other holds acquiring
  · exact sound.exclusive

theorem respectful_select {queue : Queue n} (sound : queue.Sound) {w : Fin n} {id : TaskId}
    {now : DateTime} {task : OperationTask} (idle : queue.workers w = .idle)
    (found : queue.runnable id now = some task) (least : queue.first task now = true)
    (staggered : queue.Staggered (.select w id now)) :
    queue.Respectful (queue.tasks.update w id fun row => row) w (.selected now task) := by
  rcases runnable_some found with ⟨cell, live⟩
  have keyed : task.id = id := sound.keyed id task (by rw [cell]; rfl)
  -- Another worker on the row would lock it or, by the guard, leave it behind another row.
  have apart : ∀ v other, v ≠ w → (queue.workers v).task = some other → other.id ≠ id := by
    rintro v other different holds rfl
    rcases staggered v different other holds task found with
      ⟨ahead, present, row, available, before⟩
    exact first_least least present available before
  subst keyed
  constructor
  · intro other row committed
    by_cases same : other = task.id
    · subst same
      rw [Table.update_self, Cell.committed_update] at committed
      exact sound.keyed _ row committed
    · rw [Table.update_ne _ _ _ same] at committed
      exact sound.keyed other row committed
  · intro v other different holds
    exact Table.update_ne _ _ _ (apart v other different holds)
  · intro other v version different held
    exact (Table.respects_update _ (by rw [cell]; rfl)).origin other v version different held
  · intro other version held
    by_cases same : other = task.id
    · subst same
      rw [Table.update_self, Cell.writer_update, cell] at held
      cases held
      exact ⟨rfl, task, rfl, rfl, rfl⟩
    · rw [Table.update_ne _ _ _ same] at held
      have acquiring := (sound.locked other w version held).1
      rw [idle] at acquiring
      cases acquiring
  · rintro _ ⟨⟩
    refine ⟨live, task, ?_, live⟩
    rw [Table.update_self, Cell.committed_update, cell]
    rfl
  · rintro _ ⟨⟩ _
    rw [Table.update_self, Cell.writer_update, cell]
    rfl
  · rintro _ ⟨⟩ v other different holds
    exact apart v other different holds

theorem respectful_setAcquired {queue : Queue n} (sound : queue.Sound) {w : Fin n}
    {now : DateTime} {task acquired : OperationTask} (holds : queue.workers w = .selected now task)
    (claimed : task.tryAcquire now = .ok acquired) :
    queue.Respectful (queue.tasks.update w acquired.id (Option.map (·.setAcquired acquired))) w
      (.claimed acquired) := by
  have held : (queue.workers w).task = some task := by rw [holds]; rfl
  have writer := sound.owned w task held (by rw [holds]; rfl)
  have written := OperationTask.setAcquired_tryAcquire claimed
  rcases OperationTask.tryAcquire_ok claimed with ⟨_, attempts, shape⟩
  have same : acquired.id = task.id := by rw [shape]; rfl
  have live : acquired.state.isTerminal = false := by rw [shape]; rfl
  have apart : ∀ v other, v ≠ w → (queue.workers v).task = some other → other.id ≠ task.id := by
    intro v other different holdsOther
    exact sound.exclusive v w different other holdsOther task held
  rw [same]
  constructor
  · intro id row committed
    by_cases here : id = task.id
    · subst here
      rw [Table.update_self, Cell.committed_update] at committed
      exact sound.keyed _ row committed
    · rw [Table.update_ne _ _ _ here] at committed
      exact sound.keyed id row committed
  · intro v other different holdsOther
    exact Table.update_ne _ _ _ (apart v other different holdsOther)
  · intro id v version different locked
    have free : (queue.tasks task.id).free w = true := by simp [Cell.free, writer]
    exact (Table.respects_update _ free).origin id v version different locked
  · intro id version locked
    by_cases here : id = task.id
    · subst here
      rw [Table.update_self, Cell.writer_update, Cell.read_held writer, Option.map_some,
        written] at locked
      cases locked
      exact ⟨rfl, acquired, rfl, same, rfl⟩
    · rw [Table.update_ne _ _ _ here] at locked
      exact absurd (sound.holder_id locked held).symm here
  · rintro _ ⟨⟩
    refine ⟨live, ?_⟩
    rw [same, Table.update_self, Cell.committed_update]
    exact (sound.running w task held).2
  · rintro _ ⟨⟩ _
    rw [same, Table.update_self, Cell.writer_update, Cell.read_held writer, Option.map_some,
      written]
  · rintro _ ⟨⟩ v other different holdsOther
    rw [same]
    exact apart v other different holdsOther

theorem respectful_commit {queue : Queue n} (sound : queue.Sound) {w : Fin n}
    {task : OperationTask} (holds : queue.workers w = .claimed task) :
    queue.Respectful (queue.tasks.commit w) w (.executing task) := by
  have held : (queue.workers w).task = some task := by rw [holds]; rfl
  have writer := sound.owned w task held (by rw [holds]; rfl)
  have unheld : ∀ id, id ≠ task.id → ∀ version,
      (queue.tasks id).writer ≠ some (w, version) := by
    intro id elsewhere version locked
    exact elsewhere.symm (sound.holder_id locked held)
  constructor
  · intro id row committed
    by_cases here : id = task.id
    · subst here
      rw [Table.commit_apply, Cell.commit_held writer] at committed
      cases committed
      rfl
    · rw [Table.commit_apply, Cell.commit_unheld (unheld id here)] at committed
      exact sound.keyed id row committed
  · intro v other different holdsOther
    have elsewhere := sound.exclusive v w different other holdsOther task held
    exact Cell.commit_unheld (unheld other.id elsewhere)
  · intro id v version different locked
    exact (Table.respects_commit queue.tasks w).origin id v version different locked
  · intro id version locked
    exact absurd rfl (Cell.writer_commit locked).1
  · rintro _ ⟨⟩
    have live := (sound.running w task held).1
    refine ⟨live, task, ?_, live⟩
    rw [Table.commit_apply, Cell.commit_held writer]
    rfl
  · rintro _ ⟨⟩ acquiring
    cases acquiring
  · rintro _ ⟨⟩ v other different holdsOther
    exact sound.exclusive v w different other holdsOther task held

theorem respectful_read {queue : Queue n} (sound : queue.Sound) {w : Fin n}
    {task : OperationTask} {nextStep : Option String} {merged : Json} {now : DateTime}
    (holds : queue.workers w = .executing task) :
    queue.Respectful queue.tasks w (.merging task nextStep merged now) := by
  have held : (queue.workers w).task = some task := by rw [holds]; rfl
  constructor
  · exact sound.keyed
  · intro v other _ _
    rfl
  · intro id v version _ locked
    exact locked
  · intro id version locked
    have acquiring := (sound.locked id w version locked).1
    rw [holds] at acquiring
    cases acquiring
  · rintro _ ⟨⟩
    exact sound.running w task held
  · rintro _ ⟨⟩ acquiring
    cases acquiring
  · rintro _ ⟨⟩ v other different holdsOther
    exact sound.exclusive v w different other holdsOther task held

theorem respectful_write {queue : Queue n} (sound : queue.Sound) {w : Fin n}
    {task : OperationTask} {change : OperationTask → OperationTask}
    (held : (queue.workers w).task = some task) (unlocked : (queue.tasks task.id).writer = none)
    (keeps : ∀ row, (change row).id = row.id) :
    queue.Respectful (queue.updated task.id change) w .idle := by
  have acquired : (queue.workers w).acquiring = false := by
    cases acquiring : (queue.workers w).acquiring with
    | false => rfl
    | true =>
        have locked := sound.owned w task held acquiring
        rw [unlocked] at locked
        cases locked
  constructor
  · intro id row committed
    by_cases here : id = task.id
    · subst here
      rw [updated, Function.update_self] at committed
      rcases Option.map_eq_some_iff.mp committed with ⟨before, found, rfl⟩
      rw [keeps]
      exact sound.keyed _ before found
    · rw [updated, Function.update_of_ne here] at committed
      exact sound.keyed id row committed
  · intro v other different holdsOther
    exact Function.update_of_ne
      (sound.exclusive v w different other holdsOther task held) ..
  · intro id v version _ locked
    by_cases here : id = task.id
    · subst here
      rw [updated, Function.update_self] at locked
      cases locked
    · rwa [updated, Function.update_of_ne here] at locked
  · intro id version locked
    by_cases here : id = task.id
    · subst here
      rw [updated, Function.update_self] at locked
      cases locked
    · rw [updated, Function.update_of_ne here] at locked
      have acquiring := (sound.locked id w version locked).1
      rw [acquired] at acquiring
      cases acquiring
  · rintro _ ⟨⟩
  · rintro _ ⟨⟩
  · rintro _ ⟨⟩

theorem respectful_release {queue : Queue n} (sound : queue.Sound) (w : Fin n) :
    queue.Respectful (queue.tasks.rollback w) w .idle := by
  constructor
  · intro id row committed
    rw [Table.rollback_apply, Cell.committed_rollback] at committed
    exact sound.keyed id row committed
  · intro v other different holdsOther
    apply Cell.rollback_unheld
    intro version locked
    rcases (sound.locked other.id w version locked).2 with ⟨task, holds, same, _⟩
    exact sound.exclusive v w different other holdsOther task holds same.symm
  · intro id v version different locked
    exact (Table.respects_rollback queue.tasks w).origin id v version different locked
  · intro id version locked
    exact absurd rfl (Cell.writer_rollback locked).1
  · rintro _ ⟨⟩
  · rintro _ ⟨⟩
  · rintro _ ⟨⟩

theorem sound_step {queue after : Queue n} {event : Event n} (sound : queue.Sound)
    (taken : Guarded Staggered (Steps step) queue event after) : after.Sound := by
  rcases taken with ⟨staggered, taken⟩
  cases step_move taken with
  | insert task absent => exact sound_insert sound absent
  | select w id now task idle found least =>
      exact sound_place sound (respectful_select sound idle found least staggered)
  | setAcquired w now task acquired holds claimed =>
      exact sound_place sound (respectful_setAcquired sound holds claimed)
  | commit w task holds => exact sound_place sound (respectful_commit sound holds)
  | read w _ task nextStep merged now holds =>
      exact sound_place sound (respectful_read sound holds)
  | write w _ task change held unlocked keeps =>
      exact sound_place sound (respectful_write sound held unlocked keeps)
  | release w _ => exact sound_place sound (respectful_release sound w)

/-- Rows change under a dispatch only, and a dispatch is open on running rows only. -/
theorem terminal_step {queue after : Queue n} {event : Event n} (sound : queue.Sound)
    (taken : queue.step event = some after) {id : TaskId} {row : OperationTask}
    (found : (queue.tasks id).committed = some row) (terminal : row.state.isTerminal = true) :
    (after.tasks id).committed = some row := by
  have elsewhere : ∀ w task, (queue.workers w).task = some task → id ≠ task.id := by
    rintro w task holds rfl
    rcases (sound.running w task holds).2 with ⟨other, present, live⟩
    rw [found] at present
    cases present
    rw [terminal] at live
    cases live
  cases step_move taken with
  | insert task absent =>
      have different : id ≠ task.id := by
        rintro rfl
        rw [absent] at found
        cases found
      simpa only [Function.update_of_ne different] using found
  | select w key now task idle available least =>
      rw [tasks_place]
      by_cases same : id = key
      · subst same
        rwa [Table.update_self, Cell.committed_update]
      · rwa [Table.update_ne _ _ _ same]
  | setAcquired w now task acquired holds claimed =>
      rw [tasks_place]
      by_cases same : id = acquired.id
      · subst same
        rwa [Table.update_self, Cell.committed_update]
      · rwa [Table.update_ne _ _ _ same]
  | commit w task holds =>
      have held : (queue.workers w).task = some task := by rw [holds]; rfl
      rw [tasks_place, Table.commit_apply, Cell.commit_unheld]
      · exact found
      · intro version locked
        exact elsewhere w task held (sound.holder_id locked held).symm
  | read w _ task nextStep merged now holds => exact found
  | write w _ task change held unlocked keeps =>
      rwa [tasks_place, updated, Function.update_of_ne (elsewhere w task held)]
  | release w _ =>
      rwa [release, tasks_place, Table.rollback_apply, Cell.committed_rollback]

/-- Between any two states of a staggered run a terminal row is the same. -/
theorem terminal_run {first last : Queue n} {trace : List (Event n)} (sound : first.Sound)
    (run : Run (Guarded Staggered (Steps step)) first trace last) {id : TaskId}
    {row : OperationTask} (found : (first.tasks id).committed = some row)
    (terminal : row.state.isTerminal = true) : (last.tasks id).committed = some row :=
  (run.invariant_under Sound (fun queue => (queue.tasks id).committed = some row)
    (fun _ _ _ => sound_step)
    (fun _ _ _ sound found taken => terminal_step sound taken.2 found terminal) sound found).2

theorem one_worker_per_task {start middle last : Queue n} {front back : List (Event n)}
    (initial : start.Initial) (before : Run (Guarded Staggered (Steps step)) start front middle)
    (after : Run (Guarded Staggered (Steps step)) middle back last) :
    last.Exclusive ∧ ∀ id row, (middle.tasks id).committed = some row →
      row.state.isTerminal = true → (last.tasks id).committed = some row := by
  have middleSound := before.invariant Sound (fun _ _ _ => sound_step) (sound_initial initial)
  have lastSound := after.invariant Sound (fun _ _ _ => sound_step) middleSound
  constructor
  · exact lastSound.exclusive
  · intro id row found terminal
    exact terminal_run middleSound after found terminal

section Sample

instance (queue : Queue n) (event : Event n) : Decidable (queue.Staggered event) :=
  match event with
  | .select w _ now => inferInstanceAs (Decidable (∀ v, v ≠ w → ∀ task ∈ (queue.workers v).task,
      ∀ row ∈ queue.runnable task.id now,
        ∃ other ∈ queue.ids, ∃ ahead ∈ queue.runnable other now, ahead.key < row.key))
  | .insert _ | .setAcquired _ | .commit _ | .finish .. | .advance _ | .abandon _ => isTrue trivial

/-- A running deactivation at its last step. -/
def markTask (id : TaskId) (nextAttemptAt : Option DateTime) : OperationTask where
  id := id
  tenantId := ⟨"1111111111"⟩
  taskType := .deactivateIssuer
  state := .inProgress
  step := some "mark_deactivated"
  attempts := 0
  nextAttemptAt := nextAttemptAt
  errorCode := none
  errorMessage := none
  input := .object []
  stateData := .object []
  resultIssuerId := some ⟨"1111111111"⟩
  createdAt := 0
  updatedAt := 0
  completedAt := none

def firstTaskId : TaskId := ⟨"1111111112"⟩

def secondTaskId : TaskId := ⟨"1111111113"⟩

def sampleQueue : Queue 2 where
  tasks := fun id => Cell.clean (if id = firstTaskId then some (markTask id (some 5)) else none)
  ids := [firstTaskId]
  workers := fun _ => .idle

theorem sampleQueue_initial : sampleQueue.Initial where
  keyed := by
    intro id task found
    simp only [sampleQueue, Cell.committed_clean] at found
    split at found <;> cases found
    rfl
  unlocked := fun _ => rfl
  idle := fun _ => rfl

def acquires (w : Fin 2) (id : TaskId) (now : DateTime) : List (Event 2) :=
  [.select w id now, .setAcquired w, .commit w]

/-- The second worker polls after a task without a retry time has been submitted. -/
def staggeredFront : List (Event 2) :=
  acquires 0 firstTaskId 10 ++ [.insert (markTask secondTaskId none)] ++
    acquires 1 secondTaskId 11 ++ [.finish 0 (.done {}) 12 0]

def staggeredBack : List (Event 2) := [.finish 1 (.retry "mark_deactivated_failed" "commit") 13 0]

structure Observed where
  state : TaskState
  errorCode : Option String
  nextAttemptAt : Option DateTime
deriving DecidableEq

def observe (queue : Queue 2) (id : TaskId) : Option Observed :=
  (queue.tasks id).committed.map fun task => ⟨task.state, task.errorCode, task.nextAttemptAt⟩

def heldIds (queue : Queue 2) : Option TaskId × Option TaskId :=
  ((queue.workers 0).task.map (·.id), (queue.workers 1).task.map (·.id))

theorem one_worker_per_task_sample : ∃ middle last : Queue 2,
    observe middle firstTaskId = some ⟨.completed, none, none⟩ ∧
      Run (Guarded Staggered (Steps step)) middle staggeredBack last ∧ last.Exclusive ∧
      ∀ id row, (middle.tasks id).committed = some row → row.state.isTerminal = true →
        (last.tasks id).committed = some row := by
  have reached : (exec (checked (fun queue event => decide (queue.Staggered event)) step)
      sampleQueue staggeredFront).map (observe · firstTaskId) =
      some (some ⟨.completed, none, none⟩) := by decide
  rcases Option.map_eq_some_iff.mp reached with ⟨middle, computed, completed⟩
  have ended : ((exec (checked (fun queue event => decide (queue.Staggered event)) step)
      sampleQueue (staggeredFront ++ staggeredBack)).map (observe · secondTaskId)).isSome =
      true := by decide
  rw [exec_append, computed, Option.bind_some, Option.isSome_map] at ended
  rcases Option.isSome_iff_exists.mp ended with ⟨last, finished⟩
  have front : Run (Guarded Staggered (Steps step)) sampleQueue staggeredFront middle :=
    (Run.of_checked computed).mono fun _ _ _ taken => ⟨of_decide_eq_true taken.1, taken.2⟩
  have back : Run (Guarded Staggered (Steps step)) middle staggeredBack last :=
    (Run.of_checked finished).mono fun _ _ _ taken => ⟨of_decide_eq_true taken.1, taken.2⟩
  rcases one_worker_per_task sampleQueue_initial front back with ⟨exclusive, final⟩
  exact ⟨middle, last, completed, back, exclusive, final⟩

/-- Nothing is submitted in between: both workers take the same task. -/
def overlapping : List (Event 2) := acquires 0 firstTaskId 10 ++ acquires 1 firstTaskId 11

def completion : List (Event 2) := [.finish 0 (.done {}) 12 0]

def lateRetry : List (Event 2) := [.finish 1 (.retry "mark_deactivated_failed" "commit") 13 0]

/-- The second worker is handed the task that the first one is executing, and its retry then writes
an error and a retry time into the completed row. -/
theorem two_workers_on_one_task : ∃ shared completed last : Queue 2,
    Run (Steps step) sampleQueue overlapping shared ∧ ¬ shared.Exclusive ∧
      Run (Steps step) shared completion completed ∧
      observe completed firstTaskId = some ⟨.completed, none, none⟩ ∧
      Run (Steps step) completed lateRetry last ∧
      observe last firstTaskId =
        some ⟨.completed, some "mark_deactivated_failed", some 13⟩ := by
  have both : (exec step sampleQueue overlapping).map heldIds =
      some (some firstTaskId, some firstTaskId) := by decide
  rcases Option.map_eq_some_iff.mp both with ⟨shared, reached, held⟩
  have wrote : (exec step sampleQueue (overlapping ++ completion)).map
      (observe · firstTaskId) = some (some ⟨.completed, none, none⟩) := by decide
  rw [exec_append, reached, Option.bind_some] at wrote
  rcases Option.map_eq_some_iff.mp wrote with ⟨completed, finished, terminal⟩
  have rewrote : (exec step sampleQueue (overlapping ++ (completion ++ lateRetry))).map
      (observe · firstTaskId) =
      some (some ⟨.completed, some "mark_deactivated_failed", some 13⟩) := by decide
  rw [exec_append, reached, Option.bind_some, exec_append, finished, Option.bind_some] at rewrote
  rcases Option.map_eq_some_iff.mp rewrote with ⟨last, retried, changed⟩
  refine ⟨shared, completed, last, .of_exec reached, ?_, .of_exec finished, terminal,
    .of_exec retried, changed⟩
  intro exclusive
  rcases Prod.mk.inj held with ⟨first, second⟩
  rcases Option.map_eq_some_iff.mp first with ⟨task, holds, same⟩
  rcases Option.map_eq_some_iff.mp second with ⟨other, holdsOther, sameOther⟩
  exact exclusive 0 1 (by decide) task holds other holdsOther (same.trans sameOther.symm)

end Sample

end SwiyuIssuer.Worker.Queue
