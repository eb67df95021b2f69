import SwiyuIssuer.Library.RowLock
import SwiyuIssuer.Library.Run
import SwiyuIssuer.Worker.Runner
import Mathlib.Data.Fintype.Basic

/-! Several `Worker` loops on one `operation_tasks` table, one database statement at a time. The
executor of a step may answer anything. -/

namespace SwiyuIssuer.Worker

open Library Persistence

inductive Session
  | idle
  | selected (now : DateTime) (task : OperationTask)
  | claimed (task : OperationTask)
  | executing (task : OperationTask)
  | merging (task : OperationTask) (nextStep : Option String) (merged : Json) (now : DateTime)

namespace Session

/-- The task whose dispatch is open, from `acquire_next` to the last statement. -/
def task : Session → Option OperationTask
  | idle => none
  | selected _ task | claimed task | executing task | merging task _ _ _ => some task

def acquiring : Session → Bool
  | selected _ _ | claimed _ => true
  | idle | executing _ | merging _ _ _ _ => false

end Session

/-- `ids` are the primary keys in use. -/
structure Queue (n : Nat) where
  tasks : Table (Fin n) TaskId (Option OperationTask)
  ids : List TaskId
  workers : Fin n → Session

namespace Queue

variable {n : Nat}

inductive Event (n : Nat)
  | insert (task : OperationTask)
  | select (w : Fin n) (id : TaskId) (now : DateTime)
  | setAcquired (w : Fin n)
  | commit (w : Fin n)
  | finish (w : Fin n) (outcome : StepOutcome) (now : DateTime) (word : UInt64)
  | advance (w : Fin n)
  | abandon (w : Fin n)

def place (queue : Queue n) (tasks : Table (Fin n) TaskId (Option OperationTask)) (w : Fin n)
    (session : Session) : Queue n :=
  { queue with tasks := tasks, workers := Function.update queue.workers w session }

@[simp] theorem tasks_place (queue : Queue n)
    (tasks : Table (Fin n) TaskId (Option OperationTask)) (w : Fin n) (session : Session) :
    (queue.place tasks w session).tasks = tasks := rfl

@[simp] theorem workers_place_self (queue : Queue n)
    (tasks : Table (Fin n) TaskId (Option OperationTask)) (w : Fin n) (session : Session) :
    (queue.place tasks w session).workers w = session :=
  Function.update_self ..

theorem workers_place_ne (queue : Queue n)
    (tasks : Table (Fin n) TaskId (Option OperationTask)) {w v : Fin n} (session : Session)
    (different : v ≠ w) : (queue.place tasks w session).workers v = queue.workers v :=
  Function.update_of_ne different ..

/-- A row that the `SELECT` of a poll at `now` may return: runnable, and locked by nobody. -/
def runnable (queue : Queue n) (id : TaskId) (now : DateTime) : Option OperationTask :=
  match queue.tasks id with
  | ⟨some task, none⟩ => if task.acquirable now then some task else none
  | _ => none

/-- `LIMIT 1` of the ordered query: no runnable row stands before this one. -/
def first (queue : Queue n) (task : OperationTask) (now : DateTime) : Bool :=
  queue.ids.all fun other =>
    match queue.runnable other now with
    | some row => !decide (row.key < task.key)
    | none => true

def release (queue : Queue n) (w : Fin n) : Queue n := queue.place (queue.tasks.rollback w) w .idle

/-- The rows after `UPDATE … WHERE id = $1` outside a transaction. -/
def updated (queue : Queue n) (id : TaskId) (change : OperationTask → OperationTask) :
    Table (Fin n) TaskId (Option OperationTask) :=
  Function.update queue.tasks id ((queue.tasks id).autocommit (Option.map change))

/-- The last statement of a dispatch; it waits for the row lock. -/
def write (queue : Queue n) (w : Fin n) (id : TaskId) (change : OperationTask → OperationTask) :
    Option (Queue n) :=
  if (queue.tasks id).writer.isNone then some (queue.place (queue.updated id change) w .idle)
  else none

def step (queue : Queue n) : Event n → Option (Queue n)
  | .insert task =>
      match queue.tasks task.id with
      | ⟨none, none⟩ => some { queue with
          tasks := Function.update queue.tasks task.id (Cell.clean (some task))
          ids := task.id :: queue.ids }
      | _ => none
  | .select w id now =>
      match queue.workers w, queue.runnable id now with
      | .idle, some task =>
          if queue.first task now then
            some (queue.place (queue.tasks.update w id fun row => row) w (.selected now task))
          else none
      | _, _ => none
  | .setAcquired w =>
      match queue.workers w with
      | .selected now task =>
          match task.tryAcquire now with
          | .ok acquired => some (queue.place
              (queue.tasks.update w acquired.id (Option.map (·.setAcquired acquired))) w
              (.claimed acquired))
          | .error _ => some (queue.release w)
      | _ => none
  | .commit w =>
      match queue.workers w with
      | .claimed task => some (queue.place (queue.tasks.commit w) w (.executing task))
      | _ => none
  | .finish w outcome now word =>
      match queue.workers w with
      | .executing task =>
          match Worker.finish task (successor task.taskType task.step) outcome now word with
          | .error _ => some (queue.release w)
          | .ok (.advanceStep nextStep patch now) =>
              match (queue.tasks task.id).committed with
              | none => some (queue.release w)
              | some row => some (queue.place queue.tasks w (.merging task nextStep
                  (OperationTask.mergeStateData row.stateData patch) now))
          | .ok recording => queue.write w task.id recording.perform
      | _ => none
  | .advance w =>
      match queue.workers w with
      | .merging task nextStep merged now =>
          queue.write w task.id fun row => row.advanceStep nextStep merged now
      | _ => none
  | .abandon w => some (queue.release w)

structure Initial (queue : Queue n) : Prop where
  keyed : ∀ id task, (queue.tasks id).committed = some task → task.id = id
  unlocked : ∀ id, (queue.tasks id).writer = none
  idle : ∀ w, queue.workers w = .idle

/-- At a poll, each task that another worker is dispatching is not runnable or stands behind
another runnable row: its retry time is ahead, or the queue has an earlier row to hand out. -/
def Staggered (queue : Queue n) : Event n → Prop
  | .select w _ now => ∀ v, v ≠ w → ∀ task ∈ (queue.workers v).task,
      ∀ row ∈ queue.runnable task.id now,
        ∃ other ∈ queue.ids, ∃ ahead ∈ queue.runnable other now, ahead.key < row.key
  | _ => True

def Exclusive (queue : Queue n) : Prop :=
  ∀ v w, v ≠ w → ∀ task ∈ (queue.workers v).task, ∀ other ∈ (queue.workers w).task,
    task.id ≠ other.id

theorem runnable_some {queue : Queue n} {id : TaskId} {now : DateTime} {task : OperationTask}
    (found : queue.runnable id now = some task) :
    queue.tasks id = Cell.clean (some task) ∧ task.state.isTerminal = false := by
  unfold runnable at found
  split at found
  · next row cell =>
      split at found
      · next acquirable =>
          cases found
          refine ⟨cell, ?_⟩
          simpa using (Bool.and_eq_true_iff.mp acquirable).1
      · cases found
  · cases found

theorem first_least {queue : Queue n} {task : OperationTask} {now : DateTime}
    (least : queue.first task now = true) {other : TaskId} (present : other ∈ queue.ids)
    {row : OperationTask} (found : queue.runnable other now = some row) :
    ¬ row.key < task.key := by
  have checked := List.all_eq_true.mp least other present
  simpa [found] using checked

theorem write_some {queue after : Queue n} {w : Fin n} {id : TaskId}
    {change : OperationTask → OperationTask} (written : queue.write w id change = some after) :
    (queue.tasks id).writer = none ∧ after = queue.place (queue.updated id change) w .idle := by
  unfold write at written
  split at written
  · next unlocked =>
      cases written
      exact ⟨Option.isNone_iff_eq_none.mp unlocked, rfl⟩
  · cases written

inductive Move (queue : Queue n) : Event n → Queue n → Prop
  | insert (task : OperationTask) : queue.tasks task.id = Cell.clean none →
      Move queue (.insert task) { queue with
        tasks := Function.update queue.tasks task.id (Cell.clean (some task))
        ids := task.id :: queue.ids }
  | select (w : Fin n) (id : TaskId) (now : DateTime) (task : OperationTask) :
      queue.workers w = .idle → queue.runnable id now = some task →
      queue.first task now = true →
      Move queue (.select w id now)
        (queue.place (queue.tasks.update w id fun row => row) w (.selected now task))
  | setAcquired (w : Fin n) (now : DateTime) (task acquired : OperationTask) :
      queue.workers w = .selected now task → task.tryAcquire now = .ok acquired →
      Move queue (.setAcquired w) (queue.place
        (queue.tasks.update w acquired.id (Option.map (·.setAcquired acquired))) w
        (.claimed acquired))
  | commit (w : Fin n) (task : OperationTask) : queue.workers w = .claimed task →
      Move queue (.commit w) (queue.place (queue.tasks.commit w) w (.executing task))
  | read (w : Fin n) (event : Event n) (task : OperationTask) (nextStep : Option String)
      (merged : Json) (now : DateTime) : queue.workers w = .executing task →
      Move queue event (queue.place queue.tasks w (.merging task nextStep merged now))
  | write (w : Fin n) (event : Event n) (task : OperationTask)
      (change : OperationTask → OperationTask) : (queue.workers w).task = some task →
      (queue.tasks task.id).writer = none → (∀ row, (change row).id = row.id) →
      Move queue event (queue.place (queue.updated task.id change) w .idle)
  | release (w : Fin n) (event : Event n) : Move queue event (queue.release w)

theorem step_move {queue after : Queue n} {event : Event n}
    (taken : queue.step event = some after) : Move queue event after := by
  cases event with
  | insert task =>
      simp only [step] at taken
      split at taken
      · next absent =>
          cases taken
          exact .insert task absent
      · cases taken
  | select w id now =>
      simp only [step] at taken
      split at taken
      · next task idle found =>
          split at taken
          · next least =>
              cases taken
              exact .select w id now task idle found least
          · cases taken
      · cases taken
  | setAcquired w =>
      simp only [step] at taken
      split at taken
      · next now task holds =>
          split at taken
          · next acquired claimed =>
              cases taken
              exact .setAcquired w now task acquired holds claimed
          · cases taken
            exact .release w _
      · cases taken
  | commit w =>
      simp only [step] at taken
      split at taken
      · next task holds =>
          cases taken
          exact .commit w task holds
      · cases taken
  | finish w outcome now word =>
      simp only [step] at taken
      split at taken
      · next task holds =>
          have held : (queue.workers w).task = some task := by rw [holds]; rfl
          split at taken
          · cases taken
            exact .release w _
          · split at taken
            · cases taken
              exact .release w _
            · cases taken
              exact .read w _ task _ _ _ holds
          · next recording _ _ =>
              rcases write_some taken with ⟨unlocked, rfl⟩
              apply Move.write w _ task _ held unlocked
              intro row
              cases recording <;> rfl
      · cases taken
  | advance w =>
      simp only [step] at taken
      split at taken
      · next task nextStep merged now holds =>
          have held : (queue.workers w).task = some task := by rw [holds]; rfl
          rcases write_some taken with ⟨unlocked, rfl⟩
          exact .write w _ task _ held unlocked fun _ => rfl
      · cases taken
  | abandon w =>
      cases taken
      exact .release w _

end Queue

end SwiyuIssuer.Worker
