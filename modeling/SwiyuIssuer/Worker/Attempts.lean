import SwiyuIssuer.Worker.Progress

/-! How many executions of its current step a row accounts for, along the executions of one
worker. -/

namespace SwiyuIssuer.Worker

open Library Persistence

/-- `acquire_next` on a row that it picks: the aggregate that the step is executed with. -/
def acquire (bs58Length : String → Except String Nat) (row : TaskRow) (now : DateTime) :
    Option OperationTask :=
  if row.acquirable now then
    match row.decode bs58Length with
    | .error _ => none
    | .ok task => (task.tryAcquire now).toOption
  else none

/-- An execution ends without writing the row again, or its dispatch runs to its end. -/
inductive Execution
  | crash (acquiredAt : DateTime)
  | dispatched (calls : Calls)

def Execution.acquiredAt : Execution → DateTime
  | crash acquiredAt => acquiredAt
  | dispatched calls => calls.acquiredAt

structure Counted where
  row : TaskRow
  ran : Nat

def Counted.step (bs58Length : String → Except String Nat) (uuid : UuidFormat) (state : Counted)
    (execution : Execution) : Option Counted :=
  (acquire bs58Length state.row execution.acquiredAt).map fun task =>
    let after := match execution with
      | .crash _ => encode task
      | .dispatched calls => dispatch bs58Length uuid state.row calls
    ⟨after, if after.step = state.row.step then state.ran + 1 else 0⟩

structure Inserted (row : TaskRow) : Prop where
  state : row.state = "pending"
  step : row.step = none
  attempts : row.attempts = 0

/-- No operation on the counter overflows: not the shift, not the sum, not the column. -/
def InRange (attempts : Nat) : Prop :=
  baseMs <<< min (saturatingAdd attempts 1) 6 < 2 ^ 64 ∧ saturatingAdd attempts 1 < 2 ^ 32 ∧
    (asI32 attempts).toInt = attempts

/-- At the start of the `k`-th execution the aggregate counts the ones before it, and a retry below
the cap is planned within the bound for `k`, whatever the generator returns. -/
def Accounted (k : Nat) (task : OperationTask) : Prop :=
  task.attempts = k - 1 ∧ InRange task.attempts ∧
    ∀ nextStep errorCode errorMessage now word, pastCap task now = false →
      ∃ time, finish task nextStep (.retry errorCode errorMessage) now word =
          .ok (.scheduleRetry time errorCode errorMessage now) ∧
        now ≤ time ∧ time ≤ now + min (seconds 60 * 2 ^ k) (hours 1)

/-- For every `u32` the shift stays inside `u64`, and the sum inside `u32`. -/
theorem backoff_in_range (attempts : Nat) :
    baseMs <<< min (saturatingAdd attempts 1) 6 < 2 ^ 64 ∧ saturatingAdd attempts 1 < 2 ^ 32 := by
  constructor
  · have clamped : min (saturatingAdd attempts 1) 6 ≤ 6 := Nat.min_le_right ..
    rw [Nat.shiftLeft_eq]
    calc baseMs * 2 ^ min (saturatingAdd attempts 1) 6
        ≤ baseMs * 2 ^ 6 := Nat.mul_le_mul_left _ (Nat.pow_le_pow_right (by decide) clamped)
      _ < 2 ^ 64 := by decide
  · unfold saturatingAdd
    omega

theorem ceilingMs_le (attempts : Nat) : ceilingMs attempts ≤ min (baseMs * 2 ^ attempts) maxMs := by
  unfold ceilingMs
  rw [Nat.shiftLeft_eq]
  apply le_min
  · apply Nat.le_trans (Nat.min_le_left ..)
    exact Nat.mul_le_mul_left _ (Nat.pow_le_pow_right (by decide) (Nat.min_le_left ..))
  · exact Nat.min_le_right ..

theorem retry_within {task : OperationTask} {k : Nat} (counted : saturatingAdd task.attempts 1 = k)
    (nextStep : Option String) (errorCode errorMessage : String) {now : DateTime} (word : UInt64)
    (young : pastCap task now = false) :
    ∃ time, finish task nextStep (.retry errorCode errorMessage) now word =
        .ok (.scheduleRetry time errorCode errorMessage now) ∧
      now ≤ time ∧ time ≤ now + min (seconds 60 * 2 ^ k) (hours 1) := by
  refine ⟨now + milliseconds (backoffDelay k word), ?_,
    Int.le_add_of_nonneg_right (milliseconds_nonneg _), Int.add_le_add_left ?_ now⟩
  · simp [finish, apply, young, counted]
  · have bound := Nat.le_trans (backoffDelay_bound k word) (ceilingMs_le k)
    have power : backoffDelay k word ≤ baseMs * 2 ^ k := Nat.le_trans bound (Nat.min_le_left ..)
    have hour : backoffDelay k word ≤ maxMs := Nat.le_trans bound (Nat.min_le_right ..)
    have power : ((backoffDelay k word : Nat) : Int) ≤ 60000 * 2 ^ k := by
      rw [← Int.ofNat_le, Int.natCast_mul, Int.natCast_pow] at power
      exact power
    have hour : ((backoffDelay k word : Nat) : Int) ≤ 3600000 := Int.ofNat_le.mpr hour
    apply le_min
    · simp only [seconds, milliseconds]
      omega
    · simp only [hours, seconds, milliseconds]
      omega

/-- Below `2 ^ 31` the column holds the counter; from there on it is negative. -/
theorem asI32_toInt {attempts : Nat} (bound : attempts ≤ 2 ^ 31) :
    (attempts < 2 ^ 31 → (asI32 attempts).toInt = attempts) ∧
      (attempts = 2 ^ 31 → (asI32 attempts).toInt < 0) := by
  constructor
  · intro inside
    rw [asI32, Int32.toInt_ofInt]
    apply Int.bmod_eq_of_le
    · simp only [Int32.size]
      omega
    · simp only [Int32.size]
      omega
  · rintro rfl
    decide

theorem asI32_bound {attempts counted : Nat} (bound : counted ≤ 2 ^ 31)
    {name : String} (decoded : tryFromI32 name (asI32 counted) = .ok attempts) :
    attempts = counted ∧ counted < 2 ^ 31 := by
  rcases asI32_toInt bound with ⟨held, wrapped⟩
  unfold tryFromI32 at decoded
  split at decoded
  · next nonneg =>
      cases decoded
      have below : counted < 2 ^ 31 := by
        rcases Nat.lt_or_eq_of_le bound with below | same
        · exact below
        · exact absurd nonneg (Int.not_le.mpr (wrapped same))
      rw [held below]
      exact ⟨Int.toNat_natCast counted, below⟩
  · cases decoded

section Acquire

variable {bs58Length : String → Except String Nat} {row : TaskRow}
  {now : DateTime} {acquired : OperationTask}

theorem acquire_ok (picked : acquire bs58Length row now = some acquired) :
    row.acquirable now = true ∧ ∃ task, row.decode bs58Length = .ok task ∧
      task.tryAcquire now = .ok acquired := by
  unfold acquire at picked
  split at picked
  · next runnable =>
      split at picked
      · cases picked
      · next task decoded =>
          cases claims : task.tryAcquire now with
          | error e =>
              rw [claims] at picked
              cases picked
          | ok made =>
              rw [claims] at picked
              cases picked
              exact ⟨runnable, task, decoded, claims⟩
  · cases picked

theorem dispatch_acquired (uuid : UuidFormat) {calls : Calls}
    (picked : acquire bs58Length row calls.acquiredAt = some acquired)
    (running : acquired.state = .inProgress) :
    dispatch bs58Length uuid row calls = encode acquired ∨
      ∃ write, Recorded acquired (successor acquired.taskType acquired.step) calls.outcome calls.now
        write ∧ dispatch bs58Length uuid row calls = encode (write.perform acquired) := by
  rcases acquire_ok picked with ⟨_, task, decoded, claims⟩
  have written := OperationTask.setAcquired_tryAcquire claims
  rcases Answers.ok_or_error (dispatchAcquired uuid acquired calls) with
    ⟨write, dispatched⟩ | ⟨error, failed⟩
  · right
    refine ⟨write, (dispatchAcquired_ok running dispatched).2.2.2.2, ?_⟩
    simp only [dispatch, decoded, claims, written, dispatched]
  · left
    simp only [dispatch, decoded, claims, written, failed]

end Acquire

/-- What the column says about the executions so far: before the first advance a row that has been
claimed counts all of them but one, afterwards it counts all of them. -/
structure Tracks (state : Counted) : Prop where
  pending : state.row.state = "pending" →
    state.row.step = none ∧ state.row.attempts = 0 ∧ state.ran = 0
  running : state.row.state = "in_progress" → ∃ counted, counted ≤ 2 ^ 31 ∧
    state.row.attempts = asI32 counted ∧ (state.row.step = none → counted + 1 = state.ran) ∧
    (state.row.step ≠ none → counted = state.ran)

structure Starts (state : Counted) (acquired : OperationTask) : Prop where
  running : acquired.state = .inProgress
  step : acquired.step = state.row.step
  bound : acquired.attempts ≤ 2 ^ 31
  first : state.row.step = none → acquired.attempts = state.ran
  later : state.row.step ≠ none → acquired.attempts = state.ran + 1

section Run

variable {bs58Length : String → Except String Nat} {uuid : UuidFormat} {state after : Counted}

theorem decode_columns {row : TaskRow} {task : OperationTask}
    (decoded : row.decode bs58Length = .ok task) :
    row.state = task.state.asStr ∧ row.step = task.step ∧
      tryFromI32 "attempts" row.attempts = .ok task.attempts := by
  simp only [TaskRow.decode, Answers.bind_ok, column, Answers.mapError_ok] at decoded
  rcases decoded with ⟨_, _, _, _, _, _, state, stateRead, attempts, attemptsRead, _, _, made⟩
  cases made
  exact ⟨TaskState.asStr_of_parse stateRead, rfl, attemptsRead⟩

theorem starts_of_tracks (tracks : Tracks state) {now : DateTime} {acquired : OperationTask}
    (picked : acquire bs58Length state.row now = some acquired) : Starts state acquired := by
  rcases acquire_ok picked with ⟨_, task, decoded, claims⟩
  rcases decode_columns decoded with ⟨named, stepped, counted⟩
  unfold OperationTask.tryAcquire at claims
  cases task_state : task.state with
  | pending =>
      rw [task_state] at claims named
      cases claims
      rcases tracks.pending named with ⟨unstarted, zero, none_⟩
      have attempts : task.attempts = 0 := by
        rw [zero] at counted
        exact (asI32_bound (Nat.zero_le _) counted).1
      refine ⟨rfl, stepped.symm, ?_, ?_, ?_⟩
      · show task.attempts ≤ _
        omega
      · intro _
        show task.attempts = _
        omega
      · exact fun advanced => absurd unstarted advanced
  | inProgress =>
      rw [task_state] at claims named
      cases claims
      rcases tracks.running named with ⟨stored, bound, column, first, later⟩
      rw [column] at counted
      rcases asI32_bound bound counted with ⟨same, below⟩
      have next : saturatingAdd task.attempts 1 = stored + 1 := by
        unfold saturatingAdd
        omega
      refine ⟨rfl, stepped.symm, ?_, ?_, ?_⟩
      · show saturatingAdd task.attempts 1 ≤ _
        omega
      · intro unstarted
        show saturatingAdd task.attempts 1 = _
        rw [next, first unstarted]
      · intro advanced
        show saturatingAdd task.attempts 1 = _
        rw [next, later advanced]
  | completed | failed =>
      rw [task_state] at claims
      cases claims

/-- An execution that does not move the row on adds one to both counts. -/
theorem Starts.tracks {acquired : OperationTask} (starts : Starts state acquired) {row : TaskRow}
    (step : row.step = acquired.step) (attempts : row.attempts = asI32 acquired.attempts)
    (unfinished : row.state ≠ "pending") : Tracks ⟨row, state.ran + 1⟩ where
  pending := fun pending => absurd pending unfinished
  running := by
    intro _
    refine ⟨acquired.attempts, starts.bound, attempts, ?_, ?_⟩
    · intro unstarted
      rw [starts.first (by rw [← starts.step, ← step]; exact unstarted)]
    · intro advanced
      exact starts.later (by rw [← starts.step, ← step]; exact advanced)

theorem claimed_again {acquired : OperationTask} (starts : Starts state acquired)
    {nextAttemptAt : Option DateTime} {errorCode errorMessage : Option String}
    {updatedAt : DateTime} :
    let row := encode { acquired with
      nextAttemptAt := nextAttemptAt
      errorCode := errorCode
      errorMessage := errorMessage
      updatedAt := updatedAt }
    Tracks ⟨row, if row.step = state.row.step then state.ran + 1 else 0⟩ := by
  intro row
  rw [if_pos (show row.step = state.row.step from starts.step)]
  refine starts.tracks rfl rfl ?_
  show acquired.state.asStr ≠ _
  rw [starts.running]
  decide

theorem tracks_terminal {row : TaskRow} {ran : Nat}
    (ended : row.state = "completed" ∨ row.state = "failed") : Tracks ⟨row, ran⟩ := by
  constructor
  · intro pending
    rcases ended with state | state <;> exact absurd (state.symm.trans pending) (by decide)
  · intro running
    rcases ended with state | state <;> exact absurd (state.symm.trans running) (by decide)

theorem tracks_step {execution : Execution} (tracks : Tracks state)
    (taken : state.step bs58Length uuid execution = some after) : Tracks after := by
  rcases Option.map_eq_some_iff.mp taken with ⟨acquired, picked, rfl⟩
  have starts := starts_of_tracks tracks picked
  have claimed : Tracks ⟨encode acquired,
      if (encode acquired).step = state.row.step then state.ran + 1 else 0⟩ := claimed_again starts
  cases execution with
  | crash acquiredAt => exact claimed
  | dispatched calls =>
      rcases dispatch_acquired uuid picked starts.running with same | ⟨write, recorded, same⟩
      · simp only [same]
        exact claimed
      · simp only [same]
        cases recorded with
        | completed task' done last completes =>
            exact tracks_terminal (.inl (congrArg TaskState.asStr (tryComplete_state completes)))
        | advanced result next done follows =>
            have moved : ¬ (encode (TaskWrite.perform (.advanceStep (some next)
                result.stateDataPatch calls.now) acquired)).step = state.row.step := by
              rw [← starts.step]
              exact fun stays => successor_ne _ _ follows stays.symm
            rw [if_neg moved]
            constructor
            · intro pending
              have running : acquired.state.asStr = "pending" := pending
              rw [starts.running] at running
              exact absurd running (by decide)
            · intro _
              exact ⟨0, Nat.zero_le _, rfl, (fun absurd => by cases absurd), fun _ => rfl⟩
        | scheduled errorCode errorMessage delay retried young => exact claimed_again starts
        | failed errorCode errorMessage task' why fails =>
            exact tracks_terminal (.inr (congrArg TaskState.asStr (tryFail_state fails)))

theorem tracks_run {first last : Counted} {trace : List Execution} (inserted : Inserted first.row)
    (unrun : first.ran = 0) (run : Run (Steps (Counted.step bs58Length uuid)) first trace last) :
    Tracks last := by
  have start : Tracks first := by
    constructor
    · exact fun _ => ⟨inserted.step, inserted.attempts, unrun⟩
    · intro running
      rw [inserted.state] at running
      exact absurd running (by decide)
  exact run.invariant Tracks (fun _ _ _ tracks taken => tracks_step tracks taken) start

end Run

/-- An execution is accounted for if and only if it is one of the first step and fewer than `2 ^ 31`
executions went before: `advance_step` resets the counter of a row that stays `in_progress`, so the
next claim counts the finished step. -/
theorem first_step_attempts_are_accounted {bs58Length : String → Except String Nat}
    {uuid : UuidFormat} {first last : Counted} {trace : List Execution}
    (inserted : Inserted first.row) (unrun : first.ran = 0)
    (run : Run (Steps (Counted.step bs58Length uuid)) first trace last) {now : DateTime}
    {acquired : OperationTask}
    (picked : acquire bs58Length last.row now = some acquired) :
    Accounted (last.ran + 1) acquired ↔ last.row.step = none ∧ last.ran < 2 ^ 31 := by
  have starts := starts_of_tracks (tracks_run inserted unrun run) picked
  have bound := starts.bound
  constructor
  · rintro ⟨counted, ⟨_, _, column⟩, _⟩
    have unstarted : last.row.step = none := by
      by_contra advanced
      have later := starts.later advanced
      omega
    refine ⟨unstarted, ?_⟩
    have same := starts.first unstarted
    rcases Nat.lt_or_eq_of_le bound with below | wrapped
    · omega
    · have negative := (asI32_toInt bound).2 wrapped
      rw [column] at negative
      omega
  · rintro ⟨unstarted, below⟩
    have same := starts.first unstarted
    have inside : acquired.attempts < 2 ^ 31 := by omega
    have next : saturatingAdd acquired.attempts 1 = last.ran + 1 := by
      unfold saturatingAdd
      omega
    refine ⟨by omega, ?_, ?_⟩
    · rcases backoff_in_range acquired.attempts with ⟨shift, sum⟩
      exact ⟨shift, sum, (asI32_toInt bound).1 inside⟩
    · intro nextStep errorCode errorMessage now word young
      exact retry_within next nextStep errorCode errorMessage word young

section Sample

def builtCalls : Calls := { servedCalls with outcome := .done {} }

def sampleCounted : Counted := ⟨sampleRow, 0⟩

theorem sample_inserted : Inserted sampleCounted.row := ⟨rfl, rfl, rfl⟩

/-- After a crash the second execution of the first step counts one before it. -/
theorem first_step_attempts_are_accounted_sample : ∃ last acquired,
    Run (Steps (Counted.step onesLength hyphenatedUuid)) sampleCounted [.crash 0] last ∧
    acquire onesLength last.row 1 = some acquired ∧
    (Accounted (last.ran + 1) acquired ↔ last.row.step = none ∧ last.ran < 2 ^ 31) := by
  have run : Run (Steps (Counted.step onesLength hyphenatedUuid)) sampleCounted [.crash 0] _ :=
    Run.of_exec rfl
  refine ⟨_, _, run, rfl, ?_⟩
  exact first_step_attempts_are_accounted sample_inserted rfl run rfl

/-- The first execution of the second step starts with one attempt, and a retry of it may be planned
four minutes ahead. -/
theorem second_step_starts_at_one : ∃ last acquired,
    Run (Steps (Counted.step onesLength hyphenatedUuid)) sampleCounted
      [.dispatched builtCalls] last ∧
    acquire onesLength last.row 1 = some acquired ∧ last.ran = 0 ∧ acquired.attempts = 1 ∧
    ¬ Accounted (last.ran + 1) acquired ∧
    ∃ time, finish acquired (some "mark_deactivated") (.retry "registry_unavailable" "HTTP 503") 1
        240000 = .ok (.scheduleRetry time "registry_unavailable" "HTTP 503" 1) ∧
      1 + min (seconds 60 * 2 ^ (last.ran + 1)) (hours 1) < time := by
  have run : Run (Steps (Counted.step onesLength hyphenatedUuid)) sampleCounted
      [.dispatched builtCalls] _ := Run.of_exec rfl
  refine ⟨_, _, run, rfl, rfl, rfl, ?_, _, rfl, by decide⟩
  rintro ⟨counted, _⟩
  exact absurd counted (by decide)

end Sample

end SwiyuIssuer.Worker
