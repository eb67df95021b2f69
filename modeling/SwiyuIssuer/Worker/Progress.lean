import SwiyuIssuer.Worker.Dispatch

/-! Every dispatch that reaches its recording statement makes progress within the budget, and these
are the only ones that do. -/

namespace SwiyuIssuer.Worker

open Library Persistence

theorem advanced_encode {task : OperationTask} {after : TaskRow} {next : String}
    (follows : successor task.taskType task.step = some next) (moved : after.step = some next) :
    Advanced (encode task) after :=
  ⟨task.taskType, next, TaskType.parse_asStr task.taskType, follows, moved⟩

theorem not_advanced {row after : TaskRow} (stays : after.step = row.step) :
    ¬ Advanced row after := by
  rintro ⟨taskType, next, _, follows, moved⟩
  exact successor_ne taskType row.step follows (stays ▸ moved)

theorem acquirable_not_terminal {row : TaskRow} {now : DateTime}
    (picked : row.acquirable now = true) : ¬ Terminal row := by
  intro terminal
  unfold TaskRow.acquirable at picked
  rcases terminal with state | state <;> simp [state] at picked

theorem tryFail_state {task failed : OperationTask} {errorCode errorMessage : String}
    {now : DateTime} (fails : task.tryFail errorCode errorMessage now = .ok failed) :
    failed.state = .failed := by
  unfold OperationTask.tryFail at fails
  split at fails <;> cases fails
  rfl

theorem tryComplete_state {task completed : OperationTask} {now : DateTime}
    (completes : task.tryComplete now = .ok completed) : completed.state = .completed := by
  unfold OperationTask.tryComplete at completes
  split at completes <;> cases completes
  rfl

theorem milliseconds_nonneg (count : Nat) : 0 ≤ milliseconds count := by
  unfold milliseconds
  omega

/-- A recorded outcome is progress, and an overdue task that has not succeeded is `Failed`. -/
theorem recorded_progress {task : OperationTask} {attempts : Nat} {calls : Calls}
    {write : TaskWrite}
    (stated : Recorded (task.claimed attempts calls.acquiredAt)
      (successor task.taskType task.step) calls.outcome calls.now write) :
    let after := encode (write.perform (task.claimed attempts calls.acquiredAt))
    Progress (encode task) after calls.now ∧ OnBudget (encode task) after calls := by
  intro after
  cases stated with
  | completed task' done last completes =>
      have state : after.state = "completed" := by
        show task'.state.asStr = _
        rw [tryComplete_state completes]
        rfl
      refine ⟨.inl (.inl state), ?_⟩
      intro _ unsuccessful
      exact absurd ⟨done, .inl state⟩ unsuccessful
  | advanced result step done follows =>
      have moved : Advanced (encode task) after := advanced_encode follows rfl
      refine ⟨.inr (.inl moved), ?_⟩
      intro _ unsuccessful
      exact absurd ⟨by rw [done]; rfl, .inr moved⟩ unsuccessful
  | scheduled errorCode errorMessage delay retried young =>
      constructor
      · right; right
        exact ⟨_, rfl, Int.le_add_of_nonneg_right (milliseconds_nonneg delay)⟩
      · intro overdue _
        have young : ¬ hours maxTaskAgeHours ≤ calls.now - task.createdAt :=
          of_decide_eq_false young
        exact absurd (le_of_lt overdue) young
  | failed errorCode errorMessage task' why fails =>
      have state : after.state = "failed" := by
        show task'.state.asStr = _
        rw [tryFail_state fails]
        rfl
      exact ⟨.inl (.inr state), fun _ _ => state⟩

/-- An iteration that does not record leaves the row as runnable as it was. -/
theorem unrecorded_row {bs58Length : String → Except String Nat} {uuid : UuidFormat}
    {row : TaskRow} {calls : Calls}
    (left : dispatch bs58Length uuid row calls = row ∨
      ∃ task attempts, row = encode task ∧ dispatch bs58Length uuid row calls =
        encode (task.claimed attempts calls.acquiredAt))
    (picked : row.acquirable calls.acquiredAt = true) :
    (dispatch bs58Length uuid row calls).acquirable calls.acquiredAt = true ∧
      (dispatch bs58Length uuid row calls).step = row.step ∧
      (dispatch bs58Length uuid row calls).nextAttemptAt = row.nextAttemptAt := by
  rcases left with same | ⟨task, attempts, rfl, same⟩
  · rw [same]
    exact ⟨picked, rfl, rfl⟩
  · rw [same]
    refine ⟨?_, rfl, rfl⟩
    rw [acquirable_encode] at picked ⊢
    simp only [OperationTask.acquirable, Bool.and_eq_true] at picked ⊢
    exact ⟨rfl, picked.2⟩

theorem progress_iff_handled (bs58Length : String → Except String Nat) (uuid : UuidFormat)
    {row : TaskRow} {calls : Calls} (picked : row.acquirable calls.acquiredAt = true) :
    (Progress row (dispatch bs58Length uuid row calls) calls.now ∧
      OnBudget row (dispatch bs58Length uuid row calls) calls) ↔
      Handled bs58Length uuid row calls ∨ StillDelayed row calls := by
  rcases dispatch_cases bs58Length uuid picked with
    ⟨handled, task, attempts, write, rfl, _, stated, same⟩ | ⟨unhandled, left⟩
  · constructor
    · intro _
      exact .inl handled
    · intro _
      rw [same]
      exact recorded_progress stated
  · rcases unrecorded_row left picked with ⟨runnable, stays, delay⟩
    have running := acquirable_not_terminal runnable
    have stuck := not_advanced stays
    constructor
    · rintro ⟨progress, onBudget⟩
      right
      rcases progress with ended | moved | ⟨time, planned, future⟩
      · exact absurd ended running
      · exact absurd moved stuck
      · refine ⟨⟨time, delay ▸ planned, future⟩, ?_⟩
        intro overdue
        apply running
        right
        apply onBudget overdue
        rintro ⟨_, ended | moved⟩
        · exact running (.inl ended)
        · exact stuck moved
    · rintro (handled | ⟨⟨time, planned, future⟩, young⟩)
      · exact absurd handled unhandled
      · exact ⟨.inr (.inr ⟨time, delay ▸ planned, future⟩), fun overdue => absurd overdue young⟩

/-- How many steps the row's saga still has. -/
def rank (row : TaskRow) : Nat :=
  match TaskType.parse row.taskType with
  | .ok taskType => stepsLeft taskType row.step
  | .error _ => 0

theorem rank_encode (task : OperationTask) :
    rank (encode task) = stepsLeft task.taskType task.step := by
  simp [rank, encode, TaskType.parse_asStr]

theorem rank_le (row : TaskRow) : rank row ≤ 7 := by
  unfold rank
  split
  · exact stepsLeft_le ..
  · decide

/-- A handled iteration that overtakes a row uses up a step, ends the task or puts it behind. -/
theorem overtaking_step {bs58Length : String → Except String Nat} {uuid : UuidFormat}
    {waiting row after : TaskRow} {calls : Calls}
    (taken : Guarded (Handled bs58Length uuid) (Overtakes bs58Length uuid waiting) row calls
      after) :
    0 < rank row ∧ (rank after + 1 = rank row ∨ Terminal after ∨ waiting.key < after.key) := by
  rcases taken with ⟨handled, picked, _, early, rfl⟩
  rcases dispatch_cases bs58Length uuid picked with
    ⟨_, task, attempts, write, rfl, known, stated, same⟩ | ⟨unhandled, _⟩
  · refine ⟨by rwa [rank_encode], ?_⟩
    rw [same]
    cases stated with
    | completed task' _ _ completes =>
        right; left; left
        show task'.state.asStr = _
        rw [tryComplete_state completes]
        rfl
    | advanced result step _ follows =>
        left
        rw [rank_encode, rank_encode]
        exact stepsLeft_successor follows
    | scheduled errorCode errorMessage delay _ _ =>
        right; right
        have delayed := Int.le_add_of_nonneg_right (a := calls.now) (milliseconds_nonneg delay)
        cases due : waiting.nextAttemptAt with
        | none =>
            show queueKey waiting.nextAttemptAt waiting.createdAt < _
            rw [due]
            exact queueKey_none_lt ..
        | some time =>
            have before := early time due
            show queueKey waiting.nextAttemptAt waiting.createdAt < _
            rw [due]
            exact queueKey_some_lt (lt_of_lt_of_le before delayed) ..
    | failed errorCode errorMessage task' _ fails =>
        right; left; right
        show task'.state.asStr = _
        rw [tryFail_state fails]
        rfl
  · exact absurd handled unhandled

/-- No row is picked again and again before a row that is due. -/
theorem overtaking_bounded {bs58Length : String → Except String Nat} {uuid : UuidFormat}
    {waiting row last : TaskRow} {trace : List Calls}
    (run : Run (Guarded (Handled bs58Length uuid) (Overtakes bs58Length uuid waiting))
      row trace last) : trace.length ≤ rank row := by
  induction run with
  | nil => exact Nat.zero_le _
  | cons taken rest ih =>
      rcases overtaking_step taken with ⟨positive, shorter | ended⟩
      · simp only [List.length_cons]
        omega
      · cases rest with
        | nil => exact positive
        | cons again _ =>
            rcases again with ⟨_, picked, ahead, _⟩
            rcases ended with terminal | behind
            · exact absurd terminal (acquirable_not_terminal picked)
            · exact absurd behind ahead

theorem dispatches_make_progress (bs58Length : String → Except String Nat) (uuid : UuidFormat) :
    (∀ row calls, row.acquirable calls.acquiredAt = true →
      (Progress row (dispatch bs58Length uuid row calls) calls.now ∧
          OnBudget row (dispatch bs58Length uuid row calls) calls ↔
        Handled bs58Length uuid row calls ∨ StillDelayed row calls)) ∧
    ∀ waiting row trace last,
      Run (Guarded (Handled bs58Length uuid) (Overtakes bs58Length uuid waiting)) row trace last →
        trace.length ≤ 7 := by
  constructor
  · intro row calls picked
    exact progress_iff_handled bs58Length uuid picked
  · intro waiting row trace last run
    exact le_trans (overtaking_bounded run) (rank_le row)

section Sample

/-- `bs58` decodes each leading `1` to a zero byte. -/
def onesLength (s : String) : Except String Nat := .ok s.length

def sampleRow : TaskRow where
  id := "1111111111"
  tenantId := "1111111111"
  taskType := "deactivate_issuer"
  state := "pending"
  step := none
  attempts := 0
  nextAttemptAt := none
  errorCode := none
  errorMessage := none
  input := .object []
  stateData := .object []
  resultIssuerId := some "1111111111"
  createdAt := 0
  updatedAt := 0
  completedAt := none

def sampleIssuerRow : Issuer where
  id := ⟨"1111111111"⟩
  tenantId := ⟨"1111111111"⟩
  did := "did:tdw:scid:host:1"
  state := some .active
  authorizedKeyId := none
  authenticationKeyId := none
  assertionKeyId := none

/-- A dispatch 25 hours after the task's creation, at which `tenant` answers the tenant query. -/
def lateCalls (tenant : Except PersistenceError (Option Tenant)) : Calls where
  acquiredAt := hours 25
  loads := ⟨.ok (), tenant, .ok (some sampleIssuerRow)⟩
  outcome := .retry "registry_unavailable" "HTTP 503"
  now := hours 25
  recordPool := .ok ()
  stateDataRead := .ok ()
  word := 0

def servedCalls : Calls := lateCalls (.ok (some ⟨⟨"1111111111"⟩, "partner"⟩))

def unreadCalls : Calls := lateCalls (.error (.db "connection reset"))

def laterRow : TaskRow := { sampleRow with id := "11111111111", createdAt := 1 }

theorem dispatches_make_progress_sample :
    Progress sampleRow (dispatch onesLength hyphenatedUuid sampleRow servedCalls)
        servedCalls.now ∧
      OnBudget sampleRow (dispatch onesLength hyphenatedUuid sampleRow servedCalls)
        servedCalls := by
  apply ((dispatches_make_progress onesLength hyphenatedUuid).1 sampleRow servedCalls (by rfl)).mpr
  left
  refine ⟨_, rfl, ?_, rfl, fun _ _ => rfl⟩
  exact ⟨⟨_, rfl⟩, ⟨_, rfl⟩, ⟨rfl, ⟨rfl, _, rfl⟩, _, rfl⟩, _, rfl, fun absurd => by cases absurd⟩

def unreadRow : TaskRow := dispatch onesLength hyphenatedUuid sampleRow unreadCalls

/-- The tenant query of a task older than a day fails: the row is neither failed nor delayed, and
the next poll takes it again, before a task created later. -/
theorem failing_read_keeps_the_head :
    sampleRow.acquirable unreadCalls.acquiredAt = true ∧
      ¬ Progress sampleRow unreadRow unreadCalls.now ∧
      ¬ OnBudget sampleRow unreadRow unreadCalls ∧
      unreadRow.acquirable unreadCalls.now = true ∧ unreadRow.key < laterRow.key := by
  have runnable : unreadRow.acquirable unreadCalls.now = true := by rfl
  have stuck : ¬ Advanced sampleRow unreadRow := not_advanced rfl
  have running : ¬ Terminal unreadRow := acquirable_not_terminal runnable
  refine ⟨by rfl, ?_, ?_, runnable, by decide⟩
  · rintro (ended | moved | ⟨time, planned, _⟩)
    · exact running ended
    · exact stuck moved
    · have undelayed : unreadRow.nextAttemptAt = none := rfl
      rw [undelayed] at planned
      cases planned
  · intro onBudget
    apply running
    right
    apply onBudget
    · show hours maxTaskAgeHours < hours 25 - 0
      decide
    · rintro ⟨done, _⟩
      cases done

end Sample

end SwiyuIssuer.Worker
