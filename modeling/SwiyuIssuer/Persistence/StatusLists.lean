import SwiyuIssuer.Domain.StatusList
import SwiyuIssuer.Library.RowLock

/-! The statements of `persistence::status_lists`, as functions of the row they touch. -/

namespace SwiyuIssuer.Persistence.StatusLists

/-- `UPDATE … WHERE allocated_count < $2 RETURNING allocated_count - 1`. -/
def allocateIndex (row : StatusList) : Option (StatusList × StatusListIndex) :=
  if free : row.allocatedCount < swiyuStatusListCapacity then
    some ({ row with
      allocatedCount := row.allocatedCount + 1
      committedVersion := row.committedVersion + 1 }, ⟨row.allocatedCount, free⟩)
  else none

theorem allocateIndex_spec {row allocated : StatusList} {index : StatusListIndex}
    (taken : allocateIndex row = some (allocated, index)) :
    (index : Nat) = row.allocatedCount ∧ allocated.allocatedCount = row.allocatedCount + 1 ∧
      allocated.bitstring = row.bitstring ∧
      allocated.committedVersion = row.committedVersion + 1 := by
  unfold allocateIndex at taken
  split at taken
  · obtain ⟨rfl, rfl⟩ := Prod.mk.inj (Option.some.inj taken)
    exact ⟨rfl, rfl, rfl, rfl⟩
  · cases taken

def editBitstring (codec : StatusListCodec) (listId : StatusListId) (bitstring : Bitstring)
    (index : StatusListIndex) (value : StatusValue) : Except PersistenceError Bitstring :=
  match codec.setAt bitstring index value with
  | .ok written => .ok written
  | .error details => .error (.dataIntegrity ("status_lists row " ++ listId.display ++ ": " ++ details))

def writeBitstring (row : StatusList) (bitstring : Bitstring) : StatusList :=
  { row with bitstring := bitstring, committedVersion := row.committedVersion + 1 }

/-- `none` when the conditional `WHERE` rejects the update. -/
def recordPublishSuccess (row : StatusList) (targetVersion : Nat) (now : DateTime) :
    Option StatusList :=
  if row.publishedVersion < targetVersion then
    some { row with
      publishedVersion := targetVersion
      lastPublishAttemptAt := some now
      lastPublishError := none
      nextPublishAttemptAt := none
      publishAttempts := 0 }
  else none

def recordPublishFailure (row : StatusList) (errorMessage : String) (nextAttemptAt now : DateTime) :
    StatusList :=
  { row with
    lastPublishAttemptAt := some now
    lastPublishError := some errorMessage
    nextPublishAttemptAt := some nextAttemptAt
    publishAttempts := row.publishAttempts + 1 }

def isRunnable (row : StatusList) (now : DateTime) : Bool :=
  row.isDirty && match row.nextPublishAttemptAt with
    | none => true
    | some due => decide (due ≤ now)

/-- `ORDER BY next_publish_attempt_at NULLS FIRST, created_at`. -/
def precedes (row other : StatusList) : Bool :=
  match row.nextPublishAttemptAt, other.nextPublishAttemptAt with
  | none, some _ => true
  | some _, none => false
  | none, none => decide (row.createdAt < other.createdAt)
  | some due, some otherDue =>
      decide (due < otherDue) || (due == otherDue && decide (row.createdAt < other.createdAt))

def stampLease (row : StatusList) (leaseExpiry : DateTime) : StatusList :=
  { row with nextPublishAttemptAt := some leaseExpiry }

variable {τ : Type}

/-- The row as `FOR UPDATE SKIP LOCKED` sees it: absent while locked. -/
def unlocked (cell : Library.Cell τ (Option StatusList)) : Option StatusList :=
  match cell.writer with
  | none => cell.committed
  | some _ => none

/-- The sub-select of `acquire_next_dirty` may return `id`: the row is runnable, and no other
unlocked runnable row of the table sorts before it. -/
def nextDirty (table : StatusListId → Library.Cell τ (Option StatusList)) (ids : List StatusListId)
    (now : DateTime) (id : StatusListId) : Option StatusList :=
  match unlocked (table id) with
  | none => none
  | some row =>
      if isRunnable row now && ids.all (fun other =>
          match unlocked (table other) with
          | some rival => !(isRunnable rival now && precedes rival row)
          | none => true)
      then some row else none

theorem nextDirty_spec {table : StatusListId → Library.Cell τ (Option StatusList)}
    {ids : List StatusListId} {now : DateTime} {id : StatusListId} {row : StatusList}
    (chosen : nextDirty table ids now id = some row) :
    (table id).writer = none ∧ (table id).committed = some row ∧
      row.publishedVersion < row.committedVersion := by
  unfold nextDirty at chosen
  split at chosen
  · cases chosen
  · next found =>
      split at chosen
      · next accepted =>
          cases chosen
          unfold unlocked at found
          split at found
          · next unlocked_ =>
              simp only [Bool.and_eq_true, isRunnable, StatusList.isDirty,
                decide_eq_true_eq] at accepted
              exact ⟨unlocked_, found, accepted.1.1⟩
          · cases found
      · cases chosen

end SwiyuIssuer.Persistence.StatusLists
