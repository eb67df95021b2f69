import Mathlib.Logic.Function.Basic
import Mathlib.Tactic.Common

/-! Rows under READ COMMITTED with row locks held to commit.

A row has its last committed version and, while a transaction holds its lock, the version that
transaction sees. Only the holder of a lock can have a pending version, so a row never has two. -/

namespace Library

/-- A row of a rewritten table is the new one, or an old one under another key. -/
theorem update_some {κ α : Type} [DecidableEq κ] {rows : κ → Option α} {key id : κ}
    {value : Option α} {row : α} (found : Function.update rows key value id = some row) :
    (id = key ∧ value = some row) ∨ (id ≠ key ∧ rows id = some row) := by
  by_cases same : id = key
  · subst same
    rw [Function.update_self] at found
    exact .inl ⟨rfl, found⟩
  · rw [Function.update_of_ne same] at found
    exact .inr ⟨same, found⟩

structure Cell (τ α : Type) where
  committed : α
  writer : Option (τ × α)

namespace Cell

variable {τ α : Type}

def clean (value : α) : Cell τ α := ⟨value, none⟩

@[simp] theorem committed_clean (value : α) : (clean value : Cell τ α).committed = value := rfl

@[simp] theorem writer_clean (value : α) : (clean value : Cell τ α).writer = none := rfl

/-- A statement outside any transaction rewrites an unlocked row and commits at once. -/
def autocommit (cell : Cell τ α) (change : α → α) : Cell τ α := clean (change cell.committed)

variable [DecidableEq τ]

/-- What a statement of `t` reads: its own pending version, else the committed one. -/
def read (cell : Cell τ α) (t : τ) : α :=
  match cell.writer with
  | some (holder, version) => if holder = t then version else cell.committed
  | none => cell.committed

/-- The row lock is free for `t`: a statement of `t` that needs it does not wait. -/
def free (cell : Cell τ α) (t : τ) : Bool :=
  match cell.writer with
  | some (holder, _) => decide (holder = t)
  | none => true

/-- A locking statement (`UPDATE`, `SELECT … FOR UPDATE`) rewrites the latest version. -/
def update (cell : Cell τ α) (t : τ) (change : α → α) : Cell τ α :=
  { cell with writer := some (t, change (cell.read t)) }

def commit (cell : Cell τ α) (t : τ) : Cell τ α :=
  match cell.writer with
  | some (holder, version) => if holder = t then ⟨version, none⟩ else cell
  | none => cell

def rollback (cell : Cell τ α) (t : τ) : Cell τ α :=
  match cell.writer with
  | some (holder, _) => if holder = t then ⟨cell.committed, none⟩ else cell
  | none => cell

@[simp] theorem read_clean (value : α) (t : τ) : (clean value : Cell τ α).read t = value := rfl

@[simp] theorem committed_update (cell : Cell τ α) (t : τ) (change : α → α) :
    (cell.update t change).committed = cell.committed := rfl

@[simp] theorem writer_update (cell : Cell τ α) (t : τ) (change : α → α) :
    (cell.update t change).writer = some (t, change (cell.read t)) := rfl

@[simp] theorem committed_rollback (cell : Cell τ α) (t : τ) :
    (cell.rollback t).committed = cell.committed := by
  unfold rollback
  split
  · split <;> rfl
  · rfl

theorem read_held {cell : Cell τ α} {t : τ} {version : α}
    (held : cell.writer = some (t, version)) : cell.read t = version := by
  simp [read, held]

theorem read_unheld {cell : Cell τ α} {t : τ}
    (unheld : ∀ version, cell.writer ≠ some (t, version)) : cell.read t = cell.committed := by
  unfold read
  split
  · next holder version found =>
      rw [if_neg]
      rintro rfl
      exact unheld version found
  · rfl

theorem free_holder {cell : Cell τ α} {t holder : τ} {version : α} (open_ : cell.free t = true)
    (held : cell.writer = some (holder, version)) : holder = t := by
  simpa [free, held] using open_

theorem commit_held {cell : Cell τ α} {t : τ} {version : α}
    (held : cell.writer = some (t, version)) : cell.commit t = clean version := by
  simp [commit, held, clean]

theorem commit_unheld {cell : Cell τ α} {t : τ}
    (unheld : ∀ version, cell.writer ≠ some (t, version)) : cell.commit t = cell := by
  unfold commit
  split
  · next holder version found =>
      rw [if_neg]
      rintro rfl
      exact unheld version found
  · rfl

theorem rollback_unheld {cell : Cell τ α} {t : τ}
    (unheld : ∀ version, cell.writer ≠ some (t, version)) : cell.rollback t = cell := by
  unfold rollback
  split
  · next holder version found =>
      rw [if_neg]
      rintro rfl
      exact unheld version found
  · rfl

theorem writer_commit {cell : Cell τ α} {t holder : τ} {version : α}
    (held : (cell.commit t).writer = some (holder, version)) :
    holder ≠ t ∧ cell.writer = some (holder, version) ∧
      (cell.commit t).committed = cell.committed := by
  unfold commit at held ⊢
  split at held
  · next other seen found =>
      split at held
      · simp at held
      · next different =>
          rw [found] at held
          obtain ⟨rfl, rfl⟩ := Prod.mk.inj (Option.some.inj held)
          exact ⟨different, found, by simp [different]⟩
  · next found => rw [found] at held; cases held

theorem writer_rollback {cell : Cell τ α} {t holder : τ} {version : α}
    (held : (cell.rollback t).writer = some (holder, version)) :
    holder ≠ t ∧ cell.writer = some (holder, version) := by
  unfold rollback at held
  split at held
  · next other seen found =>
      split at held
      · simp at held
      · next different =>
          rw [found] at held
          obtain ⟨rfl, rfl⟩ := Prod.mk.inj (Option.some.inj held)
          exact ⟨different, found⟩
  · next found => rw [found] at held; cases held

/-- After its commit a transaction has nothing to roll back. -/
@[simp] theorem rollback_commit (cell : Cell τ α) (t : τ) :
    (cell.commit t).rollback t = cell.commit t := by
  apply rollback_unheld
  intro version held
  exact (writer_commit held).1 rfl

/-- A commit changes a row only for the holder of its lock, to the version it had pending. -/
theorem commit_cases (cell : Cell τ α) (t : τ) :
    (∃ version, cell.writer = some (t, version) ∧ cell.commit t = clean version) ∨
      ((∀ version, cell.writer ≠ some (t, version)) ∧ cell.commit t = cell) := by
  by_cases held : ∃ version, cell.writer = some (t, version)
  · obtain ⟨version, found⟩ := held
    exact .inl ⟨version, found, commit_held found⟩
  · have unheld : ∀ version, cell.writer ≠ some (t, version) := by
      intro version found
      exact held ⟨version, found⟩
    exact .inr ⟨unheld, commit_unheld unheld⟩

/-- The version that `t` has under the row lock. -/
def pending (cell : Cell τ α) (t : τ) : Option α :=
  match cell.writer with
  | some (holder, version) => if holder = t then some version else none
  | none => none

theorem pending_some {cell : Cell τ α} {t : τ} {version : α} :
    cell.pending t = some version ↔ cell.writer = some (t, version) := by
  rcases cell with ⟨committed, _ | ⟨holder, found⟩⟩
  · simp [pending]
  · by_cases same : holder = t <;> simp [pending, same]

theorem pending_none {cell : Cell τ α} {t : τ} :
    cell.pending t = none ↔ ∀ version, cell.writer ≠ some (t, version) := by
  rw [Option.eq_none_iff_forall_ne_some]
  simp only [ne_eq, pending_some]

@[simp] theorem pending_clean (value : α) (t : τ) : (clean value : Cell τ α).pending t = none := rfl

@[simp] theorem pending_update_self (cell : Cell τ α) (t : τ) (change : α → α) :
    (cell.update t change).pending t = some (change (cell.read t)) := by
  simp [pending]

theorem pending_unique {cell : Cell τ α} {t other : τ} {version : α}
    (held : cell.pending t = some version) (different : other ≠ t) :
    cell.pending other = none := by
  rw [pending_some] at held
  rw [pending_none, held]
  intro found same
  exact different (Prod.mk.inj (Option.some.inj same)).1.symm

theorem pending_update_ne {cell : Cell τ α} {t other : τ} (change : α → α)
    (open_ : cell.free t = true) (different : other ≠ t) :
    (cell.update t change).pending other = cell.pending other := by
  rw [pending_unique (pending_update_self cell t change) different, eq_comm, pending_none]
  intro version held
  exact different (free_holder open_ held)

theorem pending_rollback_self (cell : Cell τ α) (t : τ) : (cell.rollback t).pending t = none := by
  rw [pending_none]
  intro version held
  exact (writer_rollback held).1 rfl

theorem pending_rollback_ne {cell : Cell τ α} {t other : τ} (different : other ≠ t) :
    (cell.rollback t).pending other = cell.pending other := by
  cases held : cell.pending t with
  | none => rw [rollback_unheld (pending_none.mp held)]
  | some version =>
      rw [pending_unique held different, pending_none]
      intro found still
      rw [pending_some, (writer_rollback still).2] at held
      exact different (Prod.mk.inj (Option.some.inj held)).1

theorem read_pending {cell : Cell τ α} {t : τ} {version : α}
    (held : cell.pending t = some version) : cell.read t = version :=
  read_held (pending_some.mp held)

theorem read_unpending {cell : Cell τ α} {t : τ} (unheld : cell.pending t = none) :
    cell.read t = cell.committed :=
  read_unheld (pending_none.mp unheld)

theorem free_pending {cell : Cell τ α} {t : τ} {version : α}
    (held : cell.pending t = some version) : cell.free t = true := by
  simp [free, pending_some.mp held]

theorem pending_commit_ne {cell : Cell τ α} {t other : τ} (different : other ≠ t) :
    (cell.commit t).pending other = cell.pending other := by
  rcases commit_cases cell t with ⟨version, held, same⟩ | ⟨unheld, same⟩
  · rw [same, pending_clean, pending_unique (pending_some.mpr held) different]
  · rw [same]

theorem pending_commit_self (cell : Cell τ α) (t : τ) : (cell.commit t).pending t = none := by
  rw [pending_none]
  intro version held
  exact (writer_commit held).1 rfl

/-- What one statement of `t` does to a row. -/
inductive Move (t : τ) (cell : Cell τ α) : Cell τ α → Prop
  | aside : Move t cell cell
  | write (change : α → α) (free : cell.free t = true) : Move t cell (cell.update t change)
  | commit : Move t cell (cell.commit t)
  | rollback : Move t cell (cell.rollback t)

namespace Move

variable {t other : τ} {cell after : Cell τ α}

theorem pending_ne (move : Move t cell after) (different : other ≠ t) :
    after.pending other = cell.pending other := by
  cases move with
  | aside => rfl
  | write change free => exact pending_update_ne change free different
  | commit => exact pending_commit_ne different
  | rollback => exact pending_rollback_ne different

/-- The last committed version changes only by the commit of a transaction that holds the row. -/
theorem committed_cases (move : Move t cell after) :
    after.committed = cell.committed ∨
      ∃ version, cell.pending t = some version ∧ after.committed = version := by
  cases move with
  | aside => exact .inl rfl
  | write => exact .inl rfl
  | rollback => exact .inl (committed_rollback ..)
  | commit =>
      rcases commit_cases cell t with ⟨version, held, same⟩ | ⟨unheld, same⟩
      · exact .inr ⟨version, pending_some.mpr held, by rw [same, committed_clean]⟩
      · exact .inl (by rw [same])

/-- What another transaction stands on: while it holds the row, nothing happens to the committed
version. -/
theorem others (move : Move t cell after) (different : other ≠ t) :
    after.pending other = cell.pending other ∧
      (after.committed = cell.committed ∨ after.pending other = none) := by
  have same := move.pending_ne different
  refine ⟨same, ?_⟩
  rcases move.committed_cases with kept | ⟨version, held, _⟩
  · exact .inl kept
  · exact .inr (same.trans (pending_unique held different))

end Move

/-- Every version of the row, committed or pending, is one that `holds`. -/
structure Every (holds : α → Prop) (cell : Cell τ α) : Prop where
  committed : holds cell.committed
  pending : ∀ t version, cell.pending t = some version → holds version

namespace Every

variable {holds : α → Prop} {cell : Cell τ α} {t : τ}

theorem mono {weaker : α → Prop} (every : Every holds cell)
    (implied : ∀ version, holds version → weaker version) : Every weaker cell :=
  ⟨implied _ every.committed, fun t version held => implied version (every.pending t version held)⟩

theorem clean {value : α} (here : holds value) :
    Every holds (Cell.clean value : Cell τ α) where
  committed := here
  pending := by
    rintro _ _ ⟨⟩

theorem read (every : Every holds cell) (t : τ) : holds (cell.read t) := by
  cases held : cell.pending t with
  | none =>
      rw [read_unpending held]
      exact every.committed
  | some version =>
      rw [read_pending held]
      exact every.pending t version held

theorem update {change : α → α} (every : Every holds cell) (free : cell.free t = true)
    (changed : holds (change (cell.read t))) : Every holds (cell.update t change) where
  committed := every.committed
  pending := by
    intro other version held
    by_cases own : other = t
    · subst own
      rw [pending_update_self, Option.some.injEq] at held
      exact held ▸ changed
    · rw [pending_update_ne change free own] at held
      exact every.pending other version held

theorem rollback (every : Every holds cell) (t : τ) : Every holds (cell.rollback t) where
  committed := by
    rw [committed_rollback]
    exact every.committed
  pending := by
    intro other version held
    by_cases own : other = t
    · subst own
      rw [pending_rollback_self] at held
      cases held
    · rw [pending_rollback_ne own] at held
      exact every.pending other version held

theorem commit (every : Every holds cell) (t : τ) : Every holds (cell.commit t) where
  committed := by
    rcases commit_cases cell t with ⟨version, held, same⟩ | ⟨unheld, same⟩
    · rw [same, committed_clean]
      exact every.pending t version (pending_some.mpr held)
    · rw [same]
      exact every.committed
  pending := by
    intro other version held
    by_cases own : other = t
    · subst own
      rw [pending_commit_self] at held
      cases held
    · rw [pending_commit_ne own] at held
      exact every.pending other version held

end Every

end Cell

/-- A table maps every primary key to its row; an absent row is a row of `Option` type. -/
abbrev Table (τ κ α : Type) := κ → Cell τ α

namespace Table

variable {τ κ α : Type} [DecidableEq τ]

def commit (table : Table τ κ α) (t : τ) : Table τ κ α := fun key => (table key).commit t

def rollback (table : Table τ κ α) (t : τ) : Table τ κ α := fun key => (table key).rollback t

/-- The rows as a new transaction reads them. -/
def snapshot (table : Table τ κ α) : κ → α := fun key => (table key).committed

@[simp] theorem snapshot_rollback (table : Table τ κ α) (t : τ) :
    (table.rollback t).snapshot = table.snapshot := by
  funext key
  exact Cell.committed_rollback ..

@[simp] theorem commit_apply (table : Table τ κ α) (t : τ) (key : κ) :
    table.commit t key = (table key).commit t := rfl

@[simp] theorem rollback_apply (table : Table τ κ α) (t : τ) (key : κ) :
    table.rollback t key = (table key).rollback t := rfl

variable [DecidableEq κ]

def update (table : Table τ κ α) (t : τ) (key : κ) (change : α → α) : Table τ κ α :=
  Function.update table key ((table key).update t change)

@[simp] theorem update_self (table : Table τ κ α) (t : τ) (key : κ) (change : α → α) :
    table.update t key change key = (table key).update t change :=
  Function.update_self ..

theorem update_ne (table : Table τ κ α) (t : τ) {key other : κ} (change : α → α)
    (different : other ≠ key) : table.update t key change other = table other :=
  Function.update_of_ne different ..

@[simp] theorem snapshot_update (table : Table τ κ α) (t : τ) (key : κ) (change : α → α) :
    (table.update t key change).snapshot = table.snapshot := by
  funext other
  by_cases same : other = key
  · subst same
    simp [snapshot]
  · rw [snapshot, snapshot, update_ne table t change same]

/-- A statement outside any transaction, as a new transaction sees it. -/
theorem snapshot_autocommit {τ κ α : Type} [DecidableEq κ] (table : Table τ κ α) (key : κ)
    (change : α → α) :
    snapshot (Function.update table key ((table key).autocommit change)) =
      Function.update table.snapshot key (change (table key).committed) := by
  funext other
  by_cases same : other = key
  · subst same
    rw [snapshot, Function.update_self, Function.update_self, Cell.autocommit,
      Cell.committed_clean]
  · rw [snapshot, Function.update_of_ne same, Function.update_of_ne same, snapshot]

theorem holder_update {table : Table τ κ α} {t : τ} {key other : κ} {change : α → α} {version : α}
    (held : (table.update t key change other).writer = some (t, version)) :
    other = key ∨ (table other).writer = some (t, version) := by
  by_cases same : other = key
  · exact .inl same
  · rw [update_ne table t change same] at held
    exact .inr held

/-- The commit of a transaction that holds one row installs that row and nothing else. -/
theorem snapshot_commit {table : Table τ κ α} {t : τ} {key : κ} {version : α}
    (held : (table key).writer = some (t, version))
    (only : ∀ other pending, (table other).writer = some (t, pending) → other = key) :
    (table.commit t).snapshot = Function.update table.snapshot key version := by
  funext other
  by_cases same : other = key
  · subst same
    rw [snapshot, commit_apply, Cell.commit_held held, Function.update_self, Cell.committed_clean]
  · rw [Function.update_of_ne same, snapshot, commit_apply, Cell.commit_unheld, snapshot]
    intro pending found
    exact same (only other pending found)

/-- What a statement of `t` does to the rows of other transactions: it neither touches a row that
another one holds nor makes another one hold a row. -/
structure Respects (t : τ) (before after : Table τ κ α) : Prop where
  kept : ∀ key other version, other ≠ t → (before key).writer = some (other, version) →
    after key = before key
  origin : ∀ key other version, other ≠ t → (after key).writer = some (other, version) →
    (before key).writer = some (other, version)

omit [DecidableEq τ] [DecidableEq κ] in
theorem respects_refl (t : τ) (table : Table τ κ α) : Respects t table table :=
  ⟨fun _ _ _ _ _ => rfl, fun _ _ _ _ held => held⟩

omit [DecidableEq κ] in
/-- A statement of `t` that rewrites some rows, all of them free. -/
theorem respects_rewrite {table after : Table τ κ α} {t : τ}
    (each : ∀ key, after key = table key ∨
      ∃ change, (table key).free t = true ∧ after key = (table key).update t change) :
    Respects t table after := by
  refine ⟨?_, ?_⟩
  · intro key other version different held
    rcases each key with untouched | ⟨change, free, _⟩
    · exact untouched
    · exact absurd (Cell.free_holder free held) different
  · intro key other version different held
    rcases each key with untouched | ⟨change, _, written⟩
    · rwa [untouched] at held
    · rw [written, Cell.writer_update] at held
      exact absurd (Prod.mk.inj (Option.some.inj held)).1.symm different

omit [DecidableEq τ] in
theorem respects_autocommit {table : Table τ κ α} {key : κ} (change : α → α) (t : τ)
    (unlocked : (table key).writer = none) :
    Respects t table (Function.update table key ((table key).autocommit change)) := by
  refine ⟨?_, ?_⟩
  · intro row other version different held
    apply Function.update_of_ne
    rintro rfl
    rw [unlocked] at held
    cases held
  · intro row other version different held
    by_cases same : row = key
    · subst same
      rw [Function.update_self] at held
      cases held
    · rwa [Function.update_of_ne same] at held

theorem respects_update {table : Table τ κ α} {t : τ} {key : κ} (change : α → α)
    (free : (table key).free t = true) : Respects t table (table.update t key change) := by
  refine ⟨?_, ?_⟩
  · intro row other version different held
    by_cases same : row = key
    · subst same
      exact absurd (Cell.free_holder free held) different
    · exact update_ne table t change same
  · intro row other version different held
    by_cases same : row = key
    · subst same
      rw [update_self, Cell.writer_update] at held
      exact absurd (Prod.mk.inj (Option.some.inj held)).1.symm different
    · rwa [update_ne table t change same] at held

omit [DecidableEq κ] in
theorem respects_commit (table : Table τ κ α) (t : τ) : Respects t table (table.commit t) := by
  refine ⟨?_, ?_⟩
  · intro row other version different held
    refine Cell.commit_unheld ?_
    intro own found
    rw [held] at found
    exact different (Prod.mk.inj (Option.some.inj found)).1
  · intro row other version _ held
    exact (Cell.writer_commit held).2.1

omit [DecidableEq κ] in
theorem respects_rollback (table : Table τ κ α) (t : τ) : Respects t table (table.rollback t) := by
  refine ⟨?_, ?_⟩
  · intro row other version different held
    refine Cell.rollback_unheld ?_
    intro own found
    rw [held] at found
    exact different (Prod.mk.inj (Option.some.inj found)).1
  · intro row other version _ held
    exact (Cell.writer_rollback held).2

end Table

end Library
