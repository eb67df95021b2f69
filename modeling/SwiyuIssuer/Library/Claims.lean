import SwiyuIssuer.Library.RowLock

/-! Transactions whose local variables determine what they hold.

`claim session key committed` is the version that a transaction at `session` has pending in the row
at `key`, given the committed version. A table is `Held` when its pending versions are exactly the
claimed ones, so that what a commit installs can be read off the sessions. -/

namespace Library

variable {τ κ α σ : Type}

def Held (table : Table τ κ α) (sessions : τ → σ) (claim : σ → κ → α → Option α) : Prop :=
  ∀ key t version, (table key).writer = some (t, version) ↔
    claim (sessions t) key (table key).committed = some version

namespace Held

variable {table : Table τ κ α} {sessions : τ → σ} {claim : σ → κ → α → Option α} {t : τ}
  {next : σ}

theorem unheld (held : Held table sessions claim) {key : κ}
    (unclaimed : claim (sessions t) key (table key).committed = none) (version : α) :
    (table key).writer ≠ some (t, version) := by
  intro found
  rw [(held key t version).mp found] at unclaimed
  cases unclaimed

theorem unclaimed (held : Held table sessions claim) {key : κ}
    (unlocked : (table key).writer = none) (other : τ) :
    claim (sessions other) key (table key).committed = none := by
  cases claims : claim (sessions other) key (table key).committed with
  | none => rfl
  | some version =>
      have locked := (held key other version).mpr claims
      rw [unlocked] at locked
      cases locked

/-- Two transactions never claim the same row. -/
theorem exclusive (held : Held table sessions claim) {other : τ} {key : κ} {version rival : α}
    (claims : claim (sessions t) key (table key).committed = some version)
    (claimed : claim (sessions other) key (table key).committed = some rival) : other = t := by
  have mine := (held key t version).mpr claims
  have theirs := (held key other rival).mpr claimed
  rw [mine] at theirs
  exact (Prod.mk.inj (Option.some.inj theirs)).1.symm

variable [DecidableEq τ]

theorem read_claimed (held : Held table sessions claim) {key : κ} {version : α}
    (claims : claim (sessions t) key (table key).committed = some version) :
    (table key).read t = version :=
  Cell.read_held ((held key t version).mpr claims)

theorem read_unclaimed (held : Held table sessions claim) {key : κ}
    (unclaimed : claim (sessions t) key (table key).committed = none) :
    (table key).read t = (table key).committed :=
  Cell.read_unheld (held.unheld unclaimed)

theorem goto (held : Held table sessions claim)
    (same : ∀ key committed, claim next key committed = claim (sessions t) key committed) :
    Held table (Function.update sessions t next) claim := by
  intro key other version
  by_cases own : other = t
  · subst own
    rw [Function.update_self, same]
    exact held key other version
  · rw [Function.update_of_ne own]
    exact held key other version

theorem goto_from (held : Held table sessions claim) {session : σ} (at_ : sessions t = session)
    (same : ∀ key committed, claim next key committed = claim session key committed) :
    Held table (Function.update sessions t next) claim := by
  apply held.goto
  intro key committed
  rw [at_]
  exact same key committed

theorem rollback (held : Held table sessions claim)
    (dropped : ∀ key committed, claim next key committed = none) :
    Held (table.rollback t) (Function.update sessions t next) claim := by
  intro key other version
  rw [Table.rollback_apply, Cell.committed_rollback]
  by_cases own : other = t
  · subst own
    rw [Function.update_self, dropped]
    constructor
    · intro found
      exact absurd rfl (Cell.writer_rollback found).1
    · intro absurd_
      cases absurd_
  · rw [Function.update_of_ne own]
    constructor
    · intro found
      exact (held key other version).mp (Cell.writer_rollback found).2
    · intro claims
      have theirs := (held key other version).mpr claims
      have untouched : (table key).rollback t = table key := by
        apply Cell.rollback_unheld
        intro pending found
        rw [theirs] at found
        exact own (Prod.mk.inj (Option.some.inj found)).1
      rw [untouched]
      exact theirs

/-- What the commit of `t` leaves in a row: the version that `t` claims, if it claims one. -/
theorem committed_commit (held : Held table sessions claim) (key : κ) :
    ((table.commit t) key).committed =
      (claim (sessions t) key (table key).committed).getD (table key).committed := by
  rw [Table.commit_apply]
  cases claims : claim (sessions t) key (table key).committed with
  | none => rw [Cell.commit_unheld (held.unheld claims), Option.getD_none]
  | some version =>
      rw [Cell.commit_held ((held key t version).mpr claims), Cell.committed_clean,
        Option.getD_some]

theorem snapshot_unclaimed (held : Held table sessions claim)
    (unclaimed : ∀ key committed, claim (sessions t) key committed = none) :
    (table.commit t).snapshot = table.snapshot := by
  funext key
  rw [Table.snapshot, held.committed_commit key, unclaimed, Option.getD_none, Table.snapshot]

/-- The commit of a transaction that claims one row. -/
theorem snapshot_claimed [DecidableEq κ] (held : Held table sessions claim) {key : κ} {version : α}
    (claims : claim (sessions t) key (table key).committed = some version)
    (rest : ∀ other, other ≠ key → claim (sessions t) other (table other).committed = none) :
    (table.commit t).snapshot = Function.update table.snapshot key version := by
  funext other
  rw [Table.snapshot, held.committed_commit other]
  by_cases here : other = key
  · subst here
    rw [claims, Option.getD_some, Function.update_self]
  · rw [rest other here, Option.getD_none, Function.update_of_ne here, Table.snapshot]

theorem commit (held : Held table sessions claim)
    (dropped : ∀ key committed, claim next key committed = none)
    (yielded : ∀ other key version, other ≠ t →
      claim (sessions t) key (table key).committed = some version →
        claim (sessions other) key (table key).committed = none →
          claim (sessions other) key version = none) :
    Held (table.commit t) (Function.update sessions t next) claim := by
  intro key other version
  rw [held.committed_commit key, Table.commit_apply]
  by_cases own : other = t
  · subst own
    rw [Function.update_self, dropped]
    constructor
    · intro found
      exact absurd rfl (Cell.writer_commit found).1
    · intro absurd_
      cases absurd_
  · rw [Function.update_of_ne own]
    cases claims : claim (sessions t) key (table key).committed with
    | none =>
        rw [Cell.commit_unheld (held.unheld claims), Option.getD_none]
        exact held key other version
    | some installed =>
        have free : claim (sessions other) key (table key).committed = none := by
          cases claimed : claim (sessions other) key (table key).committed with
          | none => rfl
          | some rival => exact absurd (held.exclusive claims claimed) own
        rw [Cell.commit_held ((held key t installed).mpr claims), Option.getD_some,
          yielded other key installed own claims free]
        simp

/-- A statement of `t` that rewrites some rows, all of them free, and claims what it has written. -/
theorem rewrite {after : Table τ κ α} (held : Held table sessions claim)
    (each : ∀ key,
      (after key = table key ∧ claim next key (table key).committed =
        claim (sessions t) key (table key).committed) ∨
      ∃ change, (table key).free t = true ∧ after key = (table key).update t change ∧
        claim next key (table key).committed = some (change ((table key).read t))) :
    Held after (Function.update sessions t next) claim := by
  intro key holder version
  rcases each key with ⟨untouched, same⟩ | ⟨change, free, written, mine⟩
  · rw [untouched]
    by_cases own : holder = t
    · subst own
      rw [Function.update_self, same]
      exact held key holder version
    · rw [Function.update_of_ne own]
      exact held key holder version
  · rw [written, Cell.committed_update, Cell.writer_update]
    by_cases own : holder = t
    · subst own
      rw [Function.update_self, mine]
      simp
    · rw [Function.update_of_ne own]
      constructor
      · intro found
        exact absurd (Prod.mk.inj (Option.some.inj found)).1.symm own
      · intro claims
        exact absurd (Cell.free_holder free ((held key holder version).mpr claims)) own

variable [DecidableEq κ]

theorem update (held : Held table sessions claim) {key : κ} {change : α → α}
    (free : (table key).free t = true)
    (mine : claim next key (table key).committed = some (change ((table key).read t)))
    (rest : ∀ other committed, other ≠ key →
      claim next other committed = claim (sessions t) other committed) :
    Held (table.update t key change) (Function.update sessions t next) claim := by
  apply held.rewrite
  intro other
  by_cases here : other = key
  · subst here
    exact .inr ⟨change, free, Table.update_self .., mine⟩
  · exact .inl ⟨Table.update_ne table t change here, rest other _ here⟩

/-- A statement outside any transaction, on a row that nobody claims before or after. -/
theorem autocommit (held : Held table sessions claim) {key : κ} {change : α → α}
    (unlocked : (table key).writer = none)
    (same : ∀ key committed, claim next key committed = claim (sessions t) key committed)
    (unclaimed : ∀ other, claim (sessions other) key (change (table key).committed) = none) :
    Held (Function.update table key ((table key).autocommit change))
      (Function.update sessions t next) claim := by
  apply goto _ same
  intro other holder version
  by_cases here : other = key
  · subst here
    rw [Function.update_self, Cell.autocommit, Cell.writer_clean, Cell.committed_clean,
      unclaimed holder]
    simp
  · rw [Function.update_of_ne here]
    exact held other holder version

end Held

end Library
