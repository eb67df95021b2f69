import SwiyuIssuer.Library.RowLock

/-! A unique index over rows under READ COMMITTED.

`keyOf version` is the index entry of a row version, `none` for a version that the index leaves out.
A statement that puts a row under a new entry fails on another live row with that entry, and waits
while another transaction has the entry in a version that it has not committed, or has taken it from
one. -/

namespace Library

variable {τ κ α ι : Type}

/-- Some version of the row has the entry, other than one that `t` itself has superseded. -/
def Cell.carries [DecidableEq τ] [DecidableEq ι] (keyOf : α → Option ι) (cell : Cell τ α) (t : τ)
    (entry : ι) : Bool :=
  match cell.writer with
  | some (holder, version) =>
      keyOf version == some entry || (decide (holder ≠ t) && keyOf cell.committed == some entry)
  | none => keyOf cell.committed == some entry

namespace UniqueIndex

inductive Probe
  | clear
  | taken
  | waits
deriving DecidableEq, Repr

/-- What a statement of `t` that puts the row at `key` under `entry` finds among the rows `ids`. -/
def probe [DecidableEq τ] [DecidableEq κ] [DecidableEq ι] (keyOf : α → Option ι)
    (table : Table τ κ α) (ids : List κ) (t : τ) (key : κ) (entry : Option ι) : Probe :=
  let rivals := ids.filter fun other =>
    decide (other ≠ key) && entry.any fun entry => (table other).carries keyOf t entry
  if rivals.isEmpty then .clear
  else if rivals.any fun other => (table other).free t then .taken
  else .waits

/-- No two rows have one entry, whichever of the open transactions commit. -/
structure Sound (keyOf : α → Option ι) (table : Table τ κ α) : Prop where
  committed : ∀ key other entry, keyOf (table key).committed = some entry →
    keyOf (table other).committed = some entry → key = other
  pending : ∀ key other t u version rival entry, (table key).writer = some (t, version) →
    keyOf version = some entry → (table other).writer = some (u, rival) →
    keyOf rival = some entry → key = other
  ahead : ∀ key other t version entry, (table key).writer = some (t, version) →
    keyOf version = some entry → keyOf (table other).committed = some entry → other ≠ key →
    ∃ rival, (table other).writer = some (t, rival)

section Rows

variable [DecidableEq τ] [DecidableEq ι] {keyOf : α → Option ι} {cell : Cell τ α} {t : τ} {entry : ι}

theorem carries_unlocked (unlocked : cell.writer = none) :
    cell.carries keyOf t entry = false ↔ keyOf cell.committed ≠ some entry := by
  simp [Cell.carries, unlocked]

theorem carries_own {version : α} (held : cell.writer = some (t, version)) :
    cell.carries keyOf t entry = false ↔ keyOf version ≠ some entry := by
  simp [Cell.carries, held]

theorem carries_other {holder : τ} {version : α} (held : cell.writer = some (holder, version))
    (different : holder ≠ t) : cell.carries keyOf t entry = false ↔
      keyOf version ≠ some entry ∧ keyOf cell.committed ≠ some entry := by
  simp [Cell.carries, held, different]

theorem carries_version (carries : cell.carries keyOf t entry = true) :
    ∃ version, (cell.committed = version ∨ ∃ holder, cell.writer = some (holder, version)) ∧
      keyOf version = some entry := by
  cases held : cell.writer with
  | none =>
      simp only [Cell.carries, held, beq_iff_eq] at carries
      exact ⟨_, .inl rfl, carries⟩
  | some pending =>
      rcases pending with ⟨holder, version⟩
      simp only [Cell.carries, held, Bool.or_eq_true, Bool.and_eq_true, beq_iff_eq] at carries
      rcases carries with carries | ⟨_, carries⟩
      · exact ⟨version, .inr ⟨holder, rfl⟩, carries⟩
      · exact ⟨_, .inl rfl, carries⟩

theorem pending_clear (clear : cell.carries keyOf t entry = false) {holder : τ} {version : α}
    (held : cell.writer = some (holder, version)) : keyOf version ≠ some entry := by
  by_cases own : holder = t
  · subst own
    exact (carries_own held).mp clear
  · exact ((carries_other held own).mp clear).1

/-- Only `t` itself can have taken the entry out of a row that does not carry it. -/
theorem committed_clear (clear : cell.carries keyOf t entry = false)
    (has : keyOf cell.committed = some entry) : ∃ version, cell.writer = some (t, version) := by
  cases held : cell.writer with
  | none => exact absurd has ((carries_unlocked held).mp clear)
  | some pending =>
      rcases pending with ⟨holder, version⟩
      by_cases own : holder = t
      · subst own
        exact ⟨version, rfl⟩
      · exact absurd has ((carries_other held own).mp clear).2

end Rows

variable [DecidableEq τ] {keyOf : α → Option ι} {table : Table τ κ α} {t : τ} {key : κ}

theorem probe_clear [DecidableEq κ] [DecidableEq ι] {ids : List κ} {entry : Option ι}
    (probed : probe keyOf table ids t key entry = .clear)
    (listed : ∀ other value, (table other).carries keyOf t value = true → other ∈ ids)
    {value : ι} (new : entry = some value) :
    ∀ other, other ≠ key → (table other).carries keyOf t value = false := by
  intro other different
  rw [Bool.eq_false_iff]
  intro carries
  have rival : other ∈ ids.filter fun other =>
      decide (other ≠ key) && entry.any fun entry => (table other).carries keyOf t entry := by
    rw [List.mem_filter, new]
    exact ⟨listed other value carries, by simp [different, carries]⟩
  unfold probe at probed
  dsimp only at probed
  split at probed
  · next empty =>
      rw [List.isEmpty_iff.mp empty] at rival
      cases rival
  · split at probed <;> cases probed

theorem clear_of_uncarried [DecidableEq κ] [DecidableEq ι] {ids : List κ} {entry : Option ι}
    (uncarried : ∀ other value, other ≠ key → entry = some value →
      (table other).carries keyOf t value = false) :
    probe keyOf table ids t key entry = .clear := by
  have none_rival : (ids.filter fun other =>
      decide (other ≠ key) && entry.any fun entry => (table other).carries keyOf t entry) = [] := by
    rw [List.filter_eq_nil_iff]
    intro other _ rival
    cases entered : entry with
    | none => simp [entered] at rival
    | some value =>
        rw [entered, Bool.and_eq_true, decide_eq_true_eq, Option.any_some] at rival
        rw [uncarried other value rival.1 entered] at rival
        exact absurd rival.2 Bool.false_ne_true
  unfold probe
  rw [none_rival]
  rfl

/-- What a transaction already has in a row that it may write, no other row carries. -/
theorem Sound.clear [DecidableEq ι] (sound : Sound keyOf table) (free : (table key).free t = true)
    {entry : ι} (has : keyOf ((table key).read t) = some entry) :
    ∀ other, other ≠ key → (table other).carries keyOf t entry = false := by
  intro other different
  rw [Bool.eq_false_iff]
  intro carries
  cases held : (table key).writer with
  | some pending =>
      rcases pending with ⟨holder, version⟩
      obtain rfl := Cell.free_holder free held
      rw [Cell.read_held held] at has
      have ahead := sound.ahead key other holder version entry held has
      cases there : (table other).writer with
      | none =>
          simp only [Cell.carries, there, beq_iff_eq] at carries
          rcases ahead carries different with ⟨rival, found⟩
          rw [there] at found
          cases found
      | some pending =>
          rcases pending with ⟨u, rival⟩
          simp only [Cell.carries, there, Bool.or_eq_true, Bool.and_eq_true, beq_iff_eq,
            decide_eq_true_eq] at carries
          rcases carries with carries | ⟨other_, carries⟩
          · exact different (sound.pending key other holder u version rival entry held has there
              carries).symm
          · rcases ahead carries different with ⟨_, found⟩
            rw [there] at found
            exact other_ (Prod.mk.inj (Option.some.inj found)).1
  | none =>
      have unheld : ∀ version, (table key).writer ≠ some (t, version) := by simp [held]
      rw [Cell.read_unheld unheld] at has
      cases there : (table other).writer with
      | none =>
          simp only [Cell.carries, there, beq_iff_eq] at carries
          exact different (sound.committed other key entry carries has)
      | some pending =>
          rcases pending with ⟨u, rival⟩
          simp only [Cell.carries, there, Bool.or_eq_true, Bool.and_eq_true, beq_iff_eq] at carries
          rcases carries with carries | ⟨_, carries⟩
          · rcases sound.ahead other key u rival entry there carries has different.symm with
              ⟨_, found⟩
            rw [held] at found
            cases found
          · exact different (sound.committed other key entry carries has)

/-- A statement that puts a row under an entry that no other row carries. -/
theorem Sound.enter [DecidableEq κ] [DecidableEq ι] (sound : Sound keyOf table) {change : α → α}
    (free : (table key).free t = true)
    (clear : ∀ entry, keyOf (change ((table key).read t)) = some entry →
      ∀ other, other ≠ key → (table other).carries keyOf t entry = false) :
    Sound keyOf (table.update t key change) := by
  have kept : ∀ other, ((table.update t key change) other).committed = (table other).committed :=
    fun other => congrFun (Table.snapshot_update table t key change) other
  refine ⟨?_, ?_, ?_⟩
  · intro first second entry one two
    rw [kept] at one two
    exact sound.committed first second entry one two
  · intro first second u v version rival entry held has there carries
    by_cases firstHere : first = key <;> by_cases secondHere : second = key
    · rw [firstHere, secondHere]
    · subst firstHere
      rw [Table.update_self, Cell.writer_update] at held
      cases held
      rw [Table.update_ne table t change secondHere] at there
      exact absurd carries (pending_clear (clear entry has second secondHere) there)
    · subst secondHere
      rw [Table.update_self, Cell.writer_update] at there
      cases there
      rw [Table.update_ne table t change firstHere] at held
      exact absurd has (pending_clear (clear entry carries first firstHere) held)
    · rw [Table.update_ne table t change firstHere] at held
      rw [Table.update_ne table t change secondHere] at there
      exact sound.pending first second u v version rival entry held has there carries
  · intro first second u version entry held has there different
    rw [kept] at there
    by_cases firstHere : first = key
    · subst firstHere
      rw [Table.update_self, Cell.writer_update] at held
      cases held
      rw [Table.update_ne table t change different]
      exact committed_clear (clear entry has second different) there
    · rw [Table.update_ne table t change firstHere] at held
      rcases sound.ahead first second u version entry held has there different with ⟨rival, found⟩
      by_cases secondHere : second = key
      · subst secondHere
        obtain rfl := Cell.free_holder free found
        rw [Table.update_self, Cell.writer_update]
        exact ⟨_, rfl⟩
      · rw [Table.update_ne table t change secondHere]
        exact ⟨rival, found⟩

/-- A statement that rewrites some rows, all of them free, and gives none of them a new entry. -/
theorem Sound.rewrite [DecidableEq ι] (sound : Sound keyOf table) {after : Table τ κ α}
    (each : ∀ row, after row = table row ∨ ∃ change, (table row).free t = true ∧
      after row = (table row).update t change ∧
      (keyOf (change ((table row).read t)) = none ∨
        keyOf (change ((table row).read t)) = keyOf ((table row).read t))) :
    Sound keyOf after := by
  have kept : ∀ row, (after row).committed = (table row).committed := by
    intro row
    rcases each row with same | ⟨change, _, same, _⟩
    · rw [same]
    · rw [same, Cell.committed_update]
  have origin : ∀ row u version entry, (after row).writer = some (u, version) →
      keyOf version = some entry → (table row).writer = some (u, version) ∨
        (u = t ∧ (table row).free t = true ∧ keyOf ((table row).read t) = some entry) := by
    intro row u version entry held has
    rcases each row with same | ⟨change, free, same, entered⟩
    · rw [same] at held
      exact .inl held
    · rw [same, Cell.writer_update] at held
      cases held
      rcases entered with gone | entered
      · rw [gone] at has
        cases has
      · exact .inr ⟨rfl, free, entered ▸ has⟩
  have unrivalled : ∀ row other entry, (table row).free t = true →
      keyOf ((table row).read t) = some entry → other ≠ row →
      (table other).free t = true → keyOf ((table other).read t) ≠ some entry := by
    intro row other entry free has different open_ carries
    have clear := sound.clear free has other different
    cases held : (table other).writer with
    | none =>
        rw [Cell.read_unheld (by simp [held])] at carries
        exact (carries_unlocked held).mp clear carries
    | some pending =>
        rcases pending with ⟨holder, version⟩
        obtain rfl := Cell.free_holder open_ held
        rw [Cell.read_held held] at carries
        exact (carries_own held).mp clear carries
  refine ⟨?_, ?_, ?_⟩
  · intro first second entry one two
    rw [kept] at one two
    exact sound.committed first second entry one two
  · intro first second u v version rival entry held has there carries
    by_contra different
    rcases origin first u version entry held has with old | ⟨rfl, free, seen⟩ <;>
      rcases origin second v rival entry there carries with known | ⟨rfl, open_, found⟩
    · exact different (sound.pending first second u v version rival entry old has known carries)
    · exact pending_clear (sound.clear open_ found first different) old has
    · exact pending_clear (sound.clear free seen second (Ne.symm different)) known carries
    · exact unrivalled first second entry free seen (Ne.symm different) open_ found
  · intro first second u version entry held has there different
    rw [kept] at there
    have still : ∀ rival, (table second).writer = some (u, rival) →
        ∃ rival, (after second).writer = some (u, rival) := by
      intro rival found
      rcases each second with same | ⟨change, free, same, _⟩
      · exact ⟨rival, same ▸ found⟩
      · obtain rfl := Cell.free_holder free found
        exact ⟨_, by rw [same, Cell.writer_update]⟩
    rcases origin first u version entry held has with old | ⟨rfl, free, seen⟩
    · rcases sound.ahead first second u version entry old has there different with ⟨rival, found⟩
      exact still rival found
    · rcases committed_clear (sound.clear free seen second different) there with ⟨rival, found⟩
      exact still rival found

theorem Sound.leave [DecidableEq κ] [DecidableEq ι] (sound : Sound keyOf table) {change : α → α}
    (free : (table key).free t = true) (gone : keyOf (change ((table key).read t)) = none) :
    Sound keyOf (table.update t key change) := by
  apply sound.rewrite (t := t)
  intro row
  by_cases here : row = key
  · subst here
    exact .inr ⟨change, free, Table.update_self .., .inl gone⟩
  · exact .inl (Table.update_ne table t change here)

theorem Sound.commit (sound : Sound keyOf table) (t : τ) : Sound keyOf (table.commit t) := by
  have installed : ∀ row entry, keyOf ((table.commit t) row).committed = some entry →
      (∃ version, (table row).writer = some (t, version) ∧ keyOf version = some entry) ∨
      ((∀ version, (table row).writer ≠ some (t, version)) ∧
        keyOf (table row).committed = some entry) := by
    intro row entry has
    rw [Table.commit_apply] at has
    rcases Cell.commit_cases (table row) t with ⟨version, held, same⟩ | ⟨unheld, same⟩
    · rw [same, Cell.committed_clean] at has
      exact .inl ⟨version, held, has⟩
    · rw [same] at has
      exact .inr ⟨unheld, has⟩
  refine ⟨?_, ?_, ?_⟩
  · intro first second entry one two
    rcases installed first entry one with ⟨version, held, has⟩ | ⟨unheld, has⟩ <;>
      rcases installed second entry two with ⟨rival, there, carries⟩ | ⟨unclaimed, carries⟩
    · exact sound.pending first second t t version rival entry held has there carries
    · by_contra different
      rcases sound.ahead first second t version entry held has carries (Ne.symm different) with
        ⟨_, found⟩
      exact unclaimed _ found
    · by_contra different
      rcases sound.ahead second first t rival entry there carries has different with ⟨_, found⟩
      exact unheld _ found
    · exact sound.committed first second entry has carries
  · intro first second u v version rival entry held has there carries
    exact sound.pending first second u v version rival entry (Cell.writer_commit held).2.1 has
      (Cell.writer_commit there).2.1 carries
  · intro first second u version entry held has there different
    rcases Cell.writer_commit held with ⟨stranger, held, _⟩
    rcases installed second entry there with ⟨rival, mine, carries⟩ | ⟨unheld, carries⟩
    · exact absurd (sound.pending first second u t version rival entry held has mine carries)
        (Ne.symm different)
    · rcases sound.ahead first second u version entry held has carries different with
        ⟨rival, found⟩
      rw [Table.commit_apply, Cell.commit_unheld unheld]
      exact ⟨rival, found⟩

theorem Sound.rollback (sound : Sound keyOf table) (t : τ) : Sound keyOf (table.rollback t) := by
  have kept : ∀ row, ((table.rollback t) row).committed = (table row).committed :=
    fun row => congrFun (Table.snapshot_rollback table t) row
  refine ⟨?_, ?_, ?_⟩
  · intro first second entry one two
    rw [kept] at one two
    exact sound.committed first second entry one two
  · intro first second u v version rival entry held has there carries
    exact sound.pending first second u v version rival entry (Cell.writer_rollback held).2 has
      (Cell.writer_rollback there).2 carries
  · intro first second u version entry held has there different
    rw [kept] at there
    rcases Cell.writer_rollback held with ⟨stranger, held⟩
    rcases sound.ahead first second u version entry held has there different with ⟨rival, found⟩
    have unheld : ∀ mine, (table second).writer ≠ some (t, mine) := by
      intro mine own
      rw [own] at found
      exact stranger (Prod.mk.inj (Option.some.inj found)).1.symm
    rw [Table.rollback_apply, Cell.rollback_unheld unheld]
    exact ⟨rival, found⟩

/-- A statement outside any transaction is one of its own, committed at once. -/
theorem autocommit_eq [DecidableEq κ] (change : α → α) (unlocked : (table key).writer = none)
    (outside : ∀ row version, (table row).writer ≠ some (t, version)) :
    Function.update table key ((table key).autocommit change) =
      (table.update t key change).commit t := by
  funext row
  by_cases here : row = key
  · subst here
    have own : ((table row).update t change).writer = some (t, change ((table row).read t)) := rfl
    rw [Function.update_self, Table.commit_apply, Table.update_self, Cell.commit_held own,
      Cell.read_unheld (by simp [unlocked]), Cell.autocommit]
  · rw [Function.update_of_ne here, Table.commit_apply, Table.update_ne table t change here,
      Cell.commit_unheld (outside row)]

end UniqueIndex

end Library
