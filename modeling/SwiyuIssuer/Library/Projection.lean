import SwiyuIssuer.Library.Run
import SwiyuIssuer.Library.UniqueIndex

/-! What one of the parties that share a machine sees of it: the events of the party and its part of
the state. -/

namespace Library

section Runs

variable {σ ε : Type}

/-- The party's events do to its part what they do in the whole state, and no other event changes the
part. -/
structure Projects (step alone : σ → ε → σ → Prop) (known : σ → Prop) (part : σ → σ)
    (sees : ε → Bool) : Prop where
  seen : ∀ state event after, known state → step state event after → sees event = true →
    alone (part state) event (part after)
  unseen : ∀ state event after, known state → step state event after → sees event = false →
    part after = part state

variable {step alone : σ → ε → σ → Prop} {known : σ → Prop} {part : σ → σ} {sees : ε → Bool}
  {first last : σ} {trace : List ε}

theorem Projects.run (projects : Projects step alone known part sees)
    (base : ∀ state event after, known state → step state event after → known after)
    (start : known first) (run : Run step first trace last) :
    Run alone (part first) (trace.filter sees) (part last) := by
  induction run with
  | nil => exact .nil _
  | @cons first middle last event trace taken rest ih =>
      have later := ih (base _ _ _ start taken)
      cases looks : sees event with
      | true =>
          rw [List.filter_cons_of_pos looks]
          exact .cons (projects.seen _ _ _ start taken looks) later
      | false =>
          rw [List.filter_cons_of_neg (by simp [looks])]
          rw [projects.unseen _ _ _ start taken looks] at later
          exact later

theorem Run.unique {next : σ → ε → Option σ} {other : σ} (run : Run (Steps next) first trace last)
    (again : Run (Steps next) first trace other) : other = last := by
  induction run with
  | nil =>
      cases again
      rfl
  | cons taken _ ih =>
      cases again with
      | cons same rest =>
          obtain rfl := Option.some.inj (same.symm.trans taken)
          exact ih rest

section Alone

variable {next : σ → ε → Option σ} (projects : Projects step (Steps next) known part sees)
  (base : ∀ state event after, known state → step state event after → known after)
  (start : known first) (whole : part first = first)
include projects base start whole

/-- From a state that is all the party's, its part goes as if no other party were there. -/
theorem Projects.runs_alone (run : Run step first trace last) :
    Run (Steps next) first (trace.filter sees) (part last) := by
  have projected := projects.run base start run
  rw [whole] at projected
  exact projected

/-- What the party has seen decides its part. -/
theorem Projects.determined {others : List ε} {other : σ} (run : Run step first trace last)
    (again : Run step first others other) (same : others.filter sees = trace.filter sees) :
    part other = part last := by
  have alone := projects.runs_alone base start whole again
  rw [same] at alone
  exact (projects.runs_alone base start whole run).unique alone

end Alone

end Runs

theorem update_masked {κ ω α : Type} [DecidableEq κ] [DecidableEq ω] {owner : κ → ω} {mine : ω}
    {values : κ → α} {absent : α} {key : κ} (own : owner key = mine) (value : α) :
    (fun other => if owner other = mine then Function.update values key value other else absent) =
      Function.update (fun other => if owner other = mine then values other else absent) key
        value := by
  funext other
  by_cases same : other = key
  · subst same
    rw [if_pos own, Function.update_self, Function.update_self]
  · rw [Function.update_of_ne same, Function.update_of_ne same]

namespace Table

variable {τ κ α : Type} {keep : κ → Bool} {absent : α} {table : Table τ κ α} {key : κ}

/-- The rows that `keep` names; the others are absent. -/
def restrict (keep : κ → Bool) (absent : α) (table : Table τ κ α) : Table τ κ α := fun key =>
  if keep key then table key else Cell.clean absent

theorem restrict_kept (kept : keep key = true) : table.restrict keep absent key = table key :=
  if_pos kept

theorem restrict_dropped (dropped : keep key = false) :
    table.restrict keep absent key = Cell.clean absent :=
  if_neg (by rw [dropped]; exact Bool.false_ne_true)

theorem restrict_congr {after : Table τ κ α} {keepAfter : κ → Bool}
    (same : ∀ key, keepAfter key = keep key)
    (rows : ∀ key, keep key = true → after key = table key) :
    after.restrict keepAfter absent = table.restrict keep absent := by
  funext key
  cases kept : keep key with
  | true => rw [restrict_kept ((same key).trans kept), restrict_kept kept, rows key kept]
  | false => rw [restrict_dropped ((same key).trans kept), restrict_dropped kept]

theorem restrict_commit [DecidableEq τ] (t : τ) :
    (table.restrict keep absent).commit t = (table.commit t).restrict keep absent := by
  funext key
  cases kept : keep key with
  | true => rw [commit_apply, restrict_kept kept, restrict_kept kept, commit_apply]
  | false =>
      rw [commit_apply, restrict_dropped kept, restrict_dropped kept]
      rfl

theorem restrict_rollback [DecidableEq τ] (t : τ) :
    (table.restrict keep absent).rollback t = (table.rollback t).restrict keep absent := by
  funext key
  cases kept : keep key with
  | true => rw [rollback_apply, restrict_kept kept, restrict_kept kept, rollback_apply]
  | false =>
      rw [rollback_apply, restrict_dropped kept, restrict_dropped kept]
      rfl

section Reads

variable [DecidableEq τ] {t : τ} {ids : List κ}

theorem filter_restrict (picks : κ → α → Bool)
    (unpicked : ∀ key, keep key = false → picks key ((table key).read t) = false) :
    (ids.filter keep).filter (fun key => picks key ((table.restrict keep absent key).read t)) =
      ids.filter fun key => picks key ((table key).read t) := by
  rw [List.filter_filter]
  apply List.filter_congr
  intro key _
  cases kept : keep key with
  | true => rw [restrict_kept kept, Bool.and_true]
  | false => rw [unpicked key kept, Bool.and_false]

theorem find_restrict {β : Type} {rows : Table τ κ (Option β)} {picks : β → Bool}
    (unpicked : ∀ key row, keep key = false → (rows key).read t = some row → picks row = false) :
    ((ids.filter keep).filterMap fun key => (rows.restrict keep none key).read t).find? picks =
      (ids.filterMap fun key => (rows key).read t).find? picks := by
  induction ids with
  | nil => rfl
  | cons key ids ih =>
      cases kept : keep key with
      | true =>
          rw [List.filter_cons_of_pos kept, List.filterMap_cons, List.filterMap_cons,
            restrict_kept kept]
          cases (rows key).read t with
          | none => exact ih
          | some row =>
              dsimp only
              rw [List.find?_cons, List.find?_cons, ih]
      | false =>
          rw [List.filter_cons_of_neg (by simp [kept]), ih, List.filterMap_cons]
          cases seen : (rows key).read t with
          | none => rfl
          | some row =>
              dsimp only
              rw [List.find?_cons_of_neg (by simp [unpicked key row kept seen])]

end Reads

variable [DecidableEq κ]

theorem restrict_set (cell : Cell τ α) {keepAfter : κ → Bool} (kept : keepAfter key = true)
    (same : ∀ other, other ≠ key → keepAfter other = keep other) :
    restrict keepAfter absent (Function.update table key cell) =
      Function.update (table.restrict keep absent) key cell := by
  funext other
  by_cases here : other = key
  · subst here
    rw [restrict_kept kept, Function.update_self, Function.update_self]
  · rw [Function.update_of_ne here, restrict, restrict, same other here,
      Function.update_of_ne here]

end Table

namespace UniqueIndex

variable {τ κ α ι : Type} [DecidableEq τ] [DecidableEq κ] [DecidableEq ι] {keyOf : α → Option ι}
  {table : Table τ κ α} {ids : List κ} {t : τ} {key : κ} {entry : Option ι} {keep : κ → Bool}
  {absent : α}

/-- Rows that are not kept do not count where they do not carry the entry. -/
theorem probe_restrict (uncarried : ∀ other value, keep other = false → entry = some value →
      (table other).carries keyOf t value = false) :
    probe keyOf (table.restrict keep absent) (ids.filter keep) t key entry =
      probe keyOf table ids t key entry := by
  have rivals : (ids.filter keep).filter (fun other => decide (other ≠ key) &&
        entry.any fun entry => (table.restrict keep absent other).carries keyOf t entry) =
      ids.filter fun other => decide (other ≠ key) &&
        entry.any fun entry => (table other).carries keyOf t entry := by
    rw [List.filter_filter]
    apply List.filter_congr
    intro other _
    cases kept : keep other with
    | true => rw [Table.restrict_kept kept, Bool.and_true]
    | false =>
        rw [Bool.and_false, eq_comm, Bool.and_eq_false_iff]
        refine .inr ?_
        cases entered : entry with
        | none => rfl
        | some value => exact uncarried other value kept entered
  have free : (ids.filter fun other => decide (other ≠ key) &&
        entry.any fun entry => (table other).carries keyOf t entry).any
        (fun other => (table.restrict keep absent other).free t) =
      (ids.filter fun other => decide (other ≠ key) &&
        entry.any fun entry => (table other).carries keyOf t entry).any
        fun other => (table other).free t := by
    rw [Bool.eq_iff_iff, List.any_eq_true, List.any_eq_true]
    apply exists_congr
    intro other
    apply and_congr_right
    intro rival
    have kept : keep other = true := by
      by_contra dropped
      rw [List.mem_filter, Bool.and_eq_true] at rival
      cases entered : entry with
      | none => simp [entered] at rival
      | some value =>
          rw [entered, Option.any_some,
            uncarried other value (Bool.eq_false_iff.mpr dropped) entered] at rival
          exact absurd rival.2.2 Bool.false_ne_true
    rw [Table.restrict_kept kept]
  unfold probe
  dsimp only
  rw [rivals, free]

end UniqueIndex

end Library
