import Mathlib.Data.List.Nodup

/-! Tables as lists of rows, and what statements on one make of the part that a party can see. -/

namespace Library.Rows

variable {α β κ : Type}

/-- `UPDATE`. -/
def update (clause : α → Bool) (change : α → α) (rows : List α) : List α :=
  rows.map fun row => if clause row then change row else row

def Keyed (key : α → κ) (rows : List α) : Prop := (rows.map key).Nodup

/-- The clause picks no row outside the part. -/
def Within (clause mine : α → Bool) (rows : List α) : Prop :=
  ∀ row ∈ rows, clause row = true → mine row = true

variable {rows : List α} {clause mine : α → Bool} {change : α → α} {key : α → κ}

namespace Keyed

theorem unique (keyed : Keyed key rows) {one two : α} (first : one ∈ rows) (second : two ∈ rows)
    (same : key one = key two) : one = two :=
  List.inj_on_of_nodup_map keyed first second same

theorem owner {owner : α → β} (keyed : Keyed key rows) {id : κ} {one two : β}
    (first : ∃ row ∈ rows, key row = id ∧ owner row = one)
    (second : ∃ row ∈ rows, key row = id ∧ owner row = two) : one = two := by
  rcases first with ⟨row, there, named, rfl⟩
  rcases second with ⟨other, present, same, rfl⟩
  rw [keyed.unique there present (named.trans same.symm)]

theorem append (keyed : Keyed key rows) {row : α} (fresh : ∀ other ∈ rows, key other ≠ key row) :
    Keyed key (rows ++ [row]) := by
  rw [Keyed, List.map_append, List.nodup_append]
  refine ⟨keyed, List.nodup_singleton _, ?_⟩
  intro one member two last
  rcases List.mem_map.mp member with ⟨other, there, rfl⟩
  rw [List.mem_singleton.mp last]
  exact fresh other there

theorem filter (keyed : Keyed key rows) (clause : α → Bool) : Keyed key (rows.filter clause) :=
  List.Nodup.sublist (List.filter_sublist.map key) keyed

theorem update (keyed : Keyed key rows) (same : ∀ row, key (change row) = key row) :
    Keyed key (update clause change rows) := by
  have keys : (Rows.update clause change rows).map key = rows.map key := by
    rw [Rows.update, List.map_map]
    refine List.map_congr_left fun row _ => ?_
    show key (if clause row then change row else row) = key row
    split
    · exact same row
    · rfl
  rw [Keyed, keys]
  exact keyed

end Keyed

/-- An update keeps each row where it was. -/
theorem filter_update (kept : ∀ row ∈ rows, clause row = true → mine (change row) = mine row) :
    (update clause change rows).filter mine = update clause change (rows.filter mine) := by
  rw [update, update, List.filter_map]
  refine congrArg (List.map _) (List.filter_congr fun row member => ?_)
  show mine (if clause row then change row else row) = mine row
  split
  · next picked => exact kept row member picked
  · rfl

theorem flatMap_update {names : α → List β} (same : ∀ row, names (change row) = names row) :
    (update clause change rows).flatMap names = rows.flatMap names := by
  rw [update, List.flatMap_map]
  refine List.flatMap_congr fun row _ => ?_
  split
  · exact same row
  · rfl

end Library.Rows
