import Mathlib.Data.Option.Basic

/-! Partial updates of a row: what a patch does not name keeps its value. -/

namespace Library.Patch

/-- The value of each field, or of each field that a patch names. -/
abbrev Columns (φ ν : Type) := φ → Option ν

variable {φ ν : Type} {one two patch : Columns φ ν}

def merge (patch stored : Columns φ ν) : Columns φ ν := fun field => (patch field).or (stored field)

def Apart (one two : Columns φ ν) : Prop := ∀ field, one field = none ∨ two field = none

theorem Apart.symm (apart : Apart one two) : Apart two one := fun field => (apart field).symm

theorem merge_none (stored : Columns φ ν) : merge (fun _ => none) stored = stored := by
  funext field
  rfl

theorem merge_comm (apart : Apart one two) (stored : Columns φ ν) :
    merge one (merge two stored) = merge two (merge one stored) := by
  funext field
  rcases apart field with none_ | none_
  · simp [merge, none_]
  · simp [merge, none_]

theorem merge_named {field : φ} {value : ν} (named : patch field = some value)
    (stored : Columns φ ν) : merge patch stored field = some value := by
  simp [merge, named]

/-- A merge over what was read is one over what is stored exactly when both have the same values in
the fields that the patch leaves. -/
theorem merge_eq_merge_iff {seen stored : Columns φ ν} :
    merge patch seen = merge patch stored ↔
      ∀ field, patch field = none → seen field = stored field := by
  constructor
  · intro same field left
    have here := congrFun same field
    simpa [merge, left] using here
  · intro same
    funext field
    cases named : patch field with
    | none => simp [merge, named, same field named]
    | some value => simp [merge, named]

/-- What two patches of different fields make of a row, field by field. -/
theorem eq_merge_merge_iff (apart : Apart one two) {stored result : Columns φ ν} :
    result = merge one (merge two stored) ↔
      (∀ field value, one field = some value → result field = some value) ∧
        (∀ field value, two field = some value → result field = some value) ∧
        ∀ field, one field = none → two field = none → result field = stored field := by
  constructor
  · intro same
    refine ⟨?_, ?_, ?_⟩
    · intro field value named
      rw [same, merge_named named]
    · intro field value named
      rw [same, merge_comm apart, merge_named named]
    · intro field left right
      simp [same, merge, left, right]
  · intro kept
    obtain ⟨first, second, rest⟩ := kept
    funext field
    cases left : one field with
    | some value => rw [first field value left, merge_named left]
    | none =>
        cases right : two field with
        | some value => rw [second field value right, merge_comm apart, merge_named right]
        | none => simp [rest field left right, merge, left, right]

end Library.Patch
