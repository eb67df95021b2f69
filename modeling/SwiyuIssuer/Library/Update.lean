import Mathlib.Logic.Function.Basic

/-! What is found in a table after one of its entries was written. -/

namespace Library

variable {κ ρ : Type} [DecidableEq κ]

theorem update_cases {table : κ → ρ} {at_ key : κ} {set found : ρ}
    (here : Function.update table at_ set key = found) :
    (key = at_ ∧ set = found) ∨ (key ≠ at_ ∧ table key = found) := by
  by_cases same : key = at_
  · subst same
    rw [Function.update_self] at here
    exact .inl ⟨rfl, here⟩
  · rw [Function.update_of_ne same] at here
    exact .inr ⟨same, here⟩

theorem view_update_cases {α : Type} (view : ρ → α) {table : κ → ρ} {at_ key : κ} {set : ρ}
    {found : α} (here : view (Function.update table at_ set key) = found) :
    (key = at_ ∧ view set = found) ∨ (key ≠ at_ ∧ view (table key) = found) := by
  by_cases same : key = at_
  · subst same
    rw [Function.update_self] at here
    exact .inl ⟨rfl, here⟩
  · rw [Function.update_of_ne same] at here
    exact .inr ⟨same, here⟩

theorem update_some_cases {table : κ → Option ρ} {at_ key : κ} {set row : ρ}
    (here : Function.update table at_ (some set) key = some row) :
    (key = at_ ∧ row = set) ∨ (key ≠ at_ ∧ table key = some row) := by
  rcases update_cases here with ⟨same, written⟩ | other
  · exact .inl ⟨same, (Option.some.inj written).symm⟩
  · exact .inr other

/-- An entry that is still there after another one was cleared is an old one. -/
theorem update_none {table : κ → Option ρ} {at_ key : κ} {row : ρ}
    (here : Function.update table at_ none key = some row) : key ≠ at_ ∧ table key = some row := by
  rcases update_cases here with ⟨_, cleared⟩ | other
  · cases cleared
  · exact other

end Library
