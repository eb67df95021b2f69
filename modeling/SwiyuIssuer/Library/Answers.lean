/-! Inversion of fallible sequences: what a successful answer says about every step before it. -/

namespace Library.Answers

variable {ε δ α β : Type}

theorem bind_ok {first : Except ε α} {rest : α → Except ε β} {value : β} :
    first >>= rest = .ok value ↔ ∃ middle, first = .ok middle ∧ rest middle = .ok value := by
  cases first with
  | error error =>
      constructor
      · intro absurd
        cases absurd
      · rintro ⟨middle, absurd, _⟩
        cases absurd
  | ok middle =>
      constructor
      · intro taken
        exact ⟨middle, rfl, taken⟩
      · rintro ⟨_, same, taken⟩
        cases same
        exact taken

theorem bind_error {first : Except ε α} {rest : α → Except ε β} {error : ε} :
    first >>= rest = .error error ↔
      first = .error error ∨ ∃ middle, first = .ok middle ∧ rest middle = .error error := by
  cases first with
  | error found =>
      constructor
      · intro failed
        cases failed
        exact .inl rfl
      · rintro (failed | ⟨middle, absurd, _⟩)
        · cases failed
          rfl
        · cases absurd
  | ok middle =>
      constructor
      · intro failed
        exact .inr ⟨middle, rfl, failed⟩
      · rintro (absurd | ⟨_, same, failed⟩)
        · cases absurd
        · cases same
          exact failed

theorem map_ok {first : Except ε α} {change : α → β} {value : β} :
    first.map change = .ok value ↔ ∃ middle, first = .ok middle ∧ change middle = value := by
  cases first <;> simp [Except.map]

@[simp] theorem ok_mapError (change : ε → δ) (value : α) :
    (.ok value : Except ε α).mapError change = .ok value := rfl

@[simp] theorem error_mapError (change : ε → δ) (error : ε) :
    (.error error : Except ε α).mapError change = .error (change error) := rfl

theorem mapError_ok {first : Except ε α} {change : ε → δ} {value : α} :
    first.mapError change = .ok value ↔ first = .ok value := by
  cases first <;> simp

theorem toOption_some {answer : Except ε α} {value : α} :
    answer.toOption = some value ↔ answer = .ok value := by
  cases answer <;> simp [Except.toOption]

/-- `ok_or`, of an optional value. -/
def okOr (found : Option α) (error : ε) : Except ε α :=
  match found with
  | some value => .ok value
  | none => .error error

theorem okOr_ok {found : Option α} {error : ε} {value : α} :
    okOr found error = .ok value ↔ found = some value := by
  cases found <;> simp [okOr]

theorem mapM_map_ok {γ : Type} (items : List α) (write : α → β) (read : β → Except ε γ)
    (value : α → γ) (reads : ∀ item, read (write item) = .ok (value item)) :
    (items.map write).mapM read = .ok (items.map value) := by
  induction items with
  | nil => rfl
  | cons item items ih =>
      rw [List.map_cons, List.mapM_cons, reads, ih]
      rfl

theorem ok_or_error (answer : Except ε α) :
    (∃ value, answer = .ok value) ∨ ∃ error, answer = .error error := by
  cases answer with
  | ok value => exact .inl ⟨value, rfl⟩
  | error error => exact .inr ⟨error, rfl⟩

end Library.Answers
