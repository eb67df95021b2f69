import Mathlib.Logic.Function.Basic

/-! Programs on a state that several parties share, and what it takes for one to need and to touch
the part of a single party only. -/

namespace Library

/-- A computation keeps what it has written when it fails. -/
def Program (σ ε α : Type) := σ → Except ε α × σ

namespace Program

variable {σ ε α β : Type}

instance : Monad (Program σ ε) where
  pure x := fun s => (.ok x, s)
  bind program next := fun s =>
    match program s with
    | (.ok x, after) => next x after
    | (.error error, after) => (.error error, after)

def lift (answer : Except ε α) : Program σ ε α := fun s => (answer, s)

def fail (error : ε) : Program σ ε α := lift (.error error)

def ensure (holds : Bool) (error : ε) : Program σ ε Unit := if holds then pure () else fail error

def require (error : ε) : Option α → Program σ ε α
  | some x => pure x
  | none => fail error

def read (query : σ → α) : Program σ ε α := fun s => (.ok (query s), s)

/-- A statement writes nothing when it fails. -/
def statement (run : σ → Except ε (α × σ)) : Program σ ε α := fun s =>
  match run s with
  | .ok (x, after) => (.ok x, after)
  | .error error => (.error error, s)

/-- A failure rolls back what has been written. -/
def transaction (program : Program σ ε α) : Program σ ε α := fun s =>
  match program s with
  | (.ok x, after) => (.ok x, after)
  | (.error error, _) => (.error error, s)

variable {program : Program σ ε α} {next : α → Program σ ε β} {run : σ → Except ε (α × σ)}
  {s after : σ} {x : α} {error : ε}

theorem bind_ok (ran : program s = (.ok x, after)) : (program >>= next) s = next x after := by
  simp only [Bind.bind, ran]

theorem bind_error (refused : program s = (.error error, after)) :
    (program >>= next) s = (.error error, after) := by
  simp only [Bind.bind, refused]

theorem statement_ok (ran : run s = .ok (x, after)) : statement run s = (.ok x, after) := by
  simp only [statement, ran]

theorem statement_error (refused : run s = .error error) : statement run s = (.error error, s) := by
  simp only [statement, refused]

theorem transaction_ok (ran : program s = (.ok x, after)) :
    transaction program s = (.ok x, after) := by
  simp only [transaction, ran]

theorem transaction_error (refused : program s = (.error error, after)) :
    transaction program s = (.error error, s) := by
  simp only [transaction, refused]

end Program

/-- What a party and what all others see of a state, what always holds of a state, and how states
come of each other. -/
structure View (σ π : Type) where
  own : σ → π
  others : σ → π
  sound : σ → Prop
  reaches : σ → σ → Prop
  refl : ∀ s, reaches s s
  trans : ∀ {s after later}, reaches s after → reaches after later → reaches s later
  kept : ∀ {s after}, sound s → reaches s after → sound after

variable {σ π ε α β : Type} {view : View σ π} {before : σ → Prop} {result : α → σ → Prop}

/-- From `before` on, what the party sees says what the program answers and what the party sees
afterwards, and the others see no difference; `result` holds of what comes out. -/
structure Confined (view : View σ π) (before : σ → Prop) (program : Program σ ε α)
    (result : α → σ → Prop) : Prop where
  same : ∀ {one two}, view.sound one → view.sound two → before one → before two →
    view.own one = view.own two →
    (program one).1 = (program two).1 ∧ view.own (program one).2 = view.own (program two).2
  others : ∀ {s}, view.sound s → before s → view.others (program s).2 = view.others s
  reaches : ∀ {s}, view.sound s → before s → view.reaches s (program s).2
  result : ∀ {s x after}, view.sound s → before s → program s = (.ok x, after) → result x after

namespace Confined

open Program

variable {program : Program σ ε α}

theorem read {query : σ → α} (same : ∀ one two, view.sound one → view.sound two → before one →
    before two → view.own one = view.own two → query one = query two) :
    Confined view before (read query : Program σ ε α) (fun x s => before s ∧ query s = x) where
  same soundOne soundTwo first second agree :=
    ⟨congrArg Except.ok (same _ _ soundOne soundTwo first second agree), agree⟩
  others _ _ := rfl
  reaches _ _ := view.refl _
  result := by
    intro s x after _ holds ran
    cases ran
    exact ⟨holds, rfl⟩

theorem pure {x : α} (given : ∀ s, before s → result x s) :
    Confined view before (pure x : Program σ ε α) result where
  same _ _ _ _ agree := ⟨rfl, agree⟩
  others _ _ := rfl
  reaches _ _ := view.refl _
  result := by
    intro s y after _ holds ran
    cases ran
    exact given s holds

theorem fail {error : ε} : Confined view before (fail error) result where
  same _ _ _ _ agree := ⟨rfl, agree⟩
  others _ _ := rfl
  reaches _ _ := view.refl _
  result := by
    intro s x after _ _ ran
    cases ran

theorem ensure {holds : Bool} {error : ε} {result : Unit → σ → Prop}
    (given : holds = true → ∀ s, before s → result () s) :
    Confined view before (ensure holds error) result := by
  cases holds with
  | true => exact pure (given rfl)
  | false => exact fail

theorem require {error : ε} {found : Option α}
    (given : ∀ x, found = some x → ∀ s, before s → result x s) :
    Confined view before (require error found) result := by
  cases found with
  | some x => exact pure (given x rfl)
  | none => exact fail

/-- A statement that does on the whole state what it does on the part. -/
theorem statement {run : σ → Except ε (α × σ)} (onPart : π → Except ε (α × π))
    (same : ∀ s, view.sound s → before s →
      (run s).map (Prod.map id view.own) = onPart (view.own s))
    (written : ∀ s x after, view.sound s → before s → run s = .ok (x, after) →
      view.others after = view.others s ∧ view.reaches s after ∧ result x after) :
    Confined view before (statement run) result := by
  refine ⟨?_, ?_, ?_, ?_⟩
  · intro one two soundOne soundTwo first second agree
    have both : (run one).map (Prod.map id view.own) = (run two).map (Prod.map id view.own) := by
      rw [same one soundOne first, same two soundTwo second, agree]
    cases ranOne : run one with
    | error error =>
        cases ranTwo : run two with
        | error other =>
            rw [ranOne, ranTwo] at both
            rw [statement_error ranOne, statement_error ranTwo]
            exact ⟨congrArg Except.error (Except.error.inj both), agree⟩
        | ok answer =>
            rw [ranOne, ranTwo] at both
            cases both
    | ok answer =>
        cases ranTwo : run two with
        | error other =>
            rw [ranOne, ranTwo] at both
            cases both
        | ok other =>
            rw [ranOne, ranTwo] at both
            rw [statement_ok ranOne, statement_ok ranTwo]
            have parts := Prod.mk.inj (Except.ok.inj both)
            exact ⟨congrArg Except.ok parts.1, parts.2⟩
  · intro s sound holds
    cases ran : run s with
    | error error => rw [statement_error ran]
    | ok answer =>
        rw [statement_ok ran]
        exact (written s _ _ sound holds ran).1
  · intro s sound holds
    cases ran : run s with
    | error error =>
        rw [statement_error ran]
        exact view.refl s
    | ok answer =>
        rw [statement_ok ran]
        exact (written s _ _ sound holds ran).2.1
  · intro s x after sound holds ran
    cases answered : run s with
    | error error =>
        rw [statement_error answered] at ran
        cases ran
    | ok answer =>
        rw [statement_ok answered] at ran
        cases ran
        exact (written s _ _ sound holds answered).2.2

theorem later (confined : Confined view before program result) {s after : σ} {x : α}
    (sound : view.sound s) (holds : before s) (ran : program s = (.ok x, after)) :
    view.sound after := by
  have reached := confined.reaches sound holds
  rw [ran] at reached
  exact view.kept sound reached

/-- What the first program leaves is what the second one starts from. -/
theorem bind {next : α → Program σ ε β} {final : β → σ → Prop}
    (first : Confined view before program result)
    (second : ∀ x, Confined view (result x) (next x) final) :
    Confined view before (program >>= next) final := by
  refine ⟨?_, ?_, ?_, ?_⟩
  · intro one two soundOne soundTwo holdsOne holdsTwo agree
    rcases first.same soundOne soundTwo holdsOne holdsTwo agree with ⟨answers, parts⟩
    rcases ranOne : program one with ⟨_ | x, afterOne⟩
    · rcases ranTwo : program two with ⟨other, afterTwo⟩
      rw [ranOne, ranTwo] at answers parts
      cases answers
      rw [bind_error ranOne, bind_error ranTwo]
      exact ⟨rfl, parts⟩
    · rcases ranTwo : program two with ⟨other, afterTwo⟩
      rw [ranOne, ranTwo] at answers parts
      cases answers
      rw [bind_ok ranOne, bind_ok ranTwo]
      exact (second x).same (first.later soundOne holdsOne ranOne)
        (first.later soundTwo holdsTwo ranTwo) (first.result soundOne holdsOne ranOne)
        (first.result soundTwo holdsTwo ranTwo) parts
  · intro s sound holds
    have spared := first.others sound holds
    rcases ran : program s with ⟨_ | x, after⟩
    · rw [ran] at spared
      rw [bind_error ran]
      exact spared
    · rw [ran] at spared
      rw [bind_ok ran]
      have unseen := (second x).others (first.later sound holds ran) (first.result sound holds ran)
      exact unseen.trans spared
  · intro s sound holds
    have reached := first.reaches sound holds
    rcases ran : program s with ⟨_ | x, after⟩
    · rw [ran] at reached
      rw [bind_error ran]
      exact reached
    · rw [ran] at reached
      rw [bind_ok ran]
      exact view.trans reached
        ((second x).reaches (first.later sound holds ran) (first.result sound holds ran))
  · intro s y final sound holds ran
    rcases began : program s with ⟨_ | x, after⟩
    · rw [bind_error began] at ran
      cases ran
    · rw [bind_ok began] at ran
      exact (second x).result (first.later sound holds began) (first.result sound holds began) ran

theorem transaction (confined : Confined view before program result) :
    Confined view before (transaction program) result := by
  refine ⟨?_, ?_, ?_, ?_⟩
  · intro one two soundOne soundTwo holdsOne holdsTwo agree
    rcases confined.same soundOne soundTwo holdsOne holdsTwo agree with ⟨answers, parts⟩
    rcases ranOne : program one with ⟨_ | x, afterOne⟩
    · rcases ranTwo : program two with ⟨other, afterTwo⟩
      rw [ranOne, ranTwo] at answers
      cases answers
      rw [transaction_error ranOne, transaction_error ranTwo]
      exact ⟨rfl, agree⟩
    · rcases ranTwo : program two with ⟨other, afterTwo⟩
      rw [ranOne, ranTwo] at answers parts
      cases answers
      rw [transaction_ok ranOne, transaction_ok ranTwo]
      exact ⟨rfl, parts⟩
  · intro s sound holds
    have spared := confined.others sound holds
    rcases ran : program s with ⟨_ | x, after⟩
    · rw [transaction_error ran]
    · rw [ran] at spared
      rw [transaction_ok ran]
      exact spared
  · intro s sound holds
    have reached := confined.reaches sound holds
    rcases ran : program s with ⟨_ | x, after⟩
    · rw [transaction_error ran]
      exact view.refl s
    · rw [ran] at reached
      rw [transaction_ok ran]
      exact reached
  · intro s x after sound holds ran
    rcases began : program s with ⟨_ | y, later⟩
    · rw [transaction_error began] at ran
      cases ran
    · rw [transaction_ok began] at ran
      cases ran
      exact confined.result sound holds began

section Sequence

variable {final : β → σ → Prop}

end Sequence

end Confined

end Library
