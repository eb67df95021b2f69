import Mathlib.Logic.Relation

/-! Labelled runs of a step relation, and the induction rules that carry an invariant or an
order along a run. -/

namespace Library

/-- `Run step s trace t`: the events of `trace`, taken in order, lead from `s` to `t`. -/
inductive Run {σ ε : Type} (step : σ → ε → σ → Prop) : σ → List ε → σ → Prop
  | nil (state : σ) : Run step state [] state
  | cons {first middle last : σ} {event : ε} {trace : List ε} :
      step first event middle → Run step middle trace last → Run step first (event :: trace) last

variable {σ ε : Type} {step : σ → ε → σ → Prop}

def Steps (next : σ → ε → Option σ) (state : σ) (event : ε) (after : σ) : Prop :=
  next state event = some after

/-- The steps that are taken where `condition` holds. -/
def Guarded (condition : σ → ε → Prop) (step : σ → ε → σ → Prop)
    (state : σ) (event : ε) (after : σ) : Prop :=
  condition state event ∧ step state event after

def exec (next : σ → ε → Option σ) : σ → List ε → Option σ
  | state, [] => some state
  | state, event :: trace => (next state event).bind fun after => exec next after trace

theorem exec_append {next : σ → ε → Option σ} (first : σ) (front back : List ε) :
    exec next first (front ++ back) = (exec next first front).bind fun s => exec next s back := by
  induction front generalizing first with
  | nil => rfl
  | cons event front ih =>
      rw [List.cons_append, exec, exec, Option.bind_assoc]
      congr 1
      funext middle
      exact ih middle

/-- The partial function that also refuses a step outside `condition`. -/
def checked (condition : σ → ε → Bool) (next : σ → ε → Option σ) (state : σ) (event : ε) :
    Option σ :=
  if condition state event then next state event else none

namespace Run

theorem single {first last : σ} {event : ε} (taken : step first event last) :
    Run step first [event] last :=
  .cons taken (.nil last)

theorem append {first middle last : σ} {front back : List ε}
    (left : Run step first front middle) (right : Run step middle back last) :
    Run step first (front ++ back) last := by
  induction left with
  | nil => exact right
  | cons taken _ ih => exact .cons taken (ih right)

theorem mono {other : σ → ε → σ → Prop} {first last : σ} {trace : List ε}
    (weaker : ∀ state event after, step state event after → other state event after)
    (run : Run step first trace last) : Run other first trace last := by
  induction run with
  | nil => exact .nil _
  | cons taken _ ih => exact .cons (weaker _ _ _ taken) ih

theorem forget {condition : σ → ε → Prop} {first last : σ} {trace : List ε}
    (run : Run (Guarded condition step) first trace last) : Run step first trace last :=
  run.mono fun _ _ _ taken => taken.2

/-- A run takes only its own events. -/
theorem among {events : List ε} {first last : σ} {trace : List ε} (run : Run step first trace last)
    (listed : ∀ event ∈ trace, event ∈ events) :
    Run (Guarded (fun _ event => event ∈ events) step) first trace last := by
  induction run with
  | nil => exact .nil _
  | cons taken _ ih =>
      refine .cons ⟨listed _ List.mem_cons_self, taken⟩ (ih ?_)
      exact fun event member => listed event (List.mem_cons_of_mem _ member)

/-- A condition that an invariant turns into a stronger one. -/
theorem strengthen (known : σ → Prop) {weak strong : σ → ε → Prop} {first last : σ}
    {trace : List ε}
    (base : ∀ state event after, known state → Guarded weak step state event after → known after)
    (stronger : ∀ state event, known state → weak state event → strong state event)
    (knownStart : known first) (run : Run (Guarded weak step) first trace last) :
    Run (Guarded strong step) first trace last := by
  induction run with
  | nil => exact .nil _
  | cons taken _ ih =>
      exact .cons ⟨stronger _ _ knownStart taken.1, taken.2⟩ (ih (base _ _ _ knownStart taken))

theorem invariant (holds : σ → Prop) {first last : σ} {trace : List ε}
    (preserved : ∀ state event after, holds state → step state event after → holds after)
    (start : holds first) (run : Run step first trace last) : holds last := by
  induction run with
  | nil => exact start
  | cons taken _ ih => exact ih (preserved _ _ _ start taken)

theorem invariant_under (known holds : σ → Prop) {first last : σ} {trace : List ε}
    (base : ∀ state event after, known state → step state event after → known after)
    (preserved : ∀ state event after,
      known state → holds state → step state event after → holds after)
    (knownStart : known first) (start : holds first)
    (run : Run step first trace last) : known last ∧ holds last :=
  run.invariant (fun state => known state ∧ holds state)
    (fun state event after now taken =>
      ⟨base state event after now.1 taken, preserved state event after now.1 now.2 taken⟩)
    ⟨knownStart, start⟩

/-- Where a step keeps `holds` exactly under `condition`, and nothing brings it back, a run ends with
it exactly when all its steps were under `condition`. -/
theorem holds_iff_guarded (known holds : σ → Prop) {condition : σ → ε → Prop} {first last : σ}
    {trace : List ε} (base : ∀ state event after, known state → step state event after → known after)
    (exact_ : ∀ state event after, known state → step state event after →
      (holds after ↔ holds state ∧ condition state event))
    (knownStart : known first) (start : holds first) (run : Run step first trace last) :
    holds last ↔ Run (Guarded condition step) first trace last := by
  constructor
  · intro finish
    suffices both : holds first ∧ Run (Guarded condition step) first trace last from both.2
    clear start
    induction run with
    | nil => exact ⟨finish, .nil _⟩
    | cons taken _ ih =>
        obtain ⟨held, rest⟩ := ih (base _ _ _ knownStart taken) finish
        obtain ⟨before, allowed⟩ := (exact_ _ _ _ knownStart taken).mp held
        exact ⟨before, .cons ⟨allowed, taken⟩ rest⟩
  · intro guarded
    refine (guarded.invariant_under known holds ?_ ?_ knownStart start).2
    · intro state event after now taken
      exact base state event after now taken.2
    · intro state event after now held taken
      exact (exact_ state event after now taken.2).mpr ⟨held, taken.1⟩

/-- Where a step from a state that `holds` leads to one exactly under `condition`, a run stays in such
states exactly when all its steps were under `condition`. -/
theorem always_iff_guarded {next : σ → ε → Option σ} (known holds : σ → Prop)
    {condition : σ → ε → Prop} {first last : σ} {trace : List ε}
    (base : ∀ state event after, known state → Steps next state event after → known after)
    (exact_ : ∀ state event after, known state → holds state → Steps next state event after →
      (holds after ↔ condition state event))
    (knownStart : known first) (start : holds first) (run : Run (Steps next) first trace last) :
    (∀ front back middle, trace = front ++ back → Run (Steps next) first front middle →
        holds middle) ↔
      Run (Guarded condition (Steps next)) first trace last := by
  constructor
  · intro always
    induction run with
    | nil => exact .nil _
    | cons taken _ ih =>
        have there := always [_] _ _ rfl (single taken)
        refine .cons ⟨(exact_ _ _ _ knownStart start taken).mp there, taken⟩ ?_
        apply ih (base _ _ _ knownStart taken) there
        rintro front back middle rfl rest
        exact always (_ :: front) back middle rfl (.cons taken rest)
  · rintro guarded front back middle rfl reached
    clear run
    induction reached with
    | nil => exact start
    | cons taken _ ih =>
        cases guarded with
        | cons allowed rest =>
            have same := Option.some.inj (allowed.2.symm.trans taken)
            subst same
            exact ih (base _ _ _ knownStart taken)
              ((exact_ _ _ _ knownStart start taken).mpr allowed.1) rest

/-- Where a step is `good` exactly under `condition`, the steps of a run are all good exactly when they
were all under `condition`. -/
theorem each_iff_guarded {next : σ → ε → Option σ} (known : σ → Prop) {good : σ → ε → σ → Prop}
    {condition : σ → ε → Prop} {first last : σ} {trace : List ε}
    (base : ∀ state event after, known state → Steps next state event after → known after)
    (exact_ : ∀ state event after, known state → Steps next state event after →
      (good state event after ↔ condition state event))
    (knownStart : known first) (run : Run (Steps next) first trace last) :
    (∀ front event back before after, trace = front ++ event :: back →
        Run (Steps next) first front before → Steps next before event after →
          good before event after) ↔
      Run (Guarded condition (Steps next)) first trace last := by
  constructor
  · intro each
    induction run with
    | nil => exact .nil _
    | cons taken _ ih =>
        have here := each [] _ _ _ _ rfl (.nil _) taken
        refine .cons ⟨(exact_ _ _ _ knownStart taken).mp here, taken⟩ ?_
        apply ih (base _ _ _ knownStart taken)
        intro front event back before after split_ reached
        exact each (_ :: front) event back before after (congrArg (List.cons _) split_)
          (.cons taken reached)
  · intro guarded front event back before after split_ reached taken
    clear run
    subst split_
    induction reached with
    | nil =>
        cases guarded with
        | cons allowed _ => exact (exact_ _ _ _ knownStart taken).mpr allowed.1
    | cons moved _ ih =>
        cases guarded with
        | cons allowed rest =>
            have same := Option.some.inj (allowed.2.symm.trans moved)
            subst same
            exact ih (base _ _ _ knownStart moved) taken rest

theorem of_exec {next : σ → ε → Option σ} {first last : σ} {trace : List ε}
    (computed : exec next first trace = some last) : Run (Steps next) first trace last := by
  induction trace generalizing first with
  | nil =>
      cases computed
      exact .nil _
  | cons event trace ih =>
      obtain ⟨middle, taken, rest⟩ := Option.bind_eq_some_iff.mp computed
      exact .cons taken (ih rest)

theorem continue_exec {α : Type} {next : σ → ε → Option σ} {first middle : σ} {front back : List ε}
    {view : σ → α} {seen : α} (reached : exec next first front = some middle)
    (computed : (exec next first (front ++ back)).map view = some seen) :
    ∃ last, exec next middle back = some last ∧ view last = seen := by
  rw [exec_append, reached, Option.bind_some] at computed
  exact Option.map_eq_some_iff.mp computed

theorem of_exec_append {next : σ → ε → Option σ} {first : σ} {front back : List ε}
    (computed : (exec next first (front ++ back)).isSome = true) :
    ∃ middle last, Run (Steps next) first front middle ∧ Run (Steps next) middle back last := by
  rcases Option.isSome_iff_exists.mp computed with ⟨last, computed⟩
  rw [exec_append] at computed
  rcases Option.bind_eq_some_iff.mp computed with ⟨middle, run, continued⟩
  exact ⟨middle, last, of_exec run, of_exec continued⟩

theorem of_checked {condition : σ → ε → Bool} {next : σ → ε → Option σ} {first last : σ}
    {trace : List ε} (computed : exec (checked condition next) first trace = some last) :
    Run (Guarded (fun state event => condition state event = true) (Steps next))
      first trace last := by
  refine (of_exec computed).mono ?_
  intro state event after taken
  unfold Steps checked at taken
  split at taken
  · next held => exact ⟨held, taken⟩
  · cases taken

end Run

end Library
