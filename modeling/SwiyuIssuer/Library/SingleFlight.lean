import SwiyuIssuer.Library.Simulation
import SwiyuIssuer.Library.Update

/-! A cache that one caller at a time refills, and only one that has found nothing good in it: the
double check under a single-flight lock. -/

namespace Library.SingleFlight

/-- What is cached, who is past the second check, and what the callers were answered. -/
structure Gate (ι α : Type) where
  cached : Option α
  filling : Option ι
  answers : ι → Option α

inductive Action (ι α : Type)
  | clear
  | enter (i : ι) (good : α → Bool)
  | fill (i : ι) (value : α)
  | leave (i : ι)
  | take (i : ι) (value : α)

variable {ι α : Type}

/-- Known before, or filled in by one of the actions. -/
def Sourced (known : α → Prop) (actions : List (Action ι α)) (value : α) : Prop :=
  known value ∨ ∃ j, .fill j value ∈ actions

theorem Sourced.cons {known : α → Prop} {action : Action ι α} {actions : List (Action ι α)}
    {value : α} (sourced : Sourced (Sourced known [action]) actions value) :
    Sourced known (action :: actions) value := by
  rcases sourced with (early | ⟨j, first⟩) | ⟨j, later⟩
  · exact .inl early
  · exact .inr ⟨j, List.mem_cons.mpr (.inl (List.mem_singleton.mp first))⟩
  · exact .inr ⟨j, List.mem_cons_of_mem _ later⟩

variable [DecidableEq ι]

inductive Step : Gate ι α → Action ι α → Gate ι α → Prop
  | clear (gate : Gate ι α) : Step gate .clear { gate with cached := none }
  | enter (gate : Gate ι α) (i : ι) (good : α → Bool) : gate.filling = none →
      (∀ value, gate.cached = some value → good value = false) →
      Step gate (.enter i good) { gate with filling := some i }
  | fill (gate : Gate ι α) (i : ι) (value : α) : gate.filling = some i →
      Step gate (.fill i value) ⟨some value, none, Function.update gate.answers i (some value)⟩
  | leave (gate : Gate ι α) (i : ι) : gate.filling = some i →
      Step gate (.leave i) { gate with filling := none }
  | take (gate : Gate ι α) (i : ι) (value : α) : gate.cached = some value →
      Step gate (.take i value)
        { gate with answers := Function.update gate.answers i (some value) }

/-- Behind a value that is cached, a caller gets past the second check only after the cache was
cleared, or where that value was no good. -/
theorem enter_needs_miss {gate last : Gate ι α} {actions : List (Action ι α)} {value : α} {i : ι}
    (run : Run Step gate actions last) (cached : gate.cached = some value)
    (unfilled : gate.filling = none) (filling : last.filling = some i) :
    .clear ∈ actions ∨ ∃ j good, .enter j good ∈ actions ∧ good value = false := by
  induction run with
  | nil =>
      rw [unfilled] at filling
      cases filling
  | cons taken rest ih =>
      cases taken with
      | clear => exact .inl List.mem_cons_self
      | enter j good _ missed =>
          exact .inr ⟨j, good, List.mem_cons_self, missed value cached⟩
      | fill j other held | leave j held =>
          rw [unfilled] at held
          cases held
      | take j other there =>
          rcases ih cached unfilled filling with cleared | ⟨k, good, entered, missed⟩
          · exact .inl (List.mem_cons_of_mem _ cleared)
          · exact .inr ⟨k, good, List.mem_cons_of_mem _ entered, missed⟩

/-- What is cached, and what `i` is answered, is among `known`. -/
structure Within (known : α → Prop) (i : ι) (gate : Gate ι α) : Prop where
  cached : ∀ value, gate.cached = some value → known value
  answers : ∀ value, gate.answers i = some value → known value

theorem within_step {known : α → Prop} {i : ι} {gate next : Gate ι α} {action : Action ι α}
    (within : Within known i gate) (taken : Step gate action next) :
    Within (Sourced known [action]) i next := by
  have cached : ∀ value, gate.cached = some value → Sourced known [action] value :=
    fun value there => .inl (within.cached value there)
  have answers : ∀ value, gate.answers i = some value → Sourced known [action] value :=
    fun value there => .inl (within.answers value there)
  have answered : ∀ j fresh value, Sourced known [action] fresh →
      Function.update gate.answers j (some fresh) i = some value →
      Sourced known [action] value := by
    intro j fresh value sourced there
    rcases update_some_cases there with ⟨_, rfl⟩ | ⟨_, there⟩
    · exact sourced
    · exact answers value there
  cases taken with
  | clear =>
      refine ⟨?_, answers⟩
      intro value there
      cases there
  | enter | leave => exact ⟨cached, answers⟩
  | fill j fresh held =>
      have filled : Sourced known [.fill j fresh] fresh := .inr ⟨j, List.mem_singleton_self _⟩
      refine ⟨?_, fun value => answered j fresh value filled⟩
      intro value there
      cases there
      exact filled
  | take j found there => exact ⟨cached, fun value => answered j found value (cached found there)⟩

theorem within_run {known : α → Prop} {i : ι} {gate last : Gate ι α} {actions : List (Action ι α)}
    (run : Run Step gate actions last) (within : Within known i gate) :
    Within (Sourced known actions) i last := by
  induction run generalizing known with
  | nil =>
      exact ⟨fun value there => .inl (within.cached value there),
        fun value there => .inl (within.answers value there)⟩
  | cons taken rest ih =>
      have late := ih (within_step within taken)
      exact ⟨fun value there => (late.cached value there).cons,
        fun value there => (late.answers value there).cons⟩

/-- From an empty cache on, a caller that had no answer gets one that was filled in since. -/
theorem answered_since {gate last : Gate ι α} {actions : List (Action ι α)} {value : α} {i : ι}
    (run : Run Step gate actions last) (empty : gate.cached = none)
    (unanswered : gate.answers i = none) (answered : last.answers i = some value) :
    ∃ j, .fill j value ∈ actions := by
  have nothing : Within (fun _ : α => False) i gate := by
    constructor
    · intro value there
      rw [empty] at there
      cases there
    · intro value there
      rw [unanswered] at there
      cases there
  rcases (within_run run nothing).answers value answered with nowhere | filled
  · exact nowhere.elim
  · exact filled

end Library.SingleFlight
