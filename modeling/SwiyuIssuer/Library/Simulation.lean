import SwiyuIssuer.Library.Run

/-! Runs of one machine that runs of another explain. -/

namespace Library

variable {σ ε τ δ : Type} {step : σ → ε → σ → Prop} {abstract : τ → δ → τ → Prop}

theorem Run.split {first last : σ} {front back : List ε} (run : Run step first (front ++ back) last) :
    ∃ middle, Run step first front middle ∧ Run step middle back last := by
  induction front generalizing first with
  | nil => exact ⟨first, .nil first, run⟩
  | cons event front ih =>
      cases run with
      | cons taken rest =>
          rcases ih rest with ⟨middle, before, after⟩
          exact ⟨middle, .cons taken before, after⟩

/-- Somewhere on the way, `event` is taken in a state where `holds` is true of the two. -/
def Passes (step : σ → ε → σ → Prop) (holds : σ → ε → Prop) (first : σ) (trace : List ε) : Prop :=
  ∃ front middle event back, trace = front ++ event :: back ∧ Run step first front middle ∧
    holds middle event

theorem Passes.cons {holds : σ → ε → Prop} {first middle : σ} {event : ε} {trace : List ε}
    (taken : step first event middle) (passes : Passes step holds middle trace) :
    Passes step holds first (event :: trace) := by
  rcases passes with ⟨front, there, later, back, rfl, run, held⟩
  exact ⟨event :: front, there, later, back, rfl, .cons taken run, held⟩

theorem Passes.mem {holds : σ → ε → Prop} {first : σ} {trace : List ε}
    (passes : Passes step holds first trace) : ∃ state, ∃ event ∈ trace, holds state event := by
  rcases passes with ⟨front, there, event, back, rfl, _, held⟩
  exact ⟨there, event, List.mem_append_right _ List.mem_cons_self, held⟩

/-- The first machine refines the second up to `rel`: a step of it is a run of the other, possibly an
empty one, and `means` says of the step which actions those are. -/
def Simulates (step : σ → ε → σ → Prop) (abstract : τ → δ → τ → Prop) (rel : σ → τ → Prop)
    (means : δ → σ → ε → Prop) : Prop :=
  ∀ state event after view, rel state view → step state event after →
    ∃ actions seen, Run abstract view actions seen ∧ rel after seen ∧
      ∀ action ∈ actions, means action state event

theorem Simulates.run {rel : σ → τ → Prop} {means : δ → σ → ε → Prop}
    (simulates : Simulates step abstract rel means) {first last : σ} {trace : List ε} {view : τ}
    (run : Run step first trace last) (related : rel first view) :
    ∃ actions seen, Run abstract view actions seen ∧ rel last seen ∧
      ∀ action ∈ actions, Passes step (means action) first trace := by
  induction run generalizing view with
  | nil => exact ⟨[], view, .nil view, related, by simp⟩
  | cons taken _ ih =>
      rcases simulates _ _ _ _ related taken with ⟨front, middle, early, between, meant⟩
      rcases ih between with ⟨back, seen, late, after, explained⟩
      refine ⟨front ++ back, seen, early.append late, after, ?_⟩
      intro action listed
      rcases List.mem_append.mp listed with listed | listed
      · exact ⟨[], _, _, _, rfl, .nil _, meant action listed⟩
      · exact (explained action listed).cons taken

/-- Each step of the first machine is the step of the second at the same event. -/
def Mirrors (step : σ → ε → σ → Prop) (abstract : τ → ε → τ → Prop) (rel : σ → τ → Prop) : Prop :=
  ∀ state event after view, rel state view → step state event after →
    ∃ seen, abstract view event seen ∧ rel after seen

theorem Mirrors.run {abstract : τ → ε → τ → Prop} {rel : σ → τ → Prop}
    (mirrors : Mirrors step abstract rel) {first last : σ} {trace : List ε} {view : τ}
    (run : Run step first trace last) (related : rel first view) :
    ∃ seen, Run abstract view trace seen ∧ rel last seen := by
  induction run generalizing view with
  | nil => exact ⟨view, .nil view, related⟩
  | cons taken _ ih =>
      rcases mirrors _ _ _ _ related taken with ⟨middle, early, between⟩
      rcases ih between with ⟨seen, late, after⟩
      exact ⟨seen, .cons early late, after⟩

end Library
