import Mathlib.Data.List.Pairwise

/-! A gate that lets one start through per interval, by a clock that does not go back. -/

namespace Library.Cooldown

variable {interval now moment : Nat} {starts : List Nat}

/-- The interval after the last start is over. -/
def due (interval : Nat) (last : Option Nat) (now : Nat) : Bool :=
  match last with
  | some last => decide (interval ≤ now - last)
  | none => true

/-- Newest first, every two starts are an interval apart. -/
def Spaced (interval : Nat) (starts : List Nat) : Prop :=
  starts.Pairwise fun later earlier => earlier + interval ≤ later

/-- Every start is an interval back. -/
def Over (interval : Nat) (starts : List Nat) (now : Nat) : Prop :=
  ∀ start ∈ starts, start + interval ≤ now

theorem due_of_over (cooled : Over interval starts now) : due interval starts.head? now = true := by
  cases starts with
  | nil => rfl
  | cons last starts =>
      have back := cooled last List.mem_cons_self
      simp only [List.head?_cons, due, decide_eq_true_eq]
      omega

theorem over_of_due (spaced : Spaced interval starts) (past : ∀ start ∈ starts, start ≤ now)
    (asked : due interval starts.head? now = true) : Over interval starts now := by
  cases starts with
  | nil => simp [Over]
  | cons last starts =>
      simp only [List.head?_cons, due, decide_eq_true_eq] at asked
      have before := past last List.mem_cons_self
      have apart := (List.pairwise_cons.mp spaced).1
      have back : last + interval ≤ now := by omega
      intro start listed
      rcases List.mem_cons.mp listed with rfl | earlier
      · exact back
      · have := apart start earlier
        omega

theorem Spaced.start (spaced : Spaced interval starts) (cooled : Over interval starts now)
    (later : now ≤ moment) : Spaced interval (moment :: starts) := by
  refine List.pairwise_cons.mpr ⟨?_, spaced⟩
  intro earlier listed
  have back := cooled earlier listed
  omega

theorem Over.later (cooled : Over interval starts now) (later : now ≤ moment) :
    Over interval starts moment := by
  intro start listed
  have back := cooled start listed
  omega

/-- However an interval is laid over the clock, one start at most falls into it. -/
theorem Spaced.at_most_one (spaced : Spaced interval starts) (opens : Nat) :
    (starts.filter fun start => opens ≤ start && start < opens + interval).length ≤ 1 := by
  induction starts with
  | nil => simp
  | cons last starts ih =>
      obtain ⟨apart, spaced⟩ := List.pairwise_cons.mp spaced
      by_cases inside : opens ≤ last ∧ last < opens + interval
      · have others : (starts.filter fun start => opens ≤ start && start < opens + interval) = [] := by
          apply List.filter_eq_nil_iff.mpr
          intro earlier listed
          have back := apart earlier listed
          simp only [Bool.and_eq_true, decide_eq_true_eq, not_and]
          omega
        simp [inside, others]
      · have outside : (decide (opens ≤ last) && decide (last < opens + interval)) = false := by
          simpa using inside
        rw [List.filter_cons, outside]
        exact ih spaced

end Library.Cooldown
