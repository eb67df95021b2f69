import SwiyuIssuer.Library.Run
import SwiyuIssuer.Library.Update

/-! Keys that are never born twice: what observers note about them, at whatever moments they look. -/

namespace Library.Lifespan

inductive Life (α : Type)
  | unborn
  | alive (value : α)
  | gone (value : α)

namespace Life

variable {α : Type}

/-- What the key stands for, from its birth on. -/
def value : Life α → Option α
  | unborn => none
  | alive value | gone value => some value

/-- No life goes back. -/
inductive Before : Life α → Life α → Prop
  | refl (life : Life α) : Before life life
  | born (life : Life α) : Before unborn life
  | died (value : α) : Before (alive value) (gone value)

theorem Before.trans {a b c : Life α} (first : Before a b) (second : Before b c) : Before a c := by
  cases first with
  | refl => exact second
  | born => exact .born c
  | died value =>
      cases second with
      | refl => exact .died value

theorem Before.value {a b : Life α} {there : α} (before : Before a b)
    (known : a.value = some there) : b.value = some there := by
  cases before with
  | refl => exact known
  | born => cases known
  | died => exact known

theorem Before.gone {a : Life α} {there : α} (before : Before (gone there) a) : a = gone there := by
  cases before with
  | refl => rfl

end Life

inductive Note (ι α : Type)
  | hit (key : ι) (value : α)
  | miss (key : ι)

/-- The lives of the keys, and what each observer has noted. -/
structure Ledger (ι α κ : Type) where
  lives : ι → Life α
  notes : κ → List (Note ι α)

inductive Action (ι α κ : Type)
  | birth (key : ι) (value : α)
  | death (key : ι)
  | look (observer : κ) (note : Note ι α)

variable {ι α κ : Type}

def Seen (lives : ι → Life α) : Note ι α → Prop
  | .hit key value => lives key = .alive value
  | .miss key => ∀ value, lives key ≠ .alive value

section Steps

variable [DecidableEq ι] [DecidableEq κ]

inductive Step : Ledger ι α κ → Action ι α κ → Ledger ι α κ → Prop
  | birth (ledger : Ledger ι α κ) (key : ι) (value : α) : ledger.lives key = .unborn →
      Step ledger (.birth key value)
        { ledger with lives := Function.update ledger.lives key (.alive value) }
  | death (ledger : Ledger ι α κ) (key : ι) (value : α) : ledger.lives key = .alive value →
      Step ledger (.death key)
        { ledger with lives := Function.update ledger.lives key (.gone value) }
  | look (ledger : Ledger ι α κ) (observer : κ) (note : Note ι α) : Seen ledger.lives note →
      Step ledger (.look observer note)
        { ledger with
          notes := Function.update ledger.notes observer (note :: ledger.notes observer) }

variable {ledger next last : Ledger ι α κ} {action : Action ι α κ} {actions : List (Action ι α κ)}
  {key : ι} {value : α} {observer : κ} {note : Note ι α}

theorem before_step (taken : Step ledger action next) (key : ι) :
    (ledger.lives key).Before (next.lives key) := by
  cases taken with
  | birth born fresh unborn =>
      dsimp only
      by_cases same : key = born
      · subst same
        rw [unborn]
        exact .born _
      · rw [Function.update_of_ne same]
        exact .refl _
  | death dead old alive =>
      dsimp only
      by_cases same : key = dead
      · subst same
        rw [alive, Function.update_self]
        exact .died old
      · rw [Function.update_of_ne same]
        exact .refl _
  | look => exact .refl _

theorem before_run (run : Run Step ledger actions last) (key : ι) :
    (ledger.lives key).Before (last.lives key) := by
  induction run with
  | nil => exact .refl _
  | cons taken _ ih => exact (before_step taken key).trans ih

/-- A note that is new was taken in some state of the run. -/
theorem noted_step (taken : Step ledger action next) (noted : note ∈ next.notes observer) :
    note ∈ ledger.notes observer ∨ Seen next.lives note := by
  cases taken with
  | birth | death => exact .inl noted
  | look other seen there =>
      by_cases same : observer = other
      · subst same
        dsimp only at noted
        rw [Function.update_self] at noted
        rcases List.mem_cons.mp noted with rfl | old
        · exact .inr there
        · exact .inl old
      · dsimp only at noted
        rw [Function.update_of_ne same] at noted
        exact .inl noted

theorem noted_run (run : Run Step ledger actions last) (noted : note ∈ last.notes observer) :
    note ∈ ledger.notes observer ∨
      ∃ front middle back, actions = front ++ back ∧ Run Step ledger front middle ∧
        Run Step middle back last ∧ Seen middle.lives note := by
  induction run with
  | nil => exact .inl noted
  | cons taken rest ih =>
      rcases ih noted with early | ⟨front, middle, back, rfl, before, after, seen⟩
      · rcases noted_step taken early with old | seen
        · exact .inl old
        · exact .inr ⟨[_], _, _, rfl, .single taken, rest, seen⟩
      · exact .inr ⟨_ :: front, middle, back, rfl, .cons taken before, after, seen⟩

theorem looks_run {lives : ι → Life α} (notes : κ → List (Note ι α)) (observer : κ)
    (extra : List (Note ι α)) (seen : ∀ note ∈ extra, Seen lives note) :
    ∃ actions, Run Step ⟨lives, notes⟩ actions ⟨lives, Function.update notes observer (extra ++ notes observer)⟩ := by
  induction extra with
  | nil =>
      refine ⟨[], ?_⟩
      rw [List.nil_append, Function.update_eq_self]
      exact .nil _
  | cons note extra ih =>
      rcases ih fun other listed => seen other (List.mem_cons_of_mem _ listed) with ⟨actions, run⟩
      have last := Step.look ⟨lives, Function.update notes observer (extra ++ notes observer)⟩
        observer note (seen note List.mem_cons_self)
      dsimp only at last
      rw [Function.update_self, Function.update_idem] at last
      exact ⟨actions ++ [.look observer note], run.append (.single last)⟩

/-- Every key that was noted as there stands for what was noted, now and from then on. -/
def Truthful (ledger : Ledger ι α κ) : Prop :=
  ∀ observer key value, .hit key value ∈ ledger.notes observer →
    (ledger.lives key).value = some value

theorem truthful_run (run : Run Step ledger actions last) (truthful : Truthful ledger) :
    Truthful last := by
  intro observer key value noted
  rcases noted_run run noted with old | ⟨_, _, _, _, _, after, seen⟩
  · exact (before_run run key).value (truthful observer key value old)
  · apply (before_run after key).value
    rw [show _ = Life.alive value from seen]
    rfl

theorem truthful_of_blank (run : Run Step ledger actions last)
    (blank : ∀ observer, ledger.notes observer = []) : Truthful last := by
  apply truthful_run run
  intro observer key value noted
  rw [blank] at noted
  cases noted

/-- Who looks for a key that is gone does not find it. -/
theorem no_hit_after_gone (run : Run Step ledger actions last)
    (gone : ledger.lives key = .gone value) {other : α}
    (noted : .hit key other ∈ last.notes observer) : .hit key other ∈ ledger.notes observer := by
  rcases noted_run run noted with old | ⟨_, _, _, _, before, _, seen⟩
  · exact old
  · have still := before_run before key
    rw [gone] at still
    have dead := still.gone
    rw [show _ = Life.alive other from seen] at dead
    cases dead

/-- Who misses a key that was born before is too late. -/
theorem gone_of_miss (run : Run Step ledger actions last)
    (born : (ledger.lives key).value = some value) (unnoted : .miss key ∉ ledger.notes observer)
    (noted : .miss key ∈ last.notes observer) : last.lives key = .gone value := by
  rcases noted_run run noted with old | ⟨_, middle, _, _, before, after, seen⟩
  · exact absurd old unnoted
  · have there := (before_run before key).value born
    have dead : middle.lives key = .gone value := by
      cases life : middle.lives key with
      | unborn =>
          rw [life] at there
          cases there
      | alive other => exact absurd life (seen other)
      | gone other =>
          rw [life] at there
          cases there
          rfl
    have still := before_run after key
    rw [dead] at still
    exact still.gone

end Steps

end Library.Lifespan
