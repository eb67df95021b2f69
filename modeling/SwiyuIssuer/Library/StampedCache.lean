import SwiyuIssuer.Library.Update

/-! A cache whose entries carry the stamp of what they were computed from, and are taken only under
that stamp. -/

namespace Library.StampedCache

structure Entry (τ ρ : Type) where
  value : ρ
  stamp : τ
deriving Repr

abbrev Cache (κ τ ρ : Type) := κ → Option (Entry τ ρ)

variable {κ τ ρ : Type} [DecidableEq τ] {cache : Cache κ τ ρ} {key : κ} {stamp : τ} {value : ρ}

def lookup (cache : Cache κ τ ρ) (key : κ) (stamp : τ) : Option ρ :=
  match cache key with
  | some entry => if entry.stamp = stamp then some entry.value else none
  | none => none

theorem lookup_some (hit : lookup cache key stamp = some value) :
    cache key = some ⟨value, stamp⟩ := by
  rw [lookup] at hit
  split at hit
  · next entry found =>
      split at hit
      · next same =>
          cases hit
          rw [found, ← same]
      · cases hit
  · cases hit

variable [DecidableEq κ]

def store (cache : Cache κ τ ρ) (key : κ) (stamp : τ) (value : ρ) : Cache κ τ ρ :=
  Function.update cache key (some ⟨value, stamp⟩)

/-- Every entry was computed from something that has its key and stamp. -/
def Computed (origin : κ → τ → ρ → Prop) (cache : Cache κ τ ρ) : Prop :=
  ∀ key entry, cache key = some entry → origin key entry.stamp entry.value

section Computed

variable {origin other : κ → τ → ρ → Prop}

omit [DecidableEq κ] [DecidableEq τ] in
theorem Computed.mono (computed : Computed origin cache)
    (weaker : ∀ key stamp value, origin key stamp value → other key stamp value) :
    Computed other cache := by
  intro key entry found
  exact weaker _ _ _ (computed key entry found)

omit [DecidableEq κ] in
theorem Computed.lookup (computed : Computed origin cache)
    (hit : lookup cache key stamp = some value) : origin key stamp value :=
  computed key _ (lookup_some hit)

omit [DecidableEq τ] in
theorem Computed.store (computed : Computed origin cache) (from_ : origin key stamp value) :
    Computed origin (store cache key stamp value) := by
  intro at_ entry found
  rcases update_some_cases found with ⟨rfl, rfl⟩ | ⟨-, old⟩
  · exact from_
  · exact computed at_ entry old

end Computed

end Library.StampedCache
