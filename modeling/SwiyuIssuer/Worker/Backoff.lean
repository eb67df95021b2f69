import SwiyuIssuer.Domain.Ids
import Mathlib.Algebra.Group.Nat.Defs

/-! Retry timing shared by the operation-task worker and the status-list publisher. -/

namespace SwiyuIssuer.Worker

def baseMs : Nat := 60000

def maxMs : Nat := 3600000

def maxTaskAgeHours : Int := 24

/-- `u32::saturating_add`. -/
def saturatingAdd (attempts more : Nat) : Nat := min (attempts + more) (2 ^ 32 - 1)

def ceilingMs (attempts : Nat) : Nat := min (baseMs <<< min attempts 6) maxMs

/-- The delay in milliseconds, for the word that the generator returned. -/
def backoffDelay (attempts : Nat) (word : UInt64) : Nat := word.toNat % (ceilingMs attempts + 1)

theorem backoffDelay_bound (attempts : Nat) (word : UInt64) :
    backoffDelay attempts word ≤ ceilingMs attempts :=
  Nat.le_of_lt_succ (Nat.mod_lt _ (Nat.succ_pos _))

end SwiyuIssuer.Worker
