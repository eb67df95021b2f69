import Mathlib.Algebra.Order.Group.Nat
import Mathlib.Tactic.Common

/-! Numbers read as packed digits of a fixed base, least significant digit first. -/

namespace Library

def digit (base number place : Nat) : Nat := number / base ^ place % base

/-- The number with one digit replaced: the digits above and below it are kept. -/
def setDigit (base number place value : Nat) : Nat :=
  number / base ^ (place + 1) * base ^ (place + 1) + value * base ^ place + number % base ^ place

theorem setDigit_low_bound {base : Nat} (number place : Nat) {value : Nat}
    (bound : value < base) :
    value * base ^ place + number % base ^ place < base ^ (place + 1) := by
  have positive : 0 < base ^ place := Nat.pow_pos (by omega)
  have remainder : number % base ^ place < base ^ place := Nat.mod_lt _ positive
  calc
    value * base ^ place + number % base ^ place < value * base ^ place + base ^ place := by omega
    _ = (value + 1) * base ^ place := by rw [Nat.add_mul, Nat.one_mul]
    _ ≤ base * base ^ place := Nat.mul_le_mul_right _ bound
    _ = base ^ (place + 1) := by rw [Nat.pow_succ, Nat.mul_comm]

theorem setDigit_high {base : Nat} (number place : Nat) {value : Nat} (bound : value < base) :
    setDigit base number place value / base ^ (place + 1) = number / base ^ (place + 1) := by
  have low := setDigit_low_bound number place bound
  have positive : 0 < base ^ (place + 1) := Nat.pow_pos (by omega)
  rw [setDigit, Nat.add_assoc, Nat.mul_comm, Nat.mul_add_div positive, Nat.div_eq_of_lt low,
    Nat.add_zero]

theorem setDigit_low {base : Nat} (number place : Nat) {value : Nat} (bound : value < base) :
    setDigit base number place value % base ^ place = number % base ^ place := by
  have positive : 0 < base ^ place := Nat.pow_pos (by omega)
  have factored : setDigit base number place value =
      base ^ place * (number / base ^ (place + 1) * base + value) + number % base ^ place := by
    rw [setDigit, Nat.pow_succ, Nat.mul_add, Nat.mul_comm value]
    congr 2
    rw [Nat.mul_comm (base ^ place) base, ← Nat.mul_assoc, Nat.mul_comm (base ^ place)]
  rw [factored, Nat.mul_add_mod, Nat.mod_mod]

theorem digit_setDigit_self {base : Nat} (number place : Nat) {value : Nat}
    (bound : value < base) : digit base (setDigit base number place value) place = value := by
  have positive : 0 < base ^ place := Nat.pow_pos (by omega)
  have remainder : number % base ^ place < base ^ place := Nat.mod_lt _ positive
  have factored : setDigit base number place value =
      base ^ place * (base * (number / base ^ (place + 1)) + value) + number % base ^ place := by
    rw [setDigit, Nat.pow_succ, Nat.mul_add, Nat.mul_comm value]
    congr 2
    rw [Nat.mul_comm (base ^ place) base, Nat.mul_comm, Nat.mul_comm base, Nat.mul_assoc,
      Nat.mul_comm (base ^ place), Nat.mul_assoc]
  rw [digit, factored, Nat.mul_add_div positive, Nat.div_eq_of_lt remainder, Nat.add_zero,
    Nat.mul_add_mod, Nat.mod_eq_of_lt bound]

/-- A digit above `place` is a digit of what the division by `base ^ (place + 1)` leaves. -/
theorem digit_above (base number : Nat) {place other : Nat} (above : place < other) :
    digit base number other = digit base (number / base ^ (place + 1)) (other - (place + 1)) := by
  rw [digit, digit, Nat.div_div_eq_div_mul, ← Nat.pow_add]
  congr 3
  omega

/-- A digit below `place` is a digit of the remainder modulo `base ^ place`. -/
theorem digit_below (base number : Nat) {place other : Nat} (below : other < place) :
    digit base number other = digit base (number % base ^ place) other := by
  obtain ⟨rest, rfl⟩ : ∃ rest, place = other + (rest + 1) := ⟨place - (other + 1), by omega⟩
  have divides : base ∣ base ^ (rest + 1) := ⟨base ^ rest, Nat.pow_succ' ..⟩
  rw [digit, digit, Nat.pow_add base other, Nat.mod_mul_right_div_self,
    Nat.mod_mod_of_dvd _ divides]

theorem digit_setDigit_other {base : Nat} (number : Nat) {place other value : Nat}
    (bound : value < base) (different : other ≠ place) :
    digit base (setDigit base number place value) other = digit base number other := by
  rcases Nat.lt_or_gt_of_ne different with below | above
  · rw [digit_below base _ below, setDigit_low number place bound, ← digit_below base _ below]
  · rw [digit_above base _ above, setDigit_high number place bound, ← digit_above base _ above]

theorem setDigit_bound {base number size place value : Nat} (bound : value < base)
    (inside : place < size) (fits : number < base ^ size) :
    setDigit base number place value < base ^ size := by
  obtain ⟨rest, rfl⟩ : ∃ rest, size = place + 1 + rest := ⟨size - (place + 1), by omega⟩
  have positive : 0 < base ^ (place + 1) := Nat.pow_pos (by omega)
  rw [Nat.pow_add, Nat.mul_comm] at fits ⊢
  rw [← Nat.div_lt_iff_lt_mul positive] at fits ⊢
  rwa [setDigit_high number place bound]

end Library
