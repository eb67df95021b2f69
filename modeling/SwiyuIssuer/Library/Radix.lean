import Mathlib.Data.Nat.Digits.Lemmas
import Mathlib.Data.List.TakeWhile

/-! Numerals of one base rewritten in another, with as many zeros in front. -/

namespace Library.Radix

/-- The zeros in front. -/
def zeros (digits : List Nat) : List Nat := digits.takeWhile (· == 0)

/-- The highest digit comes first. -/
def value (base : Nat) (digits : List Nat) : Nat := Nat.ofDigits base digits.reverse

def convert (source target : Nat) (digits : List Nat) : List Nat :=
  zeros digits ++ (Nat.digits target (value source digits)).reverse

section Convert

variable {source target : Nat} {digits : List Nat}

theorem zeros_eq (digits : List Nat) :
    zeros digits = List.replicate (zeros digits).length 0 := by
  apply List.eq_replicate_of_mem
  intro digit member
  have zero := List.mem_takeWhile_imp member
  simpa using zero

theorem zeros_append {count : Nat} (nonzero : digits.head? ≠ some 0) :
    zeros (List.replicate count 0 ++ digits) = List.replicate count 0 := by
  have all : ∀ digit ∈ List.replicate count 0, (digit == 0) = true := by
    intro digit member
    rw [List.eq_of_mem_replicate member]
    rfl
  rw [zeros, List.takeWhile_append_of_pos all]
  cases digits with
  | nil => simp
  | cons first rest =>
      have positive : first ≠ 0 := by simpa using nonzero
      simp [positive]

/-- What is behind the zeros. -/
def plain (digits : List Nat) : List Nat := digits.dropWhile (· == 0)

theorem zeros_plain (digits : List Nat) : zeros digits ++ plain digits = digits :=
  List.takeWhile_append_dropWhile

theorem plain_small {base : Nat} (small : ∀ digit ∈ digits, digit < base) :
    ∀ digit ∈ (plain digits).reverse, digit < base := by
  intro digit member
  apply small
  rw [← zeros_plain digits]
  exact List.mem_append_right _ (List.mem_reverse.mp member)

theorem value_eq_plain (base : Nat) (digits : List Nat) :
    value base digits = Nat.ofDigits base (plain digits).reverse := by
  calc value base digits = Nat.ofDigits base (zeros digits ++ plain digits).reverse := by
        rw [zeros_plain, value]
    _ = Nat.ofDigits base (plain digits).reverse := by
        rw [List.reverse_append, zeros_eq, List.reverse_replicate, Nat.ofDigits_append_replicate_zero]

theorem zeros_digits (large : 1 < source) (small : ∀ digit ∈ digits, digit < source) :
    zeros digits ++ (Nat.digits source (value source digits)).reverse = digits := by
  have behind : Nat.digits source (Nat.ofDigits source (plain digits).reverse) =
      (plain digits).reverse := by
    apply Nat.digits_ofDigits source large _ (plain_small small)
    intro nonempty zero
    have some_ : plain digits ≠ [] := by simpa using nonempty
    have first : ((plain digits).head some_ == 0) = false := List.head_dropWhile_not (· == 0) some_
    rw [List.getLast_reverse] at zero
    simp [zero] at first
  rw [value_eq_plain, behind, List.reverse_reverse, zeros_plain]

theorem head_digits (base number : Nat) : (Nat.digits base number).reverse.head? ≠ some 0 := by
  intro zero
  rw [List.head?_reverse] at zero
  by_cases none_ : number = 0
  · rw [none_, Nat.digits_zero] at zero
    cases zero
  · have last := Nat.getLast_digit_ne_zero base none_
    rw [List.getLast?_eq_some_getLast (Nat.digits_ne_nil_iff_ne_zero.mpr none_)] at zero
    exact last (Option.some.inj zero)

theorem value_convert (source target : Nat) (digits : List Nat) :
    value target (convert source target digits) = value source digits := by
  rw [convert, zeros_eq, value, List.reverse_append, List.reverse_reverse, List.reverse_replicate,
    Nat.ofDigits_append_replicate_zero, Nat.ofDigits_digits]

theorem zeros_convert (source target : Nat) (digits : List Nat) :
    zeros (convert source target digits) = zeros digits := by
  rw [convert, zeros_eq digits]
  rw [zeros_append (head_digits _ _)]

theorem convert_convert (large : 1 < source) (small : ∀ digit ∈ digits, digit < source) :
    convert target source (convert source target digits) = digits := by
  rw [convert, zeros_convert, value_convert, zeros_digits large small]

theorem convert_lt (large : 1 < target) : ∀ digit ∈ convert source target digits, digit < target := by
  intro digit member
  rw [convert, List.mem_append, zeros_eq, List.mem_reverse] at member
  rcases member with zero | listed
  · rw [List.eq_of_mem_replicate zero]
    omega
  · exact Nat.digits_lt_base large listed

/-- As many digits as there is room for behind any number of zeros. -/
theorem length_convert_le {bound : Nat} (large : 1 < source) (larger : 1 < target)
    (small : ∀ digit ∈ digits, digit < source) (fits : digits.length ≤ bound)
    (room : ∀ count ≤ digits.length,
      source ^ (digits.length - count) ≤ target ^ (bound - count)) :
    (convert source target digits).length ≤ bound := by
  have size : (zeros digits).length + (plain digits).length = digits.length := by
    rw [← List.length_append, zeros_plain]
  have below : value source digits < target ^ (bound - (zeros digits).length) := by
    calc value source digits < source ^ (plain digits).reverse.length := by
          rw [value_eq_plain]
          exact Nat.ofDigits_lt_base_pow_length large (plain_small small)
      _ = source ^ (digits.length - (zeros digits).length) := by
          rw [List.length_reverse, ← size, Nat.add_sub_cancel_left]
      _ ≤ target ^ (bound - (zeros digits).length) := room _ (by omega)
  have count := (Nat.digits_length_le_iff larger _).mpr below
  rw [convert, List.length_append, List.length_reverse]
  omega

end Convert

end Library.Radix
