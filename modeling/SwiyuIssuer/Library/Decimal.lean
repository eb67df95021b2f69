import Mathlib.Algebra.Group.Nat.Defs
import Mathlib.Data.List.Basic

/-! Decimal numerals: what Rust's `FromStr` for unsigned integers reads, and the one spelling that a
number is written as. -/

namespace Library.Decimal

inductive ParseIntError
  | empty
  | invalidDigit
  | posOverflow
deriving DecidableEq, Repr

def ParseIntError.toString : ParseIntError → String
  | empty => "cannot parse integer from empty string"
  | invalidDigit => "invalid digit found in string"
  | posOverflow => "number too large to fit in target type"

def push (limit value : Nat) (c : Char) : Except ParseIntError Nat :=
  if c.isDigit then
    let next := 10 * value + (c.toNat - 48)
    if next < limit then .ok next else .error .posOverflow
  else .error .invalidDigit

/-- `FromStr`, for an unsigned type of `bits` bits. -/
def parseUnsigned (bits : Nat) (text : String) : Except ParseIntError Nat :=
  match text.toList with
  | [] => .error .empty
  | ['+'] => .error .invalidDigit
  | '+' :: digits => digits.foldlM (push (2 ^ bits)) 0
  | digits => digits.foldlM (push (2 ^ bits)) 0

def value (digits : List Char) : Nat := Nat.ofDigitChars 10 digits 0

/-- No leading zero. -/
def Plain (digits : List Char) : Prop := digits.head? = some '0' → digits = ['0']

instance (digits : List Char) : Decidable (Plain digits) :=
  inferInstanceAs (Decidable (_ → _))

theorem digitChar_of_isDigit {c : Char} (decimal : c.isDigit = true) :
    c.toNat - 48 < 10 ∧ (c.toNat - 48).digitChar = c := by
  have inside : 48 ≤ c.toNat ∧ c.toNat ≤ 57 := Char.isDigit_iff_toNat.mp decimal
  have small : c.toNat - 48 < 10 := by omega
  refine ⟨small, Char.toNat_inj.mp ?_⟩
  rw [Nat.toNat_digitChar_of_lt_ten small]
  omega

theorem plain_toDigits (n : Nat) : Plain (Nat.toDigits 10 n) := by
  intro zero
  rw [Nat.toDigits_eq_if (by decide)] at zero ⊢
  by_cases small : n < 10
  · rw [if_pos small] at zero ⊢
    rw [Option.some.inj zero]
  · rw [if_neg small, List.head?_append_of_ne_nil _ Nat.toDigits_ne_nil] at zero
    have front := plain_toDigits (n / 10) zero
    have none_ : n / 10 = 0 := by
      calc n / 10 = Nat.ofDigitChars 10 (Nat.toDigits 10 (n / 10)) 0 :=
            Nat.ofDigitChars_ten_toDigits.symm
        _ = 0 := by rw [front]; rfl
    omega

theorem toDigits_append {digits : List Char} {start : Nat}
    (decimal : ∀ c ∈ digits, c.isDigit = true) (positive : 0 < start) :
    Nat.toDigits 10 start ++ digits = Nat.toDigits 10 (Nat.ofDigitChars 10 digits start) := by
  induction digits generalizing start with
  | nil => simp [Nat.ofDigitChars]
  | cons c digits ih =>
      obtain ⟨small, written⟩ := digitChar_of_isDigit (decimal c List.mem_cons_self)
      have one : Nat.toDigits 10 (10 * start + (c.toNat - 48)) = Nat.toDigits 10 start ++ [c] := by
        rw [← Nat.toDigits_append_toDigits (by decide) positive small,
          Nat.toDigits_of_lt_base small, written]
      have rest := @ih (10 * start + (c.toNat - 48))
        (fun d member => decimal d (List.mem_cons_of_mem _ member)) (by omega)
      rw [one, List.append_assoc] at rest
      rw [Nat.ofDigitChars_cons]
      exact rest

/-- A numeral without a leading zero is the spelling of its value. -/
theorem toDigits_value {digits : List Char} (nonempty : digits ≠ [])
    (decimal : ∀ c ∈ digits, c.isDigit = true) (plain : Plain digits) :
    Nat.toDigits 10 (value digits) = digits := by
  cases digits with
  | nil => exact absurd rfl nonempty
  | cons c digits =>
      obtain ⟨small, written⟩ := digitChar_of_isDigit (decimal c List.mem_cons_self)
      have first : value (c :: digits) = Nat.ofDigitChars 10 digits (c.toNat - 48) := by
        rw [value, Nat.ofDigitChars_cons]
        simp
      by_cases zero : c = '0'
      · rw [plain (by rw [zero]; rfl)]
        decide
      · have positive : 0 < c.toNat - 48 := by
          apply Nat.pos_of_ne_zero
          intro none_
          rw [none_] at written
          exact zero written.symm
        rw [first, ← toDigits_append (fun d member => decimal d (List.mem_cons_of_mem _ member))
          positive, Nat.toDigits_of_lt_base small, written]
        rfl

theorem foldlM_push {limit start read : Nat} {digits : List Char}
    (parsed : digits.foldlM (push limit) start = .ok read) (below : start < limit) :
    (∀ c ∈ digits, c.isDigit = true) ∧ read = Nat.ofDigitChars 10 digits start ∧ read < limit := by
  induction digits generalizing start with
  | nil =>
      cases parsed
      simp [below]
  | cons c digits ih =>
      rw [List.foldlM_cons] at parsed
      by_cases decimal : c.isDigit = true
      · by_cases fits : 10 * start + (c.toNat - 48) < limit
        · have first : push limit start c = .ok (10 * start + (c.toNat - 48)) := by
            simp [push, decimal, fits]
          rw [first] at parsed
          obtain ⟨all, same, small⟩ := ih parsed fits
          refine ⟨?_, ?_, small⟩
          · simpa [decimal] using all
          · simpa [Nat.ofDigitChars_cons] using same
        · have first : push limit start c = .error .posOverflow := by simp [push, decimal, fits]
          rw [first] at parsed
          cases parsed
      · have first : push limit start c = .error .invalidDigit := by simp [push, decimal]
        rw [first] at parsed
        cases parsed

theorem parseUnsigned_ok {bits read : Nat} {text : String} (parsed : parseUnsigned bits text = .ok read) :
    ∃ digits, digits ≠ [] ∧ (text.toList = digits ∨ text.toList = '+' :: digits) ∧
      (∀ c ∈ digits, c.isDigit = true) ∧ read = value digits ∧ read < 2 ^ bits := by
  have positive : 0 < 2 ^ bits := Nat.two_pow_pos bits
  rw [parseUnsigned] at parsed
  split at parsed
  · cases parsed
  · cases parsed
  · next digits single spelled =>
      exact ⟨digits, fun empty => single (empty ▸ rfl), .inr spelled, foldlM_push parsed positive⟩
  · next digits nonempty single signed =>
      exact ⟨text.toList, nonempty, .inl rfl, foldlM_push parsed positive⟩

/-- A number is written as it was read exactly when it was spelled without a sign or a leading
zero. -/
theorem toDigits_parseUnsigned_iff {bits read : Nat} {text : String}
    (parsed : parseUnsigned bits text = .ok read) :
    Nat.toDigits 10 read = text.toList ↔ text.toList.head? ≠ some '+' ∧ Plain text.toList := by
  obtain ⟨digits, nonempty, spelled, decimal, rfl, small⟩ := parseUnsigned_ok parsed
  constructor
  · intro same
    refine ⟨?_, same ▸ plain_toDigits _⟩
    intro signed
    rw [← same] at signed
    have digit := Nat.isDigit_of_mem_toDigits (by decide) (by decide) (List.mem_of_head? signed)
    exact absurd digit (by decide)
  · rintro ⟨unsigned, plain⟩
    rcases spelled with spelled | spelled
    · rw [spelled] at plain ⊢
      exact toDigits_value nonempty decimal plain
    · rw [spelled] at unsigned
      exact absurd rfl unsigned

end Library.Decimal
