import SwiyuIssuer.Domain.OAuth2
import Mathlib.Data.List.TakeWhile
import Mathlib.Data.Rat.Cast.Order

/-! Numbers of a JSON value, read as `serde_json` reads them and at their exact value, and the
arithmetic of `i64`. -/

namespace SwiyuIssuer

def inI64 (value : Int) : Bool := decide (-2 ^ 63 ≤ value ∧ value < 2 ^ 63)

/-- The answer of an `i64` operation with that exact result: out of range, a build with overflow
checks panics, which is `none`, and one without them wraps. -/
def settleI64 (overflowChecks : Bool) (exact : Int) : Option Int :=
  if inI64 exact then some exact
  else if overflowChecks then none
  else some (exact.bmod (2 ^ 64))

theorem settleI64_inside {overflowChecks : Bool} {exact : Int} (inside : inI64 exact = true) :
    settleI64 overflowChecks exact = some exact :=
  if_pos inside

theorem settleI64_outside {exact : Int} (outside : inI64 exact = false) :
    settleI64 true exact = none := by
  rw [settleI64, outside]
  rfl

namespace Json

/-- `Value::get`, under a name. -/
def get (value : Json) (key : String) : Option Json :=
  match value with
  | object members => JsonMap.get members key
  | _ => none

def asStr : Json → Option String
  | string text => some text
  | _ => none

theorem asStr_some {value : Json} {text : String} :
    value.asStr = some text ↔ value = .string text := by
  cases value <;> simp [asStr]

theorem bind_asStr {member : Option Json} {text : String} :
    member.bind asStr = some text ↔ member = some (.string text) := by
  rw [Option.bind_eq_some_iff]
  constructor
  · rintro ⟨value, present, read⟩
    rw [present, asStr_some.mp read]
  · intro present
    exact ⟨_, present, rfl⟩

/-- `Value::as_i64`. -/
def toI64 (value : Json) : Option Int := value.asI64.toOption

/-- The exponent behind an `e`, which may have a sign. -/
def exponentValue : List Char → Option Int
  | '-' :: digits => (decimalValue digits).map fun value => -value
  | '+' :: digits => (decimalValue digits).map fun value => value
  | digits => (decimalValue digits).map fun value => value

def isExponentMark (c : Char) : Bool := c == 'e' || c == 'E'

def unsignedValue (digits : List Char) : Option Rat := do
  let mantissa := digits.takeWhile (!isExponentMark ·)
  let exponent ← exponentValue (digits.dropWhile (!isExponentMark ·)).tail
  let fractionDigits := (mantissa.dropWhile (· != '.')).tail
  let whole ← decimalValue (mantissa.takeWhile (· != '.'))
  let fraction ← decimalValue fractionDigits
  let value : Rat := whole + fraction / 10 ^ fractionDigits.length
  return if 0 ≤ exponent then value * 10 ^ exponent.toNat else value / 10 ^ (-exponent).toNat

/-- The value of a number exactly as it is written. -/
def exactValue : Json → Option Rat
  | number text =>
      match text.toList with
      | '-' :: digits => (unsignedValue digits).map fun value => -value
      | digits => unsignedValue digits
  | _ => none

end Json

theorem isDigit_of_decimalValue {digits : List Char} {value : Nat}
    (read : decimalValue digits = some value) : ∀ c ∈ digits, c.isDigit = true := by
  unfold decimalValue at read
  generalize 0 = start at read
  induction digits generalizing start with
  | nil => simp
  | cons digit digits ih =>
      rw [List.foldlM_cons] at read
      rcases Option.bind_eq_some_iff.mp read with ⟨next, first, rest⟩
      by_cases decimal : digit.isDigit = true
      · intro c member
        rcases List.mem_cons.mp member with rfl | later
        · exact decimal
        · exact ih next rest c later
      · rw [if_neg decimal] at first
        cases first

theorem unsignedValue_of_decimalValue {digits : List Char} {value : Nat}
    (read : decimalValue digits = some value) :
    Json.unsignedValue digits = some (value : Rat) := by
  have decimal := isDigit_of_decimalValue read
  have noMark : ∀ c ∈ digits, (!Json.isExponentMark c) = true := by
    intro c member
    by_contra marked
    have digit := decimal c member
    simp only [Json.isExponentMark, Bool.not_eq_true, Bool.not_eq_false', Bool.or_eq_true,
      beq_iff_eq] at marked
    rcases marked with rfl | rfl <;> cases digit
  have noPoint : ∀ c ∈ digits, (c != '.') = true := by
    intro c member
    rw [bne_iff_ne]
    rintro rfl
    cases decimal '.' member
  have mantissa : digits.takeWhile (!Json.isExponentMark ·) = digits :=
    List.takeWhile_eq_self_iff.mpr noMark
  have exponent : digits.dropWhile (!Json.isExponentMark ·) = [] :=
    List.dropWhile_eq_nil_iff.mpr noMark
  have whole : digits.takeWhile (· != '.') = digits := List.takeWhile_eq_self_iff.mpr noPoint
  have fraction : digits.dropWhile (· != '.') = [] := List.dropWhile_eq_nil_iff.mpr noPoint
  have none_ : decimalValue [] = some 0 := rfl
  simp [Json.unsignedValue, mantissa, exponent, whole, fraction, read, none_, Json.exponentValue]

/-- An `i64` literal has the value that `as_i64` reads. -/
theorem Json.exactValue_of_toI64 {value : Json} {read : Int} (integer : value.toI64 = some read) :
    value.exactValue = some (read : Rat) := by
  have integer := Library.Answers.toOption_some.mp integer
  cases value with
  | number text =>
      unfold Json.asI64 at integer
      dsimp only at integer
      split at integer
      · next literal found =>
          split at integer
          · cases integer
            split at found
            · next digits spelled =>
                rcases Option.map_eq_some_iff.mp found with ⟨_, signless, rfl⟩
                rcases Option.bind_eq_some_iff.mp signless with ⟨size, digitsRead, cast⟩
                cases cast
                rw [Json.exactValue, spelled]
                simp [unsignedValue_of_decimalValue digitsRead]
            · next unsigned =>
                rcases Option.map_eq_some_iff.mp found with ⟨_, signless, rfl⟩
                rcases Option.bind_eq_some_iff.mp signless with ⟨size, digitsRead, cast⟩
                cases cast
                rw [Json.exactValue]
                split
                · next signed => exact absurd signed (unsigned _)
                · simp [unsignedValue_of_decimalValue digitsRead]
          · cases integer
      · cases integer
  | _ => cases integer

end SwiyuIssuer
