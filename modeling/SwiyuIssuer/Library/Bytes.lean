import Mathlib.Algebra.Group.Nat.Defs
import Mathlib.Data.List.Basic

/-! Byte strings as Rust cuts them, and big-endian words. -/

namespace Library.Bytes

/-- `bytes[start..stop]`, which panics behind the end. -/
def slice (bytes : List UInt8) (start stop : Nat) : Option (List UInt8) :=
  if start ≤ stop ∧ stop ≤ bytes.length then some ((bytes.drop start).take (stop - start)) else none

def toBeBytes (word : UInt32) : List UInt8 :=
  [.ofNat (word.toNat / 2 ^ 24), .ofNat (word.toNat / 2 ^ 16), .ofNat (word.toNat / 2 ^ 8),
    .ofNat word.toNat]

/-- `from_be_bytes`, of a slice of any length: `try_into` fails on all but four bytes. -/
def fromBeBytes : List UInt8 → Option UInt32
  | [a, b, c, d] => some (.ofNat (a.toNat * 2 ^ 24 + b.toNat * 2 ^ 16 + c.toNat * 2 ^ 8 + d.toNat))
  | _ => none

theorem slice_parts {front middle : List UInt8} {start stop : Nat} (back : List UInt8)
    (first : front.length = start) (second : start + middle.length = stop) :
    slice (front ++ (middle ++ back)) start stop = some middle := by
  subst first second
  rw [slice, if_pos (by simp), List.drop_left, Nat.add_sub_cancel_left, List.take_left]

theorem slice_end {front : List UInt8} {start : Nat} (back : List UInt8)
    (first : front.length = start) :
    slice (front ++ back) start (front ++ back).length = some back := by
  have parts := slice_parts [] first (show start + back.length = (front ++ back).length by
    rw [List.length_append, first])
  rwa [List.append_nil] at parts

@[simp] theorem length_toBeBytes (word : UInt32) : (toBeBytes word).length = 4 := rfl

theorem fromBeBytes_toBeBytes (word : UInt32) : fromBeBytes (toBeBytes word) = some word := by
  have small := word.toNat_lt
  have same : word.toNat / 2 ^ 24 % 2 ^ 8 * 2 ^ 24 + word.toNat / 2 ^ 16 % 2 ^ 8 * 2 ^ 16 +
      word.toNat / 2 ^ 8 % 2 ^ 8 * 2 ^ 8 + word.toNat % 2 ^ 8 = word.toNat := by omega
  simp only [toBeBytes, fromBeBytes, UInt8.toNat_ofNat', same, UInt32.ofNat_toNat]

theorem fromBeBytes_of_length {bytes : List UInt8} (four : bytes.length = 4) :
    ∃ word, fromBeBytes bytes = some word ∧ bytes = toBeBytes word := by
  match bytes, four with
  | [a, b, c, d], _ =>
      refine ⟨_, rfl, ?_⟩
      have := a.toNat_lt
      have := b.toNat_lt
      have := c.toNat_lt
      have := d.toNat_lt
      have small : a.toNat * 2 ^ 24 + b.toNat * 2 ^ 16 + c.toNat * 2 ^ 8 + d.toNat < 2 ^ 32 := by
        omega
      rw [toBeBytes, UInt32.toNat_ofNat_of_lt' small]
      simp only [List.cons.injEq, and_true]
      refine ⟨?_, ?_, ?_, ?_⟩ <;> apply UInt8.toNat_inj.mp <;> rw [UInt8.toNat_ofNat'] <;> omega

end Library.Bytes
