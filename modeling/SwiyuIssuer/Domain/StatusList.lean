import SwiyuIssuer.Domain.Errors
import SwiyuIssuer.Library.PackedDigits
import Mathlib.Logic.Function.Basic

namespace SwiyuIssuer

inductive StatusValue
  | valid
  | revoked
  | suspended
deriving DecidableEq, Repr

def swiyuStatusListCapacity : Nat := 131072

theorem swiyuStatusListCapacity_pos : 0 < swiyuStatusListCapacity := by decide

def swiyuStatusListBits : Nat := 2

def bitstringBytes : Nat := swiyuStatusListCapacity * swiyuStatusListBits / 8

/-- `TryFrom<u32>` admits exactly the indices below the capacity. -/
abbrev StatusListIndex := Fin swiyuStatusListCapacity

/-- The column's `CHECK (octet_length(bitstring) = 32768)` fixes the length. -/
abbrev Bitstring := Fin bitstringBytes → UInt8

def Bitstring.zeroed : Bitstring := fun _ => 0

/-- What the repository uses of the status-list type of `swiyu_core`: reading and writing one
slot of the raw bytes. -/
structure StatusListCodec where
  getAt : Bitstring → Nat → Option StatusValue
  setAt : Bitstring → Nat → StatusValue → Except String Bitstring
  getAt_zeroed : ∀ index, index < swiyuStatusListCapacity →
    getAt Bitstring.zeroed index = some .valid
  setAt_inside : ∀ bitstring index value, index < swiyuStatusListCapacity →
    ∃ written, setAt bitstring index value = .ok written
  getAt_setAt_self : ∀ bitstring index value written,
    setAt bitstring index value = .ok written → getAt written index = some value
  getAt_setAt_other : ∀ bitstring index value written other,
    setAt bitstring index value = .ok written → other ≠ index →
      getAt written other = getAt bitstring other

namespace StatusValue

def code : StatusValue → Nat
  | valid => 0
  | revoked => 1
  | suspended => 2

def ofCode : Nat → Option StatusValue
  | 0 => some valid
  | 1 => some revoked
  | 2 => some suspended
  | _ => none

theorem code_bound (value : StatusValue) : value.code < 4 := by cases value <;> decide

theorem ofCode_code (value : StatusValue) : ofCode value.code = some value := by
  cases value <;> rfl

end StatusValue

/-- Four two-bit slots in a byte, the first one in the low bits. -/
def packedGetAt (bitstring : Bitstring) (index : Nat) : Option StatusValue :=
  if inside : index / 4 < bitstringBytes then
    StatusValue.ofCode (Library.digit 4 (bitstring ⟨index / 4, inside⟩).toNat (index % 4))
  else none

def packedSetAt (bitstring : Bitstring) (index : Nat) (value : StatusValue) :
    Except String Bitstring :=
  if inside : index / 4 < bitstringBytes then
    .ok (Function.update bitstring ⟨index / 4, inside⟩
      (UInt8.ofNat (Library.setDigit 4 (bitstring ⟨index / 4, inside⟩).toNat (index % 4)
        value.code)))
  else .error "index out of range"

theorem packed_byte (byte : UInt8) (slot : Nat) (value : StatusValue) (inside : slot < 4) :
    (UInt8.ofNat (Library.setDigit 4 byte.toNat slot value.code)).toNat =
      Library.setDigit 4 byte.toNat slot value.code := by
  have fits : Library.setDigit 4 byte.toNat slot value.code < 4 ^ 4 :=
    Library.setDigit_bound value.code_bound inside byte.toNat_lt
  exact UInt8.toNat_ofNat_of_lt' fits

def packedCodec : StatusListCodec where
  getAt := packedGetAt
  setAt := packedSetAt
  getAt_zeroed := by
    intro index inside
    have byte : index / 4 < bitstringBytes := by
      simp only [bitstringBytes, swiyuStatusListCapacity, swiyuStatusListBits] at inside ⊢
      omega
    rw [packedGetAt, dif_pos byte]
    simp [Bitstring.zeroed, Library.digit, StatusValue.ofCode]
  setAt_inside := by
    intro bitstring index value inside
    have byte : index / 4 < bitstringBytes := by
      simp only [bitstringBytes, swiyuStatusListCapacity, swiyuStatusListBits] at inside ⊢
      omega
    exact ⟨_, by rw [packedSetAt, dif_pos byte]⟩
  getAt_setAt_self := by
    intro bitstring index value written accepted
    rw [packedSetAt] at accepted
    split at accepted
    · next byte =>
        cases accepted
        rw [packedGetAt, dif_pos byte, Function.update_self,
          packed_byte _ _ _ (Nat.mod_lt _ (by decide)),
          Library.digit_setDigit_self _ _ value.code_bound, StatusValue.ofCode_code]
    · cases accepted
  getAt_setAt_other := by
    intro bitstring index value written other accepted different
    rw [packedSetAt] at accepted
    split at accepted
    · next byte =>
        cases accepted
        rw [packedGetAt, packedGetAt]
        split
        · next otherByte =>
            by_cases shared : other / 4 = index / 4
            · -- a neighbour in the same byte is another digit of it
              have slots : other % 4 ≠ index % 4 := by omega
              have bytes : (⟨other / 4, otherByte⟩ : Fin bitstringBytes) = ⟨index / 4, byte⟩ :=
                Fin.ext shared
              rw [bytes, Function.update_self, packed_byte _ _ _ (Nat.mod_lt _ (by decide)),
                Library.digit_setDigit_other _ value.code_bound slots]
            · rw [Function.update_of_ne]
              intro same
              exact shared (congrArg Fin.val same)
        · rfl
    · cases accepted

structure StatusList where
  id : StatusListId
  issuerId : IssuerId
  bitstring : Bitstring
  allocatedCount : Nat
  committedVersion : Nat
  publishedVersion : Nat
  lastPublishAttemptAt : Option DateTime
  lastPublishError : Option String
  nextPublishAttemptAt : Option DateTime
  publishAttempts : Nat
  createdAt : DateTime
  registryEntryId : Option String
  registryUrl : Option String

namespace StatusList

def new (id : StatusListId) (issuerId : IssuerId) (now : DateTime) : StatusList where
  id := id
  issuerId := issuerId
  bitstring := Bitstring.zeroed
  allocatedCount := 0
  committedVersion := 0
  publishedVersion := 0
  lastPublishAttemptAt := none
  lastPublishError := none
  nextPublishAttemptAt := none
  publishAttempts := 0
  createdAt := now
  registryEntryId := none
  registryUrl := none

def isAtCapacity (list : StatusList) : Bool :=
  decide (swiyuStatusListCapacity ≤ list.allocatedCount)

def isDirty (list : StatusList) : Bool := decide (list.publishedVersion < list.committedVersion)

end StatusList

end SwiyuIssuer
