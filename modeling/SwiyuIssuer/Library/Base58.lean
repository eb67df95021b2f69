import SwiyuIssuer.Library.Radix
import Mathlib.Data.List.Basic
import Mathlib.Data.Option.Basic

/-! `base58` with the Bitcoin alphabet: bytes as a number to base 58, with a `1` for every zero byte
in front. -/

namespace Library.Base58

def alphabet : List Char := "123456789ABCDEFGHJKLMNPQRSTUVWXYZabcdefghijkmnopqrstuvwxyz".toList

def encodeDigit (digit : Nat) : Char := alphabet.getD digit '1'

def decodeDigit (c : Char) : Option Nat := alphabet.idxOf? c

def encode (bytes : List UInt8) : String :=
  String.ofList ((Radix.convert 256 58 (bytes.map UInt8.toNat)).map encodeDigit)

/-- Any text over the alphabet is decoded. -/
def decode (text : String) : Option (List UInt8) :=
  (text.toList.mapM decodeDigit).map fun digits => (Radix.convert 58 256 digits).map .ofNat

theorem decodeDigit_encodeDigit {digit : Nat} (small : digit < 58) :
    decodeDigit (encodeDigit digit) = some digit := by
  have table : ∀ n : Fin 58, decodeDigit (encodeDigit n) = some n.val := by decide +kernel
  exact table ⟨digit, small⟩

theorem encodeDigit_decodeDigit {c : Char} {digit : Nat} (read : decodeDigit c = some digit) :
    digit < 58 ∧ encodeDigit digit = c := by
  rcases List.idxOf?_eq_some_iff.mp read with ⟨inside, same, _⟩
  have size : alphabet.length = 58 := by decide
  refine ⟨size ▸ inside, ?_⟩
  rw [encodeDigit, List.getD_eq_getElem?_getD, List.getElem?_eq_getElem inside, same]
  rfl

theorem decodeDigit_isSome {c : Char} (listed : c ∈ alphabet) : (decodeDigit c).isSome = true := by
  rw [decodeDigit, List.isSome_idxOf?]
  exact listed

theorem mapM_decodeDigit {chars : List Char} {digits : List Nat} :
    chars.mapM decodeDigit = some digits ↔
      digits.map encodeDigit = chars ∧ ∀ digit ∈ digits, digit < 58 := by
  induction chars generalizing digits with
  | nil =>
      rw [List.mapM_nil, List.map_eq_nil_iff]
      constructor
      · intro same
        cases same
        simp
      · rintro ⟨rfl, _⟩
        rfl
  | cons c chars ih =>
      rw [List.mapM_cons]
      simp only [Option.bind_eq_bind, Option.bind_eq_some_iff, Option.pure_def, Option.some.injEq]
      constructor
      · rintro ⟨digit, read, rest, decoded, rfl⟩
        rcases encodeDigit_decodeDigit read with ⟨small, written⟩
        rcases ih.mp decoded with ⟨others, bounded⟩
        exact ⟨by rw [List.map_cons, written, others], List.forall_mem_cons.mpr ⟨small, bounded⟩⟩
      · rintro ⟨written, bounded⟩
        cases digits with
        | nil => cases written
        | cons digit rest =>
            rcases List.forall_mem_cons.mp bounded with ⟨small, others⟩
            rw [List.map_cons, List.cons.injEq] at written
            rcases written with ⟨rfl, behind⟩
            exact ⟨digit, decodeDigit_encodeDigit small, rest, ih.mpr ⟨behind, others⟩, rfl⟩

theorem mapM_isSome {chars : List Char} (listed : ∀ c ∈ chars, c ∈ alphabet) :
    (chars.mapM decodeDigit).isSome = true := by
  induction chars with
  | nil => rfl
  | cons c chars ih =>
      rcases List.forall_mem_cons.mp listed with ⟨first, others⟩
      rcases Option.isSome_iff_exists.mp (decodeDigit_isSome first) with ⟨digit, read⟩
      rcases Option.isSome_iff_exists.mp (ih others) with ⟨digits, decoded⟩
      rw [List.mapM_cons, read, decoded]
      rfl

theorem map_ofNat_toNat (bytes : List UInt8) :
    (bytes.map UInt8.toNat).map UInt8.ofNat = bytes := by
  rw [List.map_map]
  have back : UInt8.ofNat ∘ UInt8.toNat = id := funext fun byte => UInt8.ofNat_toNat
  rw [back, List.map_id]

theorem map_toNat_ofNat {digits : List Nat} (small : ∀ digit ∈ digits, digit < 256) :
    (digits.map UInt8.ofNat).map UInt8.toNat = digits := by
  rw [List.map_map]
  calc digits.map (UInt8.toNat ∘ UInt8.ofNat) = digits.map id :=
        List.map_congr_left fun digit member => UInt8.toNat_ofNat_of_lt' (small digit member)
    _ = digits := List.map_id digits

theorem toNat_lt (bytes : List UInt8) : ∀ digit ∈ bytes.map UInt8.toNat, digit < 256 := by
  intro digit member
  rcases List.mem_map.mp member with ⟨byte, _, rfl⟩
  exact byte.toNat_lt

/-- The texts that are decoded are those that are written. -/
theorem decode_iff {text : String} {bytes : List UInt8} :
    decode text = some bytes ↔ encode bytes = text := by
  rw [decode, Option.map_eq_some_iff]
  constructor
  · rintro ⟨digits, read, rfl⟩
    rcases mapM_decodeDigit.mp read with ⟨written, small⟩
    rw [encode, map_toNat_ofNat (Radix.convert_lt (by decide)),
      Radix.convert_convert (by decide) small, written, String.ofList_toList]
  · rintro rfl
    refine ⟨Radix.convert 256 58 (bytes.map UInt8.toNat), ?_, ?_⟩
    · rw [encode, String.toList_ofList]
      exact mapM_decodeDigit.mpr ⟨rfl, Radix.convert_lt (by decide)⟩
    · rw [Radix.convert_convert (by decide) (toNat_lt bytes), map_ofNat_toNat]

@[simp] theorem decode_encode (bytes : List UInt8) : decode (encode bytes) = some bytes :=
  decode_iff.mpr rfl

theorem encode_injective : Function.Injective encode := by
  intro left right same
  have read := decode_encode right
  rw [← same, decode_encode] at read
  exact Option.some.inj read

theorem encodeDigit_mem (digit : Nat) : encodeDigit digit ∈ alphabet := by
  rw [encodeDigit, List.getD_eq_getElem?_getD]
  cases found : alphabet[digit]? with
  | none => decide
  | some c => exact List.mem_of_getElem? found

theorem encode_mem (bytes : List UInt8) : ∀ c ∈ (encode bytes).toList, c ∈ alphabet := by
  intro c member
  rw [encode, String.toList_ofList] at member
  rcases List.mem_map.mp member with ⟨digit, _, rfl⟩
  exact encodeDigit_mem digit

/-- Texts over the alphabet are the ones that are decoded. -/
theorem decode_isSome_iff {text : String} :
    (decode text).isSome = true ↔ ∀ c ∈ text.toList, c ∈ alphabet := by
  constructor
  · intro read
    rcases Option.isSome_iff_exists.mp read with ⟨bytes, decoded⟩
    rw [← decode_iff.mp decoded]
    exact encode_mem bytes
  · intro listed
    rw [decode, Option.isSome_map]
    exact mapM_isSome listed

theorem length_encode_le {bytes : List UInt8} {bound : Nat} (fits : bytes.length ≤ bound)
    (room : ∀ count ≤ bytes.length, 256 ^ (bytes.length - count) ≤ 58 ^ (bound - count)) :
    (encode bytes).toList.length ≤ bound := by
  rw [encode, String.toList_ofList, List.length_map]
  apply Radix.length_convert_le (by decide) (by decide) (toNat_lt bytes)
  · rw [List.length_map]
    exact fits
  · rw [List.length_map]
    exact room

end Library.Base58
