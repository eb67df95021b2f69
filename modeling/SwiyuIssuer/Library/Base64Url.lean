import Mathlib.Data.List.Basic
import Mathlib.Data.Option.Basic

/-! Unpadded base64url: three bytes are four characters, and the bits behind the last byte of a
shorter group are zero. -/

namespace Library.Base64Url

abbrev Bytes := List UInt8

def alphabet : List Char :=
  "ABCDEFGHIJKLMNOPQRSTUVWXYZabcdefghijklmnopqrstuvwxyz0123456789-_".toList

def encodeSextet (sextet : Nat) : Char := alphabet.getD sextet 'A'

def decodeSextet (c : Char) : Option Nat := alphabet.idxOf? c

def encodeBytes : Bytes → List Char
  | [] => []
  | [a] => [encodeSextet (a.toNat / 4), encodeSextet (a.toNat % 4 * 16)]
  | [a, b] =>
      [encodeSextet (a.toNat / 4), encodeSextet (a.toNat % 4 * 16 + b.toNat / 16),
        encodeSextet (b.toNat % 16 * 4)]
  | a :: b :: c :: rest =>
      encodeSextet (a.toNat / 4) :: encodeSextet (a.toNat % 4 * 16 + b.toNat / 16) ::
        encodeSextet (b.toNat % 16 * 4 + c.toNat / 64) :: encodeSextet (c.toNat % 64) ::
          encodeBytes rest

def decodeChars : List Char → Option Bytes
  | [] => some []
  | [_] => none
  | [p, q] => do
      let p ← decodeSextet p
      let q ← decodeSextet q
      guard (q % 16 = 0)
      return [.ofNat (p * 4 + q / 16)]
  | [p, q, r] => do
      let p ← decodeSextet p
      let q ← decodeSextet q
      let r ← decodeSextet r
      guard (r % 4 = 0)
      return [.ofNat (p * 4 + q / 16), .ofNat (q % 16 * 16 + r / 4)]
  | p :: q :: r :: s :: rest => do
      let p ← decodeSextet p
      let q ← decodeSextet q
      let r ← decodeSextet r
      let s ← decodeSextet s
      let rest ← decodeChars rest
      return .ofNat (p * 4 + q / 16) :: .ofNat (q % 16 * 16 + r / 4) :: .ofNat (r % 4 * 64 + s) ::
        rest

def encode (bytes : Bytes) : String := String.ofList (encodeBytes bytes)

def decode (text : String) : Option Bytes := decodeChars text.toList

theorem decodeSextet_encodeSextet {sextet : Nat} (small : sextet < 64) :
    decodeSextet (encodeSextet sextet) = some sextet := by
  have table : ∀ n : Fin 64, decodeSextet (encodeSextet n) = some n.val := by decide +kernel
  exact table ⟨sextet, small⟩

theorem encodeSextet_decodeSextet {c : Char} {sextet : Nat} (read : decodeSextet c = some sextet) :
    sextet < 64 ∧ encodeSextet sextet = c := by
  rcases List.idxOf?_eq_some_iff.mp read with ⟨inside, same, _⟩
  have size : alphabet.length = 64 := by decide
  refine ⟨size ▸ inside, ?_⟩
  rw [encodeSextet, List.getD_eq_getElem?_getD, List.getElem?_eq_getElem inside, same]
  rfl

theorem encodeSextet_mem (sextet : Nat) : encodeSextet sextet ∈ alphabet := by
  rw [encodeSextet, List.getD_eq_getElem?_getD]
  cases found : alphabet[sextet]? with
  | none => decide
  | some c => exact List.mem_of_getElem? found

theorem encodeBytes_mem : ∀ bytes : Bytes, ∀ c ∈ encodeBytes bytes, c ∈ alphabet := by
  intro bytes
  induction bytes using encodeBytes.induct with
  | case1 => simp [encodeBytes]
  | case2 a => simp [encodeBytes, encodeSextet_mem]
  | case3 a b => simp [encodeBytes, encodeSextet_mem]
  | case4 a b c rest ih => simpa [encodeBytes, encodeSextet_mem] using ih

theorem decodeChars_encodeBytes (bytes : Bytes) : decodeChars (encodeBytes bytes) = some bytes := by
  induction bytes using encodeBytes.induct with
  | case1 => rfl
  | case2 a =>
      have aSmall := a.toNat_lt
      have zeros : a.toNat % 4 * 16 % 16 = 0 := by omega
      have first : a.toNat / 4 * 4 + a.toNat % 4 * 16 / 16 = a.toNat := by omega
      simp only [encodeBytes, decodeChars]
      rw [decodeSextet_encodeSextet (by omega), decodeSextet_encodeSextet (by omega)]
      simp only [Option.bind_eq_bind, Option.bind_some, guard, zeros, if_true, first,
        UInt8.ofNat_toNat]
      rfl
  | case3 a b =>
      have aSmall := a.toNat_lt
      have bSmall := b.toNat_lt
      have zeros : b.toNat % 16 * 4 % 4 = 0 := by omega
      have first : a.toNat / 4 * 4 + (a.toNat % 4 * 16 + b.toNat / 16) / 16 = a.toNat := by omega
      have second : (a.toNat % 4 * 16 + b.toNat / 16) % 16 * 16 + b.toNat % 16 * 4 / 4 =
          b.toNat := by omega
      simp only [encodeBytes, decodeChars]
      rw [decodeSextet_encodeSextet (by omega), decodeSextet_encodeSextet (by omega),
        decodeSextet_encodeSextet (by omega)]
      simp only [Option.bind_eq_bind, Option.bind_some, guard, zeros, if_true, first, second,
        UInt8.ofNat_toNat]
      rfl
  | case4 a b c rest ih =>
      have aSmall := a.toNat_lt
      have bSmall := b.toNat_lt
      have cSmall := c.toNat_lt
      have first : a.toNat / 4 * 4 + (a.toNat % 4 * 16 + b.toNat / 16) / 16 = a.toNat := by omega
      have second : (a.toNat % 4 * 16 + b.toNat / 16) % 16 * 16 +
          (b.toNat % 16 * 4 + c.toNat / 64) / 4 = b.toNat := by omega
      have third : (b.toNat % 16 * 4 + c.toNat / 64) % 4 * 64 + c.toNat % 64 = c.toNat := by omega
      simp only [encodeBytes, decodeChars]
      rw [decodeSextet_encodeSextet (by omega), decodeSextet_encodeSextet (by omega),
        decodeSextet_encodeSextet (by omega), decodeSextet_encodeSextet (by omega), ih]
      simp only [Option.bind_eq_bind, Option.bind_some, first, second, third, UInt8.ofNat_toNat]
      rfl

theorem toNat_ofNat {value : Nat} (small : value < 256) : (UInt8.ofNat value).toNat = value :=
  UInt8.toNat_ofNat_of_lt' small

/-- The characters of a decoded text are those that its bytes are encoded as: `decode` is strict. -/
theorem encodeBytes_decodeChars {chars : List Char} {bytes : Bytes}
    (read : decodeChars chars = some bytes) : encodeBytes bytes = chars := by
  induction chars using decodeChars.induct generalizing bytes with
  | case1 =>
      cases read
      rfl
  | case2 => cases read
  | case3 p q =>
      simp only [decodeChars, Option.bind_eq_bind, Option.bind_eq_some_iff] at read
      rcases read with ⟨i, pRead, j, qRead, _, guarded, answered⟩
      have zeros := (Option.guard_eq_some' _).mp guarded
      rcases encodeSextet_decodeSextet pRead with ⟨iSmall, rfl⟩
      rcases encodeSextet_decodeSextet qRead with ⟨jSmall, rfl⟩
      cases answered
      simp only [encodeBytes]
      rw [toNat_ofNat (by omega)]
      have first : (i * 4 + j / 16) / 4 = i := by omega
      have second : (i * 4 + j / 16) % 4 * 16 = j := by omega
      rw [first, second]
  | case4 p q r =>
      simp only [decodeChars, Option.bind_eq_bind, Option.bind_eq_some_iff] at read
      rcases read with ⟨i, pRead, j, qRead, k, rRead, _, guarded, answered⟩
      have zeros := (Option.guard_eq_some' _).mp guarded
      rcases encodeSextet_decodeSextet pRead with ⟨iSmall, rfl⟩
      rcases encodeSextet_decodeSextet qRead with ⟨jSmall, rfl⟩
      rcases encodeSextet_decodeSextet rRead with ⟨kSmall, rfl⟩
      cases answered
      simp only [encodeBytes]
      rw [toNat_ofNat (by omega), toNat_ofNat (by omega)]
      have first : (i * 4 + j / 16) / 4 = i := by omega
      have second : (i * 4 + j / 16) % 4 * 16 + (j % 16 * 16 + k / 4) / 16 = j := by omega
      have third : (j % 16 * 16 + k / 4) % 16 * 4 = k := by omega
      rw [first, second, third]
  | case5 p q r s rest ih =>
      simp only [decodeChars, Option.bind_eq_bind, Option.bind_eq_some_iff] at read
      rcases read with ⟨i, pRead, j, qRead, k, rRead, l, sRead, tail, restRead, answered⟩
      rcases encodeSextet_decodeSextet pRead with ⟨iSmall, rfl⟩
      rcases encodeSextet_decodeSextet qRead with ⟨jSmall, rfl⟩
      rcases encodeSextet_decodeSextet rRead with ⟨kSmall, rfl⟩
      rcases encodeSextet_decodeSextet sRead with ⟨lSmall, rfl⟩
      cases answered
      simp only [encodeBytes]
      rw [toNat_ofNat (by omega), toNat_ofNat (by omega), toNat_ofNat (by omega), ih restRead]
      have first : (i * 4 + j / 16) / 4 = i := by omega
      have second : (i * 4 + j / 16) % 4 * 16 + (j % 16 * 16 + k / 4) / 16 = j := by omega
      have third : (j % 16 * 16 + k / 4) % 16 * 4 + (k % 4 * 64 + l) / 64 = k := by omega
      have fourth : (k % 4 * 64 + l) % 64 = l := by omega
      rw [first, second, third, fourth]

theorem decode_encode (bytes : Bytes) : decode (encode bytes) = some bytes := by
  rw [decode, encode, String.toList_ofList, decodeChars_encodeBytes]

theorem decode_iff {text : String} {bytes : Bytes} :
    decode text = some bytes ↔ text = encode bytes := by
  constructor
  · intro read
    rw [encode, encodeBytes_decodeChars read, String.ofList_toList]
  · rintro rfl
    exact decode_encode bytes

theorem encode_injective : Function.Injective encode := by
  intro one other same
  have read := decode_encode one
  rw [same, decode_encode] at read
  exact (Option.some.inj read).symm

/-- No separator of a compact form is a character of it. -/
theorem not_mem_encode {c : Char} (foreign : c ∉ alphabet) (bytes : Bytes) :
    c ∉ (encode bytes).toList := by
  rw [encode, String.toList_ofList]
  exact fun member => foreign (encodeBytes_mem bytes c member)

end Library.Base64Url
