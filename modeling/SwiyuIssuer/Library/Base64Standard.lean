import SwiyuIssuer.Library.Base64Url
import Mathlib.Data.List.DropRight

/-! Base64 with the standard alphabet and canonical padding, over the unpadded one. -/

namespace Library.Base64Standard

open Base64Url (Bytes)

def toStandard : Char → Char
  | '-' => '+'
  | '_' => '/'
  | c => c

def fromStandard : Char → Option Char
  | '+' => some '-'
  | '/' => some '_'
  | '-' | '_' => none
  | c => some c

/-- What fills up the last group of four. -/
def padding (bytes : Bytes) : List Char := List.replicate ((3 - bytes.length % 3) % 3) '='

def encode (bytes : Bytes) : String :=
  String.ofList ((Base64Url.encodeBytes bytes).map toStandard ++ padding bytes)

def decode (text : String) : Option Bytes :=
  let body := text.toList.rdropWhile (· == '=')
  if text.toList.length % 4 = 0 ∧ text.toList.length ≤ body.length + 2 then
    (body.mapM fromStandard).bind Base64Url.decodeChars
  else none

theorem fromStandard_eq_some {c d : Char} (read : fromStandard c = some d) : toStandard d = c := by
  rw [fromStandard.eq_def] at read
  split at read
  · cases read
    rfl
  · cases read
    rfl
  · cases read
  · cases read
  · next plus slash minus low =>
      cases read
      rw [toStandard.eq_def]
      split
      · exact absurd rfl minus
      · exact absurd rfl low
      · rfl

theorem alphabet_translates : Base64Url.alphabet.all (fun c =>
    decide (fromStandard (toStandard c) = some c) && toStandard c != '=') = true := by decide +kernel

theorem translates {c : Char} (listed : c ∈ Base64Url.alphabet) :
    fromStandard (toStandard c) = some c ∧ toStandard c ≠ '=' := by
  simpa using List.all_eq_true.mp alphabet_translates c listed

theorem mapM_fromStandard {chars url : List Char} (read : chars.mapM fromStandard = some url) :
    url.map toStandard = chars := by
  induction chars generalizing url with
  | nil =>
      cases read
      rfl
  | cons c chars ih =>
      rw [List.mapM_cons] at read
      obtain ⟨d, first, rest⟩ := Option.bind_eq_some_iff.mp read
      obtain ⟨tail, others, answered⟩ := Option.bind_eq_some_iff.mp rest
      cases answered
      rw [List.map_cons, fromStandard_eq_some first, ih others]

theorem mapM_toStandard {url : List Char} (inside : ∀ c ∈ url, c ∈ Base64Url.alphabet) :
    (url.map toStandard).mapM fromStandard = some url := by
  induction url with
  | nil => rfl
  | cons c url ih =>
      have rest := ih fun d member => inside d (List.mem_cons_of_mem _ member)
      simp [(translates (inside c List.mem_cons_self)).1, rest]

theorem padding_length_le (bytes : Bytes) : (padding bytes).length ≤ 2 := by
  rw [padding, List.length_replicate]
  omega

theorem padded_length (bytes : Bytes) :
    (Base64Url.encodeBytes bytes).length + (padding bytes).length = (bytes.length + 2) / 3 * 4 := by
  rw [padding, List.length_replicate]
  induction bytes using Base64Url.encodeBytes.induct with
  | case1 => rfl
  | case2 a => simp [Base64Url.encodeBytes]
  | case3 a b => simp [Base64Url.encodeBytes]
  | case4 a b c rest ih =>
      simp only [Base64Url.encodeBytes, List.length_cons]
      omega

theorem rdropWhile_padded {body : List Char} (clean : ∀ c ∈ body, c ≠ '=') (count : Nat) :
    (body ++ List.replicate count '=').rdropWhile (· == '=') = body := by
  induction count with
  | zero =>
      rw [List.replicate_zero, List.append_nil, List.rdropWhile_eq_self_iff]
      intro nonempty
      simpa using clean _ (List.getLast_mem nonempty)
  | succ count ih =>
      rw [List.replicate_succ', ← List.append_assoc, List.rdropWhile_concat_pos _ _ _ (by simp), ih]

theorem decode_encode (bytes : Bytes) : decode (encode bytes) = some bytes := by
  have inside := Base64Url.encodeBytes_mem bytes
  have body : (encode bytes).toList.rdropWhile (· == '=') =
      (Base64Url.encodeBytes bytes).map toStandard := by
    rw [encode, String.toList_ofList, padding, rdropWhile_padded]
    intro c member
    obtain ⟨d, listed, rfl⟩ := List.mem_map.mp member
    exact (translates (inside d listed)).2
  have size : (encode bytes).toList.length =
      (Base64Url.encodeBytes bytes).length + (padding bytes).length := by
    simp [encode]
  have groups := padded_length bytes
  have few := padding_length_le bytes
  rw [decode, body, if_pos]
  · rw [mapM_toStandard inside, Option.bind_some, Base64Url.decodeChars_encodeBytes]
  · rw [size, List.length_map]
    omega

/-- `decode` is strict: it reads the text that its bytes are encoded as, and no other. -/
theorem decode_iff {text : String} {bytes : Bytes} :
    decode text = some bytes ↔ text = encode bytes := by
  constructor
  · intro read
    rw [decode] at read
    split at read
    · next shape =>
        obtain ⟨url, translated, decoded⟩ := Option.bind_eq_some_iff.mp read
        have standard := mapM_fromStandard translated
        have sextets := Base64Url.encodeBytes_decodeChars decoded
        have tail : text.toList.rdropWhile (· == '=') ++ text.toList.rtakeWhile (· == '=') = text.toList :=
          List.rdropWhile_append_rtakeWhile
        have pads : text.toList.rtakeWhile (· == '=') =
            List.replicate (text.toList.rtakeWhile (· == '=')).length '=' := by
          apply List.eq_replicate_of_mem
          intro c member
          simpa using List.mem_rtakeWhile_imp member
        have groups := padded_length bytes
        have few := padding_length_le bytes
        have whole := congrArg List.length tail
        rw [← standard, List.length_append, List.length_map, ← sextets] at whole
        rw [← standard, List.length_map, ← sextets] at shape
        have count : (text.toList.rtakeWhile (· == '=')).length = (padding bytes).length := by
          omega
        rw [count, padding, List.length_replicate, ← padding] at pads
        rw [encode, sextets, standard, ← pads, tail, String.ofList_toList]
    · cases read
  · intro same
    rw [same]
    exact decode_encode bytes

end Library.Base64Standard
