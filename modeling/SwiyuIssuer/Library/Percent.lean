import SwiyuIssuer.Library.Text

/-! Percent-encoding of texts under any encode set, and the decoder that leaves a `%` without two
hexadecimal digits alone. -/

namespace Library.Percent

/-- The UTF-8 bytes of a text, character by character. -/
def utf8 (text : List Char) : List UInt8 := text.flatMap String.utf8EncodeChar

theorem utf8_toList (text : String) : utf8 text.toList = Text.asBytes text := by
  have encoded : text.toByteArray = (utf8 text.toList).toByteArray := by
    rw [← String.utf8Encode_toList]
    rfl
  rw [Text.asBytes, encoded, List.data_toByteArray]

theorem utf8_injective : Function.Injective utf8 := by
  intro left right same
  rw [← String.toList_ofList (l := left), ← String.toList_ofList (l := right), utf8_toList,
    utf8_toList] at same
  have texts := Text.asBytes_injective same
  simpa using congrArg String.toList texts

@[simp] theorem utf8_nil : utf8 [] = [] := rfl

@[simp] theorem utf8_cons (c : Char) (text : List Char) :
    utf8 (c :: text) = String.utf8EncodeChar c ++ utf8 text := rfl

@[simp] theorem utf8_append (front back : List Char) :
    utf8 (front ++ back) = utf8 front ++ utf8 back := List.flatMap_append

def isUnreserved (c : Char) : Bool :=
  c.isAlphanum || c == '-' || c == '.' || c == '_' || c == '~'

theorem isUnreserved_iff {c : Char} : isUnreserved c = true ↔
    (0x61 ≤ c.toNat ∧ c.toNat ≤ 0x7A) ∨ (0x41 ≤ c.toNat ∧ c.toNat ≤ 0x5A) ∨
      (0x30 ≤ c.toNat ∧ c.toNat ≤ 0x39) ∨ c.toNat = 0x2D ∨ c.toNat = 0x2E ∨ c.toNat = 0x5F ∨
        c.toNat = 0x7E := by
  have word : c.val.toNat = c.toNat := rfl
  have letter : c.isAlphanum = (decide (c.val ≥ 'A'.val ∧ c.val ≤ 'Z'.val) ||
      (c.val ≥ 'a'.val && c.val ≤ 'z'.val) || (c.val ≥ '0'.val && c.val ≤ '9'.val)) := rfl
  simp only [isUnreserved, letter, Bool.or_eq_true, Bool.and_eq_true, decide_eq_true_eq, ge_iff_le,
    UInt32.le_iff_toNat_le, word, beq_iff_eq, ← Char.toNat_inj]
  simp
  omega

/-- A percent-encode set: it leaves `%` and the unreserved characters alone, and takes everything
outside ASCII. -/
structure EncodeSet where
  encodes : Char → Bool
  percent : encodes '%' = false
  unreserved : ∀ c, isUnreserved c = true → encodes c = false
  ascii : ∀ c, encodes c = false → c.toNat < 0x80

/-- The path percent-encode set of the URL standard. -/
def pathSet : EncodeSet where
  encodes c := decide (c.toNat < 0x20) || decide (0x7E < c.toNat) ||
    [0x20, 0x22, 0x23, 0x3C, 0x3E, 0x3F, 0x5E, 0x60, 0x7B, 0x7D].contains c.toNat
  percent := by decide
  unreserved c plain := by
    have code := isUnreserved_iff.mp plain
    simp
    omega
  ascii c outside := by
    simp only [Bool.or_eq_false_iff, decide_eq_false_iff_not] at outside
    omega

def hexValue (code : Nat) : Option Nat :=
  if 0x30 ≤ code ∧ code ≤ 0x39 then some (code - 0x30)
  else if 0x41 ≤ code ∧ code ≤ 0x46 then some (code - 0x37)
  else if 0x61 ≤ code ∧ code ≤ 0x66 then some (code - 0x57)
  else none

def isHexDigit (c : Char) : Bool := (hexValue c.toNat).isSome

def hexDigit (value : Nat) : UInt8 := UInt8.ofNat (if value < 10 then 0x30 + value else 0x37 + value)

def encodeByte (byte : UInt8) : List UInt8 :=
  [0x25, hexDigit (byte.toNat / 16), hexDigit (byte.toNat % 16)]

def encodeChar (set : EncodeSet) (c : Char) : List UInt8 :=
  if set.encodes c then (String.utf8EncodeChar c).flatMap encodeByte else String.utf8EncodeChar c

def encode (set : EncodeSet) (text : List Char) : List UInt8 := text.flatMap (encodeChar set)

def decode : List UInt8 → List UInt8
  | first :: high :: low :: rest =>
      match first == 0x25, hexValue high.toNat, hexValue low.toNat with
      | true, some upper, some lower => UInt8.ofNat (16 * upper + lower) :: decode rest
      | _, _, _ => first :: decode (high :: low :: rest)
  | bytes => bytes

def startsHexPair : List Char → Bool
  | high :: low :: _ => isHexDigit high && isHexDigit low
  | _ => false

/-- The text has a `%` with two hexadecimal digits after it. -/
def hasEscape : List Char → Bool
  | [] => false
  | c :: rest => (c == '%' && startsHexPair rest) || hasEscape rest

theorem hasEscape_eq_false {text : List Char} (clean : ∀ c ∈ text, c ≠ '%') :
    hasEscape text = false := by
  induction text with
  | nil => rfl
  | cons c rest ih =>
      obtain ⟨first, later⟩ := List.forall_mem_cons.mp clean
      simp [hasEscape, first, ih later]

theorem hexValue_hexDigit {value : Nat} (digit : value < 16) :
    hexValue (hexDigit value).toNat = some value := by
  have all : ∀ value : Fin 16, hexValue (hexDigit value).toNat = some value.val := by decide
  exact all ⟨value, digit⟩

@[simp] theorem decode_nil : decode [] = [] := by simp [decode]

theorem decode_cons_of_ne {first : UInt8} (plain : first ≠ 0x25) (rest : List UInt8) :
    decode (first :: rest) = first :: decode rest := by
  match rest with
  | [] => simp [decode]
  | [_] => simp [decode]
  | _ :: _ :: _ => simp [decode, plain]

theorem decode_pair {high low : UInt8} {upper lower : Nat} (first : hexValue high.toNat = some upper)
    (second : hexValue low.toNat = some lower) (rest : List UInt8) :
    decode (0x25 :: high :: low :: rest) = UInt8.ofNat (16 * upper + lower) :: decode rest := by
  simp [decode, first, second]

theorem decode_encodeByte (byte : UInt8) (rest : List UInt8) :
    decode (encodeByte byte ++ rest) = byte :: decode rest := by
  have small : byte.toNat < 256 := byte.toNat_lt
  have upper := hexValue_hexDigit (by omega : byte.toNat / 16 < 16)
  have lower := hexValue_hexDigit (by omega : byte.toNat % 16 < 16)
  calc decode (encodeByte byte ++ rest)
      = UInt8.ofNat (16 * (byte.toNat / 16) + byte.toNat % 16) :: decode rest :=
        decode_pair upper lower rest
    _ = byte :: decode rest := by rw [Nat.div_add_mod, UInt8.ofNat_toNat]

theorem decode_encodeBytes (bytes rest : List UInt8) :
    decode (bytes.flatMap encodeByte ++ rest) = bytes ++ decode rest := by
  induction bytes with
  | nil => rfl
  | cons byte bytes ih =>
      rw [List.flatMap_cons, List.append_assoc, decode_encodeByte, ih, List.cons_append]

section Encoded

variable (set : EncodeSet)

@[simp] theorem encode_nil : encode set [] = [] := rfl

@[simp] theorem encode_cons (c : Char) (text : List Char) :
    encode set (c :: text) = encodeChar set c ++ encode set text := rfl

theorem encode_eq_nil {text : List Char} : encode set text = [] ↔ text = [] := by
  cases text with
  | nil => simp
  | cons c rest =>
      obtain ⟨head, more, bytes⟩ :=
        List.exists_cons_of_ne_nil (String.utf8EncodeChar_ne_nil (c := c))
      cases outside : set.encodes c <;> simp [encodeChar, outside, bytes, encodeByte]

theorem utf8EncodeChar_ascii {c : Char} (small : c.toNat < 0x80) :
    String.utf8EncodeChar c = [UInt8.ofNat c.toNat] :=
  if_pos (Nat.le_of_lt_succ small)

/-- A character outside the set is its own byte. -/
theorem encodeChar_plain {c : Char} (outside : set.encodes c = false) :
    encodeChar set c = [UInt8.ofNat c.toNat] := by
  rw [encodeChar, outside]
  exact utf8EncodeChar_ascii (set.ascii c outside)

theorem toNat_ofNat_ascii {c : Char} (outside : set.encodes c = false) :
    (UInt8.ofNat c.toNat).toNat = c.toNat := by
  exact UInt8.toNat_ofNat_of_lt ((set.ascii c outside).trans (by decide))

theorem hexDigit_unencoded {c : Char} (digit : isHexDigit c = true) : set.encodes c = false := by
  apply set.unreserved
  rw [isUnreserved_iff]
  unfold isHexDigit hexValue at digit
  split_ifs at digit
  · omega
  · omega
  · omega
  · cases digit

/-- A byte of a hexadecimal digit comes from a character of the text, not from an escape. -/
theorem encode_hex {text : List Char} {byte : UInt8} {rest : List UInt8}
    (encoded : encode set text = byte :: rest) (digit : (hexValue byte.toNat).isSome = true) :
    ∃ c tail, text = c :: tail ∧ isHexDigit c = true ∧ rest = encode set tail := by
  cases text with
  | nil => cases encoded
  | cons c tail =>
      rw [encode_cons] at encoded
      cases outside : set.encodes c with
      | true =>
          obtain ⟨head, more, bytes⟩ := List.exists_cons_of_ne_nil (String.utf8EncodeChar_ne_nil (c := c))
          rw [encodeChar, outside, if_pos rfl, bytes, List.flatMap_cons] at encoded
          injection encoded with escape _
          subst escape
          cases digit
      | false =>
          rw [encodeChar_plain set outside] at encoded
          injection encoded with same others
          subst same
          rw [toNat_ofNat_ascii set outside] at digit
          exact ⟨c, tail, rfl, digit, others.symm⟩

theorem encode_percent (rest : List Char) : encode set ('%' :: rest) = 0x25 :: encode set rest := by
  rw [encode_cons, encodeChar_plain set set.percent]
  rfl

/-- Without two hexadecimal digits after it a `%` is passed through. -/
theorem decode_percent {rest : List Char} (open_ : startsHexPair rest = false) :
    decode (0x25 :: encode set rest) = 0x25 :: decode (encode set rest) := by
  match bytes : encode set rest with
  | [] => simp [decode]
  | [_] => simp [decode]
  | high :: low :: tail =>
      rw [decode]
      split
      · next upper lower _ first second =>
          obtain ⟨c, chars, rfl, digit, others⟩ := encode_hex set bytes (by rw [first]; rfl)
          obtain ⟨d, _, rfl, again, _⟩ := encode_hex set others.symm (by rw [second]; rfl)
          rw [startsHexPair, digit, again] at open_
          cases open_
      · rfl

theorem decode_encode_cons {c : Char} {rest : List Char}
    (open_ : (c == '%' && startsHexPair rest) = false) :
    decode (encode set (c :: rest)) = String.utf8EncodeChar c ++ decode (encode set rest) := by
  by_cases percent : c = '%'
  · subst percent
    rw [encode_percent, decode_percent set (by simpa using open_)]
    rfl
  · rw [encode_cons]
    cases outside : set.encodes c with
    | true => rw [encodeChar, outside, if_pos rfl, decode_encodeBytes]
    | false =>
        have plain : UInt8.ofNat c.toNat ≠ 0x25 := by
          intro same
          have code := congrArg UInt8.toNat same
          rw [toNat_ofNat_ascii set outside] at code
          exact percent (Char.toNat_inj.mp code)
        rw [encodeChar_plain set outside, utf8EncodeChar_ascii (set.ascii c outside)]
        exact decode_cons_of_ne plain _

/-- A text without escapes is read back. -/
theorem decode_encode {text : List Char} (clean : hasEscape text = false) :
    decode (encode set text) = utf8 text := by
  induction text with
  | nil => rfl
  | cons c rest ih =>
      rw [hasEscape, Bool.or_eq_false_iff] at clean
      rw [decode_encode_cons set clean.1, ih clean.2, utf8_cons]

theorem hexDigit_open {c : Char} {rest : List Char} (digit : isHexDigit c = true) :
    (c == '%' && startsHexPair rest) = false := by
  have different : c ≠ '%' := by
    rintro rfl
    exact absurd digit (by decide)
  simp [different]

theorem length_decode_pair {high low : Char} {rest : List Char} (first : isHexDigit high = true)
    (second : isHexDigit low = true) :
    (decode (encode set ('%' :: high :: low :: rest))).length =
      (decode (encode set rest)).length + 1 := by
  have upper := hexDigit_unencoded set first
  have lower := hexDigit_unencoded set second
  obtain ⟨high_, read⟩ := Option.isSome_iff_exists.mp first
  obtain ⟨low_, also⟩ := Option.isSome_iff_exists.mp second
  rw [← toNat_ofNat_ascii set upper] at read
  rw [← toNat_ofNat_ascii set lower] at also
  rw [encode_percent, encode_cons, encode_cons, encodeChar_plain set upper,
    encodeChar_plain set lower]
  exact congrArg List.length (decode_pair read also _)

/-- A text with an escape is read back as a shorter one. -/
theorem length_decode_lt {text : List Char} (escaped : hasEscape text = true) :
    (decode (encode set text)).length < (utf8 text).length := by
  induction text with
  | nil => cases escaped
  | cons c rest ih =>
      cases here : c == '%' && startsHexPair rest with
      | false =>
          rw [hasEscape, here, Bool.false_or] at escaped
          have shorter := ih escaped
          rw [decode_encode_cons set here, utf8_cons]
          simp only [List.length_append]
          omega
      | true =>
          have shorter : (decode (encode set rest)).length ≤ (utf8 rest).length := by
            cases later : hasEscape rest with
            | true => exact Nat.le_of_lt (ih later)
            | false => rw [decode_encode set later]
          obtain ⟨percent, pair⟩ := Bool.and_eq_true_iff.mp here
          match rest, pair with
          | high :: low :: tail, pair =>
              obtain ⟨first, second⟩ := Bool.and_eq_true_iff.mp pair
              rw [decode_encode_cons set (hexDigit_open first), decode_encode_cons set
                (hexDigit_open second), utf8_cons, utf8_cons] at shorter
              rw [eq_of_beq percent, length_decode_pair set first second]
              simp only [List.length_append, String.length_utf8EncodeChar, utf8_cons] at shorter ⊢
              have positive := Char.utf8Size_pos '%'
              have high_positive := Char.utf8Size_pos high
              omega

theorem length_decode_le (text : List Char) :
    (decode (encode set text)).length ≤ (utf8 text).length := by
  cases escaped : hasEscape text with
  | true => exact Nat.le_of_lt (length_decode_lt set escaped)
  | false => rw [decode_encode set escaped]

theorem encode_unreserved {text : List Char} (plain : ∀ c ∈ text, isUnreserved c = true) :
    encode set text = utf8 text := by
  induction text with
  | nil => rfl
  | cons c rest ih =>
      have outside := set.unreserved c (plain c List.mem_cons_self)
      rw [encode_cons, utf8_cons, ih fun d later => plain d (List.mem_cons_of_mem c later),
        encodeChar_plain set outside, utf8EncodeChar_ascii (set.ascii c outside)]

end Encoded

/-! A text as one component of a URL: every byte but those of unreserved characters is escaped. -/

section Component

def isUnreservedByte (byte : UInt8) : Bool := isUnreserved (Char.ofNat byte.toNat)

def componentByte (byte : UInt8) : List UInt8 :=
  if isUnreservedByte byte then [byte] else encodeByte byte

def component (bytes : List UInt8) : List UInt8 := bytes.flatMap componentByte

/-- A component is read back from whatever text it stands in. -/
theorem decode_component (bytes rest : List UInt8) :
    decode (component bytes ++ rest) = bytes ++ decode rest := by
  induction bytes with
  | nil => rfl
  | cons byte bytes ih =>
      rw [component, List.flatMap_cons, List.append_assoc, componentByte]
      split
      · next plain =>
          have unescaped : byte ≠ 0x25 := by
            rintro rfl
            exact absurd plain (by decide)
          rw [List.singleton_append, decode_cons_of_ne unescaped]
          exact congrArg (byte :: ·) ih
      · rw [decode_encodeByte]
        exact congrArg (byte :: ·) ih

theorem hexDigit_unreserved {value : Nat} (digit : value < 16) :
    isUnreservedByte (hexDigit value) = true := by
  have all : ∀ value : Fin 16, isUnreservedByte (hexDigit value) = true := by decide
  exact all ⟨value, digit⟩

/-- No byte of a component ends it. -/
theorem mem_component {bytes : List UInt8} {byte : UInt8} (member : byte ∈ component bytes) :
    isUnreservedByte byte = true ∨ byte = 0x25 := by
  rcases List.mem_flatMap.mp member with ⟨source, _, written⟩
  unfold componentByte at written
  split at written
  · next plain =>
      obtain rfl := List.mem_singleton.mp written
      exact .inl plain
  · have small : source.toNat < 256 := source.toNat_lt
    simp only [encodeByte, List.mem_cons, List.not_mem_nil, or_false] at written
    rcases written with rfl | rfl | rfl
    · exact .inr rfl
    · exact .inl (hexDigit_unreserved (by omega))
    · exact .inl (hexDigit_unreserved (by omega))

/-- The encoder of texts: what `component` writes is ASCII. -/
def componentText (text : String) : String :=
  String.ofList ((component (Text.asBytes text)).map fun byte => Char.ofNat byte.toNat)

theorem asBytes_componentText (text : String) :
    Text.asBytes (componentText text) = component (Text.asBytes text) := by
  have single : ∀ byte ∈ component (Text.asBytes text),
      String.utf8EncodeChar (Char.ofNat byte.toNat) = [byte] := by
    have table : ∀ code : Fin 256, isUnreservedByte (UInt8.ofNat code) = true ∨
        UInt8.ofNat code = 0x25 →
        String.utf8EncodeChar (Char.ofNat (UInt8.ofNat code).toNat) = [UInt8.ofNat code] := by
      decide +kernel
    intro byte member
    have entry := table ⟨byte.toNat, byte.toNat_lt⟩
    rw [UInt8.ofNat_toNat] at entry
    exact entry (mem_component member)
  rw [componentText, ← utf8_toList, String.toList_ofList, utf8, List.flatMap_map]
  generalize component (Text.asBytes text) = bytes at single
  induction bytes with
  | nil => rfl
  | cons byte bytes ih =>
      rw [List.flatMap_cons, single byte (.head _), ih fun other later => single other (.tail _ later)]
      rfl

end Component

end Library.Percent
