import Mathlib.Data.List.DropRight

/-! Texts as Rust's `str` cuts them: `trim`, `trim_end_matches`, `strip_prefix` and `split`, and
their UTF-8 bytes. -/

namespace Library.Text

/-- The `White_Space` property of Unicode. -/
def isWhitespace (c : Char) : Bool :=
  (9 ≤ c.toNat && c.toNat ≤ 13) || c.toNat == 0x20 || c.toNat == 0x85 || c.toNat == 0xA0 ||
    c.toNat == 0x1680 || (0x2000 ≤ c.toNat && c.toNat ≤ 0x200A) || c.toNat == 0x2028 ||
    c.toNat == 0x2029 || c.toNat == 0x202F || c.toNat == 0x205F || c.toNat == 0x3000

def trimEndMatches (drops : Char → Bool) (text : String) : String :=
  String.ofList (text.toList.rdropWhile drops)

def trimMatches (drops : Char → Bool) (text : String) : String :=
  String.ofList ((text.toList.dropWhile drops).rdropWhile drops)

def trim : String → String := trimMatches isWhitespace

def stripPrefix (front text : String) : Option String :=
  (front.toList.isPrefixOf? text.toList).map String.ofList

/-- `split`, on one character. -/
def split (separator : Char) (text : String) : List String :=
  (text.toList.splitOn separator).map String.ofList

def asBytes (text : String) : List UInt8 := text.toByteArray.data.toList

/-- `str::from_utf8`. -/
def fromUtf8 (bytes : List UInt8) : Option String := String.fromUTF8? bytes.toByteArray

theorem fromUtf8_asBytes (text : String) : fromUtf8 (asBytes text) = some text := by
  have bytes : (asBytes text).toByteArray = text.toByteArray := by
    apply ByteArray.ext
    rw [asBytes, List.data_toByteArray, Array.toArray_toList]
  rw [fromUtf8, bytes, String.fromUTF8?, dif_pos text.isValidUTF8]
  rfl

theorem asBytes_of_fromUtf8 {bytes : List UInt8} {text : String}
    (read : fromUtf8 bytes = some text) : asBytes text = bytes := by
  rw [fromUtf8, String.fromUTF8?] at read
  split at read
  · cases read
    calc asBytes (String.fromUTF8 bytes.toByteArray _) = bytes.toByteArray.data.toList := rfl
      _ = bytes := by rw [List.data_toByteArray]
  · cases read

theorem asBytes_injective : Function.Injective asBytes := by
  intro left right same
  have read := congrArg fromUtf8 same
  rw [fromUtf8_asBytes, fromUtf8_asBytes] at read
  exact Option.some.inj read

theorem length_asBytes (text : String) : (asBytes text).length = text.utf8ByteSize := by
  rw [asBytes, Array.length_toList]
  rfl

theorem length_asBytes_append (front back : String) :
    (asBytes (front ++ back)).length = (asBytes front).length + (asBytes back).length := by
  simp only [length_asBytes, String.utf8ByteSize_append]

/-- A character is four bytes at most. -/
theorem length_asBytes_le (chars : List Char) :
    (asBytes (String.ofList chars)).length ≤ 4 * chars.length := by
  induction chars with
  | nil => simp [length_asBytes]
  | cons c chars ih =>
      have cut : String.ofList (c :: chars) = String.singleton c ++ String.ofList chars := by
        rw [String.singleton_eq_ofList, ← String.ofList_append]
        rfl
      have first := c.utf8Size_le_four
      rw [cut, length_asBytes_append, length_asBytes, String.utf8ByteSize_singleton, List.length_cons]
      omega

theorem dropWhile_rdropWhile {drops : Char → Bool} {chars : List Char}
    (clean : chars.dropWhile drops = chars) :
    (chars.rdropWhile drops).dropWhile drops = chars.rdropWhile drops := by
  rw [List.dropWhile_eq_self_iff] at clean ⊢
  intro nonempty
  have front : chars.rdropWhile drops <+: chars := List.rdropWhile_prefix drops chars
  have longer : 0 < chars.length := Nat.lt_of_lt_of_le nonempty front.length_le
  rw [front.getElem nonempty]
  exact clean longer

theorem trimMatches_idempotent (drops : Char → Bool) (text : String) :
    trimMatches drops (trimMatches drops text) = trimMatches drops text := by
  unfold trimMatches
  rw [String.toList_ofList, dropWhile_rdropWhile (List.dropWhile_idempotent drops _),
    List.rdropWhile_idempotent]

@[simp] theorem trim_trim (text : String) : trim (trim text) = trim text :=
  trimMatches_idempotent isWhitespace text

theorem stripPrefix_append (front text : String) : stripPrefix front (front ++ text) = some text := by
  have cut : front.toList.isPrefixOf? (front.toList ++ text.toList) = some text.toList :=
    List.isPrefixOf?_eq_some_iff_append_eq.mpr rfl
  rw [stripPrefix, String.toList_append, cut, Option.map_some, String.ofList_toList]

theorem append_of_stripPrefix {front text rest : String} (cut : stripPrefix front text = some rest) :
    text = front ++ rest := by
  rcases Option.map_eq_some_iff.mp cut with ⟨behind, whole, same⟩
  apply String.toList_inj.mp
  rw [← List.isPrefixOf?_eq_some_iff_append_eq.mp whole, String.toList_append, ← same,
    String.toList_ofList]

theorem splitOnP_clean {p : Char → Bool} {text piece : List Char}
    (listed : piece ∈ text.splitOnP p) : ∀ c ∈ piece, p c = false := by
  induction text generalizing piece with
  | nil => simp_all
  | cons c rest ih =>
      rw [List.splitOnP_cons_eq_if_modifyHead] at listed
      cases cut : p c with
      | true =>
          rw [cut, if_pos rfl] at listed
          rcases List.mem_cons.mp listed with rfl | later
          · simp
          · exact ih later
      | false =>
          obtain ⟨head, others, pieces⟩ := List.exists_cons_of_ne_nil (List.splitOnP_ne_nil p rest)
          rw [cut, pieces, if_neg (by simp), List.modifyHead_cons] at listed
          rw [pieces] at ih
          rcases List.mem_cons.mp listed with rfl | later
          · exact List.forall_mem_cons.mpr ⟨cut, ih List.mem_cons_self⟩
          · exact ih (List.mem_cons_of_mem _ later)

theorem splitOn_clean {separator : Char} {text piece : List Char}
    (listed : piece ∈ text.splitOn separator) : separator ∉ piece := by
  intro member
  rw [List.splitOn_eq_splitOnP] at listed
  have apart := splitOnP_clean listed separator member
  simp at apart

theorem split_join (separator : Char) (text : String) :
    [separator].intercalate ((split separator text).map String.toList) = text.toList := by
  rw [split, List.map_map]
  have back : String.toList ∘ String.ofList = id := funext fun chars => String.toList_ofList
  rw [back, List.map_id, List.intercalate_splitOn]

/-- Pieces without a separator are those that their join is split into. -/
theorem split_of_join {separator : Char} {text : String} {pieces : List String}
    (joined : text.toList = [separator].intercalate (pieces.map String.toList))
    (some : pieces ≠ []) (clean : ∀ piece ∈ pieces, separator ∉ piece.toList) :
    split separator text = pieces := by
  have whole : ∀ piece ∈ pieces.map String.toList, separator ∉ piece := by
    intro chars member
    rcases List.mem_map.mp member with ⟨piece, listed, rfl⟩
    exact clean piece listed
  rw [split, joined, List.splitOn_intercalate separator whole (by simpa using some), List.map_map]
  have back : String.ofList ∘ String.toList = id := funext fun piece => String.ofList_toList
  rw [back, List.map_id]

/-- A text is cut at its last separator in one way. -/
theorem last_cut {separator : Char} {front back front' back' : List Char} (clean : separator ∉ back)
    (clean' : separator ∉ back') (same : front ++ separator :: back = front' ++ separator :: back') :
    front = front' ∧ back = back' := by
  rcases List.append_eq_append_iff.mp same with ⟨gap, rfl, behind⟩ | ⟨gap, rfl, behind⟩
  · cases gap with
    | nil => simpa using behind
    | cons c gap =>
        rw [List.cons_append, List.cons.injEq] at behind
        exact absurd (behind.2 ▸ by simp) clean
  · cases gap with
    | nil => simpa [eq_comm] using behind
    | cons c gap =>
        rw [List.cons_append, List.cons.injEq] at behind
        exact absurd (behind.2 ▸ by simp) clean'

theorem split_append_cons {separator : Char} {text : String} {front back : List Char}
    (joined : text.toList = front ++ separator :: back) :
    split separator text =
      split separator (String.ofList front) ++ split separator (String.ofList back) := by
  simp [split, joined, List.splitOn_append_cons_self]

theorem split_clean {separator : Char} {text : String} (clean : separator ∉ text.toList) :
    split separator text = [text] := by
  rw [split, List.splitOn_eq_singleton clean]
  simp

/-- What `trim_end_matches` of one character cuts off. -/
theorem trimEndMatches_cut (c : Char) (text : String) : ∃ count,
    text.toList = (trimEndMatches (· == c) text).toList ++ List.replicate count c := by
  have tail : text.toList.rdropWhile (· == c) ++ text.toList.rtakeWhile (· == c) = text.toList :=
    List.rdropWhile_append_rtakeWhile
  have all : ∀ d ∈ text.toList.rtakeWhile (· == c), d = c := by
    intro d member
    have same := List.mem_rtakeWhile_imp (p := (· == c)) member
    exact beq_iff_eq.mp same
  refine ⟨(text.toList.rtakeWhile (· == c)).length, ?_⟩
  rw [trimEndMatches, String.toList_ofList, ← List.eq_replicate_of_mem all, tail]

theorem split_replicate (c : Char) (count : Nat) :
    split c (String.ofList (List.replicate count c)) = List.replicate (count + 1) "" := by
  induction count with
  | zero => exact split_clean (by simp)
  | succ count ih =>
      have first : (String.ofList (List.replicate (count + 1) c)).toList =
          [] ++ c :: List.replicate count c := by simp [List.replicate_succ]
      rw [split_append_cons first, ih]
      exact congrArg (· ++ _) (split_clean (by simp))

end Library.Text
