import SwiyuIssuer.Library.Percent
import Mathlib.Algebra.GroupWithZero.Nat
import Mathlib.Data.List.Flatten

/-! The path of an `http` or `https` URL as the URL standard reads it, and which texts come out of
it as the segments that they were joined from. -/

namespace Library.UrlPath

open Percent

def isC0OrSpace (c : Char) : Bool := c.toNat ≤ 0x20

def isTabOrNewline (c : Char) : Bool := c == '\t' || c == '\n' || c == '\r'

def isSlash (c : Char) : Bool := c == '/' || c == '\\'

def endsPath (c : Char) : Bool := c == '?' || c == '#'

/-- The input without what the parser strips before it starts. -/
def cleaned (text : List Char) : List Char :=
  (text.rdropWhile isC0OrSpace).filter fun c => !isTabOrNewline c

def dots : List (List UInt8) := [".", "%2e", "%2E"].map Text.asBytes

def doubleDots : List (List UInt8) :=
  ["..", ".%2e", ".%2E", "%2e.", "%2E.", "%2e%2e", "%2e%2E", "%2E%2e", "%2E%2E"].map Text.asBytes

/-- What the path state makes of one piece; `last` is a piece with no slash after it. -/
def enter (set : EncodeSet) (path : List (List UInt8)) (piece : List Char) (last : Bool) :
    List (List UInt8) :=
  let buffer := encode set piece
  if buffer ∈ doubleDots then path.dropLast ++ if last then [[]] else []
  else if buffer ∈ dots then path ++ if last then [[]] else []
  else path ++ [buffer]

def walk (set : EncodeSet) : List (List UInt8) → List (List Char) → List (List UInt8)
  | path, [] => path
  | path, piece :: rest => walk set (enter set path piece rest.isEmpty) rest

/-- The segments of a path as they are sent, and the query text before its own encoding. -/
structure Parsed where
  segments : List (List UInt8)
  query : Option (List Char)
deriving DecidableEq, Repr

def queryOf : List Char → Option (List Char)
  | '?' :: rest => some (rest.takeWhile (· != '#'))
  | _ => none

/-- What follows the first slash after the authority. -/
def parse (set : EncodeSet) (text : List Char) : Parsed :=
  let input := cleaned text
  { segments := walk set [] ((input.takeWhile fun c => !endsPath c).splitOnP isSlash)
    query := queryOf (input.dropWhile fun c => !endsPath c) }

def joined (segments : List (List Char)) : List Char := ['/'].intercalate segments

/-- A text that the parser takes for one segment, and the reader of the segment for the same text. -/
structure Plain (segment : List Char) : Prop where
  whole : ∀ c ∈ segment, isSlash c = false ∧ endsPath c = false ∧ isTabOrNewline c = false
  unescaped : hasEscape segment = false
  named : segment ≠ ['.'] ∧ segment ≠ ['.', '.']

theorem plain_iff {segment : List Char} :
    Plain segment ↔
      (segment.all fun c => !isSlash c && !endsPath c && !isTabOrNewline c) = true ∧
        hasEscape segment = false ∧ segment ≠ ['.'] ∧ segment ≠ ['.', '.'] := by
  constructor
  · intro plain
    refine ⟨List.all_eq_true.mpr fun c member => ?_, plain.unescaped, plain.named⟩
    simp [plain.whole c member]
  · rintro ⟨whole, unescaped, named⟩
    refine ⟨fun c member => ?_, unescaped, named⟩
    simpa [and_assoc] using List.all_eq_true.mp whole c member

instance (segment : List Char) : Decidable (Plain segment) := decidable_of_iff' _ plain_iff

theorem joined_cons (first : List Char) {rest : List (List Char)} (more : rest ≠ []) :
    joined (first :: rest) = first ++ '/' :: joined rest := by
  rw [joined, List.intercalate_cons_of_ne_nil more, List.append_assoc]
  rfl

section Weights

/-- The bytes of a path: those of its segments and the slash before each of them. -/
def weight (segments : List (List UInt8)) : Nat := (segments.map fun bytes => bytes.length + 1).sum

@[simp] theorem weight_nil : weight [] = 0 := rfl

@[simp] theorem weight_cons (bytes : List UInt8) (rest : List (List UInt8)) :
    weight (bytes :: rest) = bytes.length + 1 + weight rest := by
  simp [weight]

@[simp] theorem weight_append (front back : List (List UInt8)) :
    weight (front ++ back) = weight front + weight back := by
  simp [weight]

theorem weight_dropLast_le (segments : List (List UInt8)) :
    weight segments.dropLast ≤ weight segments := by
  cases segments using List.reverseRecOn with
  | nil => exact Nat.le_refl _
  | append_singleton front last =>
      rw [List.dropLast_concat, weight_append]
      exact Nat.le_add_right _ _

theorem length_utf8EncodeChar_slash {c : Char} (slash : isSlash c = true) :
    (String.utf8EncodeChar c).length = 1 := by
  rcases Bool.or_eq_true_iff.mp slash with same | same
  · rw [eq_of_beq same]
    rfl
  · rw [eq_of_beq same]
    rfl

/-- Cutting a text at its slashes loses no byte. -/
theorem weight_splitOnP (text : List Char) :
    weight ((text.splitOnP isSlash).map utf8) = (utf8 text).length + 1 := by
  induction text with
  | nil => rfl
  | cons c rest ih =>
      rw [List.splitOnP_cons_eq_if_modifyHead]
      cases slash : isSlash c with
      | true =>
          have single := length_utf8EncodeChar_slash slash
          simp only [if_true, List.map_cons, weight_cons, utf8_nil, utf8_cons, List.length_nil,
            List.length_append, ih]
          omega
      | false =>
          obtain ⟨head, others, pieces⟩ :=
            List.exists_cons_of_ne_nil (List.splitOnP_ne_nil isSlash rest)
          rw [pieces, List.map_cons, weight_cons] at ih
          rw [pieces]
          simp only [Bool.false_eq_true, if_false, List.modifyHead_cons, List.map_cons, weight_cons,
            utf8_cons, List.length_append]
          omega

theorem weight_joined {segments : List (List Char)} (some : segments ≠ []) :
    weight (segments.map utf8) = (utf8 (joined segments)).length + 1 := by
  induction segments with
  | nil => exact absurd rfl some
  | cons first rest ih =>
      cases rest with
      | nil => simp [joined, List.intercalate_singleton]
      | cons second others =>
          have later := ih (by simp)
          have slash : (String.utf8EncodeChar '/').length = 1 := rfl
          rw [List.map_cons, weight_cons, later, joined_cons first (by simp), utf8_append]
          simp only [utf8_cons, List.length_append, slash]
          omega

theorem length_utf8_le {part whole : List Char} (sublist : part.Sublist whole) :
    (utf8 part).length ≤ (utf8 whole).length :=
  (sublist.flatMap String.utf8EncodeChar).length_le

/-- A part of a text that is as long in bytes is the whole text. -/
theorem eq_of_sublist {part whole : List Char} (sublist : part.Sublist whole)
    (long : (utf8 whole).length ≤ (utf8 part).length) : part = whole := by
  induction sublist with
  | slnil => rfl
  | cons c rest _ =>
      have shorter := length_utf8_le rest
      have positive := Char.utf8Size_pos c
      simp only [utf8_cons, List.length_append, String.length_utf8EncodeChar] at long
      omega
  | cons_cons c rest ih =>
      simp only [utf8_cons, List.length_append, String.length_utf8EncodeChar] at long
      rw [ih (by omega)]

end Weights

section Walk

variable (set : EncodeSet)

/-- A piece that stays where it is and is read back. -/
structure Steady (piece : List Char) : Prop where
  single : encode set piece ∉ dots
  double : encode set piece ∉ doubleDots
  unescaped : hasEscape piece = false

theorem decode_dots {buffer : List UInt8} (listed : buffer ∈ dots) :
    decode buffer = utf8 ['.'] := by
  have all : ∀ buffer ∈ dots, decode buffer = utf8 ['.'] := by decide
  exact all buffer listed

theorem decode_doubleDots {buffer : List UInt8} (listed : buffer ∈ doubleDots) :
    decode buffer = utf8 ['.', '.'] := by
  have all : ∀ buffer ∈ doubleDots, decode buffer = utf8 ['.', '.'] := by decide
  exact all buffer listed

theorem Plain.steady {piece : List Char} (plain : Plain piece) : Steady set piece := by
  have back := decode_encode set plain.unescaped
  constructor
  case single =>
    intro listed
    exact plain.named.1 (utf8_injective (back.symm.trans (decode_dots listed)))
  case double =>
    intro listed
    exact plain.named.2 (utf8_injective (back.symm.trans (decode_doubleDots listed)))
  case unescaped => exact plain.unescaped

theorem Steady.named {piece : List Char} (steady : Steady set piece) :
    piece ≠ ['.'] ∧ piece ≠ ['.', '.'] := by
  have dot : ∀ c ∈ ['.', '.'], isUnreserved c = true := List.all_eq_true.mp rfl
  constructor
  · rintro rfl
    apply steady.single
    rw [encode_unreserved set fun c listed => dot c (List.mem_cons_of_mem _ listed)]
    decide
  · rintro rfl
    apply steady.double
    rw [encode_unreserved set dot]
    decide

theorem map_decode {pieces : List (List Char)} (steady : ∀ piece ∈ pieces, Steady set piece) :
    (pieces.map (encode set)).map decode = pieces.map utf8 := by
  rw [List.map_map]
  apply List.map_congr_left
  intro piece listed
  exact decode_encode set (steady piece listed).unescaped

/-- A steady piece becomes a segment; any other one costs some bytes. -/
theorem enter_cases (path : List (List UInt8)) (piece : List Char) (last : Bool) :
    (Steady set piece ∧ enter set path piece last = path ++ [encode set piece]) ∨
      (¬Steady set piece ∧ weight ((enter set path piece last).map decode) <
        weight (path.map decode) + (utf8 piece).length + 1) := by
  have shorter := length_decode_le set piece
  have tail : weight ((if last then [([] : List UInt8)] else []).map decode) ≤ 1 := by
    cases last <;> simp
  by_cases double : encode set piece ∈ doubleDots
  · right
    refine ⟨fun steady => steady.double double, ?_⟩
    have dropped := weight_dropLast_le (path.map decode)
    rw [decode_doubleDots double] at shorter
    have two : (utf8 ['.', '.']).length = 2 := rfl
    rw [enter, if_pos double, List.map_append, weight_append, List.map_dropLast]
    omega
  · by_cases single : encode set piece ∈ dots
    · right
      refine ⟨fun steady => steady.single single, ?_⟩
      rw [decode_dots single] at shorter
      have one : (utf8 ['.']).length = 1 := rfl
      rw [enter, if_neg double, if_pos single, List.map_append, weight_append]
      omega
    · rw [enter, if_neg double, if_neg single]
      cases escaped : hasEscape piece with
      | false => exact .inl ⟨⟨single, double, escaped⟩, rfl⟩
      | true =>
          right
          refine ⟨fun steady => by simp [steady.unescaped] at escaped, ?_⟩
          have lost := length_decode_lt set escaped
          simp only [List.map_append, List.map_cons, List.map_nil, weight_append, weight_cons,
            weight_nil]
          omega

/-- Steady pieces all become segments; any other piece costs some bytes. -/
theorem walk_cases (path : List (List UInt8)) (pieces : List (List Char)) :
    ((∀ piece ∈ pieces, Steady set piece) ∧ walk set path pieces = path ++ pieces.map (encode set)) ∨
      ((¬∀ piece ∈ pieces, Steady set piece) ∧ weight ((walk set path pieces).map decode) <
        weight (path.map decode) + weight (pieces.map utf8)) := by
  induction pieces generalizing path with
  | nil => exact .inl ⟨by simp, by simp [walk]⟩
  | cons piece rest ih =>
      rw [walk, List.forall_mem_cons, List.map_cons, List.map_cons, weight_cons]
      rcases enter_cases set path piece rest.isEmpty with ⟨steady, entered⟩ | ⟨unsteady, lost⟩
      · rw [entered]
        rcases ih (path ++ [encode set piece]) with ⟨others, walked⟩ | ⟨broken, lost⟩
        · exact .inl ⟨⟨steady, others⟩, by rw [walked, List.append_assoc]; rfl⟩
        · right
          refine ⟨fun all => broken all.2, ?_⟩
          simp only [List.map_append, List.map_cons, List.map_nil, weight_append, weight_cons,
            weight_nil, decode_encode set steady.unescaped] at lost
          omega
      · right
        refine ⟨fun all => unsteady all.1, ?_⟩
        -- what one piece has lost, no later one brings back
        rcases ih (enter set path piece rest.isEmpty) with ⟨others, walked⟩ | ⟨_, later⟩
        · rw [walked, List.map_append, weight_append, map_decode set others]
          omega
        · omega

end Walk

section Parse

/-- The text does not end in a character that the parser strips. -/
def Ends (text : List Char) : Prop := ∀ c ∈ text.getLast?, isC0OrSpace c = false

/-- The last segment does not end in a character that the parser strips. -/
def Closed (segments : List (List Char)) : Prop := ∀ last ∈ segments.getLast?, Ends last

theorem rdropWhile_iff (text : List Char) : text.rdropWhile isC0OrSpace = text ↔ Ends text := by
  rw [List.rdropWhile_eq_self_iff]
  constructor
  · intro kept c last
    obtain ⟨some, rfl⟩ := List.mem_getLast?_eq_getLast last
    simpa using kept some
  · intro ends some
    simpa using ends _ (List.getLast?_eq_some_getLast some)

theorem ends_append (front : List Char) {back : List Char} (some : back ≠ []) :
    Ends (front ++ back) ↔ Ends back := by
  obtain ⟨last, at_⟩ := Option.isSome_iff_exists.mp (List.getLast?_isSome.mpr some)
  simp [Ends, List.getLast?_append, at_]

theorem ends_slash (text : List Char) : Ends ('/' :: text) ↔ Ends text := by
  cases text with
  | nil => simp [Ends, isC0OrSpace]
  | cons c rest => simp [Ends]

theorem ends_joined {segments : List (List Char)} (some : segments ≠ []) :
    Ends (joined segments) ↔ Closed segments := by
  induction segments with
  | nil => exact absurd rfl some
  | cons first rest ih =>
      cases rest with
      | nil => simp [joined, Closed]
      | cons second others =>
          rw [joined_cons first (by simp), ends_append _ (by simp), ends_slash, ih (by simp)]
          simp [Closed]

theorem isUnreserved_of_ne {c d : Char} (plain : isUnreserved c = true)
    (reserved : isUnreserved d = false) : c ≠ d := by
  rintro rfl
  rw [plain] at reserved
  cases reserved

theorem plain_of_unreserved {segment : List Char} (all : ∀ c ∈ segment, isUnreserved c = true)
    (named : segment ≠ ['.'] ∧ segment ≠ ['.', '.']) : Plain segment where
  whole c member := by
    have differs := fun d => isUnreserved_of_ne (d := d) (all c member)
    simp [isSlash, endsPath, isTabOrNewline, differs '/' (by decide), differs '\\' (by decide),
      differs '?' (by decide), differs '#' (by decide), differs '\t' (by decide),
      differs '\n' (by decide), differs '\r' (by decide)]
  unescaped := hasEscape_eq_false fun c member => isUnreserved_of_ne (all c member) (by decide)
  named := named

theorem ends_of_unreserved {text : List Char} (all : ∀ c ∈ text, isUnreserved c = true) :
    Ends text := by
  intro c last
  have code := isUnreserved_iff.mp (all c (List.mem_of_getLast? last))
  simp only [isC0OrSpace, decide_eq_false_iff_not]
  omega

theorem forall_joined {p : Char → Bool} (slash : p '/' = false) (segments : List (List Char)) :
    (∀ c ∈ joined segments, p c = false) ↔ ∀ segment ∈ segments, ∀ c ∈ segment, p c = false := by
  induction segments with
  | nil => simp [joined]
  | cons first rest ih =>
      cases rest with
      | nil => simp [joined]
      | cons second others =>
          rw [joined_cons first (by simp), List.forall_mem_append, List.forall_mem_cons, ih,
            and_iff_right slash]
          simp only [List.mem_cons, forall_eq_or_imp]

theorem splitOnP_joined {segments : List (List Char)} (some : segments ≠ [])
    (whole : ∀ segment ∈ segments, ∀ c ∈ segment, isSlash c = false) :
    (joined segments).splitOnP isSlash = segments := by
  induction segments with
  | nil => exact absurd rfl some
  | cons first rest ih =>
      obtain ⟨clean, others⟩ := List.forall_mem_cons.mp whole
      cases rest with
      | nil =>
          rw [joined, List.intercalate_singleton]
          exact List.splitOnP_eq_singleton clean
      | cons second tail =>
          rw [joined_cons first (by simp),
            List.splitOnP_append_cons_of_forall_mem clean '/' rfl, ih (by simp) others]

/-- The characters of a text up to the end of its path, as the parser sees them. -/
def visible (text : List Char) : List Char := (cleaned text).takeWhile fun c => !endsPath c

theorem visible_sublist (text : List Char) : (visible text).Sublist text :=
  (List.takeWhile_sublist _).trans
    (List.filter_sublist.trans (List.rdropWhile_prefix isC0OrSpace text).sublist)

theorem cleaned_eq {text : List Char} (ends : Ends text)
    (clean : ∀ c ∈ text, isTabOrNewline c = false) : cleaned text = text := by
  rw [cleaned, (rdropWhile_iff text).mpr ends, List.filter_eq_self]
  simpa using clean

/-- The parser sees all of a text when nothing is stripped from it and nothing ends its path. -/
theorem visible_iff (text : List Char) :
    visible text = text ↔
      Ends text ∧ (∀ c ∈ text, isTabOrNewline c = false) ∧ ∀ c ∈ text, endsPath c = false := by
  constructor
  · intro whole
    have sees : text.Sublist (cleaned text) := by
      have part := List.takeWhile_sublist (l := cleaned text) fun c => !endsPath c
      rwa [show (cleaned text).takeWhile (fun c => !endsPath c) = text from whole] at part
    have kept : text.Sublist (text.rdropWhile isC0OrSpace) := sees.trans List.filter_sublist
    have ends : text.rdropWhile isC0OrSpace = text :=
      (List.rdropWhile_prefix isC0OrSpace text).sublist.antisymm kept
    have clean : cleaned text = text := by
      apply List.Sublist.antisymm _ sees
      rw [cleaned, ends]
      exact List.filter_sublist
    rw [visible, clean, List.takeWhile_eq_self_iff] at whole
    rw [cleaned, ends, List.filter_eq_self] at clean
    refine ⟨(rdropWhile_iff text).mp ends, ?_, ?_⟩
    · simpa using clean
    · simpa using whole
  · rintro ⟨ends, clean, whole⟩
    rw [visible, cleaned_eq ends clean, List.takeWhile_eq_self_iff]
    simpa using whole

variable (set : EncodeSet)

theorem parse_segments (text : List Char) :
    (parse set text).segments = walk set [] ((visible text).splitOnP isSlash) := rfl

/-- Plain segments come back one by one. -/
theorem parse_joined {segments : List (List Char)} (some : segments ≠ [])
    (plain : ∀ segment ∈ segments, Plain segment) (closed : Closed segments) :
    parse set (joined segments) = ⟨segments.map (encode set), none⟩ := by
  have clean : ∀ c ∈ joined segments, isTabOrNewline c = false :=
    (forall_joined rfl segments).mpr fun segment listed c member =>
      ((plain segment listed).whole c member).2.2
  have whole : ∀ c ∈ joined segments, endsPath c = false :=
    (forall_joined rfl segments).mpr fun segment listed c member =>
      ((plain segment listed).whole c member).2.1
  have ends := (ends_joined some).mpr closed
  have pieces : (joined segments).splitOnP isSlash = segments :=
    splitOnP_joined some fun segment listed c member => ((plain segment listed).whole c member).1
  have walked : walk set [] segments = segments.map (encode set) := by
    rcases walk_cases set [] segments with ⟨_, walked⟩ | ⟨broken, _⟩
    · exact walked
    · exact absurd (fun piece listed => (plain piece listed).steady set) broken
  have rest : (joined segments).dropWhile (fun c => !endsPath c) = [] := by
    rw [List.dropWhile_eq_nil_iff]
    simpa using whole
  have seen := (visible_iff _).mpr ⟨ends, clean, whole⟩
  rw [visible, cleaned_eq ends clean] at seen
  rw [parse, cleaned_eq ends clean, seen, rest, pieces, walked]
  rfl

/-- The reader of the segments finds what was joined exactly when it was plain. -/
theorem parse_joined_iff {segments : List (List Char)} (some : segments ≠ []) :
    (parse set (joined segments)).segments.map decode = segments.map utf8 ↔
      (∀ segment ∈ segments, Plain segment) ∧ Closed segments := by
  constructor
  · intro read
    rw [parse_segments] at read
    have bytes := length_utf8_le (visible_sublist (joined segments))
    have joined_weight := weight_joined some
    have pieces_weight := weight_splitOnP (visible (joined segments))
    rcases walk_cases set [] ((visible (joined segments)).splitOnP isSlash) with
      ⟨steady, walked⟩ | ⟨_, lost⟩
    · -- no byte is lost, so the parser has seen the whole text and kept its pieces
      rw [walked, List.nil_append, map_decode set steady] at read
      have pieces : (visible (joined segments)).splitOnP isSlash = segments :=
        utf8_injective.list_map read
      rw [read, joined_weight] at pieces_weight
      have seen := eq_of_sublist (visible_sublist (joined segments)) (by omega)
      obtain ⟨ends, clean, whole⟩ := (visible_iff _).mp seen
      rw [forall_joined rfl] at clean whole
      refine ⟨fun segment listed => ?_, (ends_joined some).mp ends⟩
      rw [← pieces] at listed
      constructor
      case whole =>
        intro c member
        have original := pieces ▸ listed
        exact ⟨Text.splitOnP_clean listed c member, whole segment original c member,
          clean segment original c member⟩
      case unescaped => exact (steady segment listed).unescaped
      case named => exact (steady segment listed).named
    · rw [read, joined_weight, pieces_weight, List.map_nil, weight_nil] at lost
      omega
  · rintro ⟨plain, closed⟩
    rw [parse_joined set some plain closed]
    exact map_decode set fun segment listed => (plain segment listed).steady set

end Parse

end Library.UrlPath
