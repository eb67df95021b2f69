import SwiyuIssuer.Domain.Json
import Mathlib.Data.List.Basic
import Mathlib.Data.List.TakeWhile
import Mathlib.Tactic.SplitIfs

/-! JSON texts: the compact form that `serde_json` writes, and a reader that gets the value back. -/

namespace SwiyuIssuer.Json

theorem induct {motive : Json → Prop} (null : motive null) (bool : ∀ value, motive (bool value))
    (number : ∀ text, motive (number text)) (string : ∀ text, motive (string text))
    (array : ∀ items, (∀ item ∈ items, motive item) → motive (array items))
    (object : ∀ members, (∀ member ∈ members, motive member.2) → motive (object members)) :
    ∀ value, motive value := by
  intro value
  apply @Json.rec motive (fun items => ∀ item ∈ items, motive item)
    (fun members => ∀ member ∈ members, motive member.2) (fun member => motive member.2)
  · exact null
  · exact bool
  · exact number
  · exact string
  · exact array
  · exact object
  · simp
  · intro head tail first rest item member
    rcases List.mem_cons.mp member with rfl | later
    · exact first
    · exact rest item later
  · simp
  · intro head tail first rest item member
    rcases List.mem_cons.mp member with rfl | later
    · exact first
    · exact rest item later
  · exact fun name value held => held

def hexDigit (value : Nat) : Char := "0123456789abcdef".toList.getD value '0'

def escape (c : Char) : List Char :=
  if c = '"' then ['\\', '"']
  else if c = '\\' then ['\\', '\\']
  else if c = '\n' then ['\\', 'n']
  else if c = '\r' then ['\\', 'r']
  else if c = '\t' then ['\\', 't']
  else if c.toNat = 8 then ['\\', 'b']
  else if c.toNat = 12 then ['\\', 'f']
  else if c.toNat < 32 then ['\\', 'u', '0', '0', hexDigit (c.toNat / 16), hexDigit (c.toNat % 16)]
  else [c]

/-- The text behind its opening quotation mark. -/
def quoteBody (text : String) : List Char := text.toList.flatMap escape ++ ['"']

mutual

def write : Json → List Char
  | null => ['n', 'u', 'l', 'l']
  | bool true => ['t', 'r', 'u', 'e']
  | bool false => ['f', 'a', 'l', 's', 'e']
  | number text => text.toList
  | string text => '"' :: quoteBody text
  | array items => '[' :: writeItems items
  | object members => '{' :: writeMembers members

/-- The items of an array, and its closing bracket. -/
def writeItems : List Json → List Char
  | [] => [']']
  | [item] => write item ++ [']']
  | item :: rest => write item ++ ',' :: writeItems rest

def writeMembers : List (String × Json) → List Char
  | [] => ['}']
  | [(name, value)] => '"' :: quoteBody name ++ ':' :: write value ++ ['}']
  | (name, value) :: rest =>
      '"' :: quoteBody name ++ ':' :: write value ++ ',' :: writeMembers rest

end

/-- `to_string`. -/
def toText (value : Json) : String := String.ofList value.write

def isNumberChar (c : Char) : Bool :=
  c.isDigit || c == '-' || c == '+' || c == '.' || c == 'e' || c == 'E'

mutual

/-- Every number of the value is spelled with the characters of a number. -/
def isSpelled : Json → Bool
  | number text => text.toList ≠ [] && text.toList.all isNumberChar
  | array items => itemsSpelled items
  | object members => membersSpelled members
  | _ => true

def itemsSpelled : List Json → Bool
  | [] => true
  | item :: rest => isSpelled item && itemsSpelled rest

def membersSpelled : List (String × Json) → Bool
  | [] => true
  | (_, value) :: rest => isSpelled value && membersSpelled rest

end

def hexValue (c : Char) : Option Nat :=
  "0123456789abcdef".toList.idxOf? c

def readHex (a b c d : Char) : Option Nat := do
  let a ← hexValue a
  let b ← hexValue b
  let c ← hexValue c
  let d ← hexValue d
  return a * 4096 + b * 256 + c * 16 + d

/-- A text behind its opening quotation mark, and what follows it. No writer escapes a character
that would need a pair of surrogates. -/
def readString : List Char → Option (List Char × List Char)
  | [] => none
  | '"' :: rest => some ([], rest)
  | '\\' :: 'u' :: a :: b :: c :: d :: rest => do
      let code ← readHex a b c d
      let (text, rest) ← readString rest
      return (Char.ofNat code :: text, rest)
  | '\\' :: c :: rest => do
      let escaped ←
        if c = '"' ∨ c = '\\' ∨ c = '/' then some c
        else if c = 'n' then some '\n'
        else if c = 'r' then some '\r'
        else if c = 't' then some '\t'
        else if c = 'b' then some (Char.ofNat 8)
        else if c = 'f' then some (Char.ofNat 12)
        else none
      let (text, rest) ← readString rest
      return (escaped :: text, rest)
  | c :: rest =>
      if c.toNat < 32 then none
      else do
        let (text, rest) ← readString rest
        return (c :: text, rest)

def isSpace (c : Char) : Bool := c == ' ' || c == '\n' || c == '\r' || c == '\t'

def skipSpace (chars : List Char) : List Char := chars.dropWhile isSpace

def keyword (word : List Char) (value : Json) (chars : List Char) : Option (Json × List Char) :=
  (word.isPrefixOf? chars).map fun rest => (value, rest)

def readNumber (chars : List Char) : Option (Json × List Char) :=
  match chars.takeWhile isNumberChar with
  | [] => none
  | digits => some (number (String.ofList digits), chars.dropWhile isNumberChar)

mutual

/-- The value that the characters begin with, and what follows it. -/
def readValue : Nat → List Char → Option (Json × List Char)
  | 0, _ => none
  | fuel + 1, chars =>
      match skipSpace chars with
      | '"' :: rest => (readString rest).map fun (text, rest) => (string (String.ofList text), rest)
      | '[' :: rest => readItems fuel rest
      | '{' :: rest => readMembers fuel rest
      | 'n' :: rest => keyword ['u', 'l', 'l'] null rest
      | 't' :: rest => keyword ['r', 'u', 'e'] (bool true) rest
      | 'f' :: rest => keyword ['a', 'l', 's', 'e'] (bool false) rest
      | chars => readNumber chars

/-- An array behind its opening bracket. -/
def readItems : Nat → List Char → Option (Json × List Char)
  | 0, _ => none
  | fuel + 1, chars =>
      match skipSpace chars with
      | ']' :: rest => some (array [], rest)
      | _ => (readRest fuel chars).map fun (items, rest) => (array items, rest)

/-- At least one item, and the closing bracket. -/
def readRest : Nat → List Char → Option (List Json × List Char)
  | 0, _ => none
  | fuel + 1, chars => do
      let (item, rest) ← readValue fuel chars
      match skipSpace rest with
      | ']' :: rest => return ([item], rest)
      | ',' :: rest => do
          let (items, rest) ← readRest fuel rest
          return (item :: items, rest)
      | _ => none

def readMembers : Nat → List Char → Option (Json × List Char)
  | 0, _ => none
  | fuel + 1, chars =>
      match skipSpace chars with
      | '}' :: rest => some (object [], rest)
      | _ => (readMore fuel chars).map fun (members, rest) => (object members, rest)

def readMore : Nat → List Char → Option (List (String × Json) × List Char)
  | 0, _ => none
  | fuel + 1, chars =>
      match skipSpace chars with
      | '"' :: rest => do
          let (name, rest) ← readString rest
          match skipSpace rest with
          | ':' :: rest => do
              let (value, rest) ← readValue fuel rest
              match skipSpace rest with
              | '}' :: rest => return ([(String.ofList name, value)], rest)
              | ',' :: rest => do
                  let (members, rest) ← readMore fuel rest
                  return ((String.ofList name, value) :: members, rest)
              | _ => none
          | _ => none
      | _ => none

end

/-- `from_str`, which refuses anything behind the value. -/
def ofText (text : String) : Option Json := do
  let (value, rest) ← readValue (2 * text.toList.length + 2) text.toList
  match skipSpace rest with
  | [] => return value
  | _ => none

theorem hexValue_hexDigit {value : Nat} (small : value < 16) :
    hexValue (hexDigit value) = some value := by
  have table : ∀ n : Fin 16, hexValue (hexDigit n) = some n.val := by decide
  exact table ⟨value, small⟩

theorem bind_prepended (c : Char) (read : Option (List Char × List Char)) :
    (read.bind fun found => some (c :: found.1, found.2)) =
      read.map fun found => (c :: found.1, found.2) := Option.map_eq_bind.symm

theorem readString_escape (c : Char) (rest : List Char) :
    readString (escape c ++ rest) = (readString rest).map fun (text, rest) => (c :: text, rest) := by
  unfold escape
  split_ifs with quote backslash newline return_ tab backspace formfeed control
  · subst quote
    simp [readString, bind_prepended]
  · subst backslash
    simp [readString, bind_prepended]
  · subst newline
    simp [readString, bind_prepended]
  · subst return_
    simp [readString, bind_prepended]
  · subst tab
    simp [readString, bind_prepended]
  · have same : c = Char.ofNat 8 := backspace ▸ (Char.ofNat_toNat c).symm
    simp [readString, bind_prepended, same]
  · have same : c = Char.ofNat 12 := formfeed ▸ (Char.ofNat_toNat c).symm
    simp [readString, bind_prepended, same]
  · have high := hexValue_hexDigit (by omega : c.toNat / 16 < 16)
    have low := hexValue_hexDigit (by omega : c.toNat % 16 < 16)
    have zero : hexValue '0' = some 0 := rfl
    have same : Char.ofNat (c.toNat / 16 * 16 + c.toNat % 16) = c := by
      rw [show c.toNat / 16 * 16 + c.toNat % 16 = c.toNat by omega, Char.ofNat_toNat]
    simp [readString, readHex, high, low, zero, bind_prepended, same]
  · rw [List.singleton_append, readString.eq_def]
    split
    · next absurd_ => cases absurd_
    · next found =>
        cases found
        exact absurd rfl quote
    · next found =>
        cases found
        exact absurd rfl backslash
    · next found =>
        cases found
        exact absurd rfl backslash
    · next found =>
        cases found
        simp [control, bind_prepended]

theorem readString_quoteBody (text : String) (rest : List Char) :
    readString (quoteBody text ++ rest) = some (text.toList, rest) := by
  have chars : ∀ chars : List Char,
      readString (chars.flatMap escape ++ ['"'] ++ rest) = some (chars, rest) := by
    intro chars
    induction chars with
    | nil => rfl
    | cons c chars ih =>
        rw [List.flatMap_cons, List.append_assoc, List.append_assoc, readString_escape,
          ← List.append_assoc, ih]
        rfl
  exact chars text.toList

/-- What may follow a number. -/
def Delimits (rest : List Char) : Prop := ∀ c tail, rest = c :: tail → isNumberChar c = false

theorem readNumber_text {text : String} {rest : List Char} (some_ : text.toList ≠ [])
    (spelled : ∀ c ∈ text.toList, isNumberChar c = true) (delimits : Delimits rest) :
    readNumber (text.toList ++ rest) = some (number text, rest) := by
  have stop : rest.takeWhile isNumberChar = [] ∧ rest.dropWhile isNumberChar = rest := by
    cases rest with
    | nil => exact ⟨rfl, rfl⟩
    | cons c tail => simp [delimits c tail rfl]
  rw [readNumber, List.takeWhile_append_of_pos spelled, List.dropWhile_append_of_pos spelled,
    stop.1, stop.2, List.append_nil]
  split
  · next empty => exact absurd empty some_
  · rw [String.ofList_toList]

/-- How a written value begins. -/
structure Opens (c : Char) : Prop where
  space : isSpace c = false
  array : c ≠ ']'
  object : c ≠ '}'

theorem opens_of_isNumberChar {c : Char} (digit : isNumberChar c = true) : Opens c := by
  constructor
  · by_contra spaced
    rw [Bool.not_eq_false, isSpace] at spaced
    simp only [Bool.or_eq_true, beq_iff_eq] at spaced
    rcases spaced with ((rfl | rfl) | rfl) | rfl <;> cases digit
  · rintro rfl
    cases digit
  · rintro rfl
    cases digit

theorem write_opens {value : Json} (spelled : value.isSpelled = true) :
    ∃ c rest, value.write = c :: rest ∧ Opens c := by
  cases value with
  | null => exact ⟨_, _, rfl, by constructor <;> decide⟩
  | bool value => cases value <;> exact ⟨_, _, rfl, by constructor <;> decide⟩
  | number text =>
      simp only [isSpelled, Bool.and_eq_true, decide_eq_true_eq, List.all_eq_true] at spelled
      obtain ⟨c, rest, chars⟩ := List.exists_cons_of_ne_nil spelled.1
      exact ⟨c, rest, chars, opens_of_isNumberChar (spelled.2 c (by rw [chars]; simp))⟩
  | string text => exact ⟨_, _, rfl, by constructor <;> decide⟩
  | array items => exact ⟨_, _, rfl, by constructor <;> decide⟩
  | object members => exact ⟨_, _, rfl, by constructor <;> decide⟩

theorem skipSpace_opens {c : Char} {rest : List Char} (opens : Opens c) :
    skipSpace (c :: rest) = c :: rest := by
  rw [skipSpace, List.dropWhile_cons, opens.space]
  rfl

/-- The reader gets the value back, whatever follows its text. -/
def ReadsBack (value : Json) : Prop :=
  value.isSpelled = true → ∀ fuel rest, 2 * value.write.length ≤ fuel → Delimits rest →
    readValue fuel (value.write ++ rest) = some (value, rest)

theorem write_length {value : Json} (spelled : value.isSpelled = true) : 0 < value.write.length := by
  rcases write_opens spelled with ⟨c, rest, chars, _⟩
  rw [chars, List.length_cons]
  exact Nat.succ_pos _

theorem delimits_cons {c : Char} {rest : List Char} (other : isNumberChar c = false) :
    Delimits (c :: rest) := by
  rintro d tail same
  cases same
  exact other

theorem writeItems_cons (item next : Json) (items : List Json) :
    writeItems (item :: next :: items) = item.write ++ ',' :: writeItems (next :: items) := by
  simp [writeItems]

theorem writeMembers_cons (name : String) (value : Json) (next : String × Json)
    (members : List (String × Json)) : writeMembers ((name, value) :: next :: members) =
      '"' :: quoteBody name ++ ':' :: value.write ++ ',' :: writeMembers (next :: members) := by
  simp [writeMembers]

theorem writeItems_length (items : List Json) : 0 < (writeItems items).length := by
  cases items with
  | nil => simp [writeItems]
  | cons item items =>
      cases items with
      | nil => simp [writeItems]
      | cons next items =>
          rw [writeItems_cons, List.length_append, List.length_cons]
          omega

theorem writeMembers_length (members : List (String × Json)) :
    0 < (writeMembers members).length := by
  cases members with
  | nil => simp [writeMembers]
  | cons member members => cases members <;> simp [writeMembers]

theorem writeItems_opens {item : Json} {items : List Json}
    (spelled : itemsSpelled (item :: items) = true) :
    ∃ c rest, writeItems (item :: items) = c :: rest ∧ Opens c := by
  simp only [itemsSpelled, Bool.and_eq_true] at spelled
  rcases write_opens spelled.1 with ⟨c, rest, chars, opens⟩
  cases items with
  | nil => exact ⟨c, rest ++ [']'], by simp [writeItems, chars], opens⟩
  | cons next items =>
      refine ⟨c, rest ++ ',' :: writeItems (next :: items), ?_, opens⟩
      rw [writeItems_cons, chars, List.cons_append]

theorem writeMembers_quote (member : String × Json) (members : List (String × Json)) :
    ∃ rest, writeMembers (member :: members) = '"' :: rest := by
  cases members <;> simp [writeMembers]

theorem readRest_writeItems {items : List Json} (reads : ∀ item ∈ items, ReadsBack item)
    (spelled : itemsSpelled items = true) (some_ : items ≠ []) (fuel : Nat) (rest : List Char)
    (fueled : 2 * (writeItems items).length ≤ fuel) :
    readRest fuel (writeItems items ++ rest) = some (items, rest) := by
  induction items generalizing fuel with
  | nil => exact absurd rfl some_
  | cons item items ih =>
      simp only [itemsSpelled, Bool.and_eq_true] at spelled
      have read := reads item List.mem_cons_self spelled.1
      have length := write_length spelled.1
      cases items with
      | nil =>
          simp only [writeItems, List.length_append, List.length_cons, List.length_nil] at fueled
          cases fuel with
          | zero => omega
          | succ fuel =>
              have here := read fuel (']' :: rest) (by omega) (delimits_cons rfl)
              simp [writeItems, readRest, here, skipSpace, isSpace]
      | cons next items =>
          rw [writeItems_cons, List.length_append, List.length_cons] at fueled
          cases fuel with
          | zero => omega
          | succ fuel =>
              have here := read fuel (',' :: (writeItems (next :: items) ++ rest)) (by omega)
                (delimits_cons rfl)
              have more := ih (fun other member => reads other (List.mem_cons_of_mem _ member))
                spelled.2 (by simp) fuel (by omega)
              simp [writeItems, readRest, here, more, skipSpace, isSpace]

theorem readMore_writeMembers {members : List (String × Json)}
    (reads : ∀ member ∈ members, ReadsBack member.2)
    (spelled : membersSpelled members = true) (some_ : members ≠ []) (fuel : Nat)
    (rest : List Char) (fueled : 2 * (writeMembers members).length ≤ fuel) :
    readMore fuel (writeMembers members ++ rest) = some (members, rest) := by
  induction members generalizing fuel with
  | nil => exact absurd rfl some_
  | cons member members ih =>
      rcases member with ⟨name, value⟩
      simp only [membersSpelled, Bool.and_eq_true] at spelled
      have read : ReadsBack value := reads (name, value) List.mem_cons_self
      cases members with
      | nil =>
          simp only [writeMembers, List.length_append, List.length_cons, List.length_nil] at fueled
          cases fuel with
          | zero => omega
          | succ fuel =>
              have here := read spelled.1 fuel ('}' :: rest) (by omega) (delimits_cons rfl)
              simp [writeMembers, readMore, readString_quoteBody, here, skipSpace, isSpace]
      | cons next members =>
          simp only [writeMembers_cons, List.length_append, List.length_cons] at fueled
          cases fuel with
          | zero => omega
          | succ fuel =>
              have here := read spelled.1 fuel (',' :: (writeMembers (next :: members) ++ rest))
                (by omega) (delimits_cons rfl)
              have more := ih (fun other member => reads other (List.mem_cons_of_mem _ member))
                spelled.2 (by simp) fuel (by omega)
              simp [writeMembers, readMore, readString_quoteBody, here, more, skipSpace, isSpace]

theorem readsBack_number (text : String) : ReadsBack (number text) := by
  intro spelled fuel rest fueled delimits
  have length := write_length spelled
  have opens := write_opens spelled
  simp only [isSpelled, Bool.and_eq_true, decide_eq_true_eq, List.all_eq_true] at spelled
  have read := readNumber_text spelled.1 spelled.2 delimits
  cases fuel with
  | zero => omega
  | succ fuel =>
      rcases opens with ⟨c, tail, chars, opens⟩
      rw [write] at chars ⊢
      rw [readValue, chars, List.cons_append, skipSpace_opens opens]
      have digit := spelled.2 c (by rw [chars]; simp)
      rw [chars, List.cons_append] at read
      split
      all_goals first
        | next found =>
            cases found
            cases digit
        | next found => rw [read]

theorem readItems_writeItems {items : List Json} (reads : ∀ item ∈ items, ReadsBack item)
    (spelled : itemsSpelled items = true) (fuel : Nat) (rest : List Char)
    (fueled : 2 * (writeItems items).length < fuel) :
    readItems fuel (writeItems items ++ rest) = some (array items, rest) := by
  have some_ : 0 < (writeItems items).length := writeItems_length items
  cases fuel with
  | zero => omega
  | succ fuel =>
      cases items with
      | nil => simp [writeItems, readItems, skipSpace, isSpace]
      | cons item items =>
          have all := readRest_writeItems reads spelled (by simp) fuel rest (by omega)
          rcases writeItems_opens spelled with ⟨c, tail, chars, opens⟩
          rw [chars, List.cons_append] at all ⊢
          rw [readItems, skipSpace_opens opens]
          split
          · next found =>
              cases found
              exact absurd rfl opens.array
          · rw [all]
            rfl

theorem readMembers_writeMembers {members : List (String × Json)}
    (reads : ∀ member ∈ members, ReadsBack member.2) (spelled : membersSpelled members = true)
    (fuel : Nat) (rest : List Char) (fueled : 2 * (writeMembers members).length < fuel) :
    readMembers fuel (writeMembers members ++ rest) = some (object members, rest) := by
  have some_ : 0 < (writeMembers members).length := writeMembers_length members
  cases fuel with
  | zero => omega
  | succ fuel =>
      cases members with
      | nil => simp [writeMembers, readMembers, skipSpace, isSpace]
      | cons member members =>
          have all := readMore_writeMembers reads spelled (by simp) fuel rest (by omega)
          rcases writeMembers_quote member members with ⟨tail, chars⟩
          rw [chars, List.cons_append] at all ⊢
          simp [readMembers, skipSpace, isSpace, all]

theorem readsBack (value : Json) : ReadsBack value := by
  induction value using induct with
  | null =>
      intro _ fuel rest fueled _
      cases fuel with
      | zero => simp [write] at fueled
      | succ fuel => simp [write, readValue, skipSpace, isSpace, keyword, List.isPrefixOf?]
  | bool value =>
      intro _ fuel rest fueled _
      cases fuel with
      | zero => cases value <;> simp [write] at fueled
      | succ fuel =>
          cases value <;> simp [write, readValue, skipSpace, isSpace, keyword, List.isPrefixOf?]
  | number text => exact readsBack_number text
  | string text =>
      intro _ fuel rest fueled _
      cases fuel with
      | zero => simp [write] at fueled
      | succ fuel => simp [write, readValue, skipSpace, isSpace, readString_quoteBody]
  | array items reads =>
      intro spelled fuel rest fueled _
      rw [isSpelled] at spelled
      rw [write, List.length_cons] at fueled
      cases fuel with
      | zero => omega
      | succ fuel =>
          have behind := readItems_writeItems reads spelled fuel rest (by omega)
          simpa [write, readValue, skipSpace, isSpace] using behind
  | object members reads =>
      intro spelled fuel rest fueled _
      rw [isSpelled] at spelled
      rw [write, List.length_cons] at fueled
      cases fuel with
      | zero => omega
      | succ fuel =>
          have behind := readMembers_writeMembers reads spelled fuel rest (by omega)
          simpa [write, readValue, skipSpace, isSpace] using behind

/-- What is written is read back. -/
theorem ofText_toText {value : Json} (spelled : value.isSpelled = true) :
    ofText value.toText = some value := by
  have read := readsBack value spelled (2 * value.write.length + 2) [] (by omega)
    (fun _ _ absurd_ => by cases absurd_)
  rw [List.append_nil] at read
  simp [ofText, toText, read, skipSpace]

theorem hexDigit_printable (value : Nat) : 32 ≤ (hexDigit value).toNat := by
  rw [hexDigit, List.getD_eq_getElem?_getD]
  cases found : "0123456789abcdef".toList[value]? with
  | none => decide
  | some digit =>
      have all : ("0123456789abcdef".toList.all fun digit => decide (32 ≤ digit.toNat)) = true := by
        decide
      exact of_decide_eq_true (List.all_eq_true.mp all digit (List.mem_of_getElem? found))

theorem escape_printable (c d : Char) (member : d ∈ escape c) : 32 ≤ d.toNat := by
  have pair : ∀ e : Char, 32 ≤ e.toNat → d ∈ ['\\', e] → 32 ≤ d.toNat := by
    intro e printable either
    simp only [List.mem_cons, List.not_mem_nil, or_false] at either
    rcases either with rfl | rfl
    · decide
    · exact printable
  unfold escape at member
  split_ifs at member with _ _ _ _ _ _ _ control
  · exact pair _ (by decide) member
  · exact pair _ (by decide) member
  · exact pair _ (by decide) member
  · exact pair _ (by decide) member
  · exact pair _ (by decide) member
  · exact pair _ (by decide) member
  · exact pair _ (by decide) member
  · simp only [List.mem_cons, List.not_mem_nil, or_false] at member
    rcases member with rfl | rfl | rfl | rfl | rfl | rfl
    · decide
    · decide
    · decide
    · decide
    · exact hexDigit_printable _
    · exact hexDigit_printable _
  · rw [List.mem_singleton.mp member]
    omega

theorem quoteBody_printable (text : String) (c : Char) (member : c ∈ quoteBody text) :
    32 ≤ c.toNat := by
  rcases List.mem_append.mp member with body | close
  · rcases List.mem_flatMap.mp body with ⟨origin, _, escaped⟩
    exact escape_printable origin c escaped
  · rw [List.mem_singleton.mp close]
    decide

theorem isNumberChar_printable {c : Char} (digit : isNumberChar c = true) : 32 ≤ c.toNat := by
  simp only [isNumberChar, Bool.or_eq_true, beq_iff_eq] at digit
  rcases digit with ((((decimal | rfl) | rfl) | rfl) | rfl) | rfl
  · simp only [Char.isDigit, Bool.and_eq_true, decide_eq_true_eq, ge_iff_le,
      UInt32.le_iff_toNat_le] at decimal
    have low : 48 ≤ c.toNat := decimal.1
    omega
  · decide
  · decide
  · decide
  · decide
  · decide

theorem writeItems_mem {items : List Json} {c : Char} (member : c ∈ writeItems items) :
    c = ',' ∨ c = ']' ∨ ∃ item ∈ items, c ∈ item.write := by
  induction items with
  | nil => exact .inr (.inl (List.mem_singleton.mp member))
  | cons item items ih =>
      cases items with
      | nil =>
          rcases List.mem_append.mp member with own | close
          · exact .inr (.inr ⟨item, by simp, own⟩)
          · exact .inr (.inl (List.mem_singleton.mp close))
      | cons next items =>
          rw [writeItems_cons, List.mem_append, List.mem_cons] at member
          rcases member with own | rfl | later
          · exact .inr (.inr ⟨item, by simp, own⟩)
          · exact .inl rfl
          · rcases ih later with comma | close | ⟨other, listed, own⟩
            · exact .inl comma
            · exact .inr (.inl close)
            · exact .inr (.inr ⟨other, List.mem_cons_of_mem _ listed, own⟩)

theorem writeMembers_mem {members : List (String × Json)} {c : Char}
    (member : c ∈ writeMembers members) :
    32 ≤ c.toNat ∨ ∃ member ∈ members, c ∈ member.2.write := by
  induction members with
  | nil =>
      rw [List.mem_singleton.mp member]
      exact .inl (by decide)
  | cons first members ih =>
      rcases first with ⟨name, value⟩
      cases members with
      | nil =>
          simp only [writeMembers, List.cons_append, List.append_assoc, List.mem_cons,
            List.mem_append, List.not_mem_nil, or_false] at member
          rcases member with rfl | quoted | rfl | own | rfl
          · exact .inl (by decide)
          · exact .inl (quoteBody_printable name c quoted)
          · exact .inl (by decide)
          · exact .inr ⟨(name, value), by simp, own⟩
          · exact .inl (by decide)
      | cons next members =>
          simp only [writeMembers_cons, List.cons_append, List.append_assoc, List.mem_cons,
            List.mem_append] at member
          rcases member with rfl | quoted | rfl | own | rfl | later
          · exact .inl (by decide)
          · exact .inl (quoteBody_printable name c quoted)
          · exact .inl (by decide)
          · exact .inr ⟨(name, value), by simp, own⟩
          · exact .inl (by decide)
          · rcases ih later with printable | ⟨other, listed, own⟩
            · exact .inl printable
            · exact .inr ⟨other, List.mem_cons_of_mem _ listed, own⟩

theorem itemsSpelled_mem {items : List Json} (spelled : itemsSpelled items = true) :
    ∀ item ∈ items, item.isSpelled = true := by
  induction items with
  | nil => simp
  | cons item items ih =>
      simp only [itemsSpelled, Bool.and_eq_true] at spelled
      simpa using ⟨spelled.1, ih spelled.2⟩

theorem membersSpelled_mem {members : List (String × Json)}
    (spelled : membersSpelled members = true) : ∀ member ∈ members, member.2.isSpelled = true := by
  induction members with
  | nil => simp
  | cons member members ih =>
      rcases member with ⟨name, value⟩
      simp only [membersSpelled, Bool.and_eq_true] at spelled
      rw [List.forall_mem_cons]
      exact ⟨spelled.1, ih spelled.2⟩

/-- No control character stands in a written value. -/
theorem write_printable (value : Json) :
    value.isSpelled = true → ∀ c ∈ value.write, 32 ≤ c.toNat := by
  induction value using induct with
  | null => simp [write]
  | bool value => cases value <;> simp [write]
  | number text =>
      intro spelled c member
      simp only [isSpelled, Bool.and_eq_true, List.all_eq_true] at spelled
      exact isNumberChar_printable (spelled.2 c member)
  | string text =>
      intro _ c member
      rcases List.mem_cons.mp member with rfl | body
      · decide
      · exact quoteBody_printable text c body
  | array items held =>
      intro spelled c member
      rw [isSpelled] at spelled
      rcases List.mem_cons.mp member with rfl | body
      · decide
      · rcases writeItems_mem body with rfl | rfl | ⟨item, listed, own⟩
        · decide
        · decide
        · exact held item listed (itemsSpelled_mem spelled item listed) c own
  | object members held =>
      intro spelled c member
      rw [isSpelled] at spelled
      rcases List.mem_cons.mp member with rfl | body
      · decide
      · rcases writeMembers_mem body with printable | ⟨other, listed, own⟩
        · exact printable
        · exact held other listed (membersSpelled_mem spelled other listed) c own

end SwiyuIssuer.Json
