import SwiyuIssuer.Library.Base58
import SwiyuIssuer.Management.TokenValidator

/-! Identifiers as texts: what `generate` mints, and what `from_bare` and `from_str` let in. -/

namespace SwiyuIssuer

open Library Persistence
open Management (parseId)

/-- The length of `bs58::decode(s).into_vec()`; `wording` is the text of its error. -/
def bs58Length (wording : String → String) (s : String) : Except String Nat :=
  match Base58.decode s with
  | some bytes => .ok bytes.length
  | none => .error (wording s)

abbrev IdBytes := { bytes : List UInt8 // bytes.length = idBytes }

/-- `generate_bare`, on the bytes that the system draws. -/
def generateBare (bytes : IdBytes) : String := Base58.encode bytes.val

def Id.generate {label : String} (bytes : IdBytes) : Id label := ⟨generateBare bytes⟩

def Id.Generated {label : String} (id : Id label) : Prop := ∃ bytes, id = Id.generate bytes

section Bare

variable {label : String} {wording : String → String} {text : String} {id : Id label}

theorem isBase58Char_lt {c : Char} (listed : isBase58Char c = true) : c.toNat < 128 := by
  have last : c ≤ 'z' := by
    simp only [isBase58Char, Bool.or_eq_true, Bool.and_eq_true, decide_eq_true_eq] at listed
    have upto : ∀ {d : Char}, c ≤ d → d ≤ 'z' → c ≤ 'z' := Char.le_trans
    rcases listed with ((((⟨_, digit⟩ | ⟨_, upper⟩) | ⟨_, upper⟩) | ⟨_, upper⟩) | ⟨_, lower⟩) | ⟨_, lower⟩
    · exact upto digit (by decide)
    · exact upto upper (by decide)
    · exact upto upper (by decide)
    · exact upto upper (by decide)
    · exact upto lower (by decide)
    · exact lower
  exact Nat.lt_of_le_of_lt (Char.le_def.mp last) (by decide)

theorem mem_alphabet_lt {c : Char} (listed : c ∈ Base58.alphabet) : c.toNat < 128 := by
  have all : Base58.alphabet.all (fun d => decide (d.toNat < 128)) = true := by decide +kernel
  exact of_decide_eq_true (List.all_eq_true.mp all c listed)

theorem isBase58Char_iff (c : Char) : isBase58Char c = true ↔ c ∈ Base58.alphabet := by
  have table : ∀ n : Fin 128, isBase58Char (Char.ofNat n) = true ↔
      Char.ofNat n ∈ Base58.alphabet := by decide +kernel
  constructor
  · intro listed
    have entry := table ⟨c.toNat, isBase58Char_lt listed⟩
    rw [Char.ofNat_toNat] at entry
    exact entry.mp listed
  · intro listed
    have entry := table ⟨c.toNat, mem_alphabet_lt listed⟩
    rw [Char.ofNat_toNat] at entry
    exact entry.mpr listed

/-- The characters are checked first, so that `bs58` reads every text that it is given. -/
theorem validateBare_ok : validateBare (bs58Length wording) text = .ok () ↔
    ∃ bytes : IdBytes, text = generateBare bytes := by
  unfold validateBare
  split
  · next foreign =>
      rcases List.any_eq_true.mp foreign with ⟨c, member, outside⟩
      constructor
      · intro admitted
        cases admitted
      · rintro ⟨bytes, rfl⟩
        have listed := (isBase58Char_iff c).mpr (Base58.encode_mem bytes.val c member)
        simp [listed] at outside
  · next clean =>
      have listed : ∀ c ∈ text.toList, c ∈ Base58.alphabet := by
        intro c member
        rw [← isBase58Char_iff]
        simpa using fun outside => clean (List.any_eq_true.mpr ⟨c, member, outside⟩)
      rcases Option.isSome_iff_exists.mp (Base58.decode_isSome_iff.mpr listed) with ⟨bytes, decoded⟩
      rw [bs58Length, decoded]
      constructor
      · intro admitted
        by_cases sized : bytes.length = idBytes
        · exact ⟨⟨bytes, sized⟩, (Base58.decode_iff.mp decoded).symm⟩
        · simp [sized] at admitted
      · rintro ⟨drawn, rfl⟩
        rw [generateBare, Base58.decode_encode] at decoded
        cases decoded
        simp [drawn.property]

theorem fromBare_ok_iff : fromBare (bs58Length wording) text = .ok id ↔
    text = id.bare ∧ id.Generated := by
  rw [fromBare, Answers.map_ok]
  constructor
  · rintro ⟨_, checked, rfl⟩
    rcases validateBare_ok.mp checked with ⟨bytes, rfl⟩
    exact ⟨rfl, bytes, rfl⟩
  · rintro ⟨rfl, bytes, rfl⟩
    exact ⟨(), validateBare_ok.mpr ⟨bytes, rfl⟩, rfl⟩

theorem parseId_ok_iff : parseId (bs58Length wording) text = .ok id ↔
    text = id.display ∧ id.Generated := by
  unfold parseId
  cases cut : Text.stripPrefix (label ++ "_") text with
  | none =>
      constructor
      · intro parsed
        cases parsed
      · rintro ⟨rfl, _⟩
        rw [Id.display, Text.stripPrefix_append] at cut
        cases cut
  | some bare =>
      rw [fromBare_ok_iff, Text.append_of_stripPrefix cut, Id.display]
      constructor
      · rintro ⟨rfl, generated⟩
        exact ⟨rfl, generated⟩
      · rintro ⟨same, generated⟩
        exact ⟨(String.append_right_inj _).mp same, generated⟩

end Bare

section Kinds

variable {label other : String} {id : Id label} {it : Id other}

theorem underscore_notMem (generated : id.Generated) : '_' ∉ id.bare.toList := by
  rcases generated with ⟨bytes, rfl⟩
  intro member
  exact absurd (Base58.encode_mem bytes.val _ member) (by decide)

/-- The label is what is in front of the last underscore. -/
theorem display_inj (one : id.Generated) (two : it.Generated) (same : id.display = it.display) :
    label = other ∧ id.bare = it.bare := by
  have chars : label.toList ++ '_' :: id.bare.toList = other.toList ++ '_' :: it.bare.toList := by
    have texts := congrArg String.toList same
    simpa [Id.display] using texts
  rcases Text.last_cut (underscore_notMem one) (underscore_notMem two) chars with ⟨kind, bare⟩
  exact ⟨String.toList_inj.mp kind, String.toList_inj.mp bare⟩

theorem generateBare_injective : Function.Injective generateBare := by
  intro left right same
  exact Subtype.ext (Base58.encode_injective same)

end Kinds

/-- Exactly the minted identifiers are read back, from the bare text as from the displayed one; and
neither two draws nor two kinds of identifier share a displayed text. -/
theorem identifiers_round_trip (wording : String → String) :
    (∀ (label text : String) (id : Id label),
      (fromBare (bs58Length wording) text = .ok id ↔ text = id.bare ∧ id.Generated) ∧
      (parseId (bs58Length wording) text = .ok id ↔ text = id.display ∧ id.Generated)) ∧
    ∀ (label other : String) (left right : IdBytes),
      (Id.generate left : Id label).display = (Id.generate right : Id other).display →
        label = other ∧ left = right := by
  refine ⟨fun label text id => ⟨fromBare_ok_iff, parseId_ok_iff⟩, ?_⟩
  intro label other left right same
  rcases display_inj ⟨left, rfl⟩ ⟨right, rfl⟩ same with ⟨kind, bare⟩
  exact ⟨kind, generateBare_injective bare⟩

end SwiyuIssuer
