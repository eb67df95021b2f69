import SwiyuIssuer.Library.Text
import Mathlib.Data.List.Infix

/-! `str::replace` on characters, for a pattern whose first character does not come back in it. -/

namespace Library.Replace

section Definition

variable (pattern replacement : List Char)

/-- The first argument counts the characters of a match that are still to be dropped. -/
def replaceFrom : Nat → List Char → List Char
  | _, [] => []
  | skip + 1, _ :: rest => replaceFrom skip rest
  | 0, c :: rest =>
      if pattern.isPrefixOf (c :: rest) then
        replacement ++ replaceFrom (pattern.length - 1) rest
      else c :: replaceFrom 0 rest

def replace (text : List Char) : List Char := replaceFrom pattern replacement 0 text

end Definition

variable {pattern replacement text : List Char}

@[simp] theorem replace_nil : replace pattern replacement [] = [] := rfl

theorem replaceFrom_skip (skip : Nat) :
    replaceFrom pattern replacement skip text = replace pattern replacement (text.drop skip) := by
  induction text generalizing skip with
  | nil => simp [replaceFrom]
  | cons c rest ih =>
      cases skip with
      | zero => rfl
      | succ skip => simpa [replaceFrom] using ih skip

theorem replace_of_prefix {c : Char} {rest : List Char} (found : pattern <+: c :: rest) :
    replace pattern replacement (c :: rest) =
      replacement ++ replace pattern replacement (rest.drop (pattern.length - 1)) := by
  rw [replace, replaceFrom, if_pos (List.isPrefixOf_iff_prefix.mpr found), replaceFrom_skip]

theorem replace_skip {c : Char} {rest : List Char} (missing : ¬ pattern <+: c :: rest) :
    replace pattern replacement (c :: rest) = c :: replace pattern replacement rest := by
  rw [replace, replaceFrom, if_neg (mt List.isPrefixOf_iff_prefix.mp missing), replace]

theorem replace_clean (clean : ¬ pattern <:+: text) : replace pattern replacement text = text := by
  induction text with
  | nil => rfl
  | cons c rest ih =>
      have outside := not_or.mp (mt List.infix_cons_iff.mpr clean)
      rw [replace_skip outside.1, ih outside.2]

/-- A character that the replacement does not bring does not become more frequent. -/
theorem count_replace_le {c : Char} (absent : c ∉ replacement) :
    (replace pattern replacement text).count c ≤ text.count c := by
  have each : ∀ skip,
      (replaceFrom pattern replacement skip text).count c ≤ text.count c := by
    induction text with
    | nil => simp [replaceFrom]
    | cons d rest ih =>
        intro skip
        cases skip with
        | zero =>
            have matched := ih (pattern.length - 1)
            have unmatched := ih 0
            have none := List.count_eq_zero.mpr absent
            rw [replaceFrom]
            split
            · rw [List.count_append, List.count_cons]
              omega
            · rw [List.count_cons, List.count_cons]
              omega
        | succ skip =>
            have later := ih skip
            rw [replaceFrom, List.count_cons]
            omega
  exact each 0

theorem replace_absent {first : Char} {tail : List Char} (absent : first ∉ text) :
    replace (first :: tail) replacement text = text := by
  apply replace_clean
  intro found
  exact absent (found.subset List.mem_cons_self)

theorem not_mem_replace {c : Char} (absent : c ∉ replacement) (missing : c ∉ text) :
    c ∉ replace pattern replacement text := by
  have bound := @count_replace_le pattern replacement text _ absent
  rw [List.count_eq_zero.mpr missing] at bound
  exact List.count_eq_zero.mp (by omega)

section Fresh

variable {first : Char} {tail : List Char}

/-- No match runs across a character that only its first one could be. -/
theorem prefix_append_iff {front back : List Char} {c : Char} (outside : c ∉ tail) (d : Char) :
    first :: tail <+: d :: (front ++ c :: back) ↔ first :: tail <+: d :: front := by
  have within : tail <+: front ++ c :: back ↔ tail <+: front := by
    constructor
    · intro found
      rcases List.prefix_or_prefix_of_prefix found (List.prefix_append front (c :: back)) with
        inside | across
      · exact inside
      · obtain ⟨rest, rfl⟩ := across
        have ahead := (List.prefix_append_right_inj front).mp found
        cases rest with
        | nil => simp
        | cons e rest =>
            have same := (List.cons_prefix_cons.mp ahead).1
            simp [same] at outside
    · intro found
      exact found.trans (List.prefix_append front _)
  rw [List.cons_prefix_cons, List.cons_prefix_cons, within]

theorem replace_append {front back : List Char} {c : Char} (outside : c ∉ tail) :
    replace (first :: tail) replacement (front ++ c :: back) =
      replace (first :: tail) replacement front ++
        replace (first :: tail) replacement (c :: back) := by
  have each : ∀ skip ≤ front.length,
      replaceFrom (first :: tail) replacement skip (front ++ c :: back) =
        replaceFrom (first :: tail) replacement skip front ++
          replace (first :: tail) replacement (c :: back) := by
    induction front with
    | nil =>
        intro skip short
        have none : skip = 0 := by simpa using short
        rw [none]
        rfl
    | cons d front ih =>
        intro skip short
        cases skip with
        | succ skip => exact ih skip (by simpa using short)
        | zero =>
            have matching : first :: tail <+: d :: (front ++ c :: back) ↔ first :: tail <+: d :: front :=
              prefix_append_iff outside d
            by_cases found : first :: tail <+: d :: front
            · have fits : tail.length ≤ front.length := by simpa using found.length_le
              rw [List.cons_append, replaceFrom, replaceFrom,
                if_pos (List.isPrefixOf_iff_prefix.mpr (matching.mpr found)),
                if_pos (List.isPrefixOf_iff_prefix.mpr found), List.append_assoc]
              exact congrArg (replacement ++ ·) (ih tail.length fits)
            · rw [List.cons_append, replaceFrom, replaceFrom,
                if_neg (mt List.isPrefixOf_iff_prefix.mp (mt matching.mp found)),
                if_neg (mt List.isPrefixOf_iff_prefix.mp found), List.cons_append]
              exact congrArg (d :: ·) (ih 0 (Nat.zero_le _))
  exact each 0 (Nat.zero_le _)

theorem replace_pattern (rest : List Char) :
    replace (first :: tail) replacement (first :: tail ++ rest) =
      replacement ++ replace (first :: tail) replacement rest := by
  have found : first :: tail <+: first :: (tail ++ rest) := List.prefix_append (first :: tail) rest
  rw [List.cons_append, replace_of_prefix found]
  simp

theorem replace_separator {front back : List Char} {c : Char} (outside : c ∉ first :: tail) :
    replace (first :: tail) replacement (front ++ c :: back) =
      replace (first :: tail) replacement front ++ c ::
        replace (first :: tail) replacement back := by
  have apart := not_or.mp (mt List.mem_cons.mpr outside)
  have unmatched : ¬ first :: tail <+: c :: back := by
    intro found
    exact apart.1 (List.cons_prefix_cons.mp found).1.symm
  rw [replace_append apart.2, replace_skip unmatched]

theorem replace_intercalate {c : Char} (outside : c ∉ first :: tail) (pieces : List (List Char)) :
    replace (first :: tail) replacement ([c].intercalate pieces) =
      [c].intercalate (pieces.map (replace (first :: tail) replacement)) := by
  induction pieces with
  | nil => rfl
  | cons piece pieces ih =>
      cases pieces with
      | nil => simp
      | cons next pieces =>
          rw [List.intercalate_cons_cons, List.append_assoc, List.singleton_append,
            replace_separator outside, ih]
          simp [List.intercalate_cons_cons]

theorem splitOn_replace {c : Char} (outside : c ∉ first :: tail) (absent : c ∉ replacement)
    (text : List Char) :
    (replace (first :: tail) replacement text).splitOn c =
      (text.splitOn c).map (replace (first :: tail) replacement) := by
  have clean : ∀ piece ∈ (text.splitOn c).map (replace (first :: tail) replacement), c ∉ piece := by
    intro piece listed
    rcases List.mem_map.mp listed with ⟨original, member, rfl⟩
    exact not_mem_replace absent (Text.splitOn_clean member)
  calc
    _ = (replace (first :: tail) replacement ([c].intercalate (text.splitOn c))).splitOn c := by
      rw [List.intercalate_splitOn]
    _ = ([c].intercalate ((text.splitOn c).map
          (replace (first :: tail) replacement))).splitOn c := by
      rw [replace_intercalate outside]
    _ = _ := List.splitOn_intercalate c clean (by simp [List.splitOn_ne_nil])

variable (fresh : first ∉ tail) (gone : first ∉ replacement)
include fresh gone

theorem count_replace_lt (found : first :: tail <:+: text) :
    (replace (first :: tail) replacement text).count first < text.count first := by
  obtain ⟨front, back, rfl⟩ := found
  have before := @count_replace_le (first :: tail) replacement front _ gone
  have after := @count_replace_le (first :: tail) replacement back _ gone
  have none := List.count_eq_zero.mpr gone
  rw [List.append_assoc, List.cons_append, replace_append fresh, ← List.cons_append,
    replace_pattern]
  simp only [List.count_append, List.count_cons_self]
  omega

theorem clean_of_count (same : text.count first ≤
    (replace (first :: tail) replacement text).count first) : ¬ first :: tail <:+: text := by
  intro found
  have fewer := count_replace_lt fresh gone found
  omega

theorem replace_eq_self_iff :
    replace (first :: tail) replacement text = text ↔ ¬ first :: tail <:+: text := by
  constructor
  · intro same
    exact clean_of_count fresh gone (by rw [same])
  · exact replace_clean

omit gone in
/-- A match lies on one side of a character that is not in the pattern. -/
theorem infix_separator_iff {front back : List Char} {c : Char} (outside : c ∉ first :: tail) :
    first :: tail <:+: front ++ c :: back ↔
      first :: tail <:+: front ∨ first :: tail <:+: back := by
  constructor
  · intro found
    by_contra clean
    have apart := not_or.mp clean
    have unbroken : replace (first :: tail) [] (front ++ c :: back) = front ++ c :: back := by
      rw [replace_separator outside, replace_clean apart.1, replace_clean apart.2]
    exact (replace_eq_self_iff fresh List.not_mem_nil).mp unbroken found
  · intro found
    rcases found with before | after
    · exact before.trans (List.prefix_append front _).isInfix
    · exact after.trans ((List.suffix_cons c back).trans (List.suffix_append front _)).isInfix

omit gone in
theorem infix_intercalate_iff {c : Char} (outside : c ∉ first :: tail)
    {pieces : List (List Char)} :
    first :: tail <:+: [c].intercalate pieces ↔ ∃ piece ∈ pieces, first :: tail <:+: piece := by
  induction pieces with
  | nil => simp
  | cons piece pieces ih =>
      cases pieces with
      | nil => simp
      | cons next pieces =>
          rw [List.intercalate_cons_cons, List.append_assoc, List.singleton_append,
            infix_separator_iff fresh outside, ih]
          simp

end Fresh

theorem mem_intercalate_iff {c separator : Char} (other : c ≠ separator) {pieces : List (List Char)} :
    c ∈ [separator].intercalate pieces ↔ ∃ piece ∈ pieces, c ∈ piece := by
  have found := @infix_intercalate_iff c [] List.not_mem_nil separator (by simpa using other.symm) pieces
  simpa only [List.singleton_infix_iff] using found

end Library.Replace
