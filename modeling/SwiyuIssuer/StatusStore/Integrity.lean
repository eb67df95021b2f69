import SwiyuIssuer.StatusStore.Moves
import SwiyuIssuer.Library.Update

/-! What a committed database says about status: every credential owns one slot of one list, and
the slot encodes the state of its row. -/

namespace SwiyuIssuer.StatusStore

open Library Persistence

abbrev Credentials := IssuedCredentialId → Option IssuedCredential
abbrev Lists := StatusListId → Option StatusList

def Owns (row : IssuedCredential) (listId : StatusListId) (index : StatusListIndex) : Prop :=
  row.statusListId = listId ∧ row.statusListIndex = index

/-- The slot of `list` at `index` reads `value`. -/
def SlotReads (codec : StatusListCodec) (lists : Lists) (listId : StatusListId)
    (index : StatusListIndex) (value : StatusValue) : Prop :=
  ∃ list, lists listId = some list ∧ codec.getAt list.bitstring index = some value

structure Integrity (codec : StatusListCodec) (credentials : Credentials) (lists : Lists) :
    Prop where
  keyed : ∀ id row, credentials id = some row → row.id = id
  encoded : ∀ id row, credentials id = some row →
    SlotReads codec lists row.statusListId row.statusListIndex row.state.statusValue
  allocated : ∀ id row list, credentials id = some row → lists row.statusListId = some list →
    row.statusListIndex < list.allocatedCount
  exclusive : ∀ id other row rival, credentials id = some row → credentials other = some rival →
    Owns rival row.statusListId row.statusListIndex → id = other
  unowned : ∀ listId list (index : StatusListIndex), lists listId = some list →
    (∀ id row, credentials id = some row → ¬ Owns row listId index) →
      codec.getAt list.bitstring index = some .valid

variable {codec : StatusListCodec} {credentials : Credentials} {lists : Lists}

/-- A row whose state and slot are rewritten together. -/
theorem integrity_rewrite (integrity : Integrity codec credentials lists)
    {row : IssuedCredential} {list : StatusList} {state : IssuedCredentialState}
    {bitstring : Bitstring} (present : credentials row.id = some row)
    (home : lists row.statusListId = some list)
    (edited : codec.setAt list.bitstring row.statusListIndex state.statusValue = .ok bitstring) :
    Integrity codec
      (Function.update credentials row.id (some { row with state := state }))
      (Function.update lists row.statusListId
        (some (StatusLists.writeBitstring list bitstring))) := by
  have slots : ∀ {listId : StatusListId} {index : StatusListIndex} {value : StatusValue},
      (row.statusListId = listId → index ≠ row.statusListIndex) →
        SlotReads codec lists listId index value →
        SlotReads codec (Function.update lists row.statusListId
          (some (StatusLists.writeBitstring list bitstring))) listId index value := by
    intro listId index value apart ⟨held, found, reads⟩
    by_cases same : row.statusListId = listId
    · subst same
      rw [home] at found
      cases found
      refine ⟨_, Function.update_self .., ?_⟩
      have different : (index : Nat) ≠ row.statusListIndex := fun equal =>
        apart rfl (Fin.ext equal)
      rw [StatusLists.writeBitstring, codec.getAt_setAt_other _ _ _ _ _ edited different]
      exact reads
    · exact ⟨held, by rw [Function.update_of_ne (Ne.symm same)]; exact found, reads⟩
  refine ⟨?_, ?_, ?_, ?_, ?_⟩
  · intro id found present_
    rcases update_some_cases present_ with ⟨rfl, rfl⟩ | ⟨_, old⟩
    · rfl
    · exact integrity.keyed id found old
  · intro id found present_
    rcases update_some_cases present_ with ⟨rfl, rfl⟩ | ⟨different, old⟩
    · exact ⟨_, Function.update_self .., codec.getAt_setAt_self _ _ _ _ edited⟩
    · refine slots ?_ (integrity.encoded id found old)
      intro sameList sameIndex
      exact different (integrity.exclusive _ _ _ _ present old ⟨sameList.symm, sameIndex⟩).symm
  · intro id found held present_ heldAt
    have count : ∀ {listId : StatusListId} {before : StatusList},
        Function.update lists row.statusListId
          (some (StatusLists.writeBitstring list bitstring)) listId = some before →
          ∃ old, lists listId = some old ∧ old.allocatedCount = before.allocatedCount := by
      intro listId before found_
      by_cases same : listId = row.statusListId
      · subst same
        rw [Function.update_self] at found_
        cases found_
        exact ⟨list, home, rfl⟩
      · rw [Function.update_of_ne same] at found_
        exact ⟨before, found_, rfl⟩
    obtain ⟨old, oldAt, counts⟩ := count heldAt
    rw [← counts]
    rcases update_some_cases present_ with ⟨rfl, rfl⟩ | ⟨_, oldRow⟩
    · exact integrity.allocated row.id row old present oldAt
    · exact integrity.allocated id found old oldRow oldAt
  · intro id other found rival present_ presentRival owns
    rcases update_some_cases present_ with ⟨rfl, rfl⟩ | ⟨_, old⟩
    · rcases update_some_cases presentRival with ⟨rfl, rfl⟩ | ⟨_, oldRival⟩
      · rfl
      · exact integrity.exclusive _ _ row rival present oldRival owns
    · rcases update_some_cases presentRival with ⟨rfl, rfl⟩ | ⟨_, oldRival⟩
      · exact integrity.exclusive _ _ found row old present owns
      · exact integrity.exclusive _ _ _ _ old oldRival owns
  · intro listId held index heldAt free
    have owner : row.statusListId = listId → index ≠ row.statusListIndex := by
      intro sameList sameIndex
      exact free row.id _ (Function.update_self ..) ⟨sameList, sameIndex.symm⟩
    have before : SlotReads codec lists listId index .valid := by
      have unowned : ∀ id found, credentials id = some found → ¬ Owns found listId index := by
        intro id found old owns
        by_cases same : id = row.id
        · subst same
          rw [present] at old
          cases old
          exact owner owns.1 owns.2.symm
        · exact free id found (by rw [Function.update_of_ne same]; exact old) owns
      by_cases same : listId = row.statusListId
      · subst same
        exact ⟨list, home, integrity.unowned _ list index home unowned⟩
      · rw [Function.update_of_ne same] at heldAt
        exact ⟨held, heldAt, integrity.unowned _ held index heldAt unowned⟩
    obtain ⟨found, foundAt, reads⟩ := slots owner before
    rw [heldAt] at foundAt
    cases foundAt
    exact reads

/-- A new row on the next free index of its list: the slot there has always read valid. -/
theorem integrity_issue (integrity : Integrity codec credentials lists)
    {row : IssuedCredential} {list allocated : StatusList}
    (fresh : credentials row.id = none) (active : row.state = .active)
    (home : lists row.statusListId = some list)
    (taken : StatusLists.allocateIndex list = some (allocated, row.statusListIndex)) :
    Integrity codec (Function.update credentials row.id (some row))
      (Function.update lists row.statusListId (some allocated)) := by
  obtain ⟨index, counted, sameBits, _⟩ := StatusLists.allocateIndex_spec taken
  have kept : ∀ {listId : StatusListId} {held : StatusList}, lists listId = some held →
      ∃ now, Function.update lists row.statusListId (some allocated) listId = some now ∧
        now.bitstring = held.bitstring ∧ held.allocatedCount ≤ now.allocatedCount := by
    intro listId held found
    by_cases same : listId = row.statusListId
    · subst same
      rw [home] at found
      cases found
      exact ⟨allocated, Function.update_self .., sameBits, by omega⟩
    · exact ⟨held, by rw [Function.update_of_ne same]; exact found, rfl, Nat.le_refl _⟩
  have original : ∀ {listId : StatusListId} {now : StatusList},
      Function.update lists row.statusListId (some allocated) listId = some now →
      ∃ held, lists listId = some held ∧ now.bitstring = held.bitstring ∧
        held.allocatedCount ≤ now.allocatedCount := by
    intro listId now found
    by_cases same : listId = row.statusListId
    · subst same
      rw [Function.update_self] at found
      cases found
      exact ⟨list, home, sameBits, by omega⟩
    · rw [Function.update_of_ne same] at found
      exact ⟨now, found, rfl, Nat.le_refl _⟩
  -- no old row owns an index that has not been allocated yet
  have unclaimed : ∀ id found, credentials id = some found →
      ¬ Owns found row.statusListId row.statusListIndex := by
    intro id found old owns
    have below := integrity.allocated id found list old (by rw [owns.1]; exact home)
    have equal : (found.statusListIndex : Nat) = row.statusListIndex := congrArg Fin.val owns.2
    omega
  refine ⟨?_, ?_, ?_, ?_, ?_⟩
  · intro id found present
    rcases update_some_cases present with ⟨rfl, rfl⟩ | ⟨_, old⟩
    · rfl
    · exact integrity.keyed id found old
  · intro id found present
    rcases update_some_cases present with ⟨rfl, rfl⟩ | ⟨_, old⟩
    · refine ⟨allocated, Function.update_self .., ?_⟩
      rw [sameBits, active]
      exact integrity.unowned _ list _ home unclaimed
    · obtain ⟨held, heldAt, reads⟩ := integrity.encoded id found old
      obtain ⟨now, nowAt, same, _⟩ := kept heldAt
      exact ⟨now, nowAt, by rw [same]; exact reads⟩
  · intro id found now present nowAt
    obtain ⟨held, heldAt, _, grown⟩ := original nowAt
    rcases update_some_cases present with ⟨rfl, rfl⟩ | ⟨_, old⟩
    · rw [Function.update_self] at nowAt
      cases nowAt
      omega
    · exact Nat.lt_of_lt_of_le (integrity.allocated id found held old heldAt) grown
  · intro id other found rival present presentRival owns
    rcases update_some_cases present with ⟨rfl, rfl⟩ | ⟨_, old⟩
    · rcases update_some_cases presentRival with ⟨rfl, rfl⟩ | ⟨_, oldRival⟩
      · rfl
      · exact absurd owns (unclaimed other rival oldRival)
    · rcases update_some_cases presentRival with ⟨rfl, rfl⟩ | ⟨_, oldRival⟩
      · exact absurd ⟨owns.1.symm, owns.2.symm⟩ (unclaimed id found old)
      · exact integrity.exclusive id other found rival old oldRival owns
  · intro listId now index nowAt free
    obtain ⟨held, heldAt, same, _⟩ := original nowAt
    rw [same]
    refine integrity.unowned listId held index heldAt ?_
    intro id found old owns
    by_cases sameKey : id = row.id
    · subst sameKey
      rw [fresh] at old
      cases old
    · exact free id found (by rw [Function.update_of_ne sameKey]; exact old) owns

end SwiyuIssuer.StatusStore
