import SwiyuIssuer.Creation.Sound

/-! The identifiers and the entry ids of the two registries are each the value of one creation. -/

namespace SwiyuIssuer.Creation

open Library Persistence Worker Saga Resume

def identifiers : Supply where
  step := "allocate_did"
  field := CreateIssuerStateData.assignedIdentifier
  answer calls := calls.allocate.toOption.map Allocation.identifier
  used := State.identifiers
  blank := rfl
  drawn := by
    intro calls at_ before data value growth holds
    cases growth with
    | allocated _ allocation answered =>
        cases holds
        exact .inr ⟨rfl, by rw [answered]; rfl⟩
    | generated | built | published | persisted | registered => exact .inl holds

def entryIds : Supply where
  step := "create_status_list_entry"
  field := CreateIssuerStateData.statusListRegistryEntryId
  answer calls := calls.createEntry.toOption.map StatusListEntry.id
  used := State.entryIds
  blank := rfl
  drawn := by
    intro calls at_ before data value growth holds
    cases growth with
    | registered _ entry answered =>
        cases holds
        exact .inr ⟨rfl, by rw [answered]; rfl⟩
    | allocated | generated | built | published | persisted => exact .inl holds

section Stages

variable {ran : String → Option Visit} {step : String} {data : CreateIssuerStateData}

theorem stage_allocate (stage : CreateStage ran step data) (place : step = "allocate_did") :
    data = ⟨none, none, none, false, none, none⟩ := by
  cases stage with
  | allocateDid => rfl
  | _ => exact absurd place (by decide)

theorem stage_register (stage : CreateStage ran step data)
    (place : step = "create_status_list_entry") : data.statusListRegistryEntryId = none := by
  cases stage with
  | createStatusListEntry => rfl
  | _ => exact absurd place (by decide)

theorem stage_publish (stage : CreateStage ran step data) (place : step = "publish_didlog") :
    data.didlogPublished = false := by
  cases stage with
  | publishDidlog => rfl
  | _ => exact absurd place (by decide)

end Stages

section Grants

variable {ext : Externals} {genesis : GenesisCore} {state after : State}

/-- An allocation hands out an identifier that no other allocation has handed out. -/
theorem identifiers_granted (sound : Sound ext genesis state) (move : Move ext genesis state after) :
    Grants identifiers state after where
  grows := by
    intro identifier used
    cases move with
    | performed _ _ _ _ _ noted _ _ _ _ _ notes => exact notes.identifiers identifier used
    | quiet | created | crashed | lookedUp | inserted | pointed | sent | delivered | otherwise =>
        exact used
  fresh := by
    intro task nextStep result visit identifier held stepped saga place answered
    rcases performed_of_worker sound move held stepped saga with
      ⟨effect, reached, data, input, tenant, arm, _, _, performed⟩
    rcases Option.map_eq_some_iff.mp answered with ⟨allocation, answer, rfl⟩
    rw [Answers.toOption_some] at answer
    have unmarked : data.assignedDidUrl = none := by
      rw [stage_allocate (performed.creates.stage sound.journal) place]
    have known := performed.known
    rw [place] at known
    cases known
    have asked : .allocateDid tenant.partnerId ∈ effect.requested := by
      rw [performed.made]
      simp [createStep, executeAllocateDid, unmarked]
    have unused : allocation.identifier ∉ state.identifiers := by
      simpa [State.answered, answer] using performed.answered _ asked
    rcases performed.noted with ⟨noted, rfl, _, notes⟩
    exact ⟨unused, notes.allocated _ _ asked answer⟩

theorem entryIds_granted (sound : Sound ext genesis state) (move : Move ext genesis state after) :
    Grants entryIds state after where
  grows := by
    intro entryId used
    cases move with
    | performed _ _ _ _ _ noted _ _ _ _ _ notes => exact notes.entryIds entryId used
    | quiet | created | crashed | lookedUp | inserted | pointed | sent | delivered | otherwise =>
        exact used
  fresh := by
    intro task nextStep result visit entryId held stepped saga place answered
    rcases performed_of_worker sound move held stepped saga with
      ⟨effect, reached, data, input, tenant, arm, _, _, performed⟩
    rcases Option.map_eq_some_iff.mp answered with ⟨entry, answer, rfl⟩
    rw [Answers.toOption_some] at answer
    have unmarked := stage_register (performed.creates.stage sound.journal) place
    have known := performed.known
    rw [place] at known
    cases known
    have asked : .createStatusListEntry tenant.partnerId ∈ effect.requested := by
      rw [performed.made]
      simp [createStep, executeCreateStatusListEntry, unmarked]
    have unused : entry.id ∉ state.entryIds := by
      simpa [State.answered, answer] using performed.answered _ asked
    rcases performed.noted with ⟨noted, rfl, _, notes⟩
    exact ⟨unused, notes.registered _ _ asked answer⟩

/-- What every state of a run has. -/
structure Supplied (ext : Externals) (genesis : GenesisCore) (state : State) : Prop where
  sound : Sound ext genesis state
  identifiers : HandedOut ext identifiers state
  entryIds : HandedOut ext entryIds state

theorem supplied_initial (initial : state.Initial) : Supplied ext genesis state where
  sound := sound_initial initial
  identifiers := handedOut_initial identifiers initial
  entryIds := handedOut_initial entryIds initial

theorem supplied_move (supplied : Supplied ext genesis state) (move : Move ext genesis state after) :
    Supplied ext genesis after where
  sound := sound_move supplied.sound move
  identifiers := handedOut_move supplied.sound move (identifiers_granted supplied.sound move)
    supplied.identifiers
  entryIds := handedOut_move supplied.sound move (entryIds_granted supplied.sound move)
    supplied.entryIds

end Grants

end SwiyuIssuer.Creation
