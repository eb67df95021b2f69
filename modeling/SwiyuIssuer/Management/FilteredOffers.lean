import SwiyuIssuer.Management.Listings

/-! Walks through the offers of an issuer under a state filter, while offers expire, are issued or
cancelled, and new ones come in. -/

namespace SwiyuIssuer.Management

open Library Persistence

section Walk

variable {tenantId : TenantId} {issuerId : IssuerId} {stateFilter : Option CredentialOfferState}
  {crates : Crates} {tables : Nat → List CredentialOffer} {nows : Nat → DateTime}
  {requested : Nat → Option Nat} {limits : Nat → Nat}

def offerKey (offer : CredentialOffer) : DateTime ×ₗ CredentialOfferId :=
  toLex (offer.createdAt, offer.id)

/-- What a filter asks for. -/
def Asked (stateFilter : Option CredentialOfferState) (now : DateTime) (offer : CredentialOffer) :
    Prop :=
  ∀ state ∈ stateFilter, offer.observedState now = state

theorem matchesFilter_iff {now : DateTime} {offer : CredentialOffer} (stored : offer.state ≠ .expired) :
    matchesFilter stateFilter now offer = true ↔ Asked stateFilter now offer := by
  cases stateFilter with
  | none => simp [matchesFilter, Asked]
  | some state => simpa [Asked] using matchesFilter_some stored

def owned (tenantId : TenantId) (issuerId : IssuerId) (rows : List CredentialOffer) :
    List CredentialOffer :=
  rows.filter fun offer => CredentialOffers.inScope offer tenantId issuerId

theorem mem_visible {now : DateTime} {rows : List CredentialOffer} {offer : CredentialOffer}
    (stored : ∀ row ∈ rows, row.state ≠ .expired) :
    offer ∈ (listOffers tenantId issuerId stateFilter now).visible rows ↔
      offer ∈ owned tenantId issuerId rows ∧ Asked stateFilter now offer := by
  rw [Listing.visible, owned, List.mem_filter, List.mem_filter]
  constructor
  · rintro ⟨member, shown⟩
    rcases Bool.and_eq_true_iff.mp shown with ⟨scope, filter⟩
    exact ⟨⟨member, scope⟩, (matchesFilter_iff (stored offer member)).mp filter⟩
  · rintro ⟨⟨member, scope⟩, asked⟩
    exact ⟨member, Bool.and_eq_true_iff.mpr
      ⟨scope, (matchesFilter_iff (stored offer member)).mpr asked⟩⟩

variable [LinearOrder CredentialOfferId]

/-- The requests of a walk, each on the table and at the time of its own turn. -/
def listTurn (crates : Crates) (tenantId : TenantId) (issuerId : IssuerId)
    (stateFilter : Option CredentialOfferState) (tables : Nat → List CredentialOffer)
    (nows : Nat → DateTime) (requested : Nat → Option Nat) (turn : Nat) (cursor : Option String) :
    Option (List CredentialOffer × Option String) :=
  ((listOffers tenantId issuerId stateFilter (nows turn)).handle crates (tables turn)
    (requested turn) cursor).toOption

theorem listTurn_serve (accepted : ∀ turn, resolveListLimit (requested turn) = .ok (limits turn))
    (writes : ∀ turn, ∀ offer ∈ tables turn,
      Cursor.Writes crates offer.createdAt offer.id.bare) {turn : Nat}
    {cursor : Option (DateTime ×ₗ CredentialOfferId)} {items : List CredentialOffer}
    {next : Option (DateTime ×ₗ CredentialOfferId)}
    (known : ∀ k ∈ cursor, Cursor.Writes crates (ofLex k).1 (ofLex k).2.bare)
    (served : Keyset.serve offerKey
      (fun turn => (listOffers tenantId issuerId stateFilter (nows turn)).visible (tables turn))
      limits turn cursor = some (items, next)) :
    (∀ k ∈ next, Cursor.Writes crates (ofLex k).1 (ofLex k).2.bare) ∧
      listTurn crates tenantId issuerId stateFilter tables nows requested turn
        (cursor.map (Listing.encodeKey crates)) =
          some (items, next.map (Listing.encodeKey crates)) := by
  have page := @Listing.handle_page _ _ _ crates
    (listOffers tenantId issuerId stateFilter (nows turn)) (tables turn) _ _ cursor (accepted turn)
    (fun _ _ => rfl) known
  simp only [Keyset.serve, Option.some.injEq, Prod.mk.injEq] at served
  rcases served with ⟨rfl, rfl⟩
  constructor
  · intro k member
    split at member
    · rcases Option.map_eq_some_iff.mp member with ⟨row, last, rfl⟩
      have here := List.mem_of_getLast? last
      rw [Keyset.page_eq] at here
      have stored := (Keyset.mem_remaining.mp (List.mem_of_mem_take here)).1
      exact writes turn row (List.mem_filter.mp stored).1
    · cases member
  · have same : (listOffers tenantId issuerId stateFilter (nows turn)).key = offerKey := rfl
    rw [listTurn, page, Listing.nextCursor, same]
    cases (Keyset.page offerKey
        ((listOffers tenantId issuerId stateFilter (nows turn)).visible (tables turn)) cursor
        (limits turn)).hasMore with
    | false => rfl
    | true =>
        simp only [if_true, Option.map_map]
        rfl

/-- Following the cursors ends, no offer comes twice, each page has offers that are then observed as
asked for, and an offer that is observed so at every page comes once. -/
theorem filtered_offers_paginate
    (accepted : ∀ turn, resolveListLimit (requested turn) = .ok (limits turn))
    (distinct : ∀ turn, ((tables turn).map CredentialOffer.id).Nodup)
    (stored : ∀ turn, ∀ offer ∈ tables turn, offer.state ≠ .expired)
    (newer : Keyset.OnlyNewer offerKey fun turn => owned tenantId issuerId (tables turn))
    (writes : ∀ turn, ∀ offer ∈ tables turn,
      Cursor.Writes crates offer.createdAt offer.id.bare) :
    ∃ pages, Walk (listTurn crates tenantId issuerId stateFilter tables nows requested) 0 none pages ∧
      pages.flatten.Pairwise (fun one two => offerKey two < offerKey one) ∧
      (∀ turn items, pages[turn]? = some items → ∀ offer ∈ items,
        offer ∈ owned tenantId issuerId (tables turn) ∧ Asked stateFilter (nows turn) offer) ∧
      ∀ k, (∀ turn < pages.length, ∃ offer ∈ owned tenantId issuerId (tables turn),
          Asked stateFilter (nows turn) offer ∧ offerKey offer = k) →
        (pages.flatten.map offerKey).count k = 1 := by
  have positive : ∀ turn, 1 ≤ limits turn := fun turn => resolveListLimit_ok (accepted turn)
  rcases @Keyset.walk_in_view _ _ _ offerKey
    (fun turn => (listOffers tenantId issuerId stateFilter (nows turn)).visible (tables turn)) _ limits
    _ _ positive
    (fun turn => (listOffers tenantId issuerId stateFilter (nows turn)).distinct_keys (distinct turn))
    newer (fun turn row seen => ((mem_visible (stored turn)).mp seen).1) with
    ⟨pages, walk, sorted, complete⟩
  refine ⟨pages, ?_, sorted, ?_, ?_⟩
  · have start : ∀ k ∈ (none : Option (DateTime ×ₗ CredentialOfferId)),
        Cursor.Writes crates (ofLex k).1 (ofLex k).2.bare := by
      intro k none_
      cases none_
    refine walk.translate (Listing.encodeKey crates) _ ?_ start
    intro turn cursor items next known served
    exact listTurn_serve accepted writes known served
  · intro turn items page offer member
    rcases walk.served page with ⟨cursor, next, served⟩
    rw [Nat.zero_add] at served
    simp only [Keyset.serve, Option.some.injEq, Prod.mk.injEq] at served
    rw [← served.1, Keyset.page_eq] at member
    exact (mem_visible (stored turn)).mp (Keyset.mem_remaining.mp (List.mem_of_mem_take member)).1
  · intro k present
    apply complete
    intro turn bound
    rcases present turn bound with ⟨offer, here, asked, rfl⟩
    exact List.mem_map_of_mem ((mem_visible (stored turn)).mpr ⟨here, asked⟩)

end Walk

section Sample

/-- One offer is issued between the first two requests. -/
def issuedBetween (turn : Nat) : List CredentialOffer :=
  sampleOffers.map fun offer =>
    if 0 < turn ∧ offer.id.bare = "CP9y68WEMD7oiH" then offer.asIssued 0 else offer

theorem issuedBetween_mem {turn : Nat} {offer : CredentialOffer} (member : offer ∈ issuedBetween turn) :
    offer.createdAt = 0 ∧ offer.id.bare ∈ sampleIds ∧ offer.state ≠ .expired := by
  rcases List.mem_map.mp member with ⟨old, listed, rfl⟩
  rcases List.mem_map.mp listed with ⟨bareId, known, rfl⟩
  split
  · exact ⟨rfl, known, by intro same; cases same⟩
  · exact ⟨rfl, known, by intro same; cases same⟩

theorem issuedBetween_ids (turn : Nat) :
    (issuedBetween turn).map CredentialOffer.id = sampleIds.map Id.mk := by
  rw [issuedBetween, List.map_map, sampleOffers, List.map_map]
  apply List.map_congr_left
  intro bareId _
  simp only [Function.comp_apply]
  split <;> rfl

theorem filtered_offers_paginate_sample :
    letI := byteOrder "offer"
    ∃ pages, Walk (listTurn sampleCrates ⟨"7kTzYh2WcE"⟩ ⟨"3Vn8xQpLmZ"⟩ (some .pending) issuedBetween
        (fun _ => 0) (fun _ => some 1)) 0 none pages ∧
      (pages.flatten.map offerKey).count (toLex (0, ⟨"4VVEmxe6yBAYwi"⟩)) = 1 := by
  let _ := byteOrder "offer"
  have paginates := @filtered_offers_paginate ⟨"7kTzYh2WcE"⟩ ⟨"3Vn8xQpLmZ"⟩ (some .pending)
    sampleCrates issuedBetween (fun _ => 0) (fun _ => some 1) (fun _ => 1) _ (fun _ => rfl)
    (fun turn => by rw [issuedBetween_ids]; decide)
    (fun turn offer member => (issuedBetween_mem member).2.2) ?_ ?_
  · rcases paginates with ⟨pages, walk, _, _, once⟩
    refine ⟨pages, walk, once _ ?_⟩
    intro turn _
    refine ⟨.new ⟨"4VVEmxe6yBAYwi"⟩ ⟨"7kTzYh2WcE"⟩ ⟨"3Vn8xQpLmZ"⟩ none "urn:residence"
      (.object []) ⟨"4Mk7yK5pQR7sN3"⟩ (seconds 3600) 0, ?_, ?_, rfl⟩
    · refine List.mem_filter.mpr ⟨List.mem_map.mpr ⟨_, ?_, if_neg (by simp [CredentialOffer.new])⟩, rfl⟩
      exact List.mem_map.mpr ⟨"4VVEmxe6yBAYwi", by simp [sampleIds], rfl⟩
    · intro state asked
      cases asked
      decide
  · intro turn offer member
    rcases issuedBetween_mem (List.mem_filter.mp member).1 with ⟨epoch, known, _⟩
    have first : (owned ⟨"7kTzYh2WcE"⟩ ⟨"3Vn8xQpLmZ"⟩ (issuedBetween 0)).map offerKey =
        sampleIds.map fun bareId => toLex (0, ⟨bareId⟩) := rfl
    left
    rw [first]
    refine List.mem_map.mpr ⟨offer.id.bare, known, ?_⟩
    rw [offerKey, epoch]
  · intro turn offer member
    rcases issuedBetween_mem member with ⟨epoch, known, _⟩
    rw [epoch]
    exact sampleCrates_writes known

end Sample

end SwiyuIssuer.Management
