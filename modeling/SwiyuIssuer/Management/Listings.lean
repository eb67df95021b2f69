import Mathlib.Data.Prod.Lex
import Mathlib.Data.String.Basic
import SwiyuIssuer.Creation.Identity
import SwiyuIssuer.Domain.CredentialType
import SwiyuIssuer.Domain.UserAccount
import SwiyuIssuer.Library.Keyset
import SwiyuIssuer.Management.Cursor
import SwiyuIssuer.Oidc.Lifecycle

/-! The list endpoints: one query of `limit + 1` rows a page, and the cursor of the next one.

The order of the ids of a table is that of its collation. -/

namespace SwiyuIssuer.Management

open Library Persistence

def defaultListLimit : Nat := 25

def minListLimit : Nat := 1

def maxListLimit : Nat := 100

def resolveListLimit (requested : Option Nat) : Except ApiError Nat :=
  let limit := requested.getD defaultListLimit
  if limit < minListLimit ∨ maxListLimit < limit then
    .error (.invalidInput ("limit must be between " ++ toString minListLimit ++ " and " ++
      toString maxListLimit ++ ", got " ++ toString limit))
  else .ok limit

theorem resolveListLimit_ok {requested : Option Nat} {limit : Nat}
    (resolved : resolveListLimit requested = .ok limit) : 1 ≤ limit := by
  unfold resolveListLimit at resolved
  dsimp only at resolved
  split at resolved
  · cases resolved
  · next inside =>
      cases resolved
      exact Nat.not_lt.mp (not_or.mp inside).1

abbrev ListPage := Keyset.Page

/-- One list endpoint over the rows of its table: the `WHERE` clause without the cursor, the two
columns of the order, and what the projection of a row to the response refuses. -/
structure Listing (α : Type) (label : String) where
  inScope : α → Bool
  time : α → DateTime
  id : α → Id label
  present : α → Except ApiError Unit := fun _ => .ok ()

namespace Listing

variable {α : Type} {label : String}

def key (listing : Listing α label) (row : α) : DateTime ×ₗ Id label :=
  toLex (listing.time row, listing.id row)

def decodeCursor (label : String) (crates : Crates) :
    Option String → Except ApiError (Option (DateTime × Id label))
  | none => .ok none
  | some raw => (Cursor.decode crates raw).map fun cursor => some (cursor.timestamp, ⟨cursor.bareId⟩)

def nextCursor (listing : Listing α label) (crates : Crates) (page : ListPage α) : Option String :=
  if page.hasMore then
    page.items.getLast?.map fun row => Cursor.encode crates (listing.time row) (listing.id row).bare
  else none

variable [LinearOrder (Id label)]

/-- `persistence::…::list`. -/
def list (listing : Listing α label) (rows : List α) (cursor : Option (DateTime × Id label))
    (limit : Nat) : ListPage α :=
  Keyset.page listing.key (rows.filter listing.inScope) (cursor.map toLex) limit

/-- The handler, on a tenant and an issuer that its ownership check has let through. -/
def handle (listing : Listing α label) (crates : Crates) (rows : List α)
    (requested : Option Nat) (cursor : Option String) :
    Except ApiError (List α × Option String) :=
  match resolveListLimit requested with
  | .error error => .error error
  | .ok limit =>
      match decodeCursor label crates cursor with
      | .error error => .error error
      | .ok decoded =>
          let page := listing.list rows decoded limit
          match page.items.forM listing.present with
          | .error error => .error error
          | .ok () => .ok (page.items, listing.nextCursor crates page)

end Listing

def issuerToResponse (issuer : Worker.IssuerRecord) : Except ApiError Unit :=
  let missing (field : String) : ApiError :=
    .internal ("issuer row missing BA-facing field `" ++ field ++ "`")
  if issuer.state.isNone then .error .notFound
  else if issuer.description.isNone then .error (missing "description")
  else if issuer.displayName.isNone then .error (missing "display_name")
  else .ok ()

/-- `GET /issuers`. -/
def listIssuers (tenantId : TenantId) : Listing Worker.IssuerRecord "issuer" where
  inScope issuer := issuer.tenantId == tenantId && issuer.state.isSome
  time := Worker.IssuerRecord.createdAt
  id issuer := issuer.id
  present := issuerToResponse

/-- The clause of the state filter, `None` for an unfiltered list. -/
def matchesFilter (stateFilter : Option CredentialOfferState) (now : DateTime)
    (offer : CredentialOffer) : Bool :=
  match stateFilter with
  | none => true
  | some .pending => offer.state == .pending && decide (now < offer.expiresAt)
  | some .expired => offer.state == .pending && decide (offer.expiresAt ≤ now)
  | some .issued => offer.state == .issued
  | some .cancelled => offer.state == .cancelled

/-- `GET /issuers/{issuer_id}/credential-offers`. -/
def listOffers (tenantId : TenantId) (issuerId : IssuerId)
    (stateFilter : Option CredentialOfferState) (now : DateTime) :
    Listing CredentialOffer "offer" where
  inScope offer :=
    CredentialOffers.inScope offer tenantId issuerId && matchesFilter stateFilter now offer
  time := CredentialOffer.createdAt
  id := CredentialOffer.id

/-- `GET /credential-types`. -/
def listCredentialTypes (tenantId : TenantId) (retired : Bool) : Listing CredentialType "ctype" where
  inScope row := row.tenantId == tenantId && (retired || row.retiredAt.isNone)
  time := CredentialType.createdAt
  id := CredentialType.id

/-- `GET /issuers/{issuer_id}/credentials`. -/
def listIssuedCredentials (tenantId : TenantId) (issuerId : IssuerId)
    (state : Option IssuedCredentialState) (vct : Option String) :
    Listing IssuedCredential "credential" where
  inScope row := row.tenantId == tenantId && row.issuerId == issuerId &&
    state.all (fun state => row.state == state) && vct.all fun vct => row.vct == vct
  time := IssuedCredential.issuedAt
  id := IssuedCredential.id

/-- `GET /user-accounts`. -/
def listUserAccounts (tenantId : TenantId) : Listing UserAccount "account" where
  inScope account := account.tenantId == tenantId
  time := UserAccount.createdAt
  id := UserAccount.id

/-- `GET /user-accounts/{user_account_id}/invitations`. -/
def listInvitations (tenantId : TenantId) (userAccountId : UserAccountId) :
    Listing Invitation "invite" where
  inScope row := row.tenantId == tenantId && row.userAccountId == userAccountId
  time := Invitation.createdAt
  id := Invitation.id

namespace Listing

section Walk

variable {α : Type} {label : String}

def visible (listing : Listing α label) (rows : List α) : List α := rows.filter listing.inScope

def encodeKey (crates : Crates) (k : DateTime ×ₗ Id label) : String :=
  Cursor.encode crates (ofLex k).1 (ofLex k).2.bare

theorem decodeCursor_encodeKey {crates : Crates} {cursor : Option (DateTime ×ₗ Id label)}
    (writes : ∀ k ∈ cursor, Cursor.Writes crates (ofLex k).1 (ofLex k).2.bare) :
    decodeCursor label crates (cursor.map (encodeKey crates)) = .ok (cursor.map ofLex) := by
  cases cursor with
  | none => rfl
  | some k =>
      have decoded := Cursor.decode_encode (writes k rfl)
      simp [decodeCursor, encodeKey, decoded, Except.map]

theorem present_all {listing : Listing α label} {items : List α}
    (shown : ∀ row ∈ items, listing.present row = .ok ()) :
    items.forM listing.present = .ok () := by
  induction items with
  | nil => rfl
  | cons head rest ih =>
      have first := shown head (.head _)
      have later := ih fun row member => shown row (.tail _ member)
      simpa [List.forM_cons, first, bind, Except.bind] using later

theorem distinct_keys {listing : Listing α label} {rows : List α} (distinct : (rows.map listing.id).Nodup) :
    ((listing.visible rows).map listing.key).Nodup := by
  have kept : ((listing.visible rows).map listing.id).Nodup :=
    distinct.sublist (List.filter_sublist.map _)
  refine List.pairwise_map.mpr ((List.pairwise_map.mp kept).imp ?_)
  intro one two different same
  exact different (congrArg (fun k => (ofLex k).2) same)

variable [LinearOrder (Id label)]

/-- Whatever happens between two requests, as long as rows that come into view are newer than all
that the first request could see, and each row in view has a response: following the cursors ends,
the rows come in strictly descending order, and each that is in view of every request comes once. -/
def WalksCompletely (crates : Crates) (listing : Listing α label) : Prop :=
  ∀ (tables : Nat → List α) (requested : Nat → Option Nat) (limits : Nat → Nat),
    (∀ turn, resolveListLimit (requested turn) = .ok (limits turn)) →
    (∀ turn, ((tables turn).map listing.id).Nodup) →
    Keyset.OnlyNewer listing.key (fun turn => listing.visible (tables turn)) →
    (∀ turn, ∀ row ∈ listing.visible (tables turn), listing.present row = .ok () ∧
      Cursor.Writes crates (listing.time row) (listing.id row).bare) →
    ∃ pages, Walk (fun turn cursor =>
        (listing.handle crates (tables turn) (requested turn) cursor).toOption) 0 none pages ∧
      pages.flatten.Pairwise (fun one two => listing.key two < listing.key one) ∧
      ∀ k, (∀ turn < pages.length, k ∈ (listing.visible (tables turn)).map listing.key) →
        (pages.flatten.map listing.key).count k = 1

variable {crates : Crates} {listing : Listing α label}

theorem handle_page {rows : List α} {requested : Option Nat} {limit : Nat}
    {cursor : Option (DateTime ×ₗ Id label)} (accepted : resolveListLimit requested = .ok limit)
    (shown : ∀ row ∈ listing.visible rows, listing.present row = .ok ())
    (writes : ∀ k ∈ cursor, Cursor.Writes crates (ofLex k).1 (ofLex k).2.bare) :
    listing.handle crates rows requested (cursor.map (encodeKey crates)) =
      .ok ((Keyset.page listing.key (listing.visible rows) cursor limit).items,
        listing.nextCursor crates (Keyset.page listing.key (listing.visible rows) cursor limit)) := by
  have same : listing.list rows (cursor.map ofLex) limit =
      Keyset.page listing.key (listing.visible rows) cursor limit := by
    cases cursor <;> rfl
  have all : (Keyset.page listing.key (listing.visible rows) cursor limit).items.forM
      listing.present = .ok () := by
    apply present_all
    intro row member
    rw [Keyset.page_eq] at member
    exact shown row (Keyset.mem_remaining.mp (List.mem_of_mem_take member)).1
  simp only [handle, accepted, decodeCursor_encodeKey writes, same, all]

theorem walksCompletely (crates : Crates) (listing : Listing α label) :
    listing.WalksCompletely crates := by
  intro tables requested limits accepted distinct newer shown
  rcases Keyset.walk_complete (fun turn => resolveListLimit_ok (accepted turn))
    (fun turn => distinct_keys (distinct turn)) newer with ⟨pages, walk, sorted, complete⟩
  refine ⟨pages, ?_, sorted, complete⟩
  have start : ∀ k ∈ (none : Option (DateTime ×ₗ Id label)),
      Cursor.Writes crates (ofLex k).1 (ofLex k).2.bare := by
    intro k none_
    cases none_
  refine walk.translate (encodeKey crates) _ ?_ start
  intro turn cursor items next writes served
  have page := handle_page (accepted turn) (fun row member => (shown turn row member).1) writes
  simp only [Keyset.serve, Option.some.injEq, Prod.mk.injEq] at served
  rcases served with ⟨rfl, rfl⟩
  refine ⟨?_, ?_⟩
  · intro k member
    split at member
    · rcases Option.map_eq_some_iff.mp member with ⟨row, last, rfl⟩
      have here := List.mem_of_getLast? last
      rw [Keyset.page_eq] at here
      exact (shown turn row (Keyset.mem_remaining.mp (List.mem_of_mem_take here)).1).2
    · cases member
  · rw [page, nextCursor]
    split <;> simp [Except.toOption, encodeKey, key, Function.comp_def]

end Walk

end Listing

/-- An expired offer is stored as a pending one, so no row but one stored as `expired` is observed
otherwise than the clause has it. -/
theorem matchesFilter_some {stateFilter : CredentialOfferState} {now : DateTime}
    {offer : CredentialOffer} (stored : offer.state ≠ .expired) :
    matchesFilter (some stateFilter) now offer = true ↔ offer.observedState now = stateFilter := by
  rcases Int.lt_or_le now offer.expiresAt with fresh | late
  · have unexpired : offer.isExpiredAt now = false := decide_eq_false (Int.not_le.mpr fresh)
    have same : offer.observedState now = offer.state := by
      simp [CredentialOffer.observedState, unexpired]
    rw [same]
    cases stateFilter <;> simp [matchesFilter, fresh, stored, Int.not_le.mpr fresh]
  · have expired : offer.isExpiredAt now = true := decide_eq_true late
    by_cases pending : offer.state = .pending
    · cases stateFilter <;>
        simp [matchesFilter, CredentialOffer.observedState, pending, expired, late,
          Int.not_lt.mpr late]
    · have same : offer.observedState now = offer.state := by
        simp [CredentialOffer.observedState, pending]
      rw [same]
      cases stateFilter <;> simp [matchesFilter, pending, stored]

section Filter

variable [LinearOrder CredentialOfferId]

/-- The rows of one page: from its cursor down to its last row, or to the end of the table. -/
def InRange (cursor : Option (DateTime × CredentialOfferId))
    (listing : Listing CredentialOffer "offer") (page : ListPage CredentialOffer)
    (offer : CredentialOffer) : Prop :=
  (∀ c ∈ cursor, listing.key offer < toLex c) ∧
    ∀ last, page.hasMore = true → page.items.getLast? = some last →
      listing.key last ≤ listing.key offer

theorem below_iff {cursor : Option (DateTime × CredentialOfferId)}
    {k : DateTime ×ₗ CredentialOfferId} :
    Keyset.below (cursor.map toLex) k = true ↔ ∀ c ∈ cursor, k < toLex c := by
  cases cursor <;> simp [Keyset.below]

theorem listOffers_page {tenantId : TenantId} {issuerId : IssuerId}
    {stateFilter : CredentialOfferState} {now : DateTime} {rows : List CredentialOffer}
    {cursor : Option (DateTime × CredentialOfferId)} {limit : Nat} (positive : 1 ≤ limit)
    (distinct : (rows.map CredentialOffer.id).Nodup)
    (stored : ∀ offer ∈ rows, offer.state ≠ .expired) (offer : CredentialOffer) :
    let listing := listOffers tenantId issuerId (some stateFilter) now
    let page := listing.list rows cursor limit
    offer ∈ page.items ↔ offer ∈ rows ∧ CredentialOffers.inScope offer tenantId issuerId = true ∧
      InRange cursor listing page offer ∧ offer.observedState now = stateFilter := by
  intro listing page
  have keys : ((listing.visible rows).map listing.key).Nodup := Listing.distinct_keys distinct
  have visible : offer ∈ listing.visible rows ↔ offer ∈ rows ∧
      CredentialOffers.inScope offer tenantId issuerId = true ∧
        offer.observedState now = stateFilter := by
    rw [Listing.visible, List.mem_filter]
    constructor
    · rintro ⟨member, shown⟩
      rcases Bool.and_eq_true_iff.mp shown with ⟨scope, filter⟩
      exact ⟨member, scope, (matchesFilter_some (stored offer member)).mp filter⟩
    · rintro ⟨member, scope, observed⟩
      exact ⟨member, Bool.and_eq_true_iff.mpr
        ⟨scope, (matchesFilter_some (stored offer member)).mpr observed⟩⟩
  have range : offer ∈ page.items ↔
      offer ∈ listing.visible rows ∧ InRange cursor listing page offer := by
    cases more : page.hasMore with
    | false =>
        rw [InRange, more, ← below_iff]
        simp only [Bool.false_eq_true, false_imp_iff, implies_true, and_true]
        exact Keyset.page_all more
    | true =>
        rcases Keyset.page_more keys positive more with ⟨last, ends, members⟩
        rw [InRange, more, ← below_iff]
        refine (members offer).trans ?_
        simp only [forall_const]
        constructor
        · rintro ⟨seen, under, above⟩
          refine ⟨seen, under, ?_⟩
          intro other ends_
          rwa [← Option.some.inj (ends.symm.trans ends_)]
        · rintro ⟨seen, under, above⟩
          exact ⟨seen, under, above last ends⟩
  rw [range, visible]
  constructor
  · rintro ⟨⟨member, scope, observed⟩, inside⟩
    exact ⟨member, scope, inside, observed⟩
  · rintro ⟨member, scope, inside, observed⟩
    exact ⟨⟨member, scope, observed⟩, inside⟩

end Filter

theorem issuerToResponse_newIssuer (tenantId : TenantId) (issuerId : IssuerId)
    (input : Worker.CreateIssuerInput) (keyIds : Worker.KeyTriple) (did : String) (now : DateTime) :
    issuerToResponse (Worker.newIssuer tenantId issuerId input keyIds did now) = .ok () := rfl

/-- Every unfiltered list can be walked to its end, over requests of any accepted limits; a cursor
decodes to what it was made of; and a page of offers under a state filter holds the rows of its
range that are observed in that state. The rows are taken as the code writes them: no run stores an
offer as `expired`, or an issuer without the fields of its response. -/
theorem lists_paginate (crates : Crates) [∀ label, LinearOrder (Id label)] :
    ((∀ tenantId, (listIssuers tenantId).WalksCompletely crates) ∧
      (∀ tenantId issuerId now, (listOffers tenantId issuerId none now).WalksCompletely crates) ∧
      (∀ tenantId retired, (listCredentialTypes tenantId retired).WalksCompletely crates) ∧
      (∀ tenantId issuerId,
        (listIssuedCredentials tenantId issuerId none none).WalksCompletely crates) ∧
      (∀ tenantId, (listUserAccounts tenantId).WalksCompletely crates) ∧
      ∀ tenantId accountId, (listInvitations tenantId accountId).WalksCompletely crates) ∧
    (∀ timestamp bareId, Cursor.Writes crates timestamp bareId →
      Cursor.decode crates (Cursor.encode crates timestamp bareId) = .ok ⟨timestamp, bareId⟩) ∧
    (∀ tenantId issuerId stateFilter now rows cursor requested limit offer,
      resolveListLimit requested = .ok limit → (rows.map CredentialOffer.id).Nodup →
      (∀ row ∈ rows, row.state ≠ .expired) →
      let listing := listOffers tenantId issuerId (some stateFilter) now
      let page := listing.list rows cursor limit
      offer ∈ page.items ↔ offer ∈ rows ∧
        CredentialOffers.inScope offer tenantId issuerId = true ∧
        InRange cursor listing page offer ∧ offer.observedState now = stateFilter) ∧
    (∀ (config : Oidc.Config) (first last : Oidc.State) (trace : List Oidc.Event), first.Initial →
      Run (Steps (Oidc.State.step config)) first trace last →
      ∀ id offer, last.database.offers id = some offer → offer.state ≠ .expired) ∧
    ∀ (ext : Saga.Externals) (genesis : Worker.GenesisCore) (first last : Creation.State)
      (trace : List Creation.Event), first.Initial →
      Run (Steps (Creation.State.step ext genesis)) first trace last →
      ∀ id issuer, last.records id = some issuer → issuerToResponse issuer = .ok () := by
  refine ⟨⟨?_, ?_, ?_, ?_, ?_, ?_⟩, ?_, ?_, ?_, ?_⟩
  · exact fun tenantId => (listIssuers tenantId).walksCompletely crates
  · exact fun tenantId issuerId now =>
      (listOffers tenantId issuerId none now).walksCompletely crates
  · exact fun tenantId retired => (listCredentialTypes tenantId retired).walksCompletely crates
  · exact fun tenantId issuerId =>
      (listIssuedCredentials tenantId issuerId none none).walksCompletely crates
  · exact fun tenantId => (listUserAccounts tenantId).walksCompletely crates
  · exact fun tenantId accountId => (listInvitations tenantId accountId).walksCompletely crates
  · exact fun timestamp bareId writes => Cursor.decode_encode writes
  · intro tenantId issuerId stateFilter now rows cursor requested limit offer accepted distinct
      stored
    exact listOffers_page (resolveListLimit_ok accepted) distinct stored offer
  · intro config first last trace initial run id offer stored
    exact Oidc.expired_never_stored initial run stored
  · intro ext genesis first last trace initial run id issuer stored
    rcases Creation.records_written_run initial run stored with
      ⟨tenantId, input, keyIds, did, now, rfl⟩
    exact issuerToResponse_newIssuer tenantId id input keyIds did now

section Sample

def sampleIds : List String := ["CP9y68WEMD7oiH", "4VVEmxe6yBAYwi"]

def sampleTexts : List (String × String) :=
  [("1970-01-01T00:00:00+00:00|CP9y68WEMD7oiH",
      "3SreKFNroQcAbZ1ipjLsCiVHJ3xX3Za7VDf346KnEG2jEkyMX9Hk71y"),
    ("1970-01-01T00:00:00+00:00|4VVEmxe6yBAYwi",
      "3SreKFNroQcAbZ1ipjLsCiVHJ3xX3Za7VDf2xazVrPu1h2nHvBteWSt")]

def sampleCrates : Crates where
  bs58Encode bytes := ((String.fromUTF8? bytes).bind fun text => sampleTexts.lookup text).getD ""
  bs58Decode raw :=
    match sampleTexts.find? fun pair => pair.2 == raw with
    | some pair => .ok pair.1.toUTF8
    | none =>
        if raw = "CP9y68WEMD7oiH" then
          .ok ⟨#[202, 151, 129, 18, 202, 27, 189, 202, 250, 194]⟩
        else if raw = "4VVEmxe6yBAYwi" then .ok ⟨#[62, 35, 232, 22, 0, 57, 89, 74, 51, 137]⟩
        else .error "provided string contained invalid character"
  toRfc3339 _ := "1970-01-01T00:00:00+00:00"
  parseFromRfc3339 text := if text = "1970-01-01T00:00:00+00:00" then some 0 else none

theorem sampleCrates_writes {bareId : String} (known : bareId ∈ sampleIds) :
    Cursor.Writes sampleCrates 0 bareId := by
  have encoded : Cursor.encode sampleCrates 0 bareId =
      (sampleTexts.lookup ("1970-01-01T00:00:00+00:00" ++ "|" ++ bareId)).getD "" := by
    rw [Cursor.encode]
    show ((String.fromUTF8? _).bind _).getD "" = _
    rw [fromUTF8_toUTF8]
    rfl
  refine ⟨?_, rfl, by decide, ?_⟩
  · rw [encoded]
    rcases List.mem_cons.mp known with rfl | other
    · rfl
    · rw [List.mem_singleton.mp other]
      rfl
  · rcases List.mem_cons.mp known with rfl | other
    · decide
    · rw [List.mem_singleton.mp other]
      decide

def sampleOffers : List CredentialOffer :=
  sampleIds.map fun bareId => .new ⟨bareId⟩ ⟨"7kTzYh2WcE"⟩ ⟨"3Vn8xQpLmZ"⟩ none "urn:residence"
    (.object []) ⟨"4Mk7yK5pQR7sN3"⟩ (seconds 3600) 0

/-- The order of the "C" collation. -/
@[reducible] def byteOrder (label : String) : LinearOrder (Id label) :=
  LinearOrder.lift' Id.bare fun _ _ same => congrArg Id.mk same

theorem lists_paginate_sample :
    letI := byteOrder
    let listing := listOffers ⟨"7kTzYh2WcE"⟩ ⟨"3Vn8xQpLmZ"⟩ none 0
    ∃ pages, Walk (fun _ cursor =>
        (listing.handle sampleCrates sampleOffers (some 1) cursor).toOption) 0 none pages ∧
      (pages.flatten.map listing.key).count (toLex (0, ⟨"4VVEmxe6yBAYwi"⟩)) = 1 := by
  let _ := byteOrder
  intro listing
  have walks := (lists_paginate sampleCrates).1.2.1 ⟨"7kTzYh2WcE"⟩ ⟨"3Vn8xQpLmZ"⟩ 0
    (fun _ => sampleOffers) (fun _ => some 1) (fun _ => 1) (fun _ => rfl) (fun _ => by decide)
    (fun _ row member => .inl (List.mem_map_of_mem member)) ?_
  · rcases walks with ⟨pages, walk, _, once⟩
    refine ⟨pages, walk, once _ ?_⟩
    intro turn _
    decide
  · intro turn row member
    refine ⟨rfl, ?_⟩
    rcases List.mem_map.mp (List.mem_filter.mp member).1 with ⟨bareId, known, rfl⟩
    exact sampleCrates_writes known

/-- A row that only a hand could write. -/
def storedExpired : CredentialOffer where
  id := ⟨"CP9y68WEMD7oiH"⟩
  tenantId := ⟨"7kTzYh2WcE"⟩
  issuerId := ⟨"3Vn8xQpLmZ"⟩
  credentialTypeId := none
  vct := "urn:residence"
  claims := .object []
  state := .expired
  preAuthCode := none
  expiresAt := 0
  createdAt := 0
  issuedAt := none
  cancelledAt := none

/-- Another one, of an issuer that nobody has described. -/
def undescribed : Worker.IssuerRecord where
  id := ⟨"9hXq2vRtL8pK7f"⟩
  tenantId := ⟨"7kTzYh2WcE"⟩
  did := "did:tdw:Qm:registry.test:api"
  state := some .active
  authorizedKeyId := none
  authenticationKeyId := none
  assertionKeyId := none
  description := none
  displayName := some "Residence office"
  logoUri := none
  locale := none
  createdAt := 0

/-- An offer stored as `expired` is on no page of expired offers, and an issuer without a
description ends every walk that comes to it. -/
theorem unwritten_rows_break_lists :
    letI := byteOrder
    (let listing := listOffers ⟨"7kTzYh2WcE"⟩ ⟨"3Vn8xQpLmZ"⟩ (some .expired) 0
      let page := listing.list [storedExpired] none 25
      storedExpired ∉ page.items ∧ InRange none listing page storedExpired ∧
        CredentialOffers.inScope storedExpired ⟨"7kTzYh2WcE"⟩ ⟨"3Vn8xQpLmZ"⟩ = true ∧
        storedExpired.observedState 0 = .expired) ∧
    (listIssuers ⟨"7kTzYh2WcE"⟩).visible [undescribed] = [undescribed] ∧
    ¬∃ pages, Walk (fun _ cursor => ((listIssuers ⟨"7kTzYh2WcE"⟩).handle sampleCrates [undescribed]
      none cursor).toOption) 0 none pages := by
  let _ := byteOrder
  refine ⟨⟨?_, ⟨?_, ?_⟩, by decide, by decide⟩, by decide, ?_⟩
  · exact List.not_mem_nil
  · intro cursor absent
    cases absent
  · intro last more
    cases more
  · rintro ⟨pages, walk⟩
    cases walk with
    | last served => cases served
    | next served _ => cases served

end Sample

end SwiyuIssuer.Management
