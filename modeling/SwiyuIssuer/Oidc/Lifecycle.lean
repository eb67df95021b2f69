import Mathlib.Data.Set.Card
import SwiyuIssuer.Oidc.Soundness

/-! The life of an offer: pending, then issued or cancelled for good. -/

namespace SwiyuIssuer.Oidc

open Library Persistence StatusStore

namespace Database

def storedState (db : Database) (id : CredentialOfferId) : Option CredentialOfferState :=
  (db.offers id).map CredentialOffer.state

/-- The `issued_credentials` rows of an offer. -/
def credentialsOf (db : Database) (id : CredentialOfferId) : Set IssuedCredentialId :=
  {credentialId | ∃ row, db.credentials credentialId = some row ∧ row.credentialOfferId = id}

/-- One committed step in the life of an offer. -/
inductive Transition : Option CredentialOfferState → Option CredentialOfferState → Prop
  | stay (state : Option CredentialOfferState) : Transition state state
  | create : Transition none (some .pending)
  | issue : Transition (some .pending) (some .issued)
  | cancel : Transition (some .pending) (some .cancelled)

variable {db after : Database}

theorem effect_transition (effect : db.Effect after) (id : CredentialOfferId) :
    Transition (db.storedState id) (after.storedState id) := by
  unfold storedState
  cases stored : after.offers id with
  | none =>
      cases before : db.offers id with
      | none => exact .stay none
      | some offer =>
          have pending : offer.state = .pending := by
            by_contra settled
            rw [effect_settled effect before settled] at stored
            cases stored
          exact absurd stored (effect_kept effect before)
  | some offer =>
      rcases effect_origin effect stored with ⟨absent, _, pending⟩ | same |
        ⟨before, now, present, pending, rfl | rfl⟩
      · rw [absent, Option.map_some, pending]
        exact .create
      · rw [same]
        exact .stay _
      · rw [present, Option.map_some, pending]
        exact .issue
      · rw [present, Option.map_some, pending]
        exact .cancel

theorem credentialsOf_ncard (coherent : db.Coherent) (id : CredentialOfferId) :
    (db.credentialsOf id).ncard = if db.storedState id = some .issued then 1 else 0 := by
  split
  · next issued =>
      rcases Option.map_eq_some_iff.mp issued with ⟨offer, stored, state⟩
      rcases coherent.delivered id offer stored state with ⟨credentialId, row, present, named⟩
      have only : db.credentialsOf id = {credentialId} := by
        ext other
        constructor
        · rintro ⟨rival, there, same⟩
          exact coherent.single other credentialId rival row there present (same.trans named.symm)
        · rintro rfl
          exact ⟨row, present, named⟩
      rw [only, Set.ncard_singleton]
  · next unissued =>
      have nobody : db.credentialsOf id = ∅ := by
        rw [Set.eq_empty_iff_forall_notMem]
        rintro credentialId ⟨row, present, named⟩
        rcases coherent.backed credentialId row present with ⟨offer, stored, state⟩
        rw [named] at stored
        exact unissued (by rw [storedState, stored, Option.map_some, state])
      rw [nobody, Set.ncard_empty]

end Database

variable {config : Config} {state after first middle last : State} {front back : List Event}

theorem settled_not_found (sound : Sound state) {event : Event}
    (taken : state.step config event = some after) {offer : CredentialOffer}
    {id : CredentialOfferId} (stored : state.database.offers id = some offer)
    (settled : offer.state ≠ .pending) {t : TxId} {redemption : Redemption}
    (found : after.sessions t = .offerFound redemption) (same : redemption.offer.id = id) :
    state.sessions t = .offerFound redemption := by
  have move := step_move taken
  by_cases own : t = event.t
  · subst own
    rcases offerFound_move sound move found with ⟨there, pending, _⟩
    rw [same, stored] at there
    cases there
    exact absurd pending settled
  · rw [← move_others move own]
    exact found

theorem settled_run (sound : Sound first)
    (run : Run (Steps (State.step config)) first front last) {id : CredentialOfferId}
    {offer : CredentialOffer} (stored : first.database.offers id = some offer)
    (settled : offer.state ≠ .pending) : last.database.offers id = some offer :=
  (run.invariant_under Sound (fun state => state.database.offers id = some offer)
    (fun _ _ _ sound taken => sound_step sound taken)
    (fun _ _ _ sound there taken =>
      Database.effect_settled (step_effect sound taken) there settled) sound stored).2

/-- `Expired` is only ever observed. -/
theorem expired_never_stored (initial : first.Initial)
    (run : Run (Steps (State.step config)) first front last) {id : CredentialOfferId}
    {offer : CredentialOffer} (stored : last.database.offers id = some offer) :
    offer.state ≠ .expired := by
  rcases (sound_run initial run).coherent.settled id offer stored with
    pending | ⟨issued | cancelled, _⟩
  · rw [pending]
    decide
  · rw [issued]
    decide
  · rw [cancelled]
    decide

/-- Offer lifecycle safety, for every interleaving of the requests and of the deactivation: each
committed step of an offer is one of its transitions, it has a credential exactly when it is
issued, and once it is settled its row stays and no `/token` request finds it by its code. -/
theorem offers_settle_once (config : Config) {first middle last : State}
    {front back : List Event} (initial : first.Initial)
    (run : Run (Steps (State.step config)) first front middle)
    (later : Run (Steps (State.step config)) middle back last) (id : CredentialOfferId) :
    (∀ event after, middle.step config event = some after →
      Database.Transition (middle.database.storedState id) (after.database.storedState id)) ∧
    (middle.database.credentialsOf id).ncard =
      (if middle.database.storedState id = some .issued then 1 else 0) ∧
    ∀ offer, middle.database.offers id = some offer → offer.state ≠ .pending →
      (offer.state = .issued ∨ offer.state = .cancelled) ∧ offer.preAuthCode = none ∧
        last.database.offers id = some offer ∧
        ∀ event after t redemption, last.step config event = some after →
          after.sessions t = .offerFound redemption → redemption.offer.id = id →
            last.sessions t = .offerFound redemption := by
  have sound := sound_run initial run
  refine ⟨?_, Database.credentialsOf_ncard sound.coherent id, ?_⟩
  · intro event after taken
    exact Database.effect_transition (step_effect sound taken) id
  · intro offer stored settled
    have final := settled_run sound later stored settled
    have soundLast := later.invariant Sound (fun _ _ _ sound taken => sound_step sound taken) sound
    rcases sound.coherent.settled id offer stored with pending | ⟨terminal, cleared⟩
    · exact absurd pending settled
    · refine ⟨terminal, cleared, final, ?_⟩
      intro event after t redemption taken found same
      exact settled_not_found soundLast taken final settled found same

def sampleConfig : Config := ⟨seconds 300, seconds 300⟩

def sampleIssuer : Issuer where
  id := ⟨"9hXq2vRtL8pK7f"⟩
  tenantId := ⟨"4Mk7yK5pQR7sN3"⟩
  did := "did:tdw:Qm:registry.test:api"
  state := some .active
  authorizedKeyId := some ⟨"0"⟩
  authenticationKeyId := some ⟨"1"⟩
  assertionKeyId := some ⟨"2"⟩

def sampleStart : State where
  issuers := fun id => Cell.clean (if id = sampleIssuer.id then some sampleIssuer else none)
  offers := fun _ => Cell.clean none
  accessTokens := fun _ => Cell.clean none
  nonces := fun _ => none
  credentials := fun _ => Cell.clean none
  offerIds := []
  sessions := fun _ => .idle
  drawnTokens := []
  drawnNonces := []
  accepted := []

theorem sampleStart_initial : sampleStart.Initial := by
  constructor
  case keyed =>
    intro id issuer stored
    rcases Option.ite_none_right_eq_some.mp stored with ⟨rfl, here⟩
    cases here
    rfl
  all_goals first | exact fun _ => rfl | rfl

def sampleOffer : CredentialOfferId := ⟨"8KpL9zRT5qWnFm"⟩

def sampleCode : PreAuthCode := ⟨"code"⟩

def sampleCreation (t : TxId) : List Event :=
  [⟨t, .probeIssuer ⟨sampleIssuer.tenantId, sampleIssuer.id, none, ⟨"7Ct"⟩, .object []⟩⟩,
    ⟨t, .probeType (.ok "urn:residence")⟩, ⟨t, .insertOffer sampleOffer sampleCode 0⟩]

def sampleLookup (t : TxId) : List Event :=
  [⟨t, .readTokenIssuer ⟨preAuthorizedGrantType, .ok sampleIssuer.id, sampleCode⟩⟩,
    ⟨t, .findByPreAuthCode (some sampleOffer) 1⟩]

def sampleRedemption (t : TxId) (token : AccessTokenHash) (nonce : NonceHash) : List Event :=
  sampleLookup t ++ [⟨t, .insertAccessToken token⟩, ⟨t, .insertNonce nonce⟩]

def samplePresentation (t : TxId) (token : AccessTokenHash) (nonce : NonceHash) : List Event :=
  [⟨t, .findValidByHash ⟨supportedFormat, "urn:residence", supportedProofType,
      .ok sampleIssuer.id, .ok token⟩ (some sampleOffer) 2⟩,
    ⟨t, .readOffer 2⟩, ⟨t, .readType (some (seconds 1000))⟩,
    ⟨t, .readIssuer (.ok ⟨nonce, "jwk"⟩)⟩, ⟨t, .consumeByHash⟩]

def sampleSealing (credentialId : IssuedCredentialId) : Sealing :=
  ⟨⟨"3Ls"⟩, ⟨0, swiyuStatusListCapacity_pos⟩, "https://status.test/1", "jkt", Vector.replicate integrityHashLen 0,
    credentialId⟩

def sampleIssuing (t : TxId) (credentialId : IssuedCredentialId) : List Event :=
  [⟨t, .findByIdForUpdate⟩, ⟨t, .insertCredential (sampleSealing credentialId)⟩,
    ⟨t, .setIssuedState⟩, ⟨t, .deleteByHash⟩, ⟨t, .commit true⟩]

def sampleDelivery : List Event :=
  sampleCreation 0 ++ sampleRedemption 1 ⟨"t"⟩ ⟨"n"⟩ ++ samplePresentation 2 ⟨"t"⟩ ⟨"n"⟩ ++
    sampleIssuing 2 ⟨"6Cr"⟩

theorem offers_settle_once_sample : ∃ last,
    Run (Steps (State.step sampleConfig)) sampleStart sampleDelivery last ∧
    (last.database.credentialsOf sampleOffer).ncard = 1 := by
  have computed : (exec (State.step sampleConfig) sampleStart sampleDelivery).map
      (fun state => state.database.storedState sampleOffer) = some (some .issued) := by decide
  rcases Option.map_eq_some_iff.mp computed with ⟨last, reached, issued⟩
  have run := Run.of_exec reached
  have counted := (offers_settle_once sampleConfig sampleStart_initial run (.nil last)
    sampleOffer).2.1
  rw [if_pos issued] at counted
  exact ⟨last, run, counted⟩

end SwiyuIssuer.Oidc
