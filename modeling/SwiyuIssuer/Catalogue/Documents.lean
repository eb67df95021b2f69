import SwiyuIssuer.Catalogue.Retirement

/-! The two documents that a wallet reads to redeem an offer. -/

namespace SwiyuIssuer.Catalogue

open Library Persistence StatusStore

/-- The values of `swiyu_core::oid4vci` that every configuration carries. -/
structure Oid4vci where
  format : String
  cryptographicBindingMethodsSupported : Json
  credentialSigningAlgValuesSupported : Json
  proofTypesSupported : Json

def preAuthorizedGrantType : String := "urn:ietf:params:oauth:grant-type:pre-authorized_code"

/-- `trim_end_matches('/')`. -/
def trimEndSlashes (text : String) : String :=
  String.ofList (text.toList.reverse.dropWhile (· == '/')).reverse

def issuerUrl (issuerBaseUrl : String) (issuerId : IssuerId) : String :=
  trimEndSlashes issuerBaseUrl ++ "/i/" ++ issuerId.bare

structure CredentialOfferBody where
  credentialIssuer : String
  credentialConfigurationIds : List String
  grants : Json

structure DisplayEntry where
  name : String
  locale : Option String
  logo : Option String
deriving DecidableEq, Repr

structure CredentialIssuerMetadata where
  credentialIssuer : String
  credentialEndpoint : String
  authorizationServers : List String
  credentialConfigurationsSupported : JsonMap
  display : List DisplayEntry

/-- `GET /i/{issuer_id}/credential-offer/{offer_id}`. Its two reads are of two states. -/
def credentialOffer (issuerBaseUrl : String) (issuerRead offerRead : Database)
    (issuerId : IssuerId) (offerId : CredentialOfferId) (now : DateTime) :
    Except OidcError CredentialOfferBody :=
  match issuerRead.issuers issuerId with
  | none => .error .notFound
  | some issuer =>
      match (offerRead.offers offerId).filter fun offer =>
          CredentialOffers.inScope offer issuer.tenantId issuerId with
      | none => .error (.ofPersistence .notFound)
      | some offer =>
          match offer.observedState now with
          | .expired => .error .expired
          | .issued | .cancelled => .error .notFound
          | .pending =>
              match offer.preAuthCode with
              | none => .error .notFound
              | some bareCode => .ok {
                  credentialIssuer := issuerUrl issuerBaseUrl issuerId
                  credentialConfigurationIds := [offer.vct]
                  grants := .object [(preAuthorizedGrantType,
                    .object [("pre-authorized_code", .string bareCode.text)])] }

def configuration (oid4vci : Oid4vci) (found : CredentialType) : Json :=
  .object [
    ("format", .string oid4vci.format),
    ("vct", .string found.vct),
    ("cryptographic_binding_methods_supported", oid4vci.cryptographicBindingMethodsSupported),
    ("credential_signing_alg_values_supported", oid4vci.credentialSigningAlgValuesSupported),
    ("proof_types_supported", oid4vci.proofTypesSupported),
    ("display", found.display),
    ("claims", found.claims)]

/-- One turn of the loop of `build_credential_configurations`. -/
def addConfiguration (oid4vci : Oid4vci) (map : JsonMap) (found : CredentialType) : JsonMap :=
  if found.retiredAt.isSome then map
  else map.insert found.id.display (configuration oid4vci found)

def buildCredentialConfigurations (oid4vci : Oid4vci) (types : List CredentialType) : JsonMap :=
  types.foldl (addConfiguration oid4vci) []

/-- `list_assigned_to_issuer`, without the order of the rows: its one caller makes a map of them. -/
def State.listAssignedToIssuer (state : State) (tenantId : TenantId) (issuerId : IssuerId) :
    List CredentialType :=
  (state.assignmentKeys.eraseDups.filter fun key =>
      key.1 == issuerId && (state.assignments key).committed.isSome).filterMap fun key =>
    (state.types key.2).committed.filter fun found => found.tenantId == tenantId

/-- `GET /i/{issuer_id}/.well-known/openid-credential-issuer`, in two reads. -/
def credentialIssuerMetadata (oid4vci : Oid4vci) (issuerBaseUrl : String) (issuerRead : Database)
    (typesRead : State) (issuerId : IssuerId) : Except OidcError CredentialIssuerMetadata :=
  match issuerRead.issuers issuerId with
  | none => .error .notFound
  | some issuer =>
      let url := issuerUrl issuerBaseUrl issuer.id
      .ok {
        credentialIssuer := url
        credentialEndpoint := url ++ "/credential"
        authorizationServers := [url]
        credentialConfigurationsSupported := buildCredentialConfigurations oid4vci
          (typesRead.listAssignedToIssuer issuer.tenantId issuer.id)
        display :=
          match issuer.displayName with
          | some name => [⟨name, issuer.locale, issuer.logoUri⟩]
          | none => [] }

/-- Every configuration that the offer names is in the metadata, under the `vct` of the offer. -/
def Resolves (body : CredentialOfferBody) (metadata : CredentialIssuerMetadata) (vct : String) :
    Prop :=
  ∀ id ∈ body.credentialConfigurationIds, ∃ members,
    metadata.credentialConfigurationsSupported.get id = some (.object members) ∧
      JsonMap.get members "vct" = some (.string vct)

section Configurations

variable {oid4vci : Oid4vci} {types : List CredentialType} {map : JsonMap} {key : String}

theorem configuration_vct {found : CredentialType} {members : JsonMap}
    (entry : configuration oid4vci found = .object members) :
    members.get "vct" = some (.string found.vct) := by
  cases entry
  rfl

theorem addConfiguration_retired {found : CredentialType} (retired : found.retiredAt ≠ none) :
    addConfiguration oid4vci map found = map := by
  simp [addConfiguration, Option.isSome_iff_ne_none, retired]

theorem addConfiguration_unretired {found : CredentialType} (unretired : found.retiredAt = none) :
    addConfiguration oid4vci map found =
      map.insert found.id.display (configuration oid4vci found) := by
  simp [addConfiguration, unretired]

theorem configurations_get_absent
    (absent : ∀ found ∈ types, found.retiredAt = none → found.id.display ≠ key) :
    (types.foldl (addConfiguration oid4vci) map).get key = map.get key := by
  induction types generalizing map with
  | nil => rfl
  | cons head rest ih =>
      rw [List.foldl_cons, ih fun found member => absent found (.tail _ member)]
      by_cases unretired : head.retiredAt = none
      · rw [addConfiguration_unretired unretired]
        exact JsonMap.get_insert_ne _ _ (absent head (.head _) unretired).symm
      · rw [addConfiguration_retired unretired]

theorem configurations_get_present {found : CredentialType} (member : found ∈ types)
    (unretired : found.retiredAt = none)
    (distinct : ∀ other ∈ types, other.id = found.id → other = found) :
    (types.foldl (addConfiguration oid4vci) map).get found.id.display =
      some (configuration oid4vci found) := by
  induction types generalizing map with
  | nil => cases member
  | cons head rest ih =>
      rw [List.foldl_cons]
      by_cases later : found ∈ rest
      · exact ih later fun other there => distinct other (.tail _ there)
      · have first : found = head := by simpa [later] using member
        subst first
        rw [configurations_get_absent, addConfiguration_unretired unretired,
          JsonMap.get_insert_self]
        intro other there _ same
        -- A later row under the key would be the row itself.
        rw [distinct other (.tail _ there) (Id.display_injective same)] at there
        exact later there

theorem configurations_get {entry : Json}
    (distinct : ∀ one ∈ types, ∀ two ∈ types, one.id = two.id → one = two) :
    (buildCredentialConfigurations oid4vci types).get key = some entry ↔
      ∃ found ∈ types, found.retiredAt = none ∧ found.id.display = key ∧
        entry = configuration oid4vci found := by
  unfold buildCredentialConfigurations
  by_cases listed : ∃ found ∈ types, found.retiredAt = none ∧ found.id.display = key
  · rcases listed with ⟨found, member, unretired, rfl⟩
    rw [configurations_get_present member unretired fun other there => distinct other there found member]
    constructor
    · intro same
      exact ⟨found, member, unretired, rfl, (Option.some.inj same).symm⟩
    · rintro ⟨other, there, _, same, rfl⟩
      rw [distinct other there found member (Id.display_injective same)]
  · have absent : ∀ found ∈ types, found.retiredAt = none → found.id.display ≠ key := by
      intro found member unretired same
      exact listed ⟨found, member, unretired, same⟩
    rw [configurations_get_absent absent]
    constructor
    · intro found
      cases found
    · rintro ⟨found, member, unretired, same, _⟩
      exact absurd same (absent found member unretired)

end Configurations

/-- A row is stored under its own id. -/
structure Keyed (state : State) : Prop where
  types : ∀ id row, (state.types id).committed = some row → row.id = id
  issuers : ∀ id row, state.issuers id = some row → row.id = id

section Move

variable {state after : State} {t : TxId} {action : Action}

theorem keyedTypes_move (sound : Sound state) (keyed : Keyed state)
    (move : Move state t action after) :
    ∀ id row, (after.types id).committed = some row → row.id = id := by
  cases move with
  | quiet action after types assignments keys issuers typeClaims assignmentClaims =>
      rw [types]
      exact keyed.types
  | refuse action next unclaiming =>
      intro id row here
      exact keyed.types id row
        ((congrFun (Table.snapshot_rollback state.types t) id).symm.trans here)
  | insertType row action at_ fresh unlocked absent =>
      intro id stored here
      have here : (State.withTypes ..).types.snapshot id = some stored := here
      rw [State.withTypes, Table.snapshot_autocommit] at here
      rcases update_some here with ⟨rfl, same⟩ | ⟨_, old⟩
      · cases same
        rfl
      · exact keyed.types id stored old
  | changeType id write action at_ keeps unlocked =>
      intro other stored here
      have here : (State.withTypes ..).types.snapshot other = some stored := here
      rw [State.withTypes, Table.snapshot_autocommit] at here
      rcases update_some here with ⟨rfl, same⟩ | ⟨_, old⟩
      · rcases Option.map_eq_some_iff.mp same with ⟨before, was, rfl⟩
        exact (keeps before).1.trans (keyed.types other before was)
      · exact keyed.types other stored old
  | stamp request at_ free =>
      intro id row here
      exact keyed.types id row
        ((congrFun (Table.snapshot_update state.types t request.id _) id).symm.trans here)
  | commit request deleted at_ =>
      intro id row here
      have merged := (sound.types.committed_commit id).symm.trans here
      rw [at_] at merged
      by_cases own : id = request.id
      · have stamped : (state.types id).committed.map (CredentialTypes.asRetired request.now) =
            some row := (congrArg (Option.getD · _) (if_pos own)).symm.trans merged
        rcases Option.map_eq_some_iff.mp stamped with ⟨before, was, rfl⟩
        exact keyed.types id before was
      · exact keyed.types id row ((congrArg (Option.getD · _) (if_neg own)).symm.trans merged)
  | delete | assign | listKey | unassign => exact keyed.types

theorem keyed_move (sound : Sound state) (keyed : Keyed state)
    (move : Move state t action after) : Keyed after := by
  refine ⟨keyedTypes_move sound keyed move, ?_⟩
  intro id row here
  cases move with
  | quiet action after types assignments keys issuers typeClaims assignmentClaims =>
      rcases issuers id with same | ⟨stored, there, own⟩
      · exact keyed.issuers id row (same.symm.trans here)
      · rw [there] at here
        cases here
        exact own
  | _ => exact keyed.issuers id row here

end Move

theorem keyed_run {first last : State} {trace : List Event} (initial : first.Initial)
    (run : Run (Steps State.step) first trace last) : Sound last ∧ Keyed last := by
  have start : Keyed first := by
    constructor
    · intro id row here
      rw [initial.types id] at here
      cases here
    · intro id row here
      rw [initial.issuers id] at here
      cases here
  exact run.invariant_under Sound Keyed
    (fun state event after sound taken => sound_move sound (step_move taken))
    (fun state event after sound keyed taken => keyed_move sound keyed (step_move taken))
    (sound_initial initial) start

theorem State.mem_listAssignedToIssuer {state : State} {tenantId : TenantId} {issuerId : IssuerId}
    (sound : Sound state) (keyed : Keyed state) {found : CredentialType} :
    found ∈ state.listAssignedToIssuer tenantId issuerId ↔
      state.database.types found.id = some found ∧ found.tenantId = tenantId ∧
        (state.database.assignments (issuerId, found.id)).isSome = true := by
  simp only [State.listAssignedToIssuer, List.mem_filterMap, List.mem_filter, List.mem_eraseDups,
    Option.filter_eq_some_iff, beq_iff_eq, Bool.and_eq_true]
  constructor
  · rintro ⟨⟨issuer, id⟩, ⟨_, rfl, assigned⟩, here, scope⟩
    have own := keyed.types id found here
    subst own
    exact ⟨here, scope, assigned⟩
  · rintro ⟨here, scope, assigned⟩
    refine ⟨(issuerId, found.id), ⟨?_, rfl, assigned⟩, here, scope⟩
    by_contra absent
    have gone : state.database.assignments (issuerId, found.id) = none := sound.listed _ absent
    rw [gone] at assigned
    cases assigned

/-- The issuer is assigned a type whose `vct` is the text of its own id, and this text is `vct`. -/
def NamedAfterId (state : State) (tenantId : TenantId) (issuerId : IssuerId) (vct : String) : Prop :=
  ∃ id found, state.database.types id = some found ∧ found.tenantId = tenantId ∧
    (state.database.assignments (issuerId, id)).isSome = true ∧ found.retiredAt = none ∧
    id.display = vct ∧ found.vct = vct

theorem credentialOffer_ok {issuerBaseUrl : String} {issuerRead offerRead : Database}
    {issuerId : IssuerId} {offerId : CredentialOfferId} {now : DateTime}
    {body : CredentialOfferBody}
    (served : credentialOffer issuerBaseUrl issuerRead offerRead issuerId offerId now = .ok body) :
    ∃ offer, offerRead.offers offerId = some offer ∧ offer.observedState now = .pending ∧
      body.credentialConfigurationIds = [offer.vct] := by
  unfold credentialOffer at served
  split at served
  · cases served
  · split at served
    · cases served
    · next offer found =>
        split at served
        case h_1 | h_2 | h_3 => cases served
        case h_4 pending =>
          split at served
          · cases served
          · cases served
            exact ⟨offer, (Option.filter_eq_some_iff.mp found).1, pending, rfl⟩

theorem credentialIssuerMetadata_ok {oid4vci : Oid4vci} {issuerBaseUrl : String}
    {issuerRead : Database} {typesRead : State} {issuerId : IssuerId}
    {metadata : CredentialIssuerMetadata}
    (served : credentialIssuerMetadata oid4vci issuerBaseUrl issuerRead typesRead issuerId =
      .ok metadata) :
    ∃ issuer, issuerRead.issuers issuerId = some issuer ∧
      metadata.credentialConfigurationsSupported = buildCredentialConfigurations oid4vci
        (typesRead.listAssignedToIssuer issuer.tenantId issuer.id) := by
  unfold credentialIssuerMetadata at served
  split at served
  · cases served
  · next issuer found =>
      cases served
      exact ⟨issuer, found, rfl⟩

/-- Whenever the issuer row, the types and the offer are read, the configurations that the offer
names are in the metadata under its `vct` exactly when the metadata is read while the issuer is
assigned an unretired type whose id is written like the `vct` of the offer and of the type. -/
theorem offered_configurations_resolve {first asked last : State} {front back : List Event}
    (oid4vci : Oid4vci) (issuerBaseUrl : String) {probed offered : Database}
    {issuerId : IssuerId} {offerId : CredentialOfferId} {now : DateTime}
    {body : CredentialOfferBody} {metadata : CredentialIssuerMetadata} {offer : CredentialOffer}
    {issuer : Worker.IssuerRecord} (initial : first.Initial)
    (arrived : Run (Steps State.step) first front asked)
    (run : Run (Steps State.step) asked back last)
    (offerServed : credentialOffer issuerBaseUrl probed offered issuerId offerId now = .ok body)
    (metadataServed : credentialIssuerMetadata oid4vci issuerBaseUrl asked.database last issuerId =
      .ok metadata)
    (stored : offered.offers offerId = some offer)
    (owner : asked.database.issuers issuerId = some issuer) :
    Resolves body metadata offer.vct ↔ NamedAfterId last issuer.tenantId issuerId offer.vct := by
  rcases keyed_run initial (arrived.append run) with ⟨sound, keyed⟩
  rcases credentialOffer_ok offerServed with ⟨row, there, _, ids⟩
  rcases credentialIssuerMetadata_ok metadataServed with ⟨found, here, configurations⟩
  obtain rfl : row = offer := Option.some.inj (there.symm.trans stored)
  obtain rfl : found = issuer := Option.some.inj (here.symm.trans owner)
  have own : found.id = issuerId := (keyed_run initial arrived).2.issuers issuerId found here
  have distinct : ∀ one ∈ last.listAssignedToIssuer found.tenantId found.id,
      ∀ two ∈ last.listAssignedToIssuer found.tenantId found.id, one.id = two.id → one = two := by
    intro one member two other same
    have first_ := ((State.mem_listAssignedToIssuer sound keyed).mp member).1
    rw [same] at first_
    exact Option.some.inj
      (first_.symm.trans ((State.mem_listAssignedToIssuer sound keyed).mp other).1)
  simp only [Resolves, ids, configurations, List.forall_mem_singleton]
  constructor
  · rintro ⟨members, present, named⟩
    rcases (configurations_get distinct).mp present with ⟨type, member, unretired, key, entry⟩
    rcases (State.mem_listAssignedToIssuer sound keyed).mp member with ⟨held, scope, assigned⟩
    have same : type.vct = row.vct := by
      simpa [configuration_vct entry.symm] using named
    exact ⟨type.id, type, held, scope, own ▸ assigned, unretired, key, same⟩
  · rintro ⟨id, type, held, scope, assigned, unretired, key, same⟩
    have stored_ : type.id = id := keyed.types id type held
    subst stored_
    refine ⟨_, (configurations_get distinct).mpr ⟨type, ?_, unretired, key, rfl⟩, ?_⟩
    · exact (State.mem_listAssignedToIssuer sound keyed).mpr ⟨held, scope, own.symm ▸ assigned⟩
    · rw [configuration_vct rfl, same]

def sampleOid4vci : Oid4vci where
  format := "vc+sd-jwt"
  cryptographicBindingMethodsSupported := .array [.string "jwk"]
  credentialSigningAlgValuesSupported := .array [.string "ES256"]
  proofTypesSupported := .object []

def sampleOfferId : CredentialOfferId := ⟨"8hDqLw3vXn"⟩

def sampleOffering : List Event :=
  sampleCatalogue ++ sampleAssign 2 ++
    [⟨3, .probeIssuer ⟨sampleIssuer.tenantId, sampleIssuer.id, none, sampleTypeId, .object []⟩⟩,
      ⟨3, .probeType⟩, ⟨3, .probeAssignment (.ok ())⟩,
      ⟨3, .insertOffer sampleOfferId ⟨"4Mk7yK5pQR7sN3"⟩ (seconds 120)⟩]

def sampleBody (state : State) : Except OidcError CredentialOfferBody :=
  credentialOffer "https://issuer.example" state.database state.database sampleIssuer.id
    sampleOfferId (seconds 130)

def sampleMetadata (state : State) : Except OidcError CredentialIssuerMetadata :=
  credentialIssuerMetadata sampleOid4vci "https://issuer.example" state.database state
    sampleIssuer.id

/-- The type is neither edited nor unassigned before the wallet reads the two documents. -/
theorem sampleOffering_served : ∃ last body metadata offer,
    Run (Steps State.step) sampleStart sampleOffering last ∧ sampleBody last = .ok body ∧
    sampleMetadata last = .ok metadata ∧ last.database.offers sampleOfferId = some offer ∧
    last.database.issuers sampleIssuer.id = some sampleIssuer ∧
    body.credentialConfigurationIds = ["urn:residence"] ∧
    metadata.credentialConfigurationsSupported.get "urn:residence" = none := by
  have computed : (exec State.step sampleStart sampleOffering).map (fun state =>
      ((sampleBody state).toOption.map CredentialOfferBody.credentialConfigurationIds,
        (sampleMetadata state).toOption.map (fun metadata =>
          (metadata.credentialConfigurationsSupported.get "urn:residence").isNone),
        (state.database.offers sampleOfferId).isSome,
        state.database.issuers sampleIssuer.id)) =
      some (some ["urn:residence"], some true, true, some sampleIssuer) := by decide
  rcases Option.map_eq_some_iff.mp computed with ⟨last, reached, seen⟩
  simp only [Prod.mk.injEq] at seen
  rcases seen with ⟨ids, unnamed, stored, owner⟩
  rcases Option.map_eq_some_iff.mp ids with ⟨body, offerServed, ids⟩
  rcases Option.map_eq_some_iff.mp unnamed with ⟨metadata, metadataServed, unnamed⟩
  rcases Option.isSome_iff_exists.mp stored with ⟨offer, stored⟩
  exact ⟨last, body, metadata, offer, Run.of_exec reached, Answers.toOption_some.mp offerServed,
    Answers.toOption_some.mp metadataServed, stored, owner, ids, Option.isNone_iff_eq_none.mp unnamed⟩

theorem offered_configurations_resolve_sample : ∃ last body metadata, ∃ offer : CredentialOffer,
    Run (Steps State.step) sampleStart sampleOffering last ∧ sampleBody last = .ok body ∧
    sampleMetadata last = .ok metadata ∧
    (Resolves body metadata offer.vct ↔
      NamedAfterId last sampleIssuer.tenantId sampleIssuer.id offer.vct) := by
  rcases sampleOffering_served with
    ⟨last, body, metadata, offer, run, offerServed, metadataServed, stored, owner, _⟩
  exact ⟨last, body, metadata, offer, run, offerServed, metadataServed,
    offered_configurations_resolve sampleOid4vci "https://issuer.example" sampleStart_initial run
      (.nil last) offerServed metadataServed stored owner⟩

/-- The offer names its `vct`; the metadata knows the type by its id. -/
theorem offer_of_assigned_type_is_unresolvable : sampleStart.Initial ∧
    ∃ last body metadata offer, Run (Steps State.step) sampleStart sampleOffering last ∧
      sampleBody last = .ok body ∧ sampleMetadata last = .ok metadata ∧
      last.database.offers sampleOfferId = some offer ∧ ¬Resolves body metadata offer.vct := by
  refine ⟨sampleStart_initial, ?_⟩
  rcases sampleOffering_served with
    ⟨last, body, metadata, offer, run, offerServed, metadataServed, stored, _, ids, unnamed⟩
  refine ⟨last, body, metadata, offer, run, offerServed, metadataServed, stored, ?_⟩
  intro resolves
  have named : "urn:residence" ∈ body.credentialConfigurationIds := by
    rw [ids]
    exact List.mem_singleton_self _
  rcases resolves "urn:residence" named with ⟨members, present, _⟩
  rw [unnamed] at present
  cases present

end SwiyuIssuer.Catalogue
