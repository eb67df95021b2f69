import SwiyuIssuer.Catalogue.Tenancy
import SwiyuIssuer.Library.UrlPath
import SwiyuIssuer.Management.Identifiers

/-! The link that the management API hands out for an offer, and the wallet API that honours it. -/

namespace SwiyuIssuer.Catalogue

open Library Persistence StatusStore

def deeplinkPrefix : String := "openid-credential-offer://?credential_offer_uri="

/-- `urlencode` is `urlencoding::encode`. -/
def buildOfferDeeplink (urlencode : String → String) (issuerBaseUrl : String) (issuerId : IssuerId)
    (offerId : CredentialOfferId) : String :=
  let credentialOfferUri := trimEndSlashes issuerBaseUrl ++ "/i/" ++ issuerId.bare ++
    "/credential-offer/" ++ offerId.bare
  deeplinkPrefix ++ urlencode credentialOfferUri

structure CreateCredentialOfferResponse where
  id : String
  preAuthCode : String
  offerDeeplink : String
  expiresAt : DateTime
deriving DecidableEq, Repr

/-- The body of `create` once the offer is inserted. -/
def createResponse (urlencode : String → String) (issuerBaseUrl : String) (offer : CredentialOffer)
    (preAuthCode : PreAuthCode) : CreateCredentialOfferResponse where
  id := offer.id.bare
  preAuthCode := preAuthCode.text
  offerDeeplink := buildOfferDeeplink urlencode issuerBaseUrl offer.issuerId offer.id
  expiresAt := offer.expiresAt

def parseIssuerId (wording : String → String) (raw : String) : Except OidcError IssuerId :=
  (fromBare (bs58Length wording) raw).mapError fun err =>
    .invalidInput ("issuer_id path parameter: " ++ err.toString)

def parseOfferId (wording : String → String) (raw : String) : Except OidcError CredentialOfferId :=
  (fromBare (bs58Length wording) raw).mapError fun err =>
    .invalidInput ("offer_id path parameter: " ++ err.toString)

/-- The parameters of `/i/{issuer_id}/credential-offer/{offer_id}`, from the segments of a path. -/
def offerRoute (segments : List (List UInt8)) : Option (String × String) :=
  match segments with
  | [root, issuerId, resource, offerId] =>
      if root = Text.asBytes "i" ∧ issuerId ≠ [] ∧ resource = Text.asBytes "credential-offer" ∧
          offerId ≠ [] then
        (Text.fromUtf8 (Percent.decode issuerId)).bind fun issuerId =>
          (Text.fromUtf8 (Percent.decode offerId)).map fun offerId => (issuerId, offerId)
      else none
  | _ => none

/-- A `GET` at the wallet API; `none` is an address elsewhere, of another route or not in UTF-8. -/
def serveOffer (wording : String → String) (issuerBaseUrl : String)
    (issuerRead offerRead : Database) (uri : String) (now : DateTime) :
    Option (Except OidcError CredentialOfferBody) :=
  (Text.stripPrefix (trimEndSlashes issuerBaseUrl ++ "/") uri).bind fun path =>
    (offerRoute (UrlPath.parse Percent.pathSet path.toList).segments).map fun parameters => do
      let issuerId ← parseIssuerId wording parameters.1
      let offerId ← parseOfferId wording parameters.2
      credentialOffer issuerBaseUrl issuerRead offerRead issuerId offerId now

/-- The address that a link stands for: its parameter, up to a delimiter, without the escapes. -/
def credentialOfferUri (deeplink : String) : Option String :=
  (Text.stripPrefix deeplinkPrefix deeplink).bind fun encoded =>
    Text.fromUtf8 (Percent.decode ((Text.asBytes encoded).takeWhile fun byte =>
      byte != 0x26 && byte != 0x23))

section Links

variable {urlencode wording : String → String} {issuerBaseUrl : String} {issuerId : IssuerId}
  {offerId : CredentialOfferId}

/-- The characters that need no escape, without the one that a path reads as a step. -/
def isPathSafe (c : Char) : Bool := Percent.isUnreserved c && c != '.'

theorem mem_bare_safe {label : String} {id : Id label} (generated : id.Generated) :
    ∀ c ∈ id.bare.toList, isPathSafe c = true := by
  have all : Base58.alphabet.all isPathSafe = true := by decide +kernel
  rcases generated with ⟨bytes, rfl⟩
  intro c member
  exact List.all_eq_true.mp all c (Base58.encode_mem bytes.val c member)

theorem bare_ne_empty {label : String} {id : Id label} (generated : id.Generated) : id.bare ≠ "" := by
  rcases generated with ⟨bytes, rfl⟩
  intro empty
  have drawn : bytes.val = [] := Base58.encode_injective (empty.trans (by decide))
  have sized := bytes.property
  rw [drawn] at sized
  exact absurd sized (by decide)

theorem parseIssuerId_generated (generated : issuerId.Generated) :
    parseIssuerId wording issuerId.bare = .ok issuerId := by
  rw [parseIssuerId, fromBare_ok_iff.mpr ⟨rfl, generated⟩]
  rfl

theorem parseOfferId_generated (generated : offerId.Generated) :
    parseOfferId wording offerId.bare = .ok offerId := by
  rw [parseOfferId, fromBare_ok_iff.mpr ⟨rfl, generated⟩]
  rfl

/-- Nothing in an encoded text ends the parameter that it is the value of. -/
theorem credentialOfferUri_link
    (documented : ∀ text, Text.asBytes (urlencode text) = Percent.component (Text.asBytes text)) :
    credentialOfferUri (buildOfferDeeplink urlencode issuerBaseUrl issuerId offerId) =
      some (trimEndSlashes issuerBaseUrl ++ "/i/" ++ issuerId.bare ++ "/credential-offer/" ++
        offerId.bare) := by
  generalize address : trimEndSlashes issuerBaseUrl ++ "/i/" ++ issuerId.bare ++
    "/credential-offer/" ++ offerId.bare = uri
  have whole : (Percent.component (Text.asBytes uri)).takeWhile (fun byte =>
      byte != 0x26 && byte != 0x23) = Percent.component (Text.asBytes uri) := by
    rw [List.takeWhile_eq_self_iff]
    intro byte member
    rcases Percent.mem_component member with plain | rfl
    · rw [Bool.and_eq_true, bne_iff_ne, bne_iff_ne]
      constructor
      · rintro rfl
        exact absurd plain (by decide)
      · rintro rfl
        exact absurd plain (by decide)
    · rfl
  have decoded := Percent.decode_component (Text.asBytes uri) []
  rw [List.append_nil, Percent.decode_nil, List.append_nil] at decoded
  simp only [credentialOfferUri, buildOfferDeeplink, address, Text.stripPrefix_append,
    Option.bind_some, documented, whole, decoded, Text.fromUtf8_asBytes]

/-- The segments of the address. -/
def addressed (issuerId : IssuerId) (offerId : CredentialOfferId) : List (List Char) :=
  ["i".toList, issuerId.bare.toList, "credential-offer".toList, offerId.bare.toList]

theorem addressed_safe (issuer : issuerId.Generated) (own : offerId.Generated) :
    ∀ segment ∈ addressed issuerId offerId, ∀ c ∈ segment, isPathSafe c = true := by
  intro segment listed
  simp only [addressed, List.mem_cons, List.not_mem_nil, or_false] at listed
  rcases listed with rfl | rfl | rfl | rfl
  · exact List.all_eq_true.mp rfl
  · exact mem_bare_safe issuer
  · exact List.all_eq_true.mp rfl
  · exact mem_bare_safe own

theorem plain_of_safe {segment : List Char} (all : ∀ c ∈ segment, isPathSafe c = true) :
    UrlPath.Plain segment := by
  have undotted : '.' ∉ segment := fun member => absurd (all '.' member) (by decide)
  refine UrlPath.plain_of_unreserved (fun c member => (Bool.and_eq_true_iff.mp (all c member)).1) ?_
  constructor
  · rintro rfl
    exact undotted (.head _)
  · rintro rfl
    exact undotted (.head _)

theorem decode_bare {label : String} {id : Id label} (generated : id.Generated) :
    Text.fromUtf8 (Percent.decode (Percent.encode Percent.pathSet id.bare.toList)) =
      some id.bare := by
  rw [Percent.decode_encode _ (plain_of_safe (mem_bare_safe generated)).unescaped,
    Percent.utf8_toList, Text.fromUtf8_asBytes]

theorem offerRoute_addressed (issuer : issuerId.Generated) (own : offerId.Generated) :
    offerRoute (UrlPath.parse Percent.pathSet (UrlPath.joined (addressed issuerId offerId))).segments =
      some (issuerId.bare, offerId.bare) := by
  have safe := addressed_safe issuer own
  have closed : UrlPath.Closed (addressed issuerId offerId) := by
    intro last ends
    apply UrlPath.ends_of_unreserved
    intro c member
    exact (Bool.and_eq_true_iff.mp (safe last (List.mem_of_getLast? ends) c member)).1
  have named : ∀ {label : String} {id : Id label}, id.Generated →
      Percent.encode Percent.pathSet id.bare.toList ≠ [] := by
    intro label id generated empty
    exact bare_ne_empty generated (String.toList_inj.mp ((Percent.encode_eq_nil _).mp empty))
  have some_ : addressed issuerId offerId ≠ [] := by simp [addressed]
  rw [UrlPath.parse_joined Percent.pathSet some_
    (fun segment listed => plain_of_safe (safe segment listed)) closed]
  simp only [addressed, List.map_cons, List.map_nil, offerRoute]
  rw [if_pos ⟨by decide, named issuer, by decide, named own⟩, decode_bare issuer, decode_bare own]
  rfl

/-- The wallet API reads the two ids out of the address. -/
theorem serveOffer_address {issuerRead offerRead : Database} {now : DateTime}
    (issuer : issuerId.Generated) (own : offerId.Generated) :
    serveOffer wording issuerBaseUrl issuerRead offerRead (trimEndSlashes issuerBaseUrl ++ "/i/" ++
        issuerId.bare ++ "/credential-offer/" ++ offerId.bare) now =
      some (credentialOffer issuerBaseUrl issuerRead offerRead issuerId offerId now) := by
  have address : trimEndSlashes issuerBaseUrl ++ "/i/" ++ issuerId.bare ++ "/credential-offer/" ++
      offerId.bare = (trimEndSlashes issuerBaseUrl ++ "/") ++
        ("i/" ++ issuerId.bare ++ "/credential-offer/" ++ offerId.bare) := by
    simp only [← String.toList_inj, String.toList_append, List.append_assoc]
    rfl
  have path : ("i/" ++ issuerId.bare ++ "/credential-offer/" ++ offerId.bare).toList =
      UrlPath.joined (addressed issuerId offerId) := by
    simp [UrlPath.joined, addressed, List.intercalate]
  rw [serveOffer, address, Text.stripPrefix_append, Option.bind_some, path,
    offerRoute_addressed issuer own, Option.map_some, parseIssuerId_generated issuer,
    parseOfferId_generated own]
  rfl

end Links

/-! What the statements of a run do to an issuer and to an offer of it. -/

/-- The issuer that a create request has found, with the tenant it was found under. -/
def Session.foundIssuer : Session → Option (IssuerId × TenantId)
  | .issuerProbed request _ | .typeProbed request .. | .claimsValidated request .. =>
      some (request.issuerId, request.tenantId)
  | _ => none

def Event.ends (id : CredentialOfferId) (event : Event) : Bool :=
  match event.action with
  | .endOffer ended _ _ => ended == id
  | _ => false

/-- Everything one statement can do to the issuers, the offers and what a request has found. -/
inductive Touch (state : State) (event : Event) (after : State) : Prop
  | other (next : Session) (sessions : after.sessions = Function.update state.sessions event.t next)
      (found : next.foundIssuer = none ∨
        next.foundIssuer = (state.sessions event.t).foundIssuer)
      (issuers : after.issuers = state.issuers) (offers : after.offers = state.offers)
      (stays : ∀ id, event.ends id = false)
  | find (issuerId : IssuerId) (tenantId : TenantId) (next : Session)
      (sessions : after.sessions = Function.update state.sessions event.t next)
      (found : next.foundIssuer = some (issuerId, tenantId))
      (issued : state.issuerTenant issuerId = some tenantId)
      (issuers : after.issuers = state.issuers) (offers : after.offers = state.offers)
      (stays : ∀ id, event.ends id = false)
  | insertOffer (offer : CredentialOffer) (absent : state.offers offer.id = none)
      (found : (state.sessions event.t).foundIssuer = some (offer.issuerId, offer.tenantId))
      (moved : after = state.withOffer offer event.t (.offerCreated (.ok offer)))
      (stays : ∀ id, event.ends id = false)
  | putIssuer (issuer : Worker.IssuerRecord)
      (stored : ∀ row, state.issuers issuer.id = some row → row.tenantId = issuer.tenantId)
      (moved : after = { state with
        issuers := Function.update state.issuers issuer.id (some issuer) })
      (stays : ∀ id, event.ends id = false)
  | endOffer (offer ended : CredentialOffer) (id : CredentialOfferId)
      (stored : state.offers id = some offer)
      (ends : ∃ now, ended = offer.asIssued now ∨ ended = offer.asCancelled now)
      (moved : after = { state with offers := Function.update state.offers id (some ended) })
      (only : ∀ other, event.ends other = (id == other))

section Touches

variable {state after : State} {event : Event}

section Closed

variable (stays : ∀ id, event.ends id = false)
include stays

theorem insertType_touch {request : NewType} {id : CredentialTypeId} {now : DateTime}
    (taken : state.insertTypeStep event.t request id now = some after) :
    Touch state event after := by
  unfold State.insertTypeStep at taken
  split at taken
  · split at taken
    · cases taken
    · cases taken
      exact .other _ rfl (.inl rfl) rfl rfl stays
    · cases taken
      exact .other _ rfl (.inl rfl) rfl rfl stays
  · cases taken

theorem changeType_touch {answer : Option (Except PersistenceError
      (Table TxId CredentialTypeId (Option CredentialType) × UpdateOutcome))}
    (taken : state.changeTypeStep event.t answer = some after) : Touch state event after := by
  unfold State.changeTypeStep at taken
  split at taken
  · split at taken
    · cases taken
    all_goals
      cases taken
      exact .other _ rfl (.inl rfl) rfl rfl stays
  · cases taken

theorem stampRetired_touch {request : RetireRequest}
    (taken : state.stampRetiredStep event.t request = some after) : Touch state event after := by
  unfold State.stampRetiredStep at taken
  split at taken
  · split at taken
    · cases taken
    all_goals
      cases taken
      exact .other _ rfl (.inl rfl) rfl rfl stays
  · cases taken

theorem deleteByType_touch (taken : state.deleteByTypeStep event.t = some after) :
    Touch state event after := by
  unfold State.deleteByTypeStep at taken
  split at taken
  · split at taken
    · cases taken
    · cases taken
      exact .other _ rfl (.inl rfl) rfl rfl stays
  · cases taken

theorem commit_touch (taken : state.commitStep event.t = some after) :
    Touch state event after := by
  unfold State.commitStep at taken
  split at taken
  · cases taken
    exact .other _ rfl (.inl rfl) rfl rfl stays
  · cases taken

theorem ownedPair_touch {request : PairRequest} {owned refused : Session}
    (ownedFound : owned.foundIssuer = none) (refusedFound : refused.foundIssuer = none)
    (taken : state.ownedPairStep event.t request owned refused = some after) :
    Touch state event after := by
  unfold State.ownedPairStep at taken
  split at taken
  · split at taken
    · cases taken
      exact .other _ rfl (.inl ownedFound) rfl rfl stays
    · cases taken
      exact .other _ rfl (.inl refusedFound) rfl rfl stays
  · cases taken

theorem assign_touch {now : DateTime} (taken : state.assignStep event.t now = some after) :
    Touch state event after := by
  unfold State.assignStep at taken
  split at taken
  · split at taken
    · cases taken
    · cases taken
      exact .other _ rfl (.inl rfl) rfl rfl stays
  · cases taken

theorem unassign_touch (taken : state.unassignStep event.t = some after) :
    Touch state event after := by
  unfold State.unassignStep at taken
  split at taken
  · split at taken
    · cases taken
    · cases taken
      exact .other _ rfl (.inl rfl) rfl rfl stays
  · cases taken

theorem probeIssuer_touch {request : Oidc.CreateRequest}
    (taken : state.probeIssuerStep event.t request = some after) : Touch state event after := by
  unfold State.probeIssuerStep at taken
  split at taken
  · split at taken
    · cases taken
      exact .other _ rfl (.inl rfl) rfl rfl stays
    · split at taken
      · next present =>
          cases taken
          rcases (Option.any_eq_true ..).mp present with ⟨issuer, stored, tenant⟩
          refine .find request.issuerId request.tenantId _ rfl rfl ?_ rfl rfl stays
          rw [State.issuerTenant, stored, Option.map_some, beq_iff_eq.mp tenant]
      · cases taken
        exact .other _ rfl (.inl rfl) rfl rfl stays
  · cases taken

theorem probeType_touch (taken : state.probeTypeStep event.t = some after) :
    Touch state event after := by
  unfold State.probeTypeStep at taken
  split at taken
  · next request expiresIn at_ =>
      split at taken
      · cases taken
        exact .other _ rfl (.inl rfl) rfl rfl stays
      · cases taken
        exact .other _ rfl (.inr (by rw [at_]; rfl)) rfl rfl stays
  · cases taken

theorem probeAssignment_touch {validated : Except ApiError Unit}
    (taken : state.probeAssignmentStep event.t validated = some after) :
    Touch state event after := by
  unfold State.probeAssignmentStep at taken
  split at taken
  · next request expiresIn found at_ =>
      split at taken
      · split at taken
        · cases taken
          exact .other _ rfl (.inl rfl) rfl rfl stays
        · cases taken
          exact .other _ rfl (.inr (by rw [at_]; rfl)) rfl rfl stays
      · cases taken
        exact .other _ rfl (.inl rfl) rfl rfl stays
  · cases taken

theorem insertOffer_touch {id : CredentialOfferId} {code : PreAuthCode} {now : DateTime}
    (taken : state.insertOfferStep event.t id code now = some after) : Touch state event after := by
  unfold State.insertOfferStep at taken
  split at taken
  · next request expiresIn found at_ =>
      dsimp only at taken
      split at taken
      · cases taken
        exact .other _ rfl (.inl rfl) rfl rfl stays
      · next absent =>
          cases taken
          exact .insertOffer (CredentialOffer.new id request.tenantId request.issuerId
            (some found.id) found.vct request.claims code (now + expiresIn) now) absent
            (by rw [at_]; rfl) rfl stays
  · cases taken

theorem putIssuer_touch {issuer : Worker.IssuerRecord}
    (taken : state.putIssuerStep issuer = some after) : Touch state event after := by
  unfold State.putIssuerStep at taken
  split at taken
  · next kept =>
      cases taken
      refine .putIssuer issuer ?_ rfl stays
      intro row stored
      exact beq_iff_eq.mp (Option.all_eq_true .. |>.mp kept row stored)
  · cases taken

theorem fail_touch {details : String} (taken : state.failStep event.t details = some after) :
    Touch state event after := by
  unfold State.failStep at taken
  split at taken
  case h_8 => cases taken
  all_goals
    cases taken
    exact .other _ rfl (.inl rfl) rfl rfl stays

end Closed

theorem endOffer_touch {id : CredentialOfferId} {issued : Bool} {now : DateTime}
    (only : ∀ other, event.ends other = (id == other))
    (taken : state.endOfferStep id issued now = some after) : Touch state event after := by
  unfold State.endOfferStep at taken
  split at taken
  · next offer stored =>
      cases taken
      refine .endOffer offer _ id stored ⟨now, ?_⟩ rfl only
      cases issued with
      | true => exact .inl rfl
      | false => exact .inr rfl
  · cases taken

theorem step_touch (taken : state.step event = some after) : Touch state event after := by
  rcases event with ⟨t, action⟩
  cases action with
  | insertType request id now => exact insertType_touch (fun _ => rfl) taken
  | updateStructured tenantId id update now => exact changeType_touch (fun _ => rfl) taken
  | updateBlob tenantId id blob now => exact changeType_touch (fun _ => rfl) taken
  | stampRetired request => exact stampRetired_touch (fun _ => rfl) taken
  | deleteByType => exact deleteByType_touch (fun _ => rfl) taken
  | commit => exact commit_touch (fun _ => rfl) taken
  | probePair request => exact ownedPair_touch (fun _ => rfl) rfl rfl taken
  | assign now => exact assign_touch (fun _ => rfl) taken
  | probeUnassign request => exact ownedPair_touch (fun _ => rfl) rfl rfl taken
  | unassign => exact unassign_touch (fun _ => rfl) taken
  | probeIssuer request => exact probeIssuer_touch (fun _ => rfl) taken
  | probeType => exact probeType_touch (fun _ => rfl) taken
  | probeAssignment validated => exact probeAssignment_touch (fun _ => rfl) taken
  | insertOffer id code now => exact insertOffer_touch (fun _ => rfl) taken
  | putIssuer issuer => exact putIssuer_touch (fun _ => rfl) taken
  | endOffer id issued now => exact endOffer_touch (fun _ => rfl) taken
  | fail details => exact fail_touch (fun _ => rfl) taken

/-- An issuer stays with its tenant. -/
theorem touch_issuerTenant (touch : Touch state event after) {id : IssuerId} {tenantId : TenantId}
    (issued : state.issuerTenant id = some tenantId) : after.issuerTenant id = some tenantId := by
  cases touch with
  | other next sessions found issuers offers stays | find _ _ next sessions found _ issuers =>
      rw [State.issuerTenant, issuers]
      exact issued
  | putIssuer issuer stored moved =>
      subst moved
      by_cases here : id = issuer.id
      · subst here
        rcases Option.map_eq_some_iff.mp issued with ⟨row, was, rfl⟩
        simp [State.issuerTenant, stored row was]
      · exact (congrArg _ (Function.update_of_ne here ..)).trans issued
  | insertOffer offer absent found moved =>
      subst moved
      exact issued
  | endOffer offer ended id stored ends moved =>
      subst moved
      exact issued

/-- What a create request has found is still there. -/
def Found (state : State) : Prop :=
  ∀ t id tenantId, (state.sessions t).foundIssuer = some (id, tenantId) →
    state.issuerTenant id = some tenantId

theorem found_touch (found : Found state) (touch : Touch state event after) : Found after := by
  intro u id tenantId asks
  have kept : ∀ next : Session, after.sessions = Function.update state.sessions event.t next →
      (next.foundIssuer = some (id, tenantId) → state.issuerTenant id = some tenantId) →
      state.issuerTenant id = some tenantId := by
    intro next sessions fresh
    rw [sessions] at asks
    by_cases own : u = event.t
    · subst own
      rw [Function.update_self] at asks
      exact fresh asks
    · rw [Function.update_of_ne own] at asks
      exact found u id tenantId asks
  apply touch_issuerTenant touch
  cases touch with
  | other next sessions still issuers offers stays =>
      apply kept next sessions
      intro asked
      rcases still with none_ | same
      · rw [none_] at asked
        cases asked
      · exact found event.t id tenantId (same.symm.trans asked)
  | find issuerId tenant next sessions now issued =>
      apply kept next sessions
      intro asked
      rw [now] at asked
      cases asked
      exact issued
  | insertOffer offer absent asked moved =>
      subst moved
      apply kept _ rfl
      intro closed
      cases closed
  | putIssuer issuer stored moved =>
      subst moved
      exact found u id tenantId asks
  | endOffer offer ended id stored ends moved =>
      subst moved
      exact found u _ tenantId asks

/-- A row that came from the offer, as it is answered to a wallet. -/
structure Descends (offer : CredentialOffer) (ended : Bool) (row : CredentialOffer) : Prop where
  tenantId : row.tenantId = offer.tenantId
  issuerId : row.issuerId = offer.issuerId
  open_ : ended = false → row = offer
  closed : ended = true → row.state = .issued ∨ row.state = .cancelled

theorem touch_offer (touch : Touch state event after) {offer row : CredentialOffer}
    {id : CredentialOfferId} {ended : Bool} (stored : state.offers id = some row)
    (descends : Descends offer ended row) :
    ∃ later, after.offers id = some later ∧ Descends offer (event.ends id || ended) later := by
  cases touch with
  | other _ _ _ _ offers stays | find _ _ _ _ _ _ _ offers stays =>
      rw [offers, stays, Bool.false_or]
      exact ⟨row, stored, descends⟩
  | insertOffer fresh absent found moved stays =>
      subst moved
      rw [stays, Bool.false_or]
      refine ⟨row, ?_, descends⟩
      have apart : id ≠ fresh.id := by
        rintro rfl
        rw [absent] at stored
        cases stored
      exact (Function.update_of_ne apart ..).trans stored
  | putIssuer issuer kept moved stays =>
      subst moved
      rw [stays, Bool.false_or]
      exact ⟨row, stored, descends⟩
  | endOffer found settled key there ends moved only =>
      subst moved
      rw [only]
      by_cases here : key = id
      · subst here
        obtain rfl := Option.some.inj (there.symm.trans stored)
        refine ⟨settled, Function.update_self .., ?_⟩
        rw [beq_self_eq_true, Bool.true_or]
        rcases ends with ⟨now, rfl | rfl⟩
        · exact ⟨descends.tenantId, descends.issuerId, nofun, fun _ => .inl rfl⟩
        · exact ⟨descends.tenantId, descends.issuerId, nofun, fun _ => .inr rfl⟩
      · rw [beq_eq_false_iff_ne.mpr here, Bool.false_or]
        exact ⟨row, (Function.update_of_ne (Ne.symm here) ..).trans stored, descends⟩

end Touches

section Runs

variable {first last : State} {trace : List Event} {id : CredentialOfferId}
  {offer row : CredentialOffer}

theorem found_run (initial : first.Initial) (run : Run (Steps State.step) first trace last) :
    Found last := by
  have start : Found first := by
    intro t id tenantId asks
    rw [initial.sessions t] at asks
    cases asks
  exact run.invariant Found (fun state event after found taken => found_touch found (step_touch taken))
    start

theorem run_issuerTenant {issuerId : IssuerId} {tenantId : TenantId}
    (run : Run (Steps State.step) first trace last)
    (issued : first.issuerTenant issuerId = some tenantId) :
    last.issuerTenant issuerId = some tenantId :=
  run.invariant (fun state => state.issuerTenant issuerId = some tenantId)
    (fun _ _ _ issued taken => touch_issuerTenant (step_touch taken) issued) issued

/-- Until a statement of the run ends it, an offer is the one that was inserted. -/
theorem run_offer {ended : Bool} (run : Run (Steps State.step) first trace last)
    (stored : first.offers id = some row) (descends : Descends offer ended row) :
    ∃ later, last.offers id = some later ∧
      Descends offer (trace.any (Event.ends id) || ended) later := by
  induction run generalizing row ended with
  | nil => exact ⟨row, stored, descends⟩
  | @cons first middle last event trace taken rest ih =>
      rcases touch_offer (step_touch taken) stored descends with ⟨next, there, onward⟩
      rcases ih there onward with ⟨later, here, reached⟩
      refine ⟨later, here, ?_⟩
      rw [List.any_cons, Bool.or_comm (Event.ends id event), Bool.or_assoc]
      exact reached

/-- What a wallet is answered while the offer is open. -/
def offerBody (issuerBaseUrl : String) (offer : CredentialOffer) (preAuthCode : String) :
    CredentialOfferBody where
  credentialIssuer := issuerUrl issuerBaseUrl offer.issuerId
  credentialConfigurationIds := [offer.vct]
  grants := .object [(preAuthorizedGrantType,
    .object [("pre-authorized_code", .string preAuthCode)])]

theorem credentialOffer_descends {issuerBaseUrl : String} {issuerRead offerRead : Database}
    {issuer : Worker.IssuerRecord} {code : PreAuthCode} {ended : Bool} {now : DateTime}
    (issued : issuerRead.issuers offer.issuerId = some issuer)
    (tenant : issuer.tenantId = offer.tenantId) (stored : offerRead.offers id = some row)
    (descends : Descends offer ended row) (pending : offer.state = .pending)
    (coded : offer.preAuthCode = some code) :
    credentialOffer issuerBaseUrl issuerRead offerRead offer.issuerId id now =
      if ended then .error .notFound
      else if now < offer.expiresAt then .ok (offerBody issuerBaseUrl offer code.text)
      else .error .expired := by
  have scope : CredentialOffers.inScope row issuer.tenantId offer.issuerId = true := by
    simp [CredentialOffers.inScope, tenant, descends.tenantId, descends.issuerId]
  have picked : (some row).filter (fun found =>
      CredentialOffers.inScope found issuer.tenantId offer.issuerId) = some row :=
    Option.filter_eq_some_iff.mpr ⟨rfl, scope⟩
  unfold credentialOffer
  rw [issued, stored]
  dsimp only
  rw [picked]
  cases ended with
  | true =>
      rcases descends.closed rfl with settled | settled
      · have observed : row.observedState now = .issued := by
          simp [CredentialOffer.observedState, settled]
        simp [observed]
      · have observed : row.observedState now = .cancelled := by
          simp [CredentialOffer.observedState, settled]
        simp [observed]
  | false =>
      obtain rfl := descends.open_ rfl
      by_cases early : now < row.expiresAt
      · have observed := CredentialOffer.observedState_pending.mpr ⟨pending, early⟩
        simp [observed, coded, early, offerBody]
      · have observed : row.observedState now = .expired := by
          simp [CredentialOffer.observedState, CredentialOffer.isExpiredAt, pending,
            Int.not_lt.mp early]
        simp [observed, early]

/-- The offer that a create request answers is the one it has inserted. -/
theorem created_offer {before asked : State} {t : TxId} {code : PreAuthCode} {createdAt : DateTime}
    (created : before.step ⟨t, .insertOffer id code createdAt⟩ = some asked)
    (answered : asked.sessions t = .offerCreated (.ok offer)) :
    offer.state = .pending ∧ offer.preAuthCode = some code ∧ asked.offers offer.id = some offer ∧
      (before.sessions t).foundIssuer = some (offer.issuerId, offer.tenantId) := by
  have taken : before.insertOfferStep t id code createdAt = some asked := created
  unfold State.insertOfferStep at taken
  split at taken
  · next request expiresIn found at_ =>
      dsimp only at taken
      split at taken
      · cases taken
        have refused := (Function.update_self ..).symm.trans answered
        cases refused
      · cases taken
        have inserted := (Function.update_self ..).symm.trans answered
        cases inserted
        exact ⟨rfl, rfl, Function.update_self .., by rw [at_]; rfl⟩
  · cases taken

/-- Whatever else runs in between, the link in the answer of a create request leads a wallet to the
code in that answer until the offer expires, to the news of its expiry after that, and to nothing once
the offer has been issued or cancelled. -/
theorem deeplinks_are_honoured {before asked middle : State} {front back later : List Event}
    {t : TxId} {code : PreAuthCode} {createdAt : DateTime} {urlencode : String → String}
    (documented : ∀ text, Text.asBytes (urlencode text) = Percent.component (Text.asBytes text))
    (wording : String → String) (issuerBaseUrl : String) (initial : first.Initial)
    (arrived : Run (Steps State.step) first front before)
    (created : before.step ⟨t, .insertOffer id code createdAt⟩ = some asked)
    (answered : asked.sessions t = .offerCreated (.ok offer))
    (issuer : offer.issuerId.Generated) (own : offer.id.Generated)
    (run : Run (Steps State.step) asked back middle)
    (rest : Run (Steps State.step) middle later last) (now : DateTime) :
    ((credentialOfferUri
        (createResponse urlencode issuerBaseUrl offer code).offerDeeplink).bind fun uri =>
      serveOffer wording issuerBaseUrl middle.database last.database uri now) =
      some (if (back ++ later).any (Event.ends offer.id) then .error .notFound
        else if now < offer.expiresAt then .ok (offerBody issuerBaseUrl offer
          (createResponse urlencode issuerBaseUrl offer code).preAuthCode)
        else .error .expired) := by
  rcases created_offer created answered with ⟨pending, coded, inserted, found⟩
  have issued := found_run initial arrived t _ _ found
  have standing := touch_issuerTenant (step_touch created) issued
  rcases Option.map_eq_some_iff.mp (run_issuerTenant run standing) with ⟨row, stored, tenant⟩
  have whole : Descends offer false offer := ⟨rfl, rfl, fun _ => rfl, nofun⟩
  rcases run_offer (run.append rest) inserted whole with ⟨reached, there, descends⟩
  rw [Bool.or_false] at descends
  rw [createResponse, credentialOfferUri_link documented, Option.bind_some,
    serveOffer_address issuer own]
  exact congrArg some (credentialOffer_descends stored tenant there descends pending coded)

end Runs

def linkedIssuer : Worker.IssuerRecord := { sampleIssuer with id := ⟨"9hXq2vRtL8pK7f"⟩ }

def linkedOfferId : CredentialOfferId := ⟨"4Mk7yK5pQR7sN3"⟩

def linkedPair : PairRequest := ⟨linkedIssuer.tenantId, linkedIssuer.id, sampleTypeId⟩

def linkedRequest : List Event :=
  [⟨0, .putIssuer linkedIssuer⟩, ⟨1, .insertType sampleType sampleTypeId 0⟩,
    ⟨2, .probePair linkedPair⟩, ⟨2, .assign (seconds 60)⟩,
    ⟨3, .probeIssuer ⟨linkedIssuer.tenantId, linkedIssuer.id, none, sampleTypeId, .object []⟩⟩,
    ⟨3, .probeType⟩, ⟨3, .probeAssignment (.ok ())⟩]

def linkedInsert : Event := ⟨3, .insertOffer linkedOfferId ⟨"6Qn7yK5pQR7sN3"⟩ (seconds 120)⟩

/-- The issuer is rewritten, and the type is edited, before the wallet asks. -/
def linkedEdits : List Event × List Event :=
  ([⟨5, .putIssuer { linkedIssuer with displayName := none }⟩],
    [⟨6, .updateBlob linkedIssuer.tenantId sampleTypeId (.display (.object [])) (seconds 125)⟩])

def Session.createdOffer : Session → Option CredentialOffer
  | .offerCreated (.ok offer) => some offer
  | _ => none

theorem Session.createdOffer_some {session : Session} {offer : CredentialOffer}
    (created : session.createdOffer = some offer) : session = .offerCreated (.ok offer) := by
  unfold createdOffer at created
  split at created
  · cases created
    rfl
  · cases created

theorem generated_of_decode {label text : String}
    (sized : (Base58.decode text).map List.length = some idBytes) :
    (⟨text⟩ : Id label).Generated := by
  rcases Option.map_eq_some_iff.mp sized with ⟨bytes, decoded, length⟩
  refine ⟨⟨bytes, length⟩, ?_⟩
  rw [Id.generate, generateBare, Base58.decode_iff.mp decoded]

theorem deeplinks_are_honoured_sample : ∃ before asked middle last offer,
    Run (Steps State.step) sampleStart linkedRequest before ∧
    before.step linkedInsert = some asked ∧ asked.sessions 3 = .offerCreated (.ok offer) ∧
    Run (Steps State.step) asked linkedEdits.1 middle ∧
    Run (Steps State.step) middle linkedEdits.2 last ∧
    ((credentialOfferUri (createResponse Percent.componentText "https://issuer.example/" offer
        ⟨"6Qn7yK5pQR7sN3"⟩).offerDeeplink).bind fun uri =>
      serveOffer id "https://issuer.example/" middle.database last.database uri (seconds 130)) =
      some (.ok (offerBody "https://issuer.example/" offer "6Qn7yK5pQR7sN3")) := by
  have computed : ((exec State.step sampleStart linkedRequest).bind fun before =>
      (before.step linkedInsert).bind fun asked =>
        (exec State.step asked linkedEdits.1).bind fun middle =>
          (exec State.step middle linkedEdits.2).bind fun _ =>
            (asked.sessions 3).createdOffer.map fun offer =>
              (offer.id, offer.issuerId, offer.expiresAt)) =
      some (linkedOfferId, linkedIssuer.id, seconds 720) := by decide
  rcases Option.bind_eq_some_iff.mp computed with ⟨before, arrived, computed⟩
  rcases Option.bind_eq_some_iff.mp computed with ⟨asked, created, computed⟩
  rcases Option.bind_eq_some_iff.mp computed with ⟨middle, run, computed⟩
  rcases Option.bind_eq_some_iff.mp computed with ⟨last, rest, computed⟩
  rcases Option.map_eq_some_iff.mp computed with ⟨offer, answered, seen⟩
  simp only [Prod.mk.injEq] at seen
  rcases seen with ⟨own, issuer, expiry⟩
  have session := Session.createdOffer_some answered
  have issued : offer.issuerId.Generated := by
    rw [issuer]
    exact generated_of_decode (by decide +kernel)
  have named : offer.id.Generated := by
    rw [own]
    exact generated_of_decode (by decide +kernel)
  have honoured := deeplinks_are_honoured Percent.asBytes_componentText id "https://issuer.example/"
    sampleStart_initial (Run.of_exec arrived) created session issued named (Run.of_exec run)
    (Run.of_exec rest) (seconds 130)
  have open_ : (linkedEdits.1 ++ linkedEdits.2).any (Event.ends offer.id) = false := rfl
  have early : seconds 130 < offer.expiresAt := by
    rw [expiry]
    decide
  rw [open_, if_neg Bool.false_ne_true, if_pos early] at honoured
  exact ⟨before, asked, middle, last, offer, Run.of_exec arrived, created, session,
    Run.of_exec run, Run.of_exec rest, honoured⟩

end SwiyuIssuer.Catalogue
