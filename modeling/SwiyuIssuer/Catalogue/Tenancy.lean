import SwiyuIssuer.Catalogue.Documents
import SwiyuIssuer.Library.Projection

/-! Whose the types, issuers, assignments and offers are, and what the requests of one tenant do to
those of another. -/

namespace SwiyuIssuer.Catalogue

open Library Persistence StatusStore

/-- The tenant that a statement asks under; the later statements of a request take it from the
session. -/
def Action.scope : Action → Option TenantId
  | insertType request .. => some request.tenantId
  | updateStructured tenantId .. | updateBlob tenantId .. => some tenantId
  | stampRetired request => some request.tenantId
  | probePair request | probeUnassign request => some request.tenantId
  | probeIssuer request => some request.tenantId
  | putIssuer issuer => some issuer.tenantId
  | _ => none

namespace Session

def scope : Session → Option TenantId
  | typeRetired request | assignmentsDeleted request _ => some request.tenantId
  | pairOwned request | pairToUnassign request => some request.tenantId
  | issuerProbed request _ | typeProbed request .. | claimsValidated request .. =>
      some request.tenantId
  | _ => none

/-- The type that the request has found among those of its tenant. -/
def ownType : Session → Option CredentialTypeId
  | typeRetired request | assignmentsDeleted request _ => some request.id
  | pairOwned request | pairToUnassign request => some request.credentialTypeId
  | typeProbed _ _ found | claimsValidated _ _ found => some found.id
  | _ => none

/-- The issuer that the request has found among those of its tenant. -/
def ownIssuer : Session → Option IssuerId
  | pairOwned request | pairToUnassign request => some request.issuerId
  | issuerProbed request _ | typeProbed request .. | claimsValidated request .. =>
      some request.issuerId
  | _ => none

def deletedKeys : Session → List AssignmentKey
  | assignmentsDeleted _ deleted => deleted
  | _ => []

theorem typeClaim_some {session : Session} {id : CredentialTypeId}
    {committed : Option CredentialType} {version : Option CredentialType}
    (claims : session.typeClaim id committed = some version) :
    session.ownType = some id ∧ ∃ now, version = committed.map (CredentialTypes.asRetired now) := by
  cases session with
  | typeRetired request | assignmentsDeleted request =>
      rcases Option.ite_none_right_eq_some.mp claims with ⟨rfl, same⟩
      exact ⟨rfl, request.now, (Option.some.inj same).symm⟩
  | _ => cases claims

theorem assignmentClaim_some {session : Session} {key : AssignmentKey}
    {committed version : Option IssuerCredentialTypeAssignment}
    (claims : session.assignmentClaim key committed = some version) : key ∈ session.deletedKeys := by
  cases session with
  | assignmentsDeleted request deleted => exact (Option.ite_none_right_eq_some.mp claims).1
  | _ => cases claims

end Session

namespace State

def typeTenant (state : State) (id : CredentialTypeId) : Option TenantId :=
  (state.types id).committed.map CredentialType.tenantId

def issuerTenant (state : State) (id : IssuerId) : Option TenantId :=
  (state.issuers id).map fun issuer => issuer.tenantId

def owns (mine : TenantId) (state : State) (id : CredentialTypeId) : Bool :=
  state.typeTenant id == some mine

/-- What the tenant has in the tables, and its requests. An assignment goes with its type. -/
def part (owner : TxId → TenantId) (mine : TenantId) (state : State) : State where
  types := state.types.restrict (state.owns mine) none
  assignments := state.assignments.restrict (fun key => state.owns mine key.2) none
  typeIds := state.typeIds.filter (state.owns mine)
  assignmentKeys := state.assignmentKeys.filter fun key => state.owns mine key.2
  issuers := fun id => (state.issuers id).filter fun issuer => issuer.tenantId == mine
  offers := fun id => (state.offers id).filter fun offer => offer.tenantId == mine
  sessions := fun t => if owner t = mine then state.sessions t else .idle

end State

/-- A request asks under the tenant of its context, an issuer is written and an offer is ended by a
request of its tenant, and what `generate` returns is the id of no row. -/
structure Scoped (owner : TxId → TenantId) (state : State) (event : Event) : Prop where
  asked : ∀ tenantId, event.action.scope = some tenantId → tenantId = owner event.t
  ended : ∀ id issued now offer, event.action = .endOffer id issued now →
    state.offers id = some offer → offer.tenantId = owner event.t
  written : ∀ issuer row, event.action = .putIssuer issuer →
    state.issuers issuer.id = some row → row.tenantId = issuer.tenantId
  freshType : ∀ request id now, event.action = .insertType request id now →
    state.types id = Cell.clean none
  freshOffer : ∀ id code now, event.action = .insertOffer id code now → state.offers id = none

/-- What a request of the tenant has found is still the tenant's. -/
structure Session.Owned (state : State) (tenant : TenantId) (session : Session) : Prop where
  scope : ∀ id, session.scope = some id → id = tenant
  types : ∀ id, session.ownType = some id → state.typeTenant id = some tenant
  issuers : ∀ id, session.ownIssuer = some id → state.issuerTenant id = some tenant
  deleted : ∀ key ∈ session.deletedKeys, session.ownType = some key.2

/-- An assignment, its type and its issuer are of one tenant. -/
def TenantsAgree (state : State) : Prop :=
  ∀ key row, (state.assignments key).committed = some row →
    state.typeTenant key.2 = some row.tenantId ∧ state.issuerTenant key.1 = some row.tenantId

structure Tenancy (owner : TxId → TenantId) (state : State) : Prop where
  sound : Sound state
  keyed : Keyed state
  sessions : ∀ t, (state.sessions t).Owned state (owner t)
  agree : TenantsAgree state
  typeIds : ∀ id ∈ state.typeIds, state.typeTenant id ≠ none
  assignmentKeys : ∀ key ∈ state.assignmentKeys, state.typeTenant key.2 ≠ none

/-- A session that has found nothing. -/
theorem Session.owned_closed {state : State} {tenant : TenantId} {session : Session}
    (scope : session.scope = none) (types : session.ownType = none)
    (issuers : session.ownIssuer = none) (deleted : session.deletedKeys = []) :
    session.Owned state tenant := by
  refine ⟨?_, ?_, ?_, ?_⟩
  · simp [scope]
  · simp [types]
  · simp [issuers]
  · simp [deleted]

/-- Everything one statement can do, by whose it is. -/
inductive Turn (owner : TxId → TenantId) (state : State) (t : TxId) : State → Prop
  | goto (next : Session) (owned : next.Owned state (owner t)) : Turn owner state t (state.goto t next)
  | rollback (next : Session) (owned : next.Owned state (owner t)) :
      Turn owner state t (state.rollback t next)
  | insertType (row : CredentialType) (next : Session) (owned : next.Owned state (owner t))
      (absent : state.types row.id = Cell.clean none) (own : row.tenantId = owner t) :
      Turn owner state t (state.withTypes
        (Function.update state.types row.id ((state.types row.id).autocommit fun _ => some row))
        (row.id :: state.typeIds) t next)
  | changeType (id : CredentialTypeId) (write : CredentialType → CredentialType) (next : Session)
      (owned : next.Owned state (owner t)) (own : state.typeTenant id = some (owner t))
      (keeps : ∀ row, (write row).tenantId = row.tenantId) :
      Turn owner state t (state.withTypes
        (Function.update state.types id ((state.types id).autocommit (Option.map write)))
        state.typeIds t next)
  | stamp (id : CredentialTypeId) (write : CredentialType → CredentialType) (next : Session)
      (owned : next.Owned state (owner t)) (own : state.typeTenant id = some (owner t)) :
      Turn owner state t (state.withTypes (state.types.update t id (Option.map write))
        state.typeIds t next)
  | delete (id : CredentialTypeId) (deleted : List AssignmentKey) (next : Session)
      (owned : next.Owned state (owner t)) (own : state.typeTenant id = some (owner t))
      (each : ∀ key ∈ deleted, key.2 = id) :
      Turn owner state t (state.withAssignments
        (fun key =>
          if key ∈ deleted then (state.assignments key).update t fun _ => none
          else state.assignments key)
        state.assignmentKeys t next)
  | commit (request : RetireRequest) (deleted : List AssignmentKey) (next : Session)
      (owned : next.Owned state (owner t))
      (at_ : state.sessions t = .assignmentsDeleted request deleted) :
      Turn owner state t (state.commitTo t next)
  | assign (key : AssignmentKey) (row : IssuerCredentialTypeAssignment) (next : Session)
      (owned : next.Owned state (owner t)) (own : row.tenantId = owner t)
      (typed : state.typeTenant key.2 = some (owner t))
      (issued : state.issuerTenant key.1 = some (owner t)) :
      Turn owner state t (state.withAssignments
        (Function.update state.assignments key ((state.assignments key).autocommit fun _ => some row))
        (key :: state.assignmentKeys) t next)
  | relist (key : AssignmentKey) (next : Session) (owned : next.Owned state (owner t))
      (typed : state.typeTenant key.2 = some (owner t)) :
      Turn owner state t (state.withAssignments state.assignments (key :: state.assignmentKeys) t next)
  | unassign (key : AssignmentKey) (next : Session) (owned : next.Owned state (owner t))
      (typed : state.typeTenant key.2 = some (owner t)) :
      Turn owner state t (state.withAssignments
        (Function.update state.assignments key ((state.assignments key).autocommit fun _ => none))
        state.assignmentKeys t next)
  | insertOffer (offer : CredentialOffer) (next : Session) (owned : next.Owned state (owner t))
      (absent : state.offers offer.id = none) (own : offer.tenantId = owner t) :
      Turn owner state t (state.withOffer offer t next)
  | putIssuer (issuer : Worker.IssuerRecord) (own : issuer.tenantId = owner t)
      (stays : ∀ row, state.issuers issuer.id = some row → row.tenantId = issuer.tenantId) :
      Turn owner state t
        { state with issuers := Function.update state.issuers issuer.id (some issuer) }
  | endOffer (id : CredentialOfferId) (offer ended : CredentialOffer)
      (stored : state.offers id = some offer) (own : offer.tenantId = owner t)
      (stays : ended.tenantId = offer.tenantId) :
      Turn owner state t { state with offers := Function.update state.offers id (some ended) }

section Turns

variable {owner : TxId → TenantId} {state after : State} {t : TxId}

theorem Tenancy.read_kept (tenancy : Tenancy owner state) (id : CredentialTypeId) (u : TxId) :
    (state.types id).read u = (state.types id).committed ∨
      ∃ now, (state.types id).read u =
        (state.types id).committed.map (CredentialTypes.asRetired now) := by
  cases claims : (state.sessions u).typeClaim id (state.types id).committed with
  | none => exact .inl (tenancy.sound.types.read_unclaimed claims)
  | some version =>
      rw [tenancy.sound.types.read_claimed claims]
      rcases Session.typeClaim_some claims with ⟨_, now, rfl⟩
      exact .inr ⟨now, rfl⟩

/-- A version that is read is of the tenant of the committed row. -/
theorem Tenancy.read_tenant (tenancy : Tenancy owner state) (id : CredentialTypeId) (u : TxId) :
    ((state.types id).read u).map CredentialType.tenantId = state.typeTenant id := by
  rcases tenancy.read_kept id u with same | ⟨now, retired⟩
  · rw [same]
    rfl
  · rw [retired, Option.map_map]
    rfl

theorem Tenancy.found (tenancy : Tenancy owner state) {tenantId : TenantId} {id : CredentialTypeId}
    {u : TxId} {row : CredentialType}
    (found : CredentialTypes.findByIdForTenant state.types u tenantId id = some row) :
    state.typeTenant id = some tenantId ∧ row.id = id := by
  rcases CredentialTypes.findByIdForTenant_some found with ⟨seen, rfl⟩
  refine ⟨by rw [← tenancy.read_tenant id u, seen, Option.map_some], ?_⟩
  rcases tenancy.read_kept id u with same | ⟨now, retired⟩
  · exact tenancy.keyed.types id row (same.symm.trans seen)
  · rcases Option.map_eq_some_iff.mp (retired.symm.trans seen) with ⟨before, stored, rfl⟩
    exact tenancy.keyed.types id before stored

/-- Only a request of the type's tenant holds its row. -/
theorem Tenancy.type_holder (tenancy : Tenancy owner state) {id : CredentialTypeId} {u : TxId}
    {version : Option CredentialType} (held : (state.types id).writer = some (u, version)) :
    state.typeTenant id = some (owner u) :=
  (tenancy.sessions u).types id
    (Session.typeClaim_some ((tenancy.sound.types id u version).mp held)).1

theorem Tenancy.assignment_holder (tenancy : Tenancy owner state) {key : AssignmentKey} {u : TxId}
    {version : Option IssuerCredentialTypeAssignment}
    (held : (state.assignments key).writer = some (u, version)) :
    state.typeTenant key.2 = some (owner u) := by
  have listed := Session.assignmentClaim_some ((tenancy.sound.assignments key u version).mp held)
  exact (tenancy.sessions u).types key.2 ((tenancy.sessions u).deleted key listed)


section Step

variable {event : Event}

theorem insertType_turn {request : NewType} {id : CredentialTypeId} {now : DateTime}
    (asked : request.tenantId = owner t) (absent : state.types id = Cell.clean none)
    (taken : state.insertTypeStep t request id now = some after) : Turn owner state t after := by
  unfold State.insertTypeStep at taken
  split at taken
  · split at taken
    · cases taken
    · cases taken
      exact .goto _ (Session.owned_closed rfl rfl rfl rfl)
    · next types inserted =>
        cases taken
        rcases CredentialTypes.insert_ok inserted with ⟨_, _, rfl⟩
        exact .insertType (request.create id now) _ (Session.owned_closed rfl rfl rfl rfl) absent asked
  · cases taken

theorem changeType_turn (tenancy : Tenancy owner state) {tenantId : TenantId} {id : CredentialTypeId}
    (write : CredentialType → CredentialType) (keeps : ∀ row, (write row).tenantId = row.tenantId)
    (asked : tenantId = owner t)
    (taken : state.changeTypeStep t
      (CredentialTypes.change state.types state.typeIds t tenantId id write) = some after) :
    Turn owner state t after := by
  unfold State.changeTypeStep at taken
  split at taken
  · split at taken
    · cases taken
    · cases taken
      exact .goto _ (Session.owned_closed rfl rfl rfl rfl)
    · cases taken
      exact .goto _ (Session.owned_closed rfl rfl rfl rfl)
    · next types written =>
        cases taken
        have own : state.typeTenant id = some (owner t) := by
          unfold CredentialTypes.change at written
          split at written
          · cases written
          · cases written
          · next row found _ => exact asked ▸ (tenancy.found found).1
        rcases CredentialTypes.change_ok written with ⟨_, absurd_⟩ | ⟨_, _, rfl⟩
        · cases absurd_
        · exact .changeType id write _ (Session.owned_closed rfl rfl rfl rfl) own keeps
  · cases taken

theorem stampRetired_turn (tenancy : Tenancy owner state) {request : RetireRequest}
    (asked : request.tenantId = owner t)
    (taken : state.stampRetiredStep t request = some after) : Turn owner state t after := by
  unfold State.stampRetiredStep at taken
  split at taken
  · split at taken
    · cases taken
    · cases taken
      exact .rollback _ (Session.owned_closed rfl rfl rfl rfl)
    · next types stamped =>
        cases taken
        have own : state.typeTenant request.id = some (owner t) := by
          unfold CredentialTypes.stampRetired at stamped
          split at stamped
          · cases stamped
          · next row found => exact asked ▸ (tenancy.found found).1
        rcases CredentialTypes.stampRetired_updated stamped with ⟨_, _, _, rfl⟩
        refine .stamp request.id _ _ ⟨?_, ?_, ?_, ?_⟩ own
        · rintro _ ⟨⟩
          exact asked
        · rintro _ ⟨⟩
          exact own
        · rintro _ ⟨⟩
        · rintro _ ⟨⟩
  · cases taken

theorem deleteByType_turn (tenancy : Tenancy owner state)
    (taken : state.deleteByTypeStep t = some after) : Turn owner state t after := by
  have owned := tenancy.sessions t
  unfold State.deleteByTypeStep at taken
  split at taken
  · next request at_ =>
      rw [at_] at owned
      split at taken
      · cases taken
      · next assignments deleted done =>
          cases taken
          rcases IssuerCredentialTypes.deleteByType_some done with ⟨each, rfl⟩
          refine .delete request.id deleted _ ⟨owned.scope, owned.types, owned.issuers, ?_⟩
            (owned.types _ rfl) fun key member => (each key member).1
          intro key member
          rw [(each key member).1]
          rfl
  · cases taken

/-- A request on a pair goes on when both halves are the tenant's. -/
theorem tenantOwnsPair_owned (tenancy : Tenancy owner state) {request : PairRequest}
    (asked : request.tenantId = owner t) (owns : state.tenantOwnsPair t request = true)
    {next : Session} (scope : next.scope = some request.tenantId)
    (types : next.ownType = some request.credentialTypeId)
    (issuers : next.ownIssuer = some request.issuerId) (deleted : next.deletedKeys = []) :
    next.Owned state (owner t) := by
  rw [State.tenantOwnsPair, Bool.and_eq_true, Option.any_eq_true, Option.isSome_iff_exists] at owns
  rcases owns with ⟨⟨issuer, stored, same⟩, row, found⟩
  refine ⟨?_, ?_, ?_, ?_⟩
  · intro id named
    rw [scope] at named
    cases named
    exact asked
  · intro id named
    rw [types] at named
    cases named
    exact asked ▸ (tenancy.found found).1
  · intro id named
    rw [issuers] at named
    cases named
    rw [State.issuerTenant, stored, Option.map_some, beq_iff_eq.mp same, asked]
  · simp [deleted]

theorem assign_turn (tenancy : Tenancy owner state) {now : DateTime}
    (taken : state.assignStep t now = some after) : Turn owner state t after := by
  have owned := tenancy.sessions t
  unfold State.assignStep IssuerCredentialTypes.assign at taken
  split at taken
  · next request at_ =>
      rw [at_] at owned
      have typed := owned.types _ rfl
      split at taken
      · cases taken
      · next assignments outcome assigned =>
          cases taken
          split at assigned
          · cases assigned
          · cases assigned
            exact .relist request.key _ (Session.owned_closed rfl rfl rfl rfl) typed
          · cases assigned
            exact .assign request.key _ _ (Session.owned_closed rfl rfl rfl rfl)
              (owned.scope _ rfl) typed (owned.issuers _ rfl)
  · cases taken

theorem unassign_turn (tenancy : Tenancy owner state)
    (taken : state.unassignStep t = some after) : Turn owner state t after := by
  have owned := tenancy.sessions t
  unfold State.unassignStep IssuerCredentialTypes.unassign at taken
  split at taken
  · next request at_ =>
      rw [at_] at owned
      split at taken
      · cases taken
      · next assignments outcome unassigned =>
          cases taken
          split at unassigned
          · cases unassigned
            exact .goto _ (Session.owned_closed rfl rfl rfl rfl)
          · cases unassigned
          · cases unassigned
            exact .unassign request.key _ (Session.owned_closed rfl rfl rfl rfl) (owned.types _ rfl)
  · cases taken

theorem probeIssuer_turn {request : Oidc.CreateRequest} (asked : request.tenantId = owner t)
    (taken : state.probeIssuerStep t request = some after) : Turn owner state t after := by
  unfold State.probeIssuerStep at taken
  split at taken
  · split at taken
    · cases taken
      exact .goto _ (Session.owned_closed rfl rfl rfl rfl)
    · split at taken
      · next own =>
          cases taken
          rcases (Option.any_eq_true ..).mp own with ⟨issuer, stored, same⟩
          refine .goto _ ⟨?_, ?_, ?_, ?_⟩
          · rintro _ ⟨⟩
            exact asked
          · rintro _ ⟨⟩
          · rintro _ ⟨⟩
            rw [State.issuerTenant, stored, Option.map_some, beq_iff_eq.mp same, asked]
          · rintro _ ⟨⟩
      · cases taken
        exact .goto _ (Session.owned_closed rfl rfl rfl rfl)
  · cases taken

theorem probeType_turn (tenancy : Tenancy owner state)
    (taken : state.probeTypeStep t = some after) : Turn owner state t after := by
  have owned := tenancy.sessions t
  unfold State.probeTypeStep at taken
  split at taken
  · next request expiresIn at_ =>
      rw [at_] at owned
      split at taken
      · cases taken
        exact .goto _ (Session.owned_closed rfl rfl rfl rfl)
      · next row found =>
          cases taken
          rcases tenancy.found (Option.filter_eq_some_iff.mp found).1 with ⟨typed, key⟩
          refine .goto _ ⟨owned.scope, ?_, owned.issuers, ?_⟩
          · rintro _ ⟨⟩
            rw [key, typed, owned.scope _ rfl]
          · rintro _ ⟨⟩
  · cases taken

theorem probeAssignment_turn (tenancy : Tenancy owner state) {validated : Except ApiError Unit}
    (taken : state.probeAssignmentStep t validated = some after) : Turn owner state t after := by
  have owned := tenancy.sessions t
  unfold State.probeAssignmentStep at taken
  split at taken
  · next request expiresIn row at_ =>
      rw [at_] at owned
      split at taken
      · split at taken
        · cases taken
          exact .goto _ (Session.owned_closed rfl rfl rfl rfl)
        · cases taken
          exact .goto _ ⟨owned.scope, owned.types, owned.issuers, owned.deleted⟩
      · cases taken
        exact .goto _ (Session.owned_closed rfl rfl rfl rfl)
  · cases taken

theorem insertOffer_turn (tenancy : Tenancy owner state) {id : CredentialOfferId}
    {code : PreAuthCode} {now : DateTime} (absent : state.offers id = none)
    (taken : state.insertOfferStep t id code now = some after) : Turn owner state t after := by
  have owned := tenancy.sessions t
  unfold State.insertOfferStep at taken
  split at taken
  · next request expiresIn found at_ =>
      rw [at_] at owned
      split at taken
      · cases taken
        exact .goto _ (Session.owned_closed rfl rfl rfl rfl)
      · cases taken
        exact .insertOffer _ _ (Session.owned_closed rfl rfl rfl rfl) absent (owned.scope _ rfl)
  · cases taken

theorem fail_turn {details : String} (taken : state.failStep t details = some after) :
    Turn owner state t after := by
  unfold State.failStep at taken
  split at taken
  case h_1 | h_2 =>
    cases taken
    exact .rollback _ (Session.owned_closed rfl rfl rfl rfl)
  case h_8 => cases taken
  all_goals
    cases taken
    exact .goto _ (Session.owned_closed rfl rfl rfl rfl)

theorem ownedPair_turn (tenancy : Tenancy owner state) {request : PairRequest}
    {owned refused : Session} (asked : request.tenantId = owner t)
    (scope : owned.scope = some request.tenantId)
    (types : owned.ownType = some request.credentialTypeId)
    (issuers : owned.ownIssuer = some request.issuerId) (deleted : owned.deletedKeys = [])
    (closed : refused.Owned state (owner t))
    (taken : state.ownedPairStep t request owned refused = some after) :
    Turn owner state t after := by
  unfold State.ownedPairStep at taken
  split at taken
  · split at taken
    · next owns =>
        cases taken
        exact .goto _ (tenantOwnsPair_owned tenancy asked owns scope types issuers deleted)
    · cases taken
      exact .goto _ closed
  · cases taken

theorem step_turn (tenancy : Tenancy owner state) (asks : Scoped owner state event)
    (taken : state.step event = some after) : Turn owner state event.t after := by
  rcases event with ⟨t, action⟩
  cases action with
  | insertType request id now =>
      exact insertType_turn (asks.asked _ rfl) (asks.freshType request id now rfl) taken
  | updateStructured tenantId id update now =>
      exact changeType_turn tenancy (CredentialTypes.StructuredUpdate.apply update now)
        (fun _ => rfl) (asks.asked _ rfl) taken
  | updateBlob tenantId id blob now =>
      refine changeType_turn tenancy (CredentialTypes.Blob.apply blob now) ?_
        (asks.asked _ rfl) taken
      intro row
      cases blob <;> rfl
  | stampRetired request => exact stampRetired_turn tenancy (asks.asked _ rfl) taken
  | deleteByType => exact deleteByType_turn tenancy taken
  | commit =>
      have taken : state.commitStep t = some after := taken
      unfold State.commitStep at taken
      split at taken
      · next request deleted at_ =>
          cases taken
          exact .commit request deleted _ (Session.owned_closed rfl rfl rfl rfl) at_
      · cases taken
  | probePair request =>
      exact ownedPair_turn tenancy (asks.asked _ rfl) rfl rfl rfl rfl
        (Session.owned_closed rfl rfl rfl rfl) taken
  | assign now => exact assign_turn tenancy taken
  | probeUnassign request =>
      exact ownedPair_turn tenancy (asks.asked _ rfl) rfl rfl rfl rfl
        (Session.owned_closed rfl rfl rfl rfl) taken
  | unassign => exact unassign_turn tenancy taken
  | probeIssuer request => exact probeIssuer_turn (asks.asked _ rfl) taken
  | probeType => exact probeType_turn tenancy taken
  | probeAssignment validated => exact probeAssignment_turn tenancy taken
  | insertOffer id code now =>
      exact insertOffer_turn tenancy (asks.freshOffer id code now rfl) taken
  | putIssuer issuer =>
      simp only [State.step, State.putIssuerStep] at taken
      split at taken
      · cases taken
        exact .putIssuer issuer (asks.asked _ rfl) fun row stored => asks.written issuer row rfl stored
      · cases taken
  | endOffer id issued now =>
      simp only [State.step, State.endOfferStep] at taken
      split at taken
      · next offer stored =>
          cases taken
          refine .endOffer id offer _ stored (asks.ended id issued now offer rfl stored) ?_
          cases issued <;> rfl
      · cases taken
  | fail details => exact fail_turn taken

end Step

section Kept

/-- A type's tenant is settled by its insertion. -/
theorem turn_typeTenant (tenancy : Tenancy owner state) (turn : Turn owner state t after)
    (id : CredentialTypeId) : after.typeTenant id = state.typeTenant id ∨
      (state.typeTenant id = none ∧ after.typeTenant id = some (owner t)) := by
  cases turn with
  | rollback next owned =>
      exact .inl (congrArg (Option.map _) (congrFun (Table.snapshot_rollback state.types t) id))
  | insertType row next owned absent own =>
      by_cases here : id = row.id
      · subst here
        refine .inr ⟨by rw [State.typeTenant, absent]; rfl, ?_⟩
        simp [State.typeTenant, State.withTypes, Cell.autocommit, own]
      · exact .inl (by simp [State.typeTenant, State.withTypes, here])
  | changeType key write next owned own keeps =>
      refine .inl ?_
      by_cases here : id = key
      · subst here
        simp only [State.typeTenant, State.withTypes, Function.update_self, Cell.autocommit,
          Cell.committed_clean, Option.map_map]
        exact congrArg (Option.map · _) (funext keeps)
      · simp [State.typeTenant, State.withTypes, here]
  | stamp key write next owned own =>
      exact .inl (congrArg (Option.map _) (congrFun (Table.snapshot_update state.types t key _) id))
  | commit request deleted next owned at_ =>
      refine .inl ?_
      simp only [State.typeTenant, State.commitTo]
      rw [tenancy.sound.types.committed_commit id]
      cases claims : (state.sessions t).typeClaim id (state.types id).committed with
      | none => rfl
      | some version =>
          rcases Session.typeClaim_some claims with ⟨_, now, rfl⟩
          rw [Option.getD_some, Option.map_map]
          rfl
  | _ => exact .inl rfl

theorem turn_typeTenant_some (tenancy : Tenancy owner state) (turn : Turn owner state t after)
    {id : CredentialTypeId} {tenantId : TenantId} (known : state.typeTenant id = some tenantId) :
    after.typeTenant id = some tenantId := by
  rcases turn_typeTenant tenancy turn id with same | ⟨absent, _⟩
  · rw [same, known]
  · rw [absent] at known
    cases known

theorem turn_issuerTenant (turn : Turn owner state t after) {id : IssuerId} {tenantId : TenantId}
    (known : state.issuerTenant id = some tenantId) : after.issuerTenant id = some tenantId := by
  cases turn with
  | putIssuer issuer own stays =>
      simp only [State.issuerTenant]
      by_cases here : id = issuer.id
      · subst here
        rcases Option.map_eq_some_iff.mp known with ⟨row, stored, rfl⟩
        rw [Function.update_self, Option.map_some, stays row stored]
      · rw [Function.update_of_ne here]
        exact known
  | _ => exact known

theorem Session.Owned.kept {tenantId : TenantId} {session : Session} (tenancy : Tenancy owner state)
    (turn : Turn owner state t after) (owned : session.Owned state tenantId) :
    session.Owned after tenantId where
  scope := owned.scope
  types id here := turn_typeTenant_some tenancy turn (owned.types id here)
  issuers id here := turn_issuerTenant turn (owned.issuers id here)
  deleted := owned.deleted

/-- A statement moves its own session, to one that has found what is its tenant's. -/
theorem turn_sessions (turn : Turn owner state t after) : after.sessions = state.sessions ∨
    ∃ next : Session, next.Owned state (owner t) ∧
      after.sessions = Function.update state.sessions t next := by
  cases turn with
  | putIssuer | endOffer => exact .inl rfl
  | goto next owned | rollback next owned | insertType _ next owned | changeType _ _ next owned
  | stamp _ _ next owned | delete _ _ next owned | commit _ _ next owned | assign _ _ next owned
  | relist _ next owned | unassign _ next owned | insertOffer _ next owned =>
      exact .inr ⟨next, owned, rfl⟩

theorem turn_assignments (tenancy : Tenancy owner state) (turn : Turn owner state t after)
    {key : AssignmentKey} {row : IssuerCredentialTypeAssignment}
    (stored : (after.assignments key).committed = some row) :
    (state.assignments key).committed = some row ∨ row.tenantId = owner t ∧
      state.typeTenant key.2 = some (owner t) ∧ state.issuerTenant key.1 = some (owner t) := by
  cases turn with
  | rollback next owned =>
      exact .inl ((congrFun (Table.snapshot_rollback state.assignments t) key).symm.trans stored)
  | delete id deleted next owned own each =>
      simp only [State.withAssignments] at stored
      split at stored <;> exact .inl stored
  | commit request deleted next owned at_ =>
      have merged := (tenancy.sound.assignments.committed_commit key).symm.trans stored
      cases claims : (state.sessions t).assignmentClaim key (state.assignments key).committed with
      | none =>
          rw [claims] at merged
          exact .inl merged
      | some version =>
          have cleared : version = none := by
            rw [at_] at claims
            exact (Option.some.inj (Option.ite_none_right_eq_some.mp claims).2).symm
          rw [claims, cleared] at merged
          cases merged
  | assign pair fresh next owned own typed issued =>
      have stored : (Function.update state.assignments pair _ key).committed = some row := stored
      by_cases here : key = pair
      · subst here
        rw [Function.update_self] at stored
        cases stored
        exact .inr ⟨own, typed, issued⟩
      · rw [Function.update_of_ne here] at stored
        exact .inl stored
  | unassign pair next owned typed =>
      have stored : (Function.update state.assignments pair _ key).committed = some row := stored
      by_cases here : key = pair
      · subst here
        rw [Function.update_self] at stored
        cases stored
      · rw [Function.update_of_ne here] at stored
        exact .inl stored
  | _ => exact .inl stored

theorem turn_typeIds (turn : Turn owner state t after) {id : CredentialTypeId}
    (listed : id ∈ after.typeIds) : id ∈ state.typeIds ∨ after.typeTenant id = some (owner t) := by
  cases turn with
  | insertType row next owned absent own =>
      rcases List.mem_cons.mp listed with rfl | before
      · exact .inr (by simp [State.typeTenant, State.withTypes, Cell.autocommit, own])
      · exact .inl before
  | _ => exact .inl listed

theorem turn_assignmentKeys (turn : Turn owner state t after) {key : AssignmentKey}
    (listed : key ∈ after.assignmentKeys) :
    key ∈ state.assignmentKeys ∨ state.typeTenant key.2 = some (owner t) := by
  cases turn with
  | assign pair _ _ _ _ typed =>
      rcases List.mem_cons.mp listed with rfl | before
      · exact .inr typed
      · exact .inl before
  | relist pair _ _ typed =>
      rcases List.mem_cons.mp listed with rfl | before
      · exact .inr typed
      · exact .inl before
  | _ => exact .inl listed

theorem tenancy_step {event : Event} (tenancy : Tenancy owner state)
    (asks : Scoped owner state event) (taken : state.step event = some after) :
    Tenancy owner after := by
  have turn := step_turn tenancy asks taken
  have kept := fun {id tenantId} => @turn_typeTenant_some owner state after event.t tenancy turn id tenantId
  refine ⟨sound_move tenancy.sound (step_move taken),
    keyed_move tenancy.sound tenancy.keyed (step_move taken), ?_, ?_, ?_, ?_⟩
  · intro u
    rcases turn_sessions turn with same | ⟨next, owned, moved⟩
    · rw [same]
      exact (tenancy.sessions u).kept tenancy turn
    · rw [moved]
      by_cases own : u = event.t
      · subst own
        rw [Function.update_self]
        exact owned.kept tenancy turn
      · rw [Function.update_of_ne own]
        exact (tenancy.sessions u).kept tenancy turn
  · intro key row stored
    rcases turn_assignments tenancy turn stored with before | ⟨own, typed, issued⟩
    · rcases tenancy.agree key row before with ⟨typed, issued⟩
      exact ⟨kept typed, turn_issuerTenant turn issued⟩
    · rw [own]
      exact ⟨kept typed, turn_issuerTenant turn issued⟩
  · intro id listed
    rcases turn_typeIds turn listed with before | known
    · rcases Option.ne_none_iff_exists'.mp (tenancy.typeIds id before) with ⟨tenantId, known⟩
      rw [kept known]
      exact Option.some_ne_none _
    · rw [known]
      exact Option.some_ne_none _
  · intro key listed
    obtain ⟨tenantId, known⟩ : ∃ tenantId, state.typeTenant key.2 = some tenantId := by
      rcases turn_assignmentKeys turn listed with before | known
      · exact Option.ne_none_iff_exists'.mp (tenancy.assignmentKeys key before)
      · exact ⟨_, known⟩
    rw [kept known]
    exact Option.some_ne_none _

end Kept

end Turns

end SwiyuIssuer.Catalogue
