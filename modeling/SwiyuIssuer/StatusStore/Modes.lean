import SwiyuIssuer.Domain.CredentialType
import SwiyuIssuer.StatusStore.Revocation

/-! The revocation mode of a credential type, and the lifecycle requests on its credentials. -/

namespace SwiyuIssuer

namespace RevocationMode

/-- The verbs that the enumeration documents each mode to permit. -/
def permits : RevocationMode → LifecycleOperation → Bool
  | revocable, operation => operation == .revoke
  | suspendable, operation => operation != .revoke
  | revocableAndSuspendable, _ => true
  | none, _ => false

/-- The states that the permitted verbs lead to. -/
def allows (mode : RevocationMode) : IssuedCredentialState → Bool
  | .active => true
  | .suspended => mode.permits .suspend
  | .revoked => mode.permits .revoke

theorem allows_target {mode : RevocationMode} {operation : LifecycleOperation}
    {state : IssuedCredentialState} (permitted : mode.permits operation = true)
    (value : state.statusValue = operation.bitValue) : mode.allows state = true := by
  cases operation with
  | suspend =>
      cases state with
      | suspended => exact permitted
      | active | revoked => cases value
  | unsuspend =>
      cases state with
      | active => rfl
      | suspended | revoked => cases value
  | revoke =>
      cases state with
      | revoked => exact permitted
      | active | suspended => cases value

end RevocationMode

namespace StatusStore

open Library Persistence

/-- The type that each offer is of, and the types: what no request of a run changes. -/
structure Offered where
  typeOf : CredentialOfferId → Option CredentialTypeId
  types : CredentialTypeId → Option CredentialType

namespace Offered

def mode (offered : Offered) (credential : IssuedCredential) : Option RevocationMode :=
  ((offered.typeOf credential.credentialOfferId).bind offered.types).map
    CredentialType.revocationMode

def permits (offered : Offered) (credential : IssuedCredential)
    (operation : LifecycleOperation) : Bool :=
  (offered.mode credential).all fun mode => mode.permits operation

def allows (offered : Offered) (credential : IssuedCredential) : Bool :=
  (offered.mode credential).all fun mode => mode.allows credential.state

variable {offered : Offered} {credential : IssuedCredential}

theorem allows_active (active : credential.state = .active) : offered.allows credential = true := by
  unfold allows
  rw [active]
  cases offered.mode credential <;> rfl

theorem allows_target {operation : LifecycleOperation}
    (permitted : offered.permits credential operation = true)
    (value : credential.state.statusValue = operation.bitValue) :
    offered.allows credential = true := by
  unfold permits at permitted
  unfold allows
  cases found : offered.mode credential with
  | none => rfl
  | some mode =>
      rw [found] at permitted
      exact RevocationMode.allows_target permitted value

end Offered

/-- The `SELECT` of a lifecycle request: the verb is permitted whenever the state machine lets the
request go on. `run_lifecycle_op` does not read the mode. -/
def asksPermitted (offered : Offered) (state : State) : Event → Bool
  | .session t .find =>
      match state.store.sessions t with
      | .issuerChecked request =>
          match loadAndTransition request (IssuedCredentials.find state.store.credentials t
              request.tenantId request.credentialId) with
          | .ok moved => offered.permits moved request.operation
          | .error _ => true
      | _ => true
  | _ => true

abbrev PermittedStep (codec : StatusListCodec) (offered : Offered) : State → Event → State → Prop :=
  Guarded (fun state event => asksPermitted offered state event = true)
    (Steps (State.step codec))

def Session.underWay : Session → Option (LifecycleOperation × IssuedCredential)
  | .transitioned request credential | .stateWritten request credential
  | .bitstringRead request credential _ | .bitWritten request credential =>
      some (request.operation, credential)
  | _ => none

structure KeepsModes (offered : Offered) (store : Store) : Prop where
  rows : ∀ id row, store.committedCredentials id = some row → offered.allows row = true
  requests : ∀ t operation credential,
    (store.sessions t).underWay = some (operation, credential) →
      offered.permits credential operation = true

variable {codec : StatusListCodec} {offered : Offered} {state after : State} {event : Event}

theorem plain_underWay {session : Session} (plain : session.Plain) : session.underWay = none := by
  cases session <;> first | rfl | exact plain.elim

/-- A step whose new rows are allowed, and whose own request goes on as it was or is permitted. -/
theorem keepsModes_acts {store next : Store} {t : TxId} (keeps : KeepsModes offered store)
    (acts : Acts t store next)
    (rows : ∀ id row, next.committedCredentials id = some row →
      store.committedCredentials id = some row ∨ offered.allows row = true)
    (own : ∀ operation credential, (next.sessions t).underWay = some (operation, credential) →
      (store.sessions t).underWay = some (operation, credential) ∨
        offered.permits credential operation = true) : KeepsModes offered next := by
  constructor
  · intro id row present
    rcases rows id row present with before | allowed
    · exact keeps.rows id row before
    · exact allowed
  · intro other operation credential found
    by_cases self : other = t
    · subst self
      rcases own operation credential found with before | permitted
      · exact keeps.requests other operation credential before
      · exact permitted
    · rw [acts.sessions other self] at found
      exact keeps.requests other operation credential found

theorem findStep_loads {store next : Store} {t : TxId} {request : LifecycleRequest}
    {moved : IssuedCredential} (taken : store.findStep t = some next)
    (at_ : store.sessions t = .issuerChecked request)
    (now : next.sessions t = .transitioned request moved) :
    loadAndTransition request (IssuedCredentials.find store.credentials t request.tenantId
      request.credentialId) = .ok moved := by
  rw [Store.findStep, at_] at taken
  dsimp only at taken
  split at taken
  · next loaded =>
      cases taken
      simp only [Store.goto, Function.update_self, Session.transitioned.injEq, true_and] at now
      rw [loaded, now]
  · cases taken
    simp [Store.rollback] at now

theorem keepsModes_move {t : TxId} {action : Action} {next : Store}
    (sound : Sound codec state.store) (keeps : KeepsModes offered state.store)
    (permitted : asksPermitted offered state (.session t action) = true)
    (taken : state.store.step codec t action = some next) : KeepsModes offered next := by
  have move := step_move taken
  have acts := move_acts move
  have silent : ∀ {session : Session}, session.Plain → ∀ operation credential,
      session.underWay = some (operation, credential) →
        (state.store.sessions t).underWay = some (operation, credential) ∨
          offered.permits credential operation = true := by
    intro session plain operation credential found
    rw [plain_underWay plain] at found
    cases found
  have same : ∀ {store : Store}, store.committedCredentials = state.store.committedCredentials →
      ∀ id row, store.committedCredentials id = some row →
        state.store.committedCredentials id = some row ∨ offered.allows row = true :=
    fun kept id row present => .inl ((congrFun kept id).symm.trans present)
  have quiet : ∀ {session : Session}, session.underWay = none → ∀ operation credential,
      session.underWay = some (operation, credential) →
        (state.store.sessions t).underWay = some (operation, credential) ∨
          offered.permits credential operation = true := by
    intro session none_ operation credential found
    rw [none_] at found
    cases found
  cases move with
  | plain _ session from_ to_ =>
      exact keepsModes_acts keeps acts (same rfl) (by simpa [Store.goto] using silent to_)
  | load request row moved at_ read allowed =>
      refine keepsModes_acts keeps acts (same rfl) ?_
      intro operation credential found
      simp only [Store.goto, Function.update_self, Session.underWay, Option.some.injEq,
        Prod.mk.injEq] at found
      rcases found with ⟨rfl, rfl⟩
      have loaded := findStep_loads taken at_ (Function.update_self ..)
      simp only [asksPermitted, at_, loaded] at permitted
      exact .inr permitted
  | writeState request credential at_ free =>
      refine keepsModes_acts keeps acts (same (Table.snapshot_update ..)) ?_
      intro operation writer found
      rw [at_]
      simp only [Store.goto, Function.update_self] at found
      exact .inl found
  | lockList request credential row bitstring at_ free read edited =>
      refine keepsModes_acts keeps acts (same rfl) ?_
      intro operation writer found
      rw [at_]
      simp only [Store.goto, Function.update_self] at found
      exact .inl found
  | writeBits request credential bitstring at_ free =>
      refine keepsModes_acts keeps acts (same rfl) ?_
      intro operation writer found
      rw [at_]
      simp only [Store.goto, Function.update_self] at found
      exact .inl found
  | allocate request issuer assertionKeyId listId registryUrl row allocated index at_ free read
      taken =>
      exact keepsModes_acts keeps acts (same rfl) (by simpa [Store.goto] using quiet rfl)
  | insert request issuer assertionKeyId listId registryUrl index key integrityHash at_ free read =>
      exact keepsModes_acts keeps acts (same (Table.snapshot_update ..))
        (by simpa [Store.goto] using quiet rfl)
  | rollback _ session to_ =>
      exact keepsModes_acts keeps acts (same (Table.snapshot_rollback ..))
        (by simpa [Store.rollback] using silent to_)
  | commitIssue acknowledged jwt credential session at_ to_ =>
      obtain ⟨_, _, _, active, _, _, rows, _⟩ := commitIssue_tables sound session at_
      refine keepsModes_acts keeps acts ?_ (by simpa [Store.commit] using silent to_)
      intro id row present
      rw [rows] at present
      rcases update_some present with ⟨_, stored⟩ | ⟨_, old⟩
      · cases stored
        exact .inr (Offered.allows_active active)
      · exact .inl old
  | commitLifecycle acknowledged request credential session at_ to_ =>
      obtain ⟨_, _, _, _, _, _, _, rows, _⟩ := commitLifecycle_tables sound session at_
      have holding := sound.holding t
      rw [at_] at holding
      obtain ⟨⟨_, _, _, value⟩, _⟩ := holding
      refine keepsModes_acts keeps acts ?_ (by simpa [Store.commit] using silent to_)
      intro id row present
      rw [rows] at present
      rcases update_some present with ⟨_, stored⟩ | ⟨_, old⟩
      · cases stored
        have asked := keeps.requests t request.operation credential (by rw [at_]; rfl)
        exact .inr (Offered.allows_target asked value)
      · exact .inl old

theorem keepsModes_step (sound : Sound codec state.store) (keeps : KeepsModes offered state.store)
    (taken : PermittedStep codec offered state event after) : KeepsModes offered after.store := by
  rcases step_cases taken.2 with ⟨t, action, rfl, _, _⟩ | republished
  · rcases Option.map_eq_some_iff.mp taken.2 with ⟨store, moved, rfl⟩
    exact keepsModes_move sound keeps taken.1 moved
  · refine ⟨?_, ?_⟩
    · rw [(republished_snapshot republished).1]
      exact keeps.rows
    · rw [republished.sessions]
      exact keeps.requests

/-- A request whose verb the mode forbids ends at its `SELECT`, in an error and with both tables as
they were. -/
theorem forbidden_find_refused {t : TxId} {request : LifecycleRequest} {row : IssuedCredential}
    (at_ : state.store.sessions t = .issuerChecked request)
    (read : IssuedCredentials.find state.store.credentials t request.tenantId
      request.credentialId = some row)
    (forbidden : offered.permits row request.operation = false)
    (taken : PermittedStep codec offered state (.session t .find) after) :
    (∃ error, after.store.sessions t = .answered (.error error)) ∧
      after.store.committedCredentials = state.store.committedCredentials ∧
      after.store.committedLists = state.store.committedLists := by
  rcases taken with ⟨permitted, taken⟩
  rcases Option.map_eq_some_iff.mp taken with ⟨store, moved, rfl⟩
  simp only [asksPermitted, at_] at permitted
  simp only [Store.step, Store.findStep, at_] at moved
  split at permitted
  · next loaded =>
      rcases loadAndTransition_ok loaded with ⟨_, found, allowed⟩
      rw [read] at found
      cases found
      have same := (LifecycleOperation.applyTransition_spec allowed).1
      rw [Offered.permits, Offered.mode, same] at permitted
      rw [Offered.permits, Offered.mode, permitted] at forbidden
      cases forbidden
  · next error refused =>
      rw [refused] at moved
      cases moved
      exact ⟨⟨error, Function.update_self ..⟩, Table.snapshot_rollback .., Table.snapshot_rollback ..⟩

/-- In a run whose requests ask only for what the types permit, or for what the state machine
refuses, every credential is in a state that the mode of its type allows, and every request with a
forbidden verb is refused with the tables unchanged. -/
theorem revocation_modes_are_respected (codec : StatusListCodec) (offered : Offered)
    {first last : State} {trace : List Event} (initial : first.Initial)
    (run : Run (PermittedStep codec offered) first trace last) :
    (∀ id row, last.store.committedCredentials id = some row → offered.allows row = true) ∧
      (∀ t operation credential,
        (last.store.sessions t).underWay = some (operation, credential) →
          offered.permits credential operation = true) ∧
      ∀ t request row after, last.store.sessions t = .issuerChecked request →
        IssuedCredentials.find last.store.credentials t request.tenantId request.credentialId =
          some row → offered.permits row request.operation = false →
        PermittedStep codec offered last (.session t .find) after →
          (∃ error, after.store.sessions t = .answered (.error error)) ∧
            after.store.committedCredentials = last.store.committedCredentials ∧
            after.store.committedLists = last.store.committedLists := by
  have start : KeepsModes offered first.store := by
    constructor
    · intro id row present
      rw [Store.committedCredentials, Table.snapshot, initial.store.credentials id] at present
      cases present
    · intro t operation credential found
      rw [initial.store.sessions t] at found
      cases found
  obtain ⟨_, keeps⟩ := run.invariant_under (fun state => Sound codec state.store)
    (fun state => KeepsModes offered state.store)
    (fun _ _ _ sound taken => sound_step sound taken.2)
    (fun _ _ _ sound keeps taken => keepsModes_step sound keeps taken)
    (sound_empty codec initial.store) start
  refine ⟨keeps.rows, keeps.requests, ?_⟩
  intro t request row after at_ read forbidden taken
  exact forbidden_find_refused at_ read forbidden taken

def sampleOffered (mode : RevocationMode) : Offered where
  typeOf := fun _ => some ⟨"5wRbJf4sNd"⟩
  types := fun id => some {
    id := id
    tenantId := sampleIssuer.tenantId
    vct := "urn:residence"
    display := .array []
    internalDescription := none
    claimSchema := .object []
    claimSchemaSourceUrl := none
    claimSchemaFetchedAt := none
    claims := .array []
    defaultValidityDuration := 1
    revocationMode := mode
    createdAt := 0
    updatedAt := 0
    retiredAt := none }

def sampleRevocation : List Event :=
  sampleIssuance 0 ++ sampleRead 1 .revoke ++ sampleUpdates 1 ++ [.session 1 (.commit true)]

theorem revocation_modes_are_respected_sample : ∃ last,
    Run (PermittedStep packedCodec (sampleOffered .revocable)) sampleStart sampleRevocation last ∧
      ∀ id row, last.store.committedCredentials id = some row →
        (sampleOffered .revocable).allows row = true := by
  have computed : (exec (checked (asksPermitted (sampleOffered .revocable))
      (State.step packedCodec)) sampleStart sampleRevocation).isSome = true := by decide
  obtain ⟨last, reached⟩ := Option.isSome_iff_exists.mp computed
  have run := Run.of_checked reached
  exact ⟨last, run,
    (revocation_modes_are_respected packedCodec (sampleOffered .revocable) sampleStart_initial
      run).1⟩

/-- A type that permits no verb at all, and a credential of it that is revoked. -/
theorem immutable_credential_is_revoked : sampleStart.Initial ∧
    ∃ last row, Run (Steps (State.step packedCodec)) sampleStart sampleRevocation last ∧
      last.store.committedCredentials sampleCredentialId = some row ∧
      (sampleOffered .none).allows row = false := by
  refine ⟨sampleStart_initial, ?_⟩
  have computed : (exec (State.step packedCodec) sampleStart sampleRevocation).map (fun state =>
      (state.store.committedCredentials sampleCredentialId).map
        (sampleOffered .none).allows) = some (some false) := by decide
  obtain ⟨last, reached, seen⟩ := Option.map_eq_some_iff.mp computed
  obtain ⟨row, present, forbidden⟩ := Option.map_eq_some_iff.mp seen
  exact ⟨last, row, Run.of_exec reached, present, forbidden⟩

end StatusStore

end SwiyuIssuer
