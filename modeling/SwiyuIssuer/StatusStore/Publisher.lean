import SwiyuIssuer.StatusStore.Soundness
import SwiyuIssuer.Worker.Backoff

/-! The status-list publisher, any number of them, and the status registry they PUT to. -/

namespace SwiyuIssuer.StatusStore

open Library Persistence

abbrev PublisherId := Nat

/-- One PUT on its way to the registry. `serial` tells it from every other PUT, and `version` is
the target version of the round that sent it; the registry sees neither. -/
structure Put where
  serial : Nat
  entryId : String
  token : StatusListToken
  version : Nat

/-- The local variables of `run_round` that are live between two of its calls. -/
inductive Round
  | idle
  | acquired (list : StatusList)
  | loaded (list : StatusList) (issuer : Issuer)
  | signed (list : StatusList) (entryId : String) (now : DateTime) (token : StatusListToken)
      (retried : Bool)
  | sent (list : StatusList) (entryId : String) (now : DateTime) (token : StatusListToken)
      (retried : Bool) (serial : Nat)
  | succeeded (list : StatusList) (now : DateTime)
  | failed (list : StatusList) (now : DateTime) (message : String) (nextAttemptAt : DateTime)

structure State where
  store : Store
  listIds : List StatusListId
  publishers : PublisherId → Round
  nextSerial : Nat
  inFlight : List Put
  delivered : List Nat
  applied : String → Option Put

inductive PublisherAction
  | acquireNextDirty (now : DateTime) (leaseDuration : Int) (id : StatusListId)
  | loadIssuer (issuer : Option Issuer) (tenantFound : Bool)
  | buildSigned (now : DateTime) (sign : Except SigningEngineError Unit)
  | put
  | unauthorized
  | answer (result : Except TokenAwareError Unit) (word : UInt64)
  | record
  | crash

inductive Event
  | session (t : TxId) (action : Action)
  | publisher (p : PublisherId) (action : PublisherAction)
  | deliver (serial : Nat)
  | lose (serial : Nat)

def terminalRetryAfter : Int := seconds 3600

namespace State

variable (state : State) (p : PublisherId)

def enter (round : Round) : State :=
  { state with publishers := Function.update state.publishers p round }

/-- A statement outside any transaction, on a row that nobody holds. -/
def rewriteList (id : StatusListId) (row : StatusList) : State :=
  { state with store := { state.store with
      statusLists := Function.update state.store.statusLists id (Cell.clean (some row)) } }

def acquireNextDirtyStep (now : DateTime) (leaseDuration : Int) (id : StatusListId) :
    Option State :=
  match state.publishers p with
  | .idle =>
      match StatusLists.nextDirty state.store.statusLists state.listIds now id with
      | some row =>
          let leased := StatusLists.stampLease row (now + leaseDuration)
          some ((state.rewriteList id leased).enter p (.acquired leased))
      | none => none
  | _ => none

/-- A list without its issuer, tenant or registry entry is inconsistent: the round ends, and the
lease stays on the row. -/
def loadIssuerStep (issuer : Option Issuer) (tenantFound : Bool) : Option State :=
  match state.publishers p with
  | .acquired list =>
      match issuer with
      | none => some (state.enter p .idle)
      | some issuer =>
          if tenantFound && list.registryEntryId.isSome
          then some (state.enter p (.loaded list issuer))
          else some (state.enter p .idle)
  | _ => none

def buildSignedStep (now : DateTime) (sign : Except SigningEngineError Unit) : Option State :=
  match state.publishers p with
  | .loaded list issuer =>
      match list.registryEntryId with
      | none => none
      | some entryId =>
          match buildSigned list issuer sign now with
          | .ok token => some (state.enter p (.signed list entryId now token false))
          | .error error =>
              some (state.enter p (.failed list now error.toString (now + terminalRetryAfter)))
  | _ => none

def putStep : Option State :=
  match state.publishers p with
  | .signed list entryId now token retried =>
      some { state.enter p (.sent list entryId now token retried state.nextSerial) with
        nextSerial := state.nextSerial + 1
        inFlight := ⟨state.nextSerial, entryId, token, list.committedVersion⟩ :: state.inFlight }
  | _ => none

/-- A 401 means that the registry refused the PUT; `retry_on_401` sends it once more. -/
def unauthorizedStep : Option State :=
  match state.publishers p with
  | .sent list entryId now token false serial =>
      if serial ∈ state.delivered then none
      else some { state.enter p (.signed list entryId now token true) with
        inFlight := state.inFlight.filter fun put => put.serial != serial }
  | _ => none

def failedRound (list : StatusList) (now : DateTime) (error : TokenAwareError) (word : UInt64) :
    Round :=
  .failed list now error.toString
    (if error.isRetryable then
      now + milliseconds (Worker.backoffDelay (Worker.saturatingAdd list.publishAttempts 1) word)
    else now + terminalRetryAfter)

/-- `Ok` comes back only for a PUT that the registry has applied; an error may hide one that it
has applied or will apply later. -/
def answerStep (result : Except TokenAwareError Unit) (word : UInt64) : Option State :=
  match state.publishers p with
  | .signed list _ now _ _ =>
      match result with
      | .error (.token error) => some (state.enter p (failedRound list now (.token error) word))
      | _ => none
  | .sent list _ now _ _ serial =>
      match result with
      | .ok () => if serial ∈ state.delivered then some (state.enter p (.succeeded list now)) else none
      | .error error => some (state.enter p (failedRound list now error word))
  | _ => none

def recordStep : Option State :=
  match state.publishers p with
  | .succeeded list now =>
      match (state.store.statusLists list.id).writer, (state.store.statusLists list.id).committed with
      | none, some row =>
          match StatusLists.recordPublishSuccess row list.committedVersion now with
          | some recorded => some ((state.rewriteList list.id recorded).enter p .idle)
          | none => some (state.enter p .idle)
      | _, _ => none
  | .failed list now message nextAttemptAt =>
      match (state.store.statusLists list.id).writer, (state.store.statusLists list.id).committed with
      | none, some row =>
          some ((state.rewriteList list.id
            (StatusLists.recordPublishFailure row message nextAttemptAt now)).enter p .idle)
      | _, _ => none
  | _ => none

def publisherStep : PublisherAction → Option State
  | .acquireNextDirty now leaseDuration id => state.acquireNextDirtyStep p now leaseDuration id
  | .loadIssuer issuer tenantFound => state.loadIssuerStep p issuer tenantFound
  | .buildSigned now sign => state.buildSignedStep p now sign
  | .put => state.putStep p
  | .unauthorized => state.unauthorizedStep p
  | .answer result word => state.answerStep p result word
  | .record => state.recordStep p
  | .crash => some (state.enter p .idle)

def deliverStep (serial : Nat) : Option State :=
  match state.inFlight.find? fun put => put.serial == serial with
  | some put => some { state with
      inFlight := state.inFlight.filter fun other => other.serial != serial
      delivered := serial :: state.delivered
      applied := Function.update state.applied put.entryId (some put) }
  | none => none

def loseStep (serial : Nat) : State :=
  { state with inFlight := state.inFlight.filter fun other => other.serial != serial }

end State

def State.step (codec : StatusListCodec) (state : State) : Event → Option State
  | .session t action => (state.store.step codec t action).map fun store => { state with store }
  | .publisher p action => state.publisherStep p action
  | .deliver serial => state.deliverStep serial
  | .lose serial => some (state.loseStep serial)

/-- Freshly provisioned lists, each with a registry entry of its own, and nothing under way. -/
structure State.Initial (state : State) : Prop where
  store : state.store.Empty
  keyed : ∀ id list, state.store.committedLists id = some list → list.id = id
  listed : ∀ id list, state.store.committedLists id = some list → id ∈ state.listIds
  entries : ∀ id other list rival entryId, state.store.committedLists id = some list →
    state.store.committedLists other = some rival → list.registryEntryId = some entryId →
      rival.registryEntryId = some entryId → id = other
  publishers : ∀ p, state.publishers p = .idle
  inFlight : state.inFlight = []
  delivered : state.delivered = []
  applied : ∀ entryId, state.applied entryId = none

/-- What a publisher's statement may do to the table of lists: rewrite publishing columns of rows
that nobody holds. -/
structure Republished (before after : State) : Prop where
  credentials : after.store.credentials = before.store.credentials
  sessions : after.store.sessions = before.store.sessions
  lists : ∀ id, after.store.statusLists id = before.store.statusLists id ∨
    ∃ row rewritten, before.store.statusLists id = ⟨some row, none⟩ ∧
      after.store.statusLists id = Cell.clean (some rewritten) ∧
      row.publishedVersion ≤ rewritten.publishedVersion ∧
      rewritten = { row with
        publishedVersion := rewritten.publishedVersion
        lastPublishAttemptAt := rewritten.lastPublishAttemptAt
        lastPublishError := rewritten.lastPublishError
        nextPublishAttemptAt := rewritten.nextPublishAttemptAt
        publishAttempts := rewritten.publishAttempts }

variable {state after : State} {p : PublisherId}

theorem republished_same (same : after.store = state.store) : Republished state after :=
  ⟨by rw [same], by rw [same], fun id => .inl (by rw [same])⟩

theorem republished_rewrite {id : StatusListId} {row rewritten : StatusList} {round : Round}
    (open_ : (state.store.statusLists id).writer = none)
    (present : (state.store.statusLists id).committed = some row)
    (published : row.publishedVersion ≤ rewritten.publishedVersion)
    (columns : rewritten = { row with
      publishedVersion := rewritten.publishedVersion
      lastPublishAttemptAt := rewritten.lastPublishAttemptAt
      lastPublishError := rewritten.lastPublishError
      nextPublishAttemptAt := rewritten.nextPublishAttemptAt
      publishAttempts := rewritten.publishAttempts }) :
    Republished state ((state.rewriteList id rewritten).enter p round) := by
  refine ⟨rfl, rfl, ?_⟩
  intro other
  by_cases same : other = id
  · subst same
    refine .inr ⟨row, rewritten, ?_, Function.update_self .., published, columns⟩
    rw [← present, ← open_]
  · exact .inl (Function.update_of_ne same ..)

theorem publisherStep_republished {action : PublisherAction}
    (taken : state.publisherStep p action = some after) : Republished state after := by
  cases action with
  | acquireNextDirty now leaseDuration id =>
      simp only [State.publisherStep, State.acquireNextDirtyStep] at taken
      split at taken
      · split at taken
        · next row chosen =>
            cases taken
            obtain ⟨open_, present, _⟩ := StatusLists.nextDirty_spec chosen
            exact republished_rewrite open_ present (Nat.le_refl _) rfl
        · cases taken
      · cases taken
  | loadIssuer issuer tenantFound =>
      simp only [State.publisherStep, State.loadIssuerStep] at taken
      split at taken
      · split at taken
        · cases taken
          exact republished_same rfl
        · split at taken <;> cases taken <;> exact republished_same rfl
      · cases taken
  | buildSigned now sign =>
      simp only [State.publisherStep, State.buildSignedStep] at taken
      split at taken
      · split at taken
        · cases taken
        · split at taken <;> cases taken <;> exact republished_same rfl
      · cases taken
  | put =>
      simp only [State.publisherStep, State.putStep] at taken
      split at taken
      · cases taken
        exact republished_same rfl
      · cases taken
  | unauthorized =>
      simp only [State.publisherStep, State.unauthorizedStep] at taken
      split at taken
      · split at taken
        · cases taken
        · cases taken
          exact republished_same rfl
      · cases taken
  | answer result word =>
      simp only [State.publisherStep, State.answerStep] at taken
      split at taken
      · split at taken <;> cases taken
        exact republished_same rfl
      · split at taken
        · split at taken <;> cases taken
          exact republished_same rfl
        · cases taken
          exact republished_same rfl
      · cases taken
  | record =>
      simp only [State.publisherStep, State.recordStep] at taken
      split at taken
      · split at taken
        · next open_ present =>
            split at taken
            · next recorded =>
                cases taken
                unfold StatusLists.recordPublishSuccess at recorded
                split at recorded
                · next newer =>
                    cases recorded
                    exact republished_rewrite open_ present (Nat.le_of_lt newer) rfl
                · cases recorded
            · cases taken
              exact republished_same rfl
        · cases taken
      · split at taken
        · next open_ present =>
            cases taken
            exact republished_rewrite open_ present (Nat.le_refl _) rfl
        · cases taken
      · cases taken
  | crash =>
      cases taken
      exact republished_same rfl

/-- Every event is a statement of one request, or leaves credentials, sessions and slots alone. -/
theorem step_cases {codec : StatusListCodec} {event : Event}
    (taken : state.step codec event = some after) :
    (∃ t action, event = .session t action ∧ Move codec state.store t action after.store ∧
      after = { state with store := after.store }) ∨ Republished state after := by
  cases event with
  | session t action =>
      obtain ⟨store, moved, rfl⟩ := Option.map_eq_some_iff.mp taken
      exact .inl ⟨t, action, rfl, step_move moved, rfl⟩
  | publisher p action => exact .inr (publisherStep_republished taken)
  | deliver serial =>
      simp only [State.step, State.deliverStep] at taken
      split at taken
      · cases taken
        exact .inr (republished_same rfl)
      · cases taken
  | lose serial =>
      cases taken
      exact .inr (republished_same rfl)

end SwiyuIssuer.StatusStore
