import SwiyuIssuer.Domain.StatusList
import SwiyuIssuer.Resume.Runs

/-! The journal with what the steps of a creation leave behind: the rows of `issuers` and
`status_lists`, and what the two registries have handed out and hold. -/

namespace SwiyuIssuer.Creation

open Library Persistence Worker Saga Resume

/-- Between which of its statements an execution of `provision_status_list` is. -/
inductive Provisioning
  | outside
  | lookedUp (current : Option StatusListId)
  | inserted (id : StatusListId)
  | pointed (id : StatusListId)
deriving DecidableEq

/-- `records` has the rows of `issuers` as they were inserted, `current` their column
`current_status_list_id`. `log` is what the identifier registry has under an identifier, `sent` the
requests to put a log that it may still apply. The last four are for the reader: what
`IssuerId::generate` and the registries have handed out, and the entries that the executions of a
task have derived. -/
structure State where
  journal : Journal
  records : IssuerId → Option IssuerRecord
  current : IssuerId → Option StatusListId
  lists : StatusListId → Option StatusList
  provisioning : Provisioning
  log : String → List Json
  sent : List (String × Json)
  issuerIds : List IssuerId
  identifiers : List String
  entryIds : List String
  derived : TaskId → List Json

/-- `lookUp`, `insertList` and `pointIssuer` are the three statements of `provision_status_list`,
each of them committed by itself. `send` issues the request of `publish_didlog`, `deliver` applies
one, once or again, at any later time. In `perform`, `reached` says whether the `INSERT` of
`persist_issuer` was committed, whatever came back. -/
inductive Event
  | journal (event : Resume.Event)
  | lookUp
  | insertList (id : StatusListId) (now : DateTime)
  | pointIssuer
  | send (visit : Visit)
  | deliver (request : Nat)
  | perform (visit : Visit) (reached : Bool)

/-- The row that `provision_for_issuer` inserts. -/
def provisionedList (id : StatusListId) (issuerId : IssuerId) (entryId registryUrl : String)
    (now : DateTime) : StatusList :=
  { StatusList.new id issuerId now with
    registryEntryId := some entryId, registryUrl := some registryUrl }

def Provisioning.answers (calls : CreateCalls) (provisioning : Provisioning) : Bool :=
  match calls.provisionPool, calls.current, provisioning with
  | some _, _, .outside | none, .error _, .outside => true
  | none, .ok read, .lookedUp found => read == found && (found.isSome || !calls.provision.isOk)
  | none, .ok none, .inserted _ => !calls.provision.isOk
  | none, .ok none, .pointed id =>
      match calls.provision with
      | .ok provisioned => provisioned == id
      | .error _ => true
  | _, _, _ => false

def buildsEntry (step : String) : Bool :=
  step == "build_initial_didlog" || step == "publish_didlog" || step == "persist_issuer"

namespace State

/-- The id of a new issuer is drawn for it, a row is only changed after it was inserted, and no
statement changes its DID. -/
def admits (state : State) : Resume.Event → Bool
  | .createIssuer _ _ issuerId _ _ _ => !state.issuerIds.contains issuerId
  | .putIssuer issuer => (state.records issuer.id).any fun record => record.did == issuer.did
  | .perform _ => false
  | _ => true

def provisioned (state : State) : Option (OperationTask × IssuerId) :=
  match state.journal.worker with
  | .acquired task =>
      if task.taskType == .createIssuer && stepName task == "provision_status_list" then
        task.resultIssuerId.map fun issuerId => (task, issuerId)
      else none
  | _ => none

/-- What the answer to a call says of the registry or the table that gave it. An identifier and an
entry id are handed out once. -/
def answered (state : State) (calls : CreateCalls) (reached : Bool) : SideEffect → Bool
  | .allocateDid _ =>
      match calls.allocate with
      | .ok allocation => !state.identifiers.contains allocation.identifier
      | .error _ => true
  | .publishLogEntry _ identifier _ => !calls.put.isOk || !(state.log identifier).isEmpty
  | .insertIssuer record =>
      match calls.insert with
      | .ok _ => reached && (state.records record.id).isNone
      | .error (.uniqueViolation _) => !reached && (state.records record.id).isSome
      | .error _ => !reached || (state.records record.id).isNone
  | .createStatusListEntry _ =>
      match calls.createEntry with
      | .ok entry => !state.entryIds.contains entry.id
      | .error _ => true
  | .generateKeypair _ | .provisionForIssuer .. => true

def readsTables (state : State) (task : OperationTask) (calls : CreateCalls) : Bool :=
  (stepName task != "provision_status_list" || state.provisioning.answers calls) &&
  (stepName task != "persist_issuer" ||
    match calls.findIssuer with
    | .ok (some row) => task.resultIssuerId.bind state.journal.issuers == some row
    | _ => true)

def note (calls : CreateCalls) (reached : Bool) (state : State) : SideEffect → State
  | .allocateDid _ =>
      match calls.allocate with
      | .ok allocation => { state with identifiers := allocation.identifier :: state.identifiers }
      | .error _ => state
  | .insertIssuer record =>
      if reached then { state with
        journal := { state.journal with
          issuers := Function.update state.journal.issuers record.id (some record.issuer) }
        records := Function.update state.records record.id (some record) }
      else state
  | .createStatusListEntry _ =>
      match calls.createEntry with
      | .ok entry => { state with entryIds := entry.id :: state.entryIds }
      | .error _ => state
  | .generateKeypair _ | .publishLogEntry .. | .provisionForIssuer .. => state

section Step

variable (ext : Externals) (genesis : GenesisCore)

def derives (task : OperationTask) (visit : Visit) : List Json :=
  match CreateIssuerStateData.decode ext.uuid task.stateData with
  | .ok data =>
      if task.taskType == .createIssuer && buildsEntry (stepName task) then
        (buildLogEntry ext.core genesis ext.engine visit.create.faults data
          task.createdAt).toOption.toList
      else []
  | .error _ => []

def derive (state : State) (task : OperationTask) (visit : Visit) : State :=
  { state with
    derived := Function.update state.derived task.id
      (state.derived task.id ++ derives ext genesis task visit) }

def request (task : OperationTask) (visit : Visit) : Option (String × Json) :=
  match executeVisit ext genesis task visit with
  | .ok (_, .create effect) => effect.requested.findSome? fun
      | .publishLogEntry _ identifier entry => some (identifier, entry)
      | _ => none
  | _ => none

/-- The `INSERT` of `provision_for_issuer`; the foreign key wants the row of the issuer. -/
def insertList (state : State) (id : StatusListId) (now : DateTime) : Option State :=
  match state.provisioned, state.provisioning with
  | some (task, issuerId), .lookedUp none =>
      match CreateIssuerStateData.decode ext.uuid task.stateData with
      | .ok ⟨_, _, _, _, some entryId, some registryUrl⟩ =>
          if (state.lists id).isNone && (state.records issuerId).isSome then some { state with
            lists := Function.update state.lists id
              (some (provisionedList id issuerId entryId registryUrl now))
            provisioning := .inserted id }
          else none
      | _ => none
  | _, _ => none

def perform (state : State) (task : OperationTask) (visit : Visit) (reached : Bool)
    (next : Journal) : Option State :=
  let moved := { state with journal := next, provisioning := .outside }
  match executeVisit ext genesis task visit with
  | .ok (_, .create effect) =>
      if state.readsTables task visit.create &&
          effect.requested.all (state.answered visit.create reached) then
        some ((effect.requested.foldl (note visit.create reached) moved).derive ext genesis task visit)
      else none
  | _ => some moved

def step (state : State) : Event → Option State
  | .journal (.createIssuer id tenantId issuerId description displayName now) =>
      if state.admits (.createIssuer id tenantId issuerId description displayName now) then
        (state.journal.step ext genesis
          (.createIssuer id tenantId issuerId description displayName now)).map fun next =>
            { state with journal := next, issuerIds := issuerId :: state.issuerIds }
      else none
  | .journal .crash => some
      { state with journal := state.journal.release, provisioning := .outside }
  | .journal event =>
      if state.admits event then
        (state.journal.step ext genesis event).map fun next => { state with journal := next }
      else none
  | .lookUp =>
      match state.provisioned, state.provisioning with
      | some (_, issuerId), .outside => some
          { state with provisioning := .lookedUp (state.current issuerId) }
      | _, _ => none
  | .insertList id now => state.insertList ext id now
  | .pointIssuer =>
      match state.provisioned, state.provisioning with
      | some (_, issuerId), .inserted id => some { state with
          current := Function.update state.current issuerId (some id)
          provisioning := .pointed id }
      | _, _ => none
  | .send visit =>
      match state.journal.worker with
      | .acquired task => (request ext genesis task visit).map fun sent =>
          { state with sent := state.sent ++ [sent] }.derive ext genesis task visit
      | _ => none
  | .deliver request => (state.sent[request]?).map fun sent =>
      { state with log := Function.update state.log sent.1 [sent.2] }
  | .perform visit reached =>
      match state.journal.worker with
      | .acquired task => (state.journal.step ext genesis (.perform visit)).bind
          (state.perform ext genesis task visit reached)
      | _ => none

end Step

structure Initial (state : State) : Prop where
  journal : state.journal.Initial
  records : ∀ id, state.records id = none
  issuers : ∀ id, state.journal.issuers id = none
  current : ∀ id, state.current id = none
  lists : ∀ id, state.lists id = none
  provisioning : state.provisioning = .outside
  log : ∀ identifier, state.log identifier = []
  sent : state.sent = []
  derived : ∀ id, state.derived id = []

end State

end SwiyuIssuer.Creation
