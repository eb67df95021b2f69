import SwiyuIssuer.Creation.Rows

/-! What the calls of an execution leave behind, and one case for each kind of step. -/

namespace SwiyuIssuer.Creation

open Library Persistence Worker Saga Resume

section Notes

/-- Noting the calls of an execution only adds to what the registries have handed out and to the
rows of issuers. -/
structure Noted (calls : CreateCalls) (reached : Bool) (requested : List SideEffect)
    (state after : State) : Prop where
  journal : after.journal = { state.journal with issuers := after.journal.issuers }
  issuers : ∀ id, after.journal.issuers id = state.journal.issuers id ∨
    ((after.records id).isSome = true ∧ reached = true ∧
      ∃ record, .insertIssuer record ∈ requested ∧ record.id = id)
  current : after.current = state.current
  lists : after.lists = state.lists
  provisioning : after.provisioning = state.provisioning
  log : after.log = state.log
  sent : after.sent = state.sent
  issuerIds : after.issuerIds = state.issuerIds
  derived : after.derived = state.derived
  identifiers : ∀ identifier ∈ state.identifiers, identifier ∈ after.identifiers
  allocated : ∀ partnerId allocation, .allocateDid partnerId ∈ requested →
    calls.allocate = .ok allocation → allocation.identifier ∈ after.identifiers
  entryIds : ∀ entryId ∈ state.entryIds, entryId ∈ after.entryIds
  registered : ∀ partnerId entry, .createStatusListEntry partnerId ∈ requested →
    calls.createEntry = .ok entry → entry.id ∈ after.entryIds
  records : ∀ issuerId record, after.records issuerId = some record →
    state.records issuerId = some record ∨
      (.insertIssuer record ∈ requested ∧ record.id = issuerId)
  recorded : ∀ issuerId, (state.records issuerId).isSome = true →
    (after.records issuerId).isSome = true

variable {calls : CreateCalls} {reached : Bool} {state after last : State}

theorem noted_nil : Noted calls reached [] state state := by
  constructor <;> simp

theorem noted_note (effect : SideEffect) :
    Noted calls reached [effect] state (state.note calls reached effect) := by
  cases effect with
  | allocateDid partnerId =>
      cases answered : calls.allocate <;> constructor <;> simp [State.note, answered]
      intro identifier present
      exact .inr present
  | createStatusListEntry partnerId =>
      cases answered : calls.createEntry <;> constructor <;> simp [State.note, answered]
      intro entryId present
      exact .inr present
  | insertIssuer record =>
      cases reached with
      | false =>
          constructor <;> simp [State.note]
          intro issuerId stored found
          exact .inl found
      | true =>
          constructor
          case records =>
            intro issuerId stored found
            simp only [State.note, if_true] at found
            by_cases same : issuerId = record.id
            · subst same
              rw [Function.update_self] at found
              cases found
              exact .inr ⟨List.mem_singleton_self _, rfl⟩
            · rw [Function.update_of_ne same] at found
              exact .inl found
          case issuers =>
            intro id
            simp only [State.note, if_true]
            by_cases same : id = record.id
            · subst same
              refine .inr ⟨?_, trivial, record, List.mem_singleton_self _, rfl⟩
              rw [Function.update_self]
              rfl
            · exact .inl (Function.update_of_ne same ..)
          case recorded =>
            intro issuerId there
            simp only [State.note, if_true]
            by_cases same : issuerId = record.id
            · subst same
              rw [Function.update_self]
              rfl
            · rw [Function.update_of_ne same]
              exact there
          all_goals simp [State.note]
  | generateKeypair | publishLogEntry | provisionForIssuer =>
      constructor <;> simp [State.note]

theorem Noted.cons {effect : SideEffect} {rest : List SideEffect}
    (head : Noted calls reached [effect] state after) (tail : Noted calls reached rest after last) :
    Noted calls reached (effect :: rest) state last where
  journal := by rw [tail.journal, head.journal]
  issuers := by
    intro id
    rcases tail.issuers id with same | ⟨there, put, record, asked, named⟩
    · rcases head.issuers id with first | ⟨there, put, record, asked, named⟩
      · exact .inl (same.trans first)
      · cases List.mem_singleton.mp asked
        exact .inr ⟨tail.recorded _ there, put, record, List.mem_cons_self, named⟩
    · exact .inr ⟨there, put, record, List.mem_cons_of_mem _ asked, named⟩
  current := tail.current.trans head.current
  lists := tail.lists.trans head.lists
  provisioning := tail.provisioning.trans head.provisioning
  log := tail.log.trans head.log
  sent := tail.sent.trans head.sent
  issuerIds := tail.issuerIds.trans head.issuerIds
  derived := tail.derived.trans head.derived
  identifiers identifier present := tail.identifiers _ (head.identifiers _ present)
  entryIds entryId present := tail.entryIds _ (head.entryIds _ present)
  recorded issuerId there := tail.recorded _ (head.recorded _ there)
  allocated := by
    intro partnerId allocation asked answered
    rcases List.mem_cons.mp asked with rfl | later
    · exact tail.identifiers _ (head.allocated _ _ (List.mem_singleton_self _) answered)
    · exact tail.allocated _ _ later answered
  registered := by
    intro partnerId entry asked answered
    rcases List.mem_cons.mp asked with rfl | later
    · exact tail.entryIds _ (head.registered _ _ (List.mem_singleton_self _) answered)
    · exact tail.registered _ _ later answered
  records := by
    intro issuerId record found
    rcases tail.records _ _ found with before | ⟨asked, named⟩
    · rcases head.records _ _ before with first | ⟨asked, named⟩
      · exact .inl first
      · rw [List.mem_singleton.mp asked]
        exact .inr ⟨List.mem_cons_self, named⟩
    · exact .inr ⟨List.mem_cons_of_mem _ asked, named⟩

theorem noted_foldl (requested : List SideEffect) (state : State) :
    Noted calls reached requested state (requested.foldl (State.note calls reached) state) := by
  induction requested generalizing state with
  | nil => exact noted_nil
  | cons effect rest ih => exact (noted_note effect).cons (ih _)

end Notes

section Requests

variable {ext : Externals} {genesis : GenesisCore} {task : OperationTask} {calls : CreateCalls}
  {input : CreateIssuerInput} {data : CreateIssuerStateData} {tenant : Tenant}

/-- What one of the steps of a creation asks for beyond its keys. -/
inductive Requests (ext : Externals) (genesis : GenesisCore) (task : OperationTask)
    (calls : CreateCalls) (input : CreateIssuerInput) (data : CreateIssuerStateData) :
    CreateIssuerStep → SideEffect → Prop
  | allocate (partnerId : String) :
      Requests ext genesis task calls input data .allocateDid (.allocateDid partnerId)
  | generate (role : KeyRole) :
      Requests ext genesis task calls input data .generateKeys (.generateKeypair role)
  | publish (partnerId identifier : String) (entry : Json) :
      data.assignedIdentifier = some identifier →
      buildLogEntry ext.core genesis ext.engine calls.faults data task.createdAt = .ok entry →
      Requests ext genesis task calls input data .publishDidlog
        (.publishLogEntry partnerId identifier entry)
  | insert (issuerId : IssuerId) (keyIds : KeyTriple) (entry : Json) (did : String) :
      task.resultIssuerId = some issuerId → data.keyIds = some keyIds →
      buildLogEntry ext.core genesis ext.engine calls.faults data task.createdAt = .ok entry →
      documentId entry = .ok did →
      Requests ext genesis task calls input data .persistIssuer
        (.insertIssuer (newIssuer task.tenantId issuerId input keyIds did task.createdAt))
  | register (partnerId : String) :
      Requests ext genesis task calls input data .createStatusListEntry
        (.createStatusListEntry partnerId)
  | provision (issuerId : IssuerId) (entryId registryUrl : String) :
      Requests ext genesis task calls input data .provisionStatusList
        (.provisionForIssuer issuerId entryId registryUrl)

theorem createStep_requests (step : CreateIssuerStep) {effect : SideEffect}
    (asked : effect ∈ (createStep ext genesis task calls input data tenant step).requested) :
    Requests ext genesis task calls input data step effect := by
  cases step with
  | allocateDid =>
      simp only [createStep, executeAllocateDid] at asked
      split at asked
      · cases asked
      · rw [List.mem_singleton.mp asked]
        exact .allocate _
  | generateKeys =>
      have keypair : ∃ role, effect = .generateKeypair role := by
        simp only [createStep, executeGenerateKeys] at asked
        split at asked
        · cases asked
        · split at asked
          · exact ⟨_, List.mem_singleton.mp asked⟩
          · split at asked
            · simp only [List.mem_cons, List.not_mem_nil, or_false] at asked
              rcases asked with rfl | rfl <;> exact ⟨_, rfl⟩
            · simp only [List.mem_cons, List.not_mem_nil, or_false] at asked
              rcases asked with rfl | rfl | rfl <;> exact ⟨_, rfl⟩
      rcases keypair with ⟨role, rfl⟩
      exact .generate role
  | buildInitialDidlog => cases asked
  | publishDidlog =>
      simp only [createStep, executePublishDidlog] at asked
      split at asked
      · cases asked
      · split at asked
        · cases asked
        · next identifier assigned =>
            split at asked
            · cases asked
            · next entry built =>
                rw [List.mem_singleton.mp asked]
                exact .publish _ _ _ assigned built
  | persistIssuer =>
      cases named : task.resultIssuerId with
      | none =>
          simp only [createStep, named, Option.elim_none, unnamed] at asked
          cases asked
      | some issuerId =>
          simp only [createStep, named, Option.elim_some, executePersistIssuer] at asked
          split at asked
          · cases asked
          · cases asked
          · cases asked
          · split at asked
            · cases asked
            · next keyIds keyed =>
                split at asked
                · cases asked
                · next entry built =>
                    split at asked
                    · cases asked
                    · next did read =>
                        rw [List.mem_singleton.mp asked]
                        exact .insert _ _ _ _ named keyed built read
  | createStatusListEntry =>
      simp only [createStep, executeCreateStatusListEntry] at asked
      split at asked
      · cases asked
      · rw [List.mem_singleton.mp asked]
        exact .register _
  | provisionStatusList =>
      cases named : task.resultIssuerId with
      | none =>
          simp only [createStep, named, Option.elim_none, unnamed] at asked
          cases asked
      | some issuerId =>
          simp only [createStep, named, Option.elim_some, executeProvisionStatusList] at asked
          split at asked
          · cases asked
          · cases asked
          · cases asked
          · split at asked
            · cases asked
            · cases asked
            · rw [List.mem_singleton.mp asked]
              exact .provision _ _ _

theorem Requests.publishes {step : CreateIssuerStep} {partnerId identifier : String} {entry : Json}
    (asked : Requests ext genesis task calls input data step
      (.publishLogEntry partnerId identifier entry)) :
    data.assignedIdentifier = some identifier ∧
      buildLogEntry ext.core genesis ext.engine calls.faults data task.createdAt = .ok entry := by
  cases asked with
  | publish _ _ _ assigned built => exact ⟨assigned, built⟩

theorem Requests.inserts {step : CreateIssuerStep} {record : IssuerRecord}
    (asked : Requests ext genesis task calls input data step (.insertIssuer record)) :
    step = .persistIssuer ∧ ∃ issuerId keyIds entry did, task.resultIssuerId = some issuerId ∧
      data.keyIds = some keyIds ∧
      buildLogEntry ext.core genesis ext.engine calls.faults data task.createdAt = .ok entry ∧
      documentId entry = .ok did ∧
      record = newIssuer task.tenantId issuerId input keyIds did task.createdAt := by
  cases asked with
  | insert issuerId keyIds entry did named keyed built read =>
      exact ⟨rfl, issuerId, keyIds, entry, did, named, keyed, built, read, rfl⟩

end Requests

section Steps

variable {ext : Externals} {genesis : GenesisCore} {journal next : Journal} {state after : State}
  {task : OperationTask} {visit : Visit}

/-- The worker goes on with its task unless it starts or ends one. -/
def WorkerKept (journal next : Journal) : Prop :=
  next.worker = journal.worker ∨
    (journal.worker = .idle ∧ ∃ task, next.worker = .acquired task) ∨
    ((∃ task nextStep outcome visit, journal.worker = .stepped task nextStep outcome visit) ∧
      next.worker = .idle)

theorem journal_frame {event : Resume.Event} (taken : journal.step ext genesis event = some next)
    (other : ∀ visit, event ≠ .perform visit) (stays : event ≠ .crash) :
    WorkerKept journal next ∧ (next.issuers = journal.issuers ∨ ∃ issuer,
      event = .putIssuer issuer ∧
        next.issuers = Function.update journal.issuers issuer.id (some issuer)) := by
  cases event with
  | putTenant =>
      cases taken
      exact ⟨.inl rfl, .inl rfl⟩
  | crash => exact absurd rfl stays
  | perform visit => exact absurd rfl (other visit)
  | putIssuer =>
      simp only [Journal.step] at taken
      split at taken
      · cases taken
        exact ⟨.inl rfl, .inr ⟨_, rfl, rfl⟩⟩
      · cases taken
  | createIssuer | deactivateIssuer =>
      simp only [Journal.step] at taken
      split at taken
      · cases taken
        exact ⟨.inl rfl, .inl rfl⟩
      · cases taken
  | rotateKeys =>
      simp only [Journal.step] at taken
      split at taken
      · split at taken
        · cases taken
          exact ⟨.inl rfl, .inl rfl⟩
        · cases taken
      · cases taken
  | acquire =>
      simp only [Journal.step] at taken
      split at taken
      · next idle _ =>
          split at taken
          · split at taken
            · cases taken
              exact ⟨.inr (.inl ⟨idle, _, rfl⟩), .inl rfl⟩
            · cases taken
              exact ⟨.inl rfl, .inl rfl⟩
          · cases taken
      · cases taken
  | record =>
      simp only [Journal.step] at taken
      split at taken
      · next task nextStep outcome visit held =>
          split at taken
          · cases taken
            exact ⟨.inr (.inr ⟨⟨_, _, _, _, held⟩, note_worker ..⟩), .inl (note_issuers ..)⟩
          · cases taken
            exact ⟨.inr (.inr ⟨⟨_, _, _, _, held⟩, rfl⟩), .inl rfl⟩
      · cases taken

/-- What a step does, one case for each kind of event. -/
inductive Move (ext : Externals) (genesis : GenesisCore) (state : State) : State → Prop
  | quiet (event : Resume.Event) (next : Journal) :
      state.journal.step ext genesis event = some next →
      (∀ id tenantId issuerId description displayName now,
        event ≠ .createIssuer id tenantId issuerId description displayName now) →
      WorkerKept state.journal next →
      (∀ id, (next.issuers id).isSome = true →
        (state.journal.issuers id).isSome = true ∨ (state.records id).isSome = true) →
      Move ext genesis state { state with journal := next }
  | created (id : TaskId) (tenantId : TenantId) (issuerId : IssuerId)
      (description displayName : String) (now : DateTime) (next : Journal) :
      issuerId ∉ state.issuerIds → state.journal.step ext genesis
        (.createIssuer id tenantId issuerId description displayName now) = some next →
      WorkerKept state.journal next → next.issuers = state.journal.issuers →
      Move ext genesis state
        { state with journal := next, issuerIds := issuerId :: state.issuerIds }
  | crashed : Move ext genesis state
      { state with journal := state.journal.release, provisioning := .outside }
  | lookedUp (task : OperationTask) (issuerId : IssuerId) :
      state.provisioned = some (task, issuerId) → state.provisioning = .outside →
      Move ext genesis state { state with provisioning := .lookedUp (state.current issuerId) }
  | inserted (task : OperationTask) (issuerId : IssuerId) (data : CreateIssuerStateData)
      (id : StatusListId) (entryId registryUrl : String) (now : DateTime) :
      state.provisioned = some (task, issuerId) → state.provisioning = .lookedUp none →
      CreateIssuerStateData.decode ext.uuid task.stateData = .ok data →
      data.statusListRegistryEntryId = some entryId → state.lists id = none →
      (state.records issuerId).isSome = true → Move ext genesis state { state with
        lists := Function.update state.lists id
          (some (provisionedList id issuerId entryId registryUrl now))
        provisioning := .inserted id }
  | pointed (task : OperationTask) (issuerId : IssuerId) (id : StatusListId) :
      state.provisioned = some (task, issuerId) → state.provisioning = .inserted id →
      Move ext genesis state { state with
        current := Function.update state.current issuerId (some id)
        provisioning := .pointed id }
  | sent (task : OperationTask) (visit : Visit) (sent : String × Json) :
      state.journal.worker = .acquired task → State.request ext genesis task visit = some sent →
      Move ext genesis state
        (State.derive ext genesis { state with sent := state.sent ++ [sent] } task visit)
  | delivered (identifier : String) (entry : Json) : (identifier, entry) ∈ state.sent →
      Move ext genesis state
        { state with log := Function.update state.log identifier [entry] }
  | performed (task : OperationTask) (visit : Visit) (reached : Bool) (nextStep : Option String)
      (effect : CreateEffect) (noted : State) : state.journal.worker = .acquired task →
      state.journal.step ext genesis (.perform visit) = some
        { state.journal with worker := .stepped task nextStep effect.outcome visit } →
      executeVisit ext genesis task visit = .ok (nextStep, .create effect) →
      state.readsTables task visit.create = true →
      (∀ call ∈ effect.requested, state.answered visit.create reached call = true) →
      Noted visit.create reached effect.requested { state with
        journal := { state.journal with worker := .stepped task nextStep effect.outcome visit }
        provisioning := .outside } noted →
      Move ext genesis state (State.derive ext genesis noted task visit)
  | otherwise (task : OperationTask) (visit : Visit) (worker : Dispatch) :
      state.journal.worker = .acquired task →
      state.journal.step ext genesis (.perform visit) = some
        { state.journal with worker := worker } →
      (worker = .idle ∨ (task.taskType ≠ .createIssuer ∧
        ∃ nextStep outcome, worker = .stepped task nextStep outcome visit)) →
      Move ext genesis state { state with
        journal := { state.journal with worker := worker }, provisioning := .outside }

theorem perform_taken (taken : journal.step ext genesis (.perform visit) = some next)
    (held : journal.worker = .acquired task) :
    (∃ error, executeVisit ext genesis task visit = .error error ∧ next = journal.release) ∨
      ∃ nextStep deed, executeVisit ext genesis task visit = .ok (nextStep, deed) ∧
        next = { journal with worker := .stepped task nextStep deed.outcome visit } := by
  simp only [Journal.step, held] at taken
  split at taken
  · split at taken
    · next error failed =>
        cases taken
        exact .inl ⟨error, failed, rfl⟩
    · next nextStep deed executed =>
        cases taken
        exact .inr ⟨nextStep, deed, executed, rfl⟩
  · cases taken

/-- The execution of a creation, and the one of another saga. -/
theorem create_deed {nextStep : Option String} {effect : CreateEffect}
    (executed : executeVisit ext genesis task visit = .ok (nextStep, .create effect)) :
    task.taskType = .createIssuer ∧ ∃ input data tenant arm,
      CreateIssuerStateData.decode ext.uuid task.stateData = .ok data ∧
      createIssuerArm (Resume.stepName task) = some arm ∧ nextStep = arm.nextStep ∧
      effect = createStep ext genesis task visit.create input data tenant arm.step := by
  unfold executeVisit at executed
  cases saga : task.taskType with
  | createIssuer =>
      simp only [saga] at executed
      rcases Saga.execute_ok _ executed with
        ⟨input, data, tenant, arm, _, read, _, known, _, follows, same⟩
      cases same
      refine ⟨rfl, input, data, tenant, arm, read, ?_, follows, rfl⟩
      rw [Resume.stepName, saga]
      exact known
  | deactivateIssuer | rotateKeys =>
      simp only [saga] at executed
      rcases Saga.execute_ok _ executed with ⟨_, _, _, _, _, _, _, _, _, _, same⟩
      cases same

theorem issuer_deed {nextStep : Option String} {effect : Effect}
    (executed : executeVisit ext genesis task visit = .ok (nextStep, .issuer effect)) :
    task.taskType ≠ .createIssuer := by
  intro saga
  simp only [executeVisit, saga] at executed
  rcases Saga.execute_ok _ executed with ⟨_, _, _, _, _, _, _, _, _, _, same⟩
  cases same

theorem perform_move {reached : Bool} (held : state.journal.worker = .acquired task)
    (moved : state.journal.step ext genesis (.perform visit) = some next)
    (taken : state.perform ext genesis task visit reached next = some after) :
    Move ext genesis state after := by
  unfold State.perform at taken
  rcases perform_taken moved held with ⟨error, failed, rfl⟩ | ⟨nextStep, deed, executed, rfl⟩
  · rw [failed] at taken
    cases taken
    exact .otherwise task visit .idle held moved (.inl rfl)
  · rw [executed] at taken
    cases deed with
    | create effect =>
        dsimp only at taken
        split at taken
        · next accepted =>
            cases taken
            rw [Bool.and_eq_true, List.all_eq_true] at accepted
            exact .performed task visit reached nextStep effect _ held moved executed accepted.1
              accepted.2 (noted_foldl ..)
        · cases taken
    | issuer effect =>
        cases taken
        exact .otherwise task visit _ held moved
          (.inr ⟨issuer_deed executed, nextStep, effect.outcome, rfl⟩)

theorem insertList_move {id : StatusListId} {now : DateTime}
    (taken : state.insertList ext id now = some after) : Move ext genesis state after := by
  unfold State.insertList at taken
  split at taken
  · next task issuerId running looked =>
      split at taken
      · next entryId registryUrl read =>
          split at taken
          · next accepted =>
              cases taken
              rw [Bool.and_eq_true, Option.isNone_iff_eq_none] at accepted
              exact .inserted task issuerId _ id entryId registryUrl now running looked read rfl
                accepted.1 accepted.2
          · cases taken
      · cases taken
  · cases taken

theorem issuers_admitted {event : Resume.Event} (admitted : state.admits event = true)
    (changed : next.issuers = state.journal.issuers ∨ ∃ issuer, event = .putIssuer issuer ∧
      next.issuers = Function.update state.journal.issuers issuer.id (some issuer))
    (id : IssuerId) (there : (next.issuers id).isSome = true) :
    (state.journal.issuers id).isSome = true ∨ (state.records id).isSome = true := by
  rcases changed with same | ⟨issuer, rfl, updated⟩
  · rw [same] at there
    exact .inl there
  · by_cases place : id = issuer.id
    · subst place
      rcases (Option.any_eq_true _ _).mp admitted with ⟨record, stored, _⟩
      exact .inr (by rw [stored]; rfl)
    · rw [updated, Function.update_of_ne place] at there
      exact .inl there

theorem move_of_step {event : Event} (taken : state.step ext genesis event = some after) :
    Move ext genesis state after := by
  cases event with
  | journal event =>
      cases event with
      | createIssuer id tenantId issuerId description displayName now =>
          simp only [State.step] at taken
          split at taken
          · next admitted =>
              rcases Option.map_eq_some_iff.mp taken with ⟨next, moved, rfl⟩
              rcases journal_frame moved (by simp) (by simp) with ⟨kept, same | ⟨_, absurd, _⟩⟩
              · exact .created _ _ _ _ _ _ next (by simpa [State.admits] using admitted) moved kept
                  same
              · cases absurd
          · cases taken
      | crash =>
          cases taken
          exact .crashed
      | perform visit => simp [State.step, State.admits] at taken
      | putTenant | putIssuer | deactivateIssuer | rotateKeys | acquire | record =>
          simp only [State.step] at taken
          split at taken
          · next admitted =>
              rcases Option.map_eq_some_iff.mp taken with ⟨next, moved, rfl⟩
              rcases journal_frame moved (by simp) (by simp) with ⟨kept, issuers⟩
              exact .quiet _ next moved (by simp) kept (issuers_admitted admitted issuers)
          · cases taken
  | lookUp =>
      simp only [State.step] at taken
      split at taken
      · next running fresh =>
          cases taken
          exact .lookedUp _ _ running fresh
      · cases taken
  | insertList id now => exact insertList_move taken
  | pointIssuer =>
      simp only [State.step] at taken
      split at taken
      · next running inserted =>
          cases taken
          exact .pointed _ _ _ running inserted
      · cases taken
  | send visit =>
      simp only [State.step] at taken
      split at taken
      · next task held =>
          rcases Option.map_eq_some_iff.mp taken with ⟨sent, asked, rfl⟩
          exact .sent task visit sent held asked
      · cases taken
  | deliver request =>
      simp only [State.step] at taken
      rcases Option.map_eq_some_iff.mp taken with ⟨sent, issued, rfl⟩
      exact .delivered sent.1 sent.2 (List.mem_of_getElem? issued)
  | perform visit reached =>
      simp only [State.step] at taken
      split at taken
      · next task held =>
          rcases Option.bind_eq_some_iff.mp taken with ⟨next, moved, performed⟩
          exact perform_move held moved performed
      · cases taken

end Steps

end SwiyuIssuer.Creation
