import SwiyuIssuer.Oidc.Lifecycle
import SwiyuIssuer.Oidc.Provenance

/-! What a cancel request answers, for every position of the other writers between its `SELECT` and
its `UPDATE`. -/

namespace SwiyuIssuer.Oidc

open Library Persistence StatusStore

structure GetCredentialOfferResponse where
  id : String
  issuerId : String
  vct : String
  credentialTypeId : Option String
  claims : Json
  state : String
  expiresAt : DateTime
  createdAt : DateTime
  issuedAt : Option DateTime
  cancelledAt : Option DateTime

def offerToResponse (offer : CredentialOffer) (now : DateTime) : GetCredentialOfferResponse where
  id := offer.id.bare
  issuerId := offer.issuerId.bare
  vct := offer.vct
  credentialTypeId := offer.credentialTypeId.map fun id => id.bare
  claims := offer.claims
  state := (offer.observedState now).asStr
  expiresAt := offer.expiresAt
  createdAt := offer.createdAt
  issuedAt := offer.issuedAt
  cancelledAt := offer.cancelledAt

/-- The cancel request whose next statement the event is. -/
def cancelling (state : State) (event : Event) : Option CancelRequest :=
  match state.sessions event.t, event.action with
  | .idle, .probeCancel request => some request
  | .cancelProbed request, _ => some request
  | .cancelLoaded request _ _, _ => some request
  | _, _ => none

/-- The committed row that a request names: `WHERE id = … AND tenant_id = … AND issuer_id = …`. -/
def Database.named (db : Database) (request : CancelRequest) : Option CredentialOffer :=
  (db.offers request.offerId).filter fun row =>
    CredentialOffers.inScope row request.tenantId request.issuerId

theorem Database.named_iff {db : Database} {request : CancelRequest} {row : CredentialOffer} :
    db.named request = some row ↔ db.offers request.offerId = some row ∧
      row.tenantId = request.tenantId ∧ row.issuerId = request.issuerId := by
  rw [named, Option.filter_eq_some_iff, CredentialOffers.inScope_iff]

/-- 200 exactly for a cancelled row, and then as it is stored; 409 for one that cannot be cancelled,
and no 404. -/
structure Truthful (row : CredentialOffer) (response : Except ApiError CredentialOffer) : Prop where
  cancelled : (∃ offer, response = .ok offer) ↔ row.state = .cancelled
  stored : ∀ offer, response = .ok offer → ∀ now, offerToResponse offer now = offerToResponse row now
  conflict : ∀ details, response = .error (.conflict details) →
    row.state = .issued ∨ row.state = .expired
  found : response ≠ .error .notFound

/-- If the event answers a cancel request of an offer that exists, it does so truthfully. -/
def AnswersTruly (state : State) (event : Event) (after : State) : Prop :=
  ∀ request, cancelling state event = some request → ∀ response row,
    after.sessions event.t = .cancelAnswered response → after.database.named request = some row →
      Truthful row response

/-- An `UPDATE` finds the offer still pending, and no statement fails once the offer is cancelled. -/
def unraced (state : State) (event : Event) : Bool :=
  match (cancelling state event).bind state.database.named, event.action with
  | some row, .cancel => row.state == .pending
  | some row, .fail _ => row.state != .cancelled
  | _, _ => true

/-- What a cancel request has read is the row for as long as that is pending. -/
def Loaded (state : State) : Prop :=
  ∀ t request moved now, state.sessions t = .cancelLoaded request moved now →
    ∃ loaded row, loaded.state = .pending ∧ moved = loaded.asCancelled now ∧
      state.database.named request = some row ∧ (row.state = .pending → row = loaded)

variable {config : Config} {state after : State} {event : Event} {request : CancelRequest}

theorem cancel_action (open_ : (state.sessions event.t).handler = some .cancel)
    (taken : state.step config event = some after) :
    (∃ now, event.action = .readCancel now) ∨ event.action = .cancel ∨
      ∃ details, event.action = .fail details := by
  cases act : event.action with
  | readCancel now => exact .inl ⟨now, rfl⟩
  | cancel => exact .inr (.inl rfl)
  | fail details => exact .inr (.inr ⟨details, rfl⟩)
  | _ =>
      -- every other statement belongs to a session of another handler
      simp only [State.step, act, State.readTokenIssuerStep, State.findByPreAuthCodeStep,
        State.insertAccessTokenStep, State.insertNonceStep, State.findValidByHashStep,
        State.readOfferStep, State.readTypeStep, State.readIssuerStep, State.consumeByHashStep,
        State.findByIdForUpdateStep, State.insertCredentialStep, State.setIssuedStateStep,
        State.deleteByHashStep, State.probeIssuerStep, State.probeTypeStep, State.insertOfferStep,
        State.probeCancelStep, State.lockIssuerStep, State.setStateStep,
        State.cancelAllPendingStep, State.commitStep] at taken
      split at taken <;> first
        | cases taken; done
        | next at_ =>
            rw [at_] at open_
            cases open_

theorem cancelling_cases (asked : cancelling state event = some request)
    (taken : state.step config event = some after) :
    (event.action = .probeCancel request ∧ state.probeCancelStep event.t request = some after) ∨
      (∃ now, state.sessions event.t = .cancelProbed request ∧ event.action = .readCancel now ∧
        state.readCancelStep event.t now = some after) ∨
      (∃ moved now, state.sessions event.t = .cancelLoaded request moved now ∧
        event.action = .cancel ∧ state.cancelStep event.t = some after) ∨
      ∃ details, event.action = .fail details ∧
        after = state.rollback event.t (.cancelAnswered (.error (.internal details))) := by
  cases at_ : state.sessions event.t with
  | idle =>
      cases act : event.action with
      | probeCancel probed =>
          simp only [cancelling, at_, act, Option.some.injEq] at asked
          subst asked
          rw [State.step, act] at taken
          exact .inl ⟨rfl, taken⟩
      | _ => simp [cancelling, at_, act] at asked
  | cancelProbed probed =>
      simp only [cancelling, at_, Option.some.injEq] at asked
      subst asked
      have open_ : (state.sessions event.t).handler = some .cancel := by rw [at_]; rfl
      rcases cancel_action open_ taken with ⟨now, act⟩ | act | ⟨details, act⟩
      · rw [State.step, act] at taken
        exact .inr (.inl ⟨now, rfl, act, taken⟩)
      · simp [State.step, act, State.cancelStep, at_] at taken
      · simp only [State.step, act, State.failStep, at_, Option.some.injEq] at taken
        exact .inr (.inr (.inr ⟨details, act, taken.symm⟩))
  | cancelLoaded loaded moved now =>
      simp only [cancelling, at_, Option.some.injEq] at asked
      subst asked
      have open_ : (state.sessions event.t).handler = some .cancel := by rw [at_]; rfl
      rcases cancel_action open_ taken with ⟨at_now, act⟩ | act | ⟨details, act⟩
      · simp [State.step, act, State.readCancelStep, at_] at taken
      · rw [State.step, act] at taken
        exact .inr (.inr (.inl ⟨moved, now, rfl, act, taken⟩))
      · simp only [State.step, act, State.failStep, at_, Option.some.injEq] at taken
        exact .inr (.inr (.inr ⟨details, act, taken.symm⟩))
  | _ => simp [cancelling, at_] at asked

section Answers

variable {t : TxId} {row : CredentialOffer} {response : Except ApiError CredentialOffer}

theorem findById_iff (sound : Sound state)
    (open_ : (state.sessions t).handler = some .cancel) :
    CredentialOffers.findById state.offers t request.tenantId request.issuerId request.offerId =
      .ok row ↔ state.database.named request = some row := by
  have committed : (state.offers request.offerId).read t = state.database.offers request.offerId := by
    apply sound.offers.read_unclaimed
    cases at_ : state.sessions t with
    | cancelProbed _ => rfl
    | cancelLoaded _ _ _ => rfl
    | _ => simp [Session.handler, at_] at open_
  constructor
  · intro found
    obtain ⟨seen, tenant, issuer⟩ := CredentialOffers.findById_ok found
    exact Database.named_iff.mpr ⟨committed.symm.trans seen, tenant, issuer⟩
  · intro named
    obtain ⟨stored, tenant, issuer⟩ := Database.named_iff.mp named
    exact CredentialOffers.findById_of_read (committed.trans stored) tenant issuer

theorem Truthful.of_cancelled (cancelled : row.state = .cancelled) : Truthful row (.ok row) where
  cancelled := by simp [cancelled]
  stored offer same now := by
    cases same
    rfl
  conflict details absurd_ := by cases absurd_
  found := by simp

theorem Truthful.of_conflict {details : String}
    (settled : row.state = .issued ∨ row.state = .expired) :
    Truthful row (.error (.conflict details)) where
  cancelled := by
    rcases settled with issued | expired
    · simp [issued]
    · simp [expired]
  stored offer absurd_ := by cases absurd_
  conflict _ _ := settled
  found := by simp

/-- A failure says nothing about the row, so the row must not be cancelled. -/
theorem truthful_internal {details : String} :
    Truthful row (.error (.internal details)) ↔ row.state ≠ .cancelled := by
  constructor
  · intro truthful cancelled
    obtain ⟨offer, absurd_⟩ := truthful.cancelled.mpr cancelled
    cases absurd_
  · intro uncancelled
    refine ⟨by simp [uncancelled], ?_, ?_, by simp⟩
    · intro offer absurd_
      cases absurd_
    · intro other absurd_
      cases absurd_

theorem probeCancel_answer (known : Known state)
    (taken : state.probeCancelStep t request = some after)
    (answered : after.sessions t = .cancelAnswered response) :
    after.database.named request ≠ some row := by
  unfold State.probeCancelStep at taken
  split at taken
  · next at_ =>
      split at taken
      · cases taken
        simp at answered
      · next missing =>
          cases taken
          intro named
          rw [database_rollback] at named
          obtain ⟨stored, tenant, issuer⟩ := Database.named_iff.mp named
          obtain ⟨owner, present, own⟩ := known.2.owned _ row stored
          apply missing
          have seen : (state.issuers request.issuerId).read t = some owner := by
            rw [known.1.issuers.read_unclaimed (by rw [at_]; rfl), ← issuer]
            exact present
          have key : owner.id = request.issuerId := by
            rw [← issuer]
            exact known.1.issuersKeyed _ owner present
          simp [IssuerRows.existsForTenant, IssuerRows.findByIdForTenant, seen, isRow, key,
            own, tenant]
  · cases taken

theorem readCancel_answer (sound : Sound state) {now : DateTime}
    (at_ : state.sessions t = .cancelProbed request)
    (taken : state.readCancelStep t now = some after)
    (answered : after.sessions t = .cancelAnswered response)
    (named : after.database.named request = some row) : Truthful row response := by
  have open_ : (state.sessions t).handler = some .cancel := by rw [at_]; rfl
  simp only [State.readCancelStep, at_] at taken
  split at taken
  · next missing =>
      cases taken
      rw [database_rollback] at named
      rw [(findById_iff sound open_).mpr named] at missing
      cases missing
  · next offer found =>
      have names := (findById_iff sound open_).mp found
      have same : ∀ session, after = state.rollback t session → row = offer := by
        rintro session rfl
        rw [database_rollback] at named
        exact Option.some.inj (named.symm.trans names)
      split at taken
      · next cancelled =>
          cases taken
          obtain rfl := same _ rfl
          rw [sessions_rollback] at answered
          cases answered
          exact .of_cancelled cancelled
      · next pending =>
          rw [CredentialOffer.tryCancel_ok.mpr ⟨pending, rfl⟩] at taken
          cases taken
          simp at answered
      · next issued =>
          cases taken
          obtain rfl := same _ rfl
          rw [sessions_rollback] at answered
          cases answered
          exact .of_conflict (.inl issued)
      · next expired =>
          cases taken
          obtain rfl := same _ rfl
          rw [sessions_rollback] at answered
          cases answered
          exact .of_conflict (.inr expired)

theorem withCancelled_named {moved : CredentialOffer} {now : DateTime}
    (named : state.database.named request = some row) :
    (state.withCancelled t request moved now).database.named request =
      some (row.asCancelled now) := by
  obtain ⟨stored, scope⟩ := Database.named_iff.mp named
  rw [database_withCancelled state t request moved now stored]
  exact Database.named_iff.mpr ⟨Function.update_self .., scope⟩

/-- The `UPDATE` answers with what it has written, or with a 404 for a row that is no longer
pending. -/
theorem cancel_answer_iff (sound : Sound state) (loaded : Loaded state) {moved : CredentialOffer}
    {now : DateTime} (at_ : state.sessions t = .cancelLoaded request moved now)
    (taken : state.cancelStep t = some after) (named : state.database.named request = some row) :
    (∀ response written, after.sessions t = .cancelAnswered response →
      after.database.named request = some written → Truthful written response) ↔ row.state = .pending := by
  have open_ : (state.sessions t).handler = some .cancel := by rw [at_]; rfl
  have found := (findById_iff sound open_).mpr named
  by_cases pending : row.state = .pending
  · simp only [pending, iff_true]
    intro response written answered now_named
    obtain ⟨read, seen, _, rfl, names, latest⟩ := loaded t request moved now at_
    cases Option.some.inj (names.symm.trans named)
    obtain rfl := latest pending
    cases held : (state.offers request.offerId).writer with
    | some version =>
        simp [State.cancelStep, at_, CredentialOffers.cancel, found, pending, held] at taken
    | none =>
        simp only [State.cancelStep, at_, CredentialOffers.cancel, found, pending, if_true, held,
          Option.some.injEq] at taken
        have made : after = state.withCancelled t request (row.asCancelled now) now := taken.symm
        rw [made, sessions_withCancelled] at answered
        rw [made] at now_named
        cases answered
        cases (withCancelled_named named).symm.trans now_named
        exact .of_cancelled rfl
  · simp only [pending, iff_false]
    intro truthful
    simp only [State.cancelStep, at_, CredentialOffers.cancel, found, pending, if_false,
      Option.some.injEq] at taken
    subst taken
    exact (truthful _ row (sessions_rollback ..) (by rwa [database_rollback])).found rfl

theorem cancelLoaded_origin {action : Action} (move : Move config state t action after)
    {moved : CredentialOffer} {now : DateTime}
    (at_ : after.sessions t = .cancelLoaded request moved now) :
    state.sessions t = .cancelProbed request := by
  cases move with
  | advance action next reads =>
      rw [sessions_goto] at at_
      subst at_
      generalize state.sessions t = from_ at reads
      cases reads
      rfl
  | refuse action handler next from_ to_ =>
      rw [sessions_rollback] at at_
      subst at_
      cases to_
  | commit acknowledged next commits =>
      rw [sessions_commit] at at_
      subst at_
      generalize state.sessions t = from_ at commits
      cases commits
  | _ => simp at at_

theorem readCancel_loaded (sound : Sound state) {now : DateTime}
    (at_ : state.sessions t = .cancelProbed request)
    (taken : state.readCancelStep t now = some after) {moved : CredentialOffer} {stamp : DateTime}
    (loaded : after.sessions t = .cancelLoaded request moved stamp) :
    ∃ offer, offer.state = .pending ∧ moved = offer.asCancelled stamp ∧
      after.database.named request = some offer := by
  have open_ : (state.sessions t).handler = some .cancel := by rw [at_]; rfl
  simp only [State.readCancelStep, at_] at taken
  split at taken
  · cases taken
    simp at loaded
  · next offer found =>
      have names := (findById_iff sound open_).mp found
      split at taken
      · cases taken
        simp at loaded
      · next pending =>
          rw [CredentialOffer.tryCancel_ok.mpr ⟨pending, rfl⟩] at taken
          cases taken
          rw [sessions_goto] at loaded
          cases loaded
          exact ⟨offer, pending, rfl, names⟩
      · cases taken
        simp at loaded
      · cases taken
        simp at loaded

theorem names_effect {db now : Database} (effect : db.Effect now)
    (named : db.named request = some row) :
    ∃ later, now.named request = some later ∧ (later.state = .pending → later = row) := by
  obtain ⟨stored, tenant, issuer⟩ := Database.named_iff.mp named
  obtain ⟨later, there⟩ := Option.ne_none_iff_exists'.mp (Database.effect_kept effect stored)
  rcases Database.effect_origin effect there with ⟨absent, _⟩ | old | ⟨before, stamp, old, _, made⟩
  · rw [stored] at absent
    cases absent
  · cases Option.some.inj (old.symm.trans stored)
    exact ⟨row, Database.named_iff.mpr ⟨there, tenant, issuer⟩, fun _ => rfl⟩
  · cases Option.some.inj (old.symm.trans stored)
    rcases made with rfl | rfl
    · exact ⟨_, Database.named_iff.mpr ⟨there, tenant, issuer⟩, fun absurd_ => by cases absurd_⟩
    · exact ⟨_, Database.named_iff.mpr ⟨there, tenant, issuer⟩, fun absurd_ => by cases absurd_⟩

end Answers

theorem loaded_initial (initial : state.Initial) : Loaded state := by
  intro t request moved now at_
  rw [initial.sessions] at at_
  cases at_

theorem loaded_step (sound : Sound state) (loaded : Loaded state)
    (taken : state.step config event = some after) : Loaded after := by
  intro t request moved now at_
  by_cases own : t = event.t
  · subst own
    have probed := cancelLoaded_origin (step_move taken) at_
    have asked : cancelling state event = some request := by simp [cancelling, probed]
    rcases cancelling_cases asked taken with ⟨act, step⟩ | ⟨clock, _, _, step⟩ |
      ⟨other, clock, elsewhere, _⟩ | ⟨details, _, failed⟩
    · simp [State.probeCancelStep, probed] at step
    · obtain ⟨offer, pending, same, names⟩ := readCancel_loaded sound probed step at_
      exact ⟨offer, offer, pending, same, names, fun _ => rfl⟩
    · rw [probed] at elsewhere
      cases elsewhere
    · rw [failed, sessions_rollback] at at_
      cases at_
  · rw [move_others (step_move taken) own] at at_
    obtain ⟨read, row, pending, same, names, latest⟩ := loaded t request moved now at_
    obtain ⟨later, still, unchanged⟩ := names_effect (step_effect sound taken) names
    refine ⟨read, later, pending, same, still, ?_⟩
    intro open_
    have kept := unchanged open_
    rw [kept] at open_
    rw [kept, latest open_]

theorem unraced_iff : unraced state event = true ↔
    ∀ request, cancelling state event = some request → ∀ row,
      state.database.named request = some row → (event.action = .cancel → row.state = .pending) ∧
        ∀ details, event.action = .fail details → row.state ≠ .cancelled := by
  cases asked : cancelling state event with
  | none => simp [unraced, asked]
  | some request =>
      cases named : state.database.named request with
      | none => simp [unraced, asked, named]
      | some row => cases act : event.action <;> simp [unraced, asked, named, act]

/-- A statement answers truthfully exactly when no other writer has come between. -/
theorem answersTruly_iff (known : Known state) (loaded : Loaded state)
    (taken : state.step config event = some after) :
    AnswersTruly state event after ↔ unraced state event = true := by
  rw [unraced_iff]
  cases asked : cancelling state event with
  | none => simp [AnswersTruly, asked]
  | some request =>
      simp only [AnswersTruly, asked, Option.some.injEq, forall_eq']
      rcases cancelling_cases asked taken with ⟨act, step⟩ | ⟨now, at_, act, step⟩ |
        ⟨moved, now, at_, act, step⟩ | ⟨details, act, rfl⟩
      · simp only [act, reduceCtorEq, false_imp_iff, implies_true, and_self, iff_true]
        intro response row answered named
        exact absurd named (probeCancel_answer known step answered)
      · simp only [act, reduceCtorEq, false_imp_iff, implies_true, and_self, iff_true]
        intro response row answered named
        exact readCancel_answer known.1 at_ step answered named
      · simp only [act, reduceCtorEq, false_imp_iff, implies_true, and_true, true_imp_iff]
        constructor
        · intro truthful row named
          exact (cancel_answer_iff known.1 loaded at_ step named).mp truthful
        · intro unraced
          obtain ⟨_, row, _, _, named, _⟩ := loaded event.t request moved now at_
          exact (cancel_answer_iff known.1 loaded at_ step named).mpr (unraced row named)
      · simp only [act, sessions_rollback, database_rollback, reduceCtorEq, false_imp_iff,
          Session.cancelAnswered.injEq, Action.fail.injEq, forall_eq', true_and]
        constructor
        · intro truthful row named
          exact truthful_internal.mp (truthful _ row rfl named)
        · intro uncancelled response row same named
          subst same
          exact truthful_internal.mpr (uncancelled row named)

/-- For every interleaving of the cancel requests with the issuing of credentials and the bulk
cancel: every answer to the cancellation of an offer that exists is truthful exactly when each
`UPDATE` has found the offer still pending, and nothing has failed on a cancelled offer. -/
theorem cancels_answer_truly_iff (config : Config) {first last : State} {trace : List Event}
    (initial : first.Initial) (run : Run (Steps (State.step config)) first trace last) :
    (∀ front event back before after, trace = front ++ event :: back →
        Run (Steps (State.step config)) first front before →
          before.step config event = some after → AnswersTruly before event after) ↔
      Run (Guarded (fun state event => unraced state event = true) (Steps (State.step config)))
        first trace last := by
  apply Run.each_iff_guarded (fun state => Known state ∧ Loaded state)
  · intro state event after known taken
    exact ⟨known_step known.1 taken, loaded_step known.1.1 known.2 taken⟩
  · intro state event after known taken
    exact answersTruly_iff known.1 known.2 taken
  · exact ⟨known_initial initial, loaded_initial initial⟩
  · exact run

section Sample

def sampleCancel : CancelRequest := ⟨sampleIssuer.tenantId, sampleIssuer.id, sampleOffer⟩

def sampleCancelRead (t : TxId) (now : DateTime) : List Event :=
  [⟨t, .probeCancel sampleCancel⟩, ⟨t, .readCancel now⟩]

def repeated : List Event :=
  sampleCreation 0 ++ sampleCancelRead 1 3 ++ [⟨1, .cancel⟩] ++ sampleCancelRead 2 4

def simultaneous : List Event :=
  sampleCreation 0 ++ sampleCancelRead 1 3 ++ sampleCancelRead 2 4 ++ [⟨1, .cancel⟩]

theorem cancels_answer_truly_iff_sample : ∃ last,
    Run (Steps (State.step sampleConfig)) sampleStart repeated last ∧
      ∀ front event back before after, repeated = front ++ event :: back →
        Run (Steps (State.step sampleConfig)) sampleStart front before →
          before.step sampleConfig event = some after → AnswersTruly before event after := by
  have computed : (exec (checked unraced (State.step sampleConfig)) sampleStart repeated).isSome =
      true := by decide +kernel
  obtain ⟨last, reached⟩ := Option.isSome_iff_exists.mp computed
  have calm := Run.of_checked reached
  exact ⟨last, calm.forget,
    (cancels_answer_truly_iff sampleConfig sampleStart_initial calm.forget).mpr calm⟩

/-- The second of two simultaneous cancel requests answers 404 for an offer that is cancelled. -/
theorem simultaneous_cancel_is_not_found : ∃ before after row,
    Run (Steps (State.step sampleConfig)) sampleStart simultaneous before ∧
      before.step sampleConfig ⟨2, .cancel⟩ = some after ∧
      after.database.named sampleCancel = some row ∧ row.state = .cancelled ∧
      after.sessions 2 = .cancelAnswered (.error .notFound) ∧
      ¬ AnswersTruly before ⟨2, .cancel⟩ after := by
  refine ⟨_, _, _, Run.of_exec rfl, rfl, rfl, rfl, rfl, ?_⟩
  intro truly
  exact (truly sampleCancel rfl _ _ rfl rfl).found rfl

end Sample

end SwiyuIssuer.Oidc
