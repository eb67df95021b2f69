import SwiyuIssuer.Oidc.Lifecycle
import SwiyuIssuer.Oidc.Provenance

/-! A deactivated issuer and its offers. -/

namespace SwiyuIssuer.Oidc

open Library Persistence StatusStore

namespace Database

def deactivated (db : Database) (id : IssuerId) : Bool :=
  (db.issuers id).any fun issuer => issuer.state == some .deactivated

/-- A deactivated issuer has no pending offer. -/
def Quiet (db : Database) : Prop :=
  ∀ id offer, db.offers id = some offer → offer.state = .pending →
    db.deactivated offer.issuerId = false

variable {db after : Database}

theorem deactivated_some {id : IssuerId} {issuer : Issuer} (stored : db.issuers id = some issuer) :
    db.deactivated id = true ↔ issuer.state = some .deactivated := by
  simp [deactivated, stored]

theorem effect_deactivated (effect : db.Effect after) {id : IssuerId}
    (marked : db.deactivated id = true) : after.deactivated id = true := by
  cases effect with
  | deactivate request issuer present tenant =>
      by_cases same : id = request.issuerId
      · subst same
        exact (deactivated_some (Function.update_self ..)).mpr rfl
      · have kept := Function.update_of_ne same (some { issuer with state := some .deactivated })
          db.issuers
        simpa [deactivated, kept] using marked
  | _ => exact marked

theorem deactivated_origin (effect : db.Effect after) {id : IssuerId}
    (marked : after.deactivated id = true) : db.deactivated id = true ∨
      ∃ request issuer, id = request.issuerId ∧ db.issuers id = some issuer ∧
        issuer.tenantId = request.tenantId ∧ after.offers = db.cancelPending request := by
  cases effect with
  | deactivate request issuer present tenant =>
      by_cases same : id = request.issuerId
      · exact .inr ⟨request, issuer, same, same ▸ present, tenant, rfl⟩
      · have kept := Function.update_of_ne same (some { issuer with state := some .deactivated })
          db.issuers
        exact .inl (by simpa [deactivated, kept] using marked)
  | _ => exact .inl marked

theorem effect_quiet (quiet : db.Quiet) (effect : db.Effect after)
    (owned : ∀ id offer, db.offers id = some offer → OwnIssuer db offer.tenantId offer.issuerId)
    (fresh : ∀ id offer, db.offers id = none → after.offers id = some offer →
      after.deactivated offer.issuerId = false) : after.Quiet := by
  intro id offer stored pending
  rcases effect_origin effect stored with ⟨absent, _⟩ | old | ⟨before, now, _, _, rfl | rfl⟩
  · exact fresh id offer absent stored
  · by_contra marked
    rw [Bool.not_eq_false] at marked
    rcases deactivated_origin effect marked with already | ⟨request, issuer, same, present, tenant,
      cancelled⟩
    · rw [quiet id offer old pending] at already
      cases already
    · -- the offer is in the scope of the bulk cancel, so it is not pending any more
      rcases owned id offer old with ⟨owner, there, own⟩
      rw [present] at there
      cases there
      have scope := CredentialOffers.isPending_some.mpr
        ⟨⟨own.symm.trans tenant, same⟩, pending⟩
      rcases cancelPending_cases db request id with ⟨_, idle⟩ | ⟨row, _, _, now⟩
      · rw [old, scope] at idle
        cases idle
      · rw [cancelled, now] at stored
        cases stored
        cases pending
  · cases pending
  · cases pending

theorem effect_credential (effect : db.Effect after) {id : IssuedCredentialId}
    {row : IssuedCredential} (stored : after.credentials id = some row) :
    db.credentials id = some row ∨
      ∃ offer, db.offers offer.id = some offer ∧ offer.state = .pending ∧
        row.issuerId = offer.issuerId := by
  cases effect with
  | issue offer now credential present pending absent rowOffer rowIssuer =>
      rcases update_some stored with ⟨_, here⟩ | ⟨_, old⟩
      · cases here
        exact .inr ⟨offer, present, pending, rowIssuer⟩
      · exact .inl old
  | _ => exact .inl stored

end Database

variable {config : Config} {state after : State}

/-- Not the `INSERT` of an offer whose issuer is deactivated. -/
def forActive (state : State) (event : Event) : Bool :=
  match event.action, state.sessions event.t with
  | .insertOffer .., .typeProbed request _ _ => !state.database.deactivated request.issuerId
  | _, _ => true

abbrev ForActiveStep (config : Config) : State → Event → State → Prop :=
  Guarded (fun state event => forActive state event = true) (Steps (State.step config))

theorem quiet_step {event : Event} (sound : Sound state) (provenance : Provenance state)
    (quiet : state.database.Quiet)
    (taken : ForActiveStep config state event after) : after.database.Quiet := by
  have move := step_move taken.2
  have effect := move_effect sound move
  apply Database.effect_quiet quiet effect provenance.owned
  intro id offer absent stored
  rcases offer_origin sound move stored with ⟨row, there⟩ |
    ⟨request, expiresIn, vct, code, now, inserts, at_, rfl, _⟩
  · rw [absent] at there
    cases there
  · have active := taken.1
    simp only [forActive, inserts, at_, Bool.not_eq_true'] at active
    by_contra marked
    rw [Bool.not_eq_false] at marked
    rcases Database.deactivated_origin effect marked with already | ⟨request', issuer, _, _, _,
      cancelled⟩
    · have same : state.database.deactivated request.issuerId = true := already
      rw [active] at same
      cases same
    · -- a bulk cancel inserts nothing
      rcases Database.cancelPending_cases state.database request' id with ⟨same, _⟩ |
        ⟨row, there, _⟩
      · rw [cancelled, same, absent] at stored
        cases stored
      · rw [absent] at there
        cases there

theorem quiet_run {first last : State} {trace : List Event} (known : Known first)
    (quiet : first.database.Quiet) (run : Run (ForActiveStep config) first trace last) :
    Known last ∧ last.database.Quiet :=
  run.invariant_under Known (fun state => state.database.Quiet)
    (fun _ _ _ known taken => known_step known taken.2)
    (fun _ _ _ known quiet taken => quiet_step known.1 known.2 quiet taken) known quiet

/-- What holds of an issuer from its deactivation on: it stays deactivated, and it has no other
credentials than those of that moment. -/
structure Stopped (moment : Database) (id : IssuerId) (db : Database) : Prop where
  deactivated : db.deactivated id = true
  credentials : ∀ credentialId row, db.credentials credentialId = some row → row.issuerId = id →
    moment.credentials credentialId = some row

theorem stopped_step {moment : Database} {id : IssuerId} {event : Event} (sound : Sound state)
    (quiet : state.database.Quiet) (stopped : Stopped moment id state.database)
    (taken : ForActiveStep config state event after) : Stopped moment id after.database := by
  have effect := step_effect sound taken.2
  refine ⟨Database.effect_deactivated effect stopped.deactivated, ?_⟩
  intro credentialId row stored issuer
  rcases Database.effect_credential effect stored with old | ⟨offer, present, pending, same⟩
  · exact stopped.credentials credentialId row old issuer
  · have active := quiet offer.id offer present pending
    rw [← same, issuer, stopped.deactivated] at active
    cases active

/-- In every run without the `INSERT` of an offer for a deactivated issuer: from the commit that
deactivates an issuer on, it has no pending offer and gets no credential. -/
theorem deactivated_issuers_issue_nothing (config : Config) {first middle last : State}
    {front back : List Event} (initial : first.Initial)
    (run : Run (ForActiveStep config) first front middle)
    (later : Run (ForActiveStep config) middle back last) {id : IssuerId} {issuer : Issuer}
    (stored : middle.database.issuers id = some issuer)
    (marked : issuer.state = some .deactivated) :
    (∀ offerId offer, last.database.offers offerId = some offer → offer.issuerId = id →
      offer.state ≠ .pending) ∧
    ∀ credentialId row, last.database.credentials credentialId = some row → row.issuerId = id →
      middle.database.credentials credentialId = some row := by
  have empty : first.database.Quiet := by
    intro id offer stored
    cases (congrArg Cell.committed (initial.offers id)).symm.trans stored
  rcases quiet_run (known_initial initial) empty run with
    ⟨known, quiet⟩
  have start : Stopped middle.database id middle.database :=
    ⟨(Database.deactivated_some stored).mpr marked, fun _ _ present _ => present⟩
  have stopped := (later.invariant_under (fun state => Known state ∧ state.database.Quiet)
    (fun state => Stopped middle.database id state.database)
    (fun _ _ _ now taken => ⟨known_step now.1 taken.2, quiet_step now.1.1 now.1.2 now.2 taken⟩)
    (fun _ _ _ now stopped taken => stopped_step now.1.1 now.2 stopped taken)
    ⟨known, quiet⟩ start)
  refine ⟨?_, stopped.2.credentials⟩
  intro offerId offer present owner pending
  have active := stopped.1.2 offerId offer present pending
  rw [owner, stopped.2.deactivated] at active
  cases active

def sampleMark : MarkRequest := ⟨sampleIssuer.tenantId, sampleIssuer.id, 5⟩

def sampleDeactivation (t : TxId) : List Event :=
  [⟨t, .lockIssuer sampleMark⟩, ⟨t, .setState⟩, ⟨t, .cancelAllPending⟩, ⟨t, .commit true⟩]

theorem deactivated_issuers_issue_nothing_sample : ∃ last,
    Run (ForActiveStep sampleConfig) sampleStart (sampleCreation 0 ++ sampleDeactivation 1) last ∧
    last.database.deactivated sampleIssuer.id = true ∧
    ∀ offerId offer, last.database.offers offerId = some offer →
      offer.issuerId = sampleIssuer.id → offer.state ≠ .pending := by
  have computed : (exec (checked forActive (State.step sampleConfig)) sampleStart
      (sampleCreation 0 ++ sampleDeactivation 1)).map
        (fun state => state.database.issuers sampleIssuer.id) =
          some (some { sampleIssuer with state := some .deactivated }) := by decide
  rcases Option.map_eq_some_iff.mp computed with ⟨last, reached, stored⟩
  have run := Run.of_checked reached
  exact ⟨last, run, (Database.deactivated_some stored).mpr rfl,
    (deactivated_issuers_issue_nothing sampleConfig sampleStart_initial run (.nil last) stored
      rfl).1⟩

/-- The handler that creates an offer asks who owns the issuer, not whether it is active: after the
deactivation an offer is created, redeemed and issued. -/
theorem deactivated_issuer_issues : ∃ middle pending last,
    Run (Steps (State.step sampleConfig)) sampleStart (sampleDeactivation 9) middle ∧
    middle.database.deactivated sampleIssuer.id = true ∧
    middle.database.credentials ⟨"6Cr"⟩ = none ∧
    Run (Steps (State.step sampleConfig)) middle (sampleCreation 0) pending ∧
    (∃ offer, pending.database.offers sampleOffer = some offer ∧
      offer.issuerId = sampleIssuer.id ∧ offer.state = .pending) ∧
    Run (Steps (State.step sampleConfig)) pending (sampleRedemption 1 ⟨"t"⟩ ⟨"n"⟩ ++
      samplePresentation 2 ⟨"t"⟩ ⟨"n"⟩ ++ sampleIssuing 2 ⟨"6Cr"⟩) last ∧
    ∃ row, last.database.credentials ⟨"6Cr"⟩ = some row ∧ row.issuerId = sampleIssuer.id := by
  have deactivated : (exec (State.step sampleConfig) sampleStart (sampleDeactivation 9)).map
      (fun state => (state.database.deactivated sampleIssuer.id,
        (state.database.credentials ⟨"6Cr"⟩).isNone)) = some (true, true) := by decide
  have created : (exec (State.step sampleConfig) sampleStart
      (sampleDeactivation 9 ++ sampleCreation 0)).map
        (fun state => (state.database.offers sampleOffer).map
          fun offer => (offer.issuerId, offer.state)) =
            some (some (sampleIssuer.id, .pending)) := by decide
  have issued : (exec (State.step sampleConfig) sampleStart
      ((sampleDeactivation 9 ++ sampleCreation 0) ++ (sampleRedemption 1 ⟨"t"⟩ ⟨"n"⟩ ++
        samplePresentation 2 ⟨"t"⟩ ⟨"n"⟩ ++ sampleIssuing 2 ⟨"6Cr"⟩))).map
        (fun state => (state.database.credentials ⟨"6Cr"⟩).map IssuedCredential.issuerId) =
          some (some sampleIssuer.id) := by decide
  rcases Option.map_eq_some_iff.mp deactivated with ⟨middle, marking, marked⟩
  rcases Option.map_eq_some_iff.mp created with ⟨pending, creating, offered⟩
  rcases Run.continue_exec marking created with ⟨pending', creation, _⟩
  rcases Run.continue_exec creating issued with ⟨last, issuing, row⟩
  have same : pending' = pending := by
    rw [exec_append, marking, Option.bind_some, creation] at creating
    exact Option.some.inj creating
  subst same
  rcases Option.map_eq_some_iff.mp offered with ⟨offer, stored, facts⟩
  refine ⟨middle, pending', last, Run.of_exec marking, congrArg Prod.fst marked,
    Option.isNone_iff_eq_none.mp (congrArg Prod.snd marked), Run.of_exec creation,
    ⟨offer, stored, congrArg Prod.fst facts, congrArg Prod.snd facts⟩, Run.of_exec issuing, ?_⟩
  exact Option.map_eq_some_iff.mp row

end SwiyuIssuer.Oidc
