import SwiyuIssuer.Oidc.Soundness

/-! Whose the rows are: an offer, its access token and the requests under way agree on the tenant
and the issuer, and a pending offer is as it was created. -/

namespace SwiyuIssuer.Oidc

open Library Persistence StatusStore

/-- The copy of the offer row that a `/credential` request has read outside its transaction. -/
def Session.reading : Session → Option Reading
  | .offerRead reading | .typeRead reading _ => some reading
  | .proofVerified issuance => some issuance.toReading
  | .nonceConsumed consumption => some consumption.toReading
  | _ => none

def Database.Owns (db : Database) (id : CredentialOfferId) (tenantId : TenantId)
    (issuerId : IssuerId) : Prop :=
  ∃ offer, db.offers id = some offer ∧ offer.tenantId = tenantId ∧ offer.issuerId = issuerId

structure Provenance (state : State) : Prop where
  owned : ∀ id offer, state.database.offers id = some offer →
    OwnIssuer state.database offer.tenantId offer.issuerId
  created : ∀ id offer, state.database.offers id = some offer → offer.state = .pending →
    (∃ code, offer.preAuthCode = some code) ∧ ∃ typeId, offer.credentialTypeId = some typeId
  tokens : ∀ id token, state.database.accessTokens id = some token →
    state.database.Owns id token.tenantId token.issuerId
  redemptions : ∀ q redemption, state.sessions q = .offerFound redemption →
    state.database.Owns redemption.offer.id redemption.tenantId redemption.issuerId
  readings : ∀ q reading, (state.sessions q).reading = some reading →
    reading.now < reading.offer.expiresAt ∧
      ∀ offer, state.database.offers reading.token.offerId = some offer → offer.state = .pending →
        offer = reading.offer

theorem effect_owns {db now : Database} (effect : db.Effect now) {id : CredentialOfferId}
    {tenantId : TenantId} {issuerId : IssuerId} (owns : db.Owns id tenantId issuerId) :
    now.Owns id tenantId issuerId := by
  rcases owns with ⟨offer, stored, tenant, issuer⟩
  rcases Option.ne_none_iff_exists'.mp (Database.effect_kept effect stored) with ⟨row, there⟩
  rcases Database.effect_origin effect there with ⟨absent, _⟩ | old | ⟨before, at_, old, _, rfl | rfl⟩
  · rw [stored] at absent
    cases absent
  · rw [stored] at old
    cases old
    exact ⟨offer, there, tenant, issuer⟩
  · rw [stored] at old
    cases old
    exact ⟨_, there, tenant, issuer⟩
  · rw [stored] at old
    cases old
    exact ⟨_, there, tenant, issuer⟩

theorem provenance_initial {state : State} (initial : state.Initial) : Provenance state := by
  have noOffer : ∀ id, state.database.offers id = none := fun id =>
    congrArg Cell.committed (initial.offers id)
  have noToken : ∀ id, state.database.accessTokens id = none := fun id =>
    congrArg Cell.committed (initial.accessTokens id)
  constructor <;> simp [noOffer, noToken, initial.sessions, Session.reading]

section Move

variable {config : Config} {state after : State} {t : TxId} {action : Action}

/-- Where an access-token row comes from: it was there, or this statement inserts it. -/
theorem token_origin (sound : Sound state) (move : Move config state t action after)
    {id : CredentialOfferId} {token : AccessToken}
    (stored : after.database.accessTokens id = some token) :
    state.database.accessTokens id = some token ∨
      ∃ redemption tokenHash, state.sessions t = .offerFound redemption ∧
        id = redemption.offer.id ∧ token = redemption.token config tokenHash ∧
        after.sessions t = .tokenInserted redemption token := by
  cases move with
  | insertToken redemption tokenHash at_ unlocked absent =>
      rw [database_withToken] at stored
      rcases update_some stored with ⟨rfl, here⟩ | ⟨_, old⟩
      · cases here
        exact .inr ⟨redemption, tokenHash, at_, rfl, rfl, sessions_withToken ..⟩
      · exact .inl old
  | commit acknowledged next commits =>
      generalize at_ : state.sessions t = from_ at commits
      cases commits with
      | issuance draft =>
          rw [commitIssuance_database sound _ at_] at stored
          rcases update_some stored with ⟨_, here⟩ | ⟨_, old⟩
          · cases here
          · exact .inl old
      | unacknowledged draft error =>
          rw [commitIssuance_database sound _ at_] at stored
          rcases update_some stored with ⟨_, here⟩ | ⟨_, old⟩
          · cases here
          · exact .inl old
      | deactivation request outcome =>
          rcases commitMark_database sound (.markEnded outcome) at_ with ⟨_, _, _, written⟩
          rw [written] at stored
          exact .inl stored
  | refuse action handler next from_ to_ =>
      rw [database_rollback] at stored
      exact .inl stored
  | deleteToken draft accessTokens at_ deleted =>
      have same : accessTokens.snapshot = state.accessTokens.snapshot :=
        AccessTokens.deleteByHash_snapshot deleted
      exact .inl ((congrFun same id).symm.trans stored)
  | _ => exact .inl stored

/-- The offer of a request that is redeeming a code has just been read. -/
theorem redemption_origin (sound : Sound state) (move : Move config state t action after)
    {q : TxId} {redemption : Redemption} (found : after.sessions q = .offerFound redemption) :
    state.sessions q = .offerFound redemption ∨
      state.database.Owns redemption.offer.id redemption.tenantId redemption.issuerId := by
  by_cases own : q = t
  · subst own
    obtain ⟨stored, _, tenant, issuer⟩ := offerFound_move sound move found
    exact .inr ⟨redemption.offer, stored, tenant, issuer⟩
  · exact .inl ((move_others move own).symm.trans found)

/-- A request reads the offer once; the later statements keep its copy. -/
theorem reading_origin (sound : Sound state) (move : Move config state t action after)
    {q : TxId} {reading : Reading} (read : (after.sessions q).reading = some reading) :
    (state.sessions q).reading = some reading ∨
      state.database.offers reading.token.offerId = some reading.offer ∧
        reading.now < reading.offer.expiresAt := by
  by_cases own : q = t
  · subst own
    cases move with
    | advance action next reads =>
        rw [sessions_goto] at read
        generalize at_ : state.sessions q = from_ at reads ⊢
        cases reads with
        | reading bearer offer now seen pending fresh =>
            cases read
            have stored : state.database.offers bearer.token.offerId = some offer := by
              refine (sound.offers.read_unclaimed ?_).symm.trans seen
              rw [at_]
              rfl
            exact .inr ⟨stored, fresh⟩
        | type reading validity => exact .inl read
        | proof reading validity issuer assertionKeyId proof seen => exact .inl read
        | _ => cases read
    | refuse action handler next from_ to_ =>
        rw [sessions_rollback] at read
        cases to_ <;> cases read
    | commit acknowledged next commits =>
        rw [sessions_commit] at read
        generalize state.sessions q = from_ at commits
        cases commits <;> cases read
    | consumeNonce issuance nonce at_ present live =>
        rw [sessions_withoutNonce] at read
        rw [at_]
        exact .inl read
    | _ => simp [Session.reading] at read
  · rw [move_others move own] at read
    exact .inl read

theorem reading_stands (sound : Sound state) {q : TxId} {reading : Reading}
    (read : (state.sessions q).reading = some reading) :
    state.database.Stands reading.token := by
  have facts := sound.holding q
  cases at_ : state.sessions q with
  | offerRead other | typeRead other validity =>
      rw [at_] at facts read
      cases read
      exact facts.stands
  | proofVerified issuance =>
      rw [at_] at facts read
      cases read
      exact facts.stands
  | nonceConsumed consumption =>
      rw [at_] at facts read
      cases read
      exact facts.stands
  | _ =>
      rw [at_] at read
      cases read

theorem reading_stored (sound : Sound state) (provenance : Provenance state) {q : TxId}
    {reading : Reading} (read : (state.sessions q).reading = some reading) :
    ∃ row, state.database.offers reading.token.offerId = some row := by
  rcases reading_stands sound read with held | ⟨offer, stored, _⟩
  · rcases provenance.tokens _ _ held with ⟨offer, stored, _⟩
    exact ⟨offer, stored⟩
  · exact ⟨offer, stored⟩

theorem provenance_move (sound : Sound state) (provenance : Provenance state)
    (move : Move config state t action after) : Provenance after := by
  have effect := move_effect sound move
  have offers : ∀ id offer, after.database.offers id = some offer →
      state.database.offers id = none ∨ ∃ row, state.database.offers id = some row ∧
        row.tenantId = offer.tenantId ∧ row.issuerId = offer.issuerId ∧
        (offer.state = .pending → row = offer) := by
    intro id offer stored
    rcases Database.effect_origin effect stored with ⟨absent, _⟩ | old | ⟨row, now, old, _, rfl | rfl⟩
    · exact .inl absent
    · exact .inr ⟨offer, old, rfl, rfl, fun _ => rfl⟩
    · exact .inr ⟨row, old, rfl, rfl, fun absurd_ => by cases absurd_⟩
    · exact .inr ⟨row, old, rfl, rfl, fun absurd_ => by cases absurd_⟩
  have fresh : ∀ id offer, after.database.offers id = some offer →
      state.database.offers id = none → ∃ request expiresIn vct code now,
        state.sessions t = .typeProbed request expiresIn vct ∧
        offer = CredentialOffer.new id request.tenantId request.issuerId
          (some request.credentialTypeId) vct request.claims code (now + expiresIn) now := by
    intro id offer stored absent
    rcases offer_origin sound move stored with ⟨row, there⟩ |
      ⟨request, expiresIn, vct, code, now, _, at_, made, _⟩
    · rw [absent] at there
      cases there
    · exact ⟨request, expiresIn, vct, code, now, at_, made⟩
  refine ⟨?_, ?_, ?_, ?_, ?_⟩
  · intro id offer stored
    apply ownIssuer_effect effect
    rcases offers id offer stored with absent | ⟨row, old, tenant, issuer, _⟩
    · rcases fresh id offer stored absent with ⟨request, expiresIn, vct, code, now, at_, rfl⟩
      have own := sound.holding t
      rw [at_] at own
      exact own
    · rw [← tenant, ← issuer]
      exact provenance.owned id row old
  · intro id offer stored pending
    rcases offers id offer stored with absent | ⟨row, old, _, _, same⟩
    · rcases fresh id offer stored absent with ⟨request, expiresIn, vct, code, now, _, rfl⟩
      exact ⟨⟨code, rfl⟩, ⟨request.credentialTypeId, rfl⟩⟩
    · obtain rfl := same pending
      exact provenance.created id row old pending
  · intro id token stored
    apply effect_owns effect
    rcases token_origin sound move stored with old | ⟨redemption, tokenHash, at_, rfl, rfl, _⟩
    · exact provenance.tokens id token old
    · exact provenance.redemptions t redemption at_
  · intro q redemption found
    apply effect_owns effect
    rcases redemption_origin sound move found with old | owns
    · exact provenance.redemptions q redemption old
    · exact owns
  · intro q reading read
    rcases reading_origin sound move read with old | ⟨found, early⟩
    · rcases provenance.readings q reading old with ⟨early, latest⟩
      refine ⟨early, ?_⟩
      intro offer stored pending
      rcases offers _ offer stored with absent | ⟨row, there, _, _, same⟩
      · rcases reading_stored sound provenance old with ⟨row, there⟩
        rw [absent] at there
        cases there
      · obtain rfl := same pending
        exact latest row there pending
    · refine ⟨early, ?_⟩
      intro offer stored pending
      rcases offers _ offer stored with absent | ⟨row, there, _, _, same⟩
      · rw [found] at absent
        cases absent
      · obtain rfl := same pending
        exact Option.some.inj (there.symm.trans found)

end Move

abbrev Known (state : State) : Prop := Sound state ∧ Provenance state

theorem known_initial {state : State} (initial : state.Initial) : Known state :=
  ⟨sound_initial initial, provenance_initial initial⟩

theorem known_step {config : Config} {state after : State} {event : Event} (known : Known state)
    (taken : state.step config event = some after) : Known after :=
  ⟨sound_step known.1 taken, provenance_move known.1 known.2 (step_move taken)⟩

end SwiyuIssuer.Oidc
