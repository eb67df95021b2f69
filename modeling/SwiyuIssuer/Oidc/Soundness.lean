import SwiyuIssuer.Library.Run
import SwiyuIssuer.Oidc.Locks

/-! Soundness of every state that a run reaches. -/

namespace SwiyuIssuer.Oidc

open Library Persistence StatusStore

section Move

variable {config : Config} {state after : State} {t : TxId} {action : Action}

/-- A statement moves its own session only, and only while the handler has not returned. -/
theorem move_session (move : Move config state t action after) :
    (state.sessions t = .idle ∨ (state.sessions t).handler.isSome = true) ∧
      ∃ next, after.sessions = Function.update state.sessions t next := by
  cases move with
  | advance action next reads =>
      refine ⟨?_, next, rfl⟩
      generalize state.sessions t = from_ at reads
      cases reads <;> first | exact .inl rfl | exact .inr rfl
  | refuse action handler next from_ to_ =>
      refine ⟨?_, next, rfl⟩
      rcases from_ with idle | open_
      · exact .inl idle
      · exact .inr (by rw [open_]; rfl)
  | commit acknowledged next commits =>
      refine ⟨.inr ?_, next, rfl⟩
      generalize state.sessions t = from_ at commits
      cases commits <;> rfl
  | lockIssuer request issuer at_ free seen tenant => exact ⟨.inl at_, _, rfl⟩
  | insertToken redemption tokenHash at_ unlocked absent =>
      exact ⟨.inr (by rw [at_]; rfl), _, rfl⟩
  | insertNonce redemption token nonceHash at_ fresh absent =>
      exact ⟨.inr (by rw [at_]; rfl), _, rfl⟩
  | consumeNonce issuance nonce at_ present live => exact ⟨.inr (by rw [at_]; rfl), _, rfl⟩
  | lockOffer consumption offer at_ minted free seen tenant issuer pending =>
      exact ⟨.inr (by rw [at_]; rfl), _, rfl⟩
  | insertCredential grant sealing at_ free absent => exact ⟨.inr (by rw [at_]; rfl), _, rfl⟩
  | setIssued draft at_ free => exact ⟨.inr (by rw [at_]; rfl), _, rfl⟩
  | deleteToken draft accessTokens at_ deleted => exact ⟨.inr (by rw [at_]; rfl), _, rfl⟩
  | insertOffer request expiresIn vct id code now at_ unheld unlocked absent =>
      exact ⟨.inr (by rw [at_]; rfl), _, rfl⟩
  | cancel request moved row now at_ unlocked present pending =>
      exact ⟨.inr (by rw [at_]; rfl), _, rfl⟩
  | setState request at_ free => exact ⟨.inr (by rw [at_]; rfl), _, rfl⟩
  | cancelAllPending request at_ free => exact ⟨.inr (by rw [at_]; rfl), _, rfl⟩

theorem move_others (move : Move config state t action after) {other : TxId}
    (different : other ≠ t) : after.sessions other = state.sessions other := by
  rcases (move_session move).2 with ⟨next, sessions⟩
  rw [sessions, Function.update_of_ne different]

/-- A response is final. -/
theorem move_final (move : Move config state t action after) {q : TxId} {session : Session}
    (at_ : state.sessions q = session) (started : session ≠ .idle)
    (returned : session.handler = none) : after.sessions q = session := by
  by_cases own : q = t
  · subst own
    rcases (move_session move).1 with idle | open_
    · exact absurd (at_.symm.trans idle) started
    · rw [at_, returned] at open_
      cases open_
  · rw [move_others move own, at_]

theorem move_tokenIssued (move : Move config state t action after) {q : TxId}
    {redemption : Redemption} {token : AccessToken} {nonce : Nonce}
    (at_ : state.sessions q = .tokenIssued redemption token nonce) :
    after.sessions q = .tokenIssued redemption token nonce :=
  move_final move at_ (fun absurd_ => by cases absurd_) rfl

theorem move_minted (move : Move config state t action after) {nonce : Nonce}
    (minted : Minted state.sessions nonce) : Minted after.sessions nonce := by
  rcases minted with ⟨q, redemption, token, at_⟩
  exact ⟨q, redemption, token, move_tokenIssued move at_⟩

theorem move_redeemed (move : Move config state t action after) {grant : Grant}
    (redeemed : Redeemed state.sessions grant) : Redeemed after.sessions grant := by
  rcases redeemed with ⟨q, redemption, at_⟩
  exact ⟨q, redemption, move_tokenIssued move at_⟩

theorem move_accepted (move : Move config state t action after) {entry : TxId × Nonce}
    (present : entry ∈ state.accepted) : entry ∈ after.accepted := by
  cases move with
  | consumeNonce issuance nonce at_ there live => exact List.mem_cons_of_mem _ present
  | _ => exact present

/-- A `/token` request finds the stored row of an offer that is pending and its issuer's. -/
theorem offerFound_move (sound : Sound state) (move : Move config state t action after)
    {redemption : Redemption} (found : after.sessions t = .offerFound redemption) :
    state.database.offers redemption.offer.id = some redemption.offer ∧
      redemption.offer.state = .pending ∧ redemption.offer.tenantId = redemption.tenantId ∧
      redemption.offer.issuerId = redemption.issuerId := by
  cases move with
  | advance action next reads =>
      rw [sessions_goto] at found
      subst found
      generalize at_ : state.sessions t = from_ at reads
      cases reads with
      | offer request issuerId issuer offer now id seen code pending fresh tenant scope =>
          have stored : state.database.offers id = some offer := by
            refine (sound.offers.read_unclaimed ?_).symm.trans seen
            rw [at_]
            rfl
          have key : offer.id = id := sound.coherent.keyed id offer stored
          exact ⟨by rw [key]; exact stored, pending, tenant, scope⟩
  | refuse action handler next from_ to_ =>
      rw [sessions_rollback] at found
      subst found
      cases to_
  | commit acknowledged next commits =>
      rw [sessions_commit] at found
      subst found
      generalize state.sessions t = from_ at commits
      cases commits
  | _ => simp at found

theorem offers_respects (sound : Sound state) (move : Move config state t action after) :
    Table.Respects t state.offers after.offers := by
  cases move with
  | refuse action handler next from_ to_ => exact Table.respects_rollback ..
  | lockOffer consumption offer at_ minted free seen tenant issuer pending =>
      exact Table.respects_update _ free
  | setIssued draft at_ free => exact Table.respects_update _ free
  | insertOffer request expiresIn vct id code now at_ unheld unlocked absent =>
      exact Table.respects_autocommit _ t unlocked
  | cancel request moved row now at_ unlocked present pending =>
      exact Table.respects_autocommit _ t unlocked
  | cancelAllPending request at_ free =>
      apply Table.respects_rewrite
      intro id
      by_cases pending : CredentialOffers.isPending request.tenantId request.issuerId
          ((state.offers id).read t) = true
      · refine .inr ⟨_, ?_, if_pos pending⟩
        have committed : (state.offers id).read t = (state.offers id).committed := by
          apply sound.offers.read_unclaimed
          rw [at_]
          rfl
        cases found : (state.offers id).committed with
        | none =>
            rw [committed, found] at pending
            cases pending
        | some offer => exact free id (sound.listed id offer found) pending
      · exact .inl (if_neg pending)
  | commit acknowledged next commits => exact Table.respects_commit ..
  | _ => exact Table.respects_refl ..

theorem credentials_respects (move : Move config state t action after) :
    Table.Respects t state.credentials after.credentials := by
  cases move with
  | refuse action handler next from_ to_ => exact Table.respects_rollback ..
  | insertCredential grant sealing at_ free absent => exact Table.respects_update _ free
  | commit acknowledged next commits => exact Table.respects_commit ..
  | _ => exact Table.respects_refl ..

theorem bearer_effect {db now : Database} (effect : db.Effect now) {bearer : Bearer}
    (checked : bearer.Checked db) : bearer.Checked now :=
  { checked with stands := Database.effect_stands effect checked.stands }

theorem reading_effect {db now : Database} (effect : db.Effect now) {reading : Reading}
    (checked : reading.Checked db) : reading.Checked now :=
  ⟨bearer_effect effect checked.bearer, checked.same⟩

theorem issuance_effect {db now : Database} (effect : db.Effect now) {issuance : Issuance}
    (checked : issuance.Checked db) : issuance.Checked now :=
  ⟨reading_effect effect checked.reading, checked.signer⟩

theorem ownIssuer_effect {db now : Database} (effect : db.Effect now) {tenantId : TenantId}
    {issuerId : IssuerId} (own : OwnIssuer db tenantId issuerId) :
    OwnIssuer now tenantId issuerId := by
  rcases own with ⟨issuer, present, tenant⟩
  rcases Database.effect_issuers effect present with ⟨row, there, _, same⟩
  exact ⟨row, there, same.trans tenant⟩

theorem consumption_move (sound : Sound state) (move : Move config state t action after) {q : TxId}
    {consumption : Consumption} (checked : consumption.Checked state q) :
    consumption.Checked after q where
  issuance := issuance_effect (move_effect sound move) checked.issuance
  hash := checked.hash
  unexpired := checked.unexpired
  accepted := move_accepted move checked.accepted
  minted := move_minted move checked.minted

theorem delivered_move (sound : Sound state) (move : Move config state t action after) {q : TxId}
    {draft : Draft} (delivered : draft.Delivered state q) : draft.Delivered after q where
  consumption := consumption_move sound move delivered.consumption
  offer := by
    have settled : draft.issued.state ≠ .pending := by rw [delivered.issued]; decide
    exact Database.effect_settled (move_effect sound move) delivered.offer settled
  issued := delivered.issued
  key := delivered.key
  redeemed := move_redeemed move delivered.redeemed

/-- Nobody else writes the offer while the grant holds its lock. -/
theorem grant_move (sound : Sound state) (move : Move config state t action after) {q : TxId}
    (different : q ≠ t) {grant : Grant} (checked : grant.Checked state q)
    {version : Option CredentialOffer}
    (claims : (state.sessions q).offerClaim grant.issued.id
      (state.offers grant.issued.id).committed = some version) : grant.Checked after q where
  consumption := consumption_move sound move checked.consumption
  offer := by
    rcases checked.offer with ⟨offer, stored, pending, same⟩
    have locked := (sound.offers grant.issued.id q version).mpr claims
    have kept := (offers_respects sound move).kept _ _ _ different locked
    exact ⟨offer, (congrArg Cell.committed kept).trans stored, pending, same⟩
  key := checked.key
  owner := checked.owner
  redeemed := move_redeemed move checked.redeemed

theorem draft_move (sound : Sound state) (move : Move config state t action after) {q : TxId}
    (different : q ≠ t) {draft : Draft} (checked : draft.Checked state q)
    {version : Option CredentialOffer} {row : Option IssuedCredential}
    (claims : (state.sessions q).offerClaim draft.issued.id
      (state.offers draft.issued.id).committed = some version)
    (holds : (state.sessions q).credentialClaim draft.row.id
      (state.credentials draft.row.id).committed = some row) : draft.Checked after q where
  grant := grant_move sound move different checked.grant claims
  rowOffer := checked.rowOffer
  rowIssuer := checked.rowIssuer
  absent := by
    have locked := (sound.credentials draft.row.id q row).mpr holds
    have kept := (credentials_respects move).kept _ _ _ different locked
    exact (congrArg Cell.committed kept).trans checked.absent

theorem facts_other (sound : Sound state) (move : Move config state t action after) {q : TxId}
    (different : q ≠ t) : Facts after q (after.sessions q) := by
  have effect := move_effect sound move
  have before := sound.holding q
  rw [move_others move different]
  cases at_ : state.sessions q with
  | offerFound redemption =>
      rw [at_] at before
      exact before
  | tokenInserted redemption token =>
      rw [at_] at before
      exact ⟨before.1, before.2.1, Database.effect_stands effect before.2.2⟩
  | tokenIssued redemption token nonce =>
      rw [at_] at before
      exact ⟨before.1, before.2.1, Database.effect_stands effect before.2.2.1, before.2.2.2⟩
  | bearerFound bearer =>
      rw [at_] at before
      exact bearer_effect effect before
  | offerRead reading =>
      rw [at_] at before
      exact reading_effect effect before
  | typeRead reading validity =>
      rw [at_] at before
      exact reading_effect effect before
  | proofVerified issuance =>
      rw [at_] at before
      exact issuance_effect effect before
  | nonceConsumed consumption =>
      rw [at_] at before
      exact consumption_move sound move before
  | offerLocked grant =>
      rw [at_] at before
      exact grant_move sound move different before (by rw [at_]; exact if_pos rfl)
  | credentialInserted draft =>
      rw [at_] at before
      exact draft_move sound move different before (by rw [at_]; exact if_pos rfl)
        (by rw [at_]; exact if_pos rfl)
  | offerIssued draft =>
      rw [at_] at before
      exact draft_move sound move different before (by rw [at_]; exact if_pos rfl)
        (by rw [at_]; exact if_pos rfl)
  | tokenDeleted draft =>
      rw [at_] at before
      exact draft_move sound move different before (by rw [at_]; exact if_pos rfl)
        (by rw [at_]; exact if_pos rfl)
  | credentialIssued draft =>
      rw [at_] at before
      exact delivered_move sound move before
  | offerProbed request expiresIn =>
      rw [at_] at before
      exact ownIssuer_effect effect before
  | typeProbed request expiresIn vct =>
      rw [at_] at before
      exact ownIssuer_effect effect before
  | issuerLocked request =>
      rw [at_] at before
      exact ownIssuer_effect effect before
  | issuerMarked request =>
      rw [at_] at before
      exact ownIssuer_effect effect before
  | offersCancelled request =>
      rw [at_] at before
      exact ownIssuer_effect effect before
  | _ => trivial

/-- A statement that commits nothing keeps what a grant knows. -/
theorem grant_kept (sound : Sound state) (move : Move config state t action after)
    (same : after.database = state.database) {grant : Grant} (checked : grant.Checked state t) :
    grant.Checked after t where
  consumption := consumption_move sound move checked.consumption
  offer := by
    rw [same]
    exact checked.offer
  key := checked.key
  owner := checked.owner
  redeemed := move_redeemed move checked.redeemed

theorem draft_kept (sound : Sound state) (move : Move config state t action after)
    (same : after.database = state.database) {draft : Draft} (checked : draft.Checked state t) :
    draft.Checked after t where
  grant := grant_kept sound move same checked.grant
  rowOffer := checked.rowOffer
  rowIssuer := checked.rowIssuer
  absent := by
    rw [same]
    exact checked.absent

/-- Before an offer is issued it has had one access token: the one presented is the one that came
with the nonce. -/
theorem redeemed_of_minted (sound : Sound state) {consumption : Consumption}
    (checked : consumption.Checked state t) {offer : CredentialOffer}
    (minted : consumption.nonce.offerId = consumption.offer.id)
    (stored : state.database.offers consumption.token.offerId = some offer)
    (pending : offer.state = .pending) (grant : Grant)
    (same : grant.toConsumption = consumption) : Redeemed state.sessions grant := by
  subst same
  rcases checked.minted with ⟨q, redemption, token, at_⟩
  have facts := sound.holding q
  rw [at_] at facts
  rcases facts with ⟨_, ofToken, stands, ofNonce⟩
  have key : token.offerId = grant.token.offerId := by
    rw [ofToken, ← ofNonce, minted, checked.same]
  have standing : ∀ other : AccessToken, other.offerId = grant.token.offerId →
      state.database.Stands other →
        state.database.accessTokens grant.token.offerId = some other := by
    intro other here stands
    rcases stands with held | ⟨issued, present, state_⟩
    · rwa [here] at held
    · rw [here, stored] at present
      cases present
      rw [pending] at state_
      cases state_
  have first := standing token key stands
  rw [standing grant.token rfl checked.stands] at first
  cases first
  exact ⟨q, redemption, at_⟩

theorem facts_advance (sound : Sound state) {from_ next : Session}
    (at_ : state.sessions t = from_) (reads : Advance state t from_ next) :
    Facts (state.goto t next) t next := by
  have before := sound.holding t
  rw [at_] at before
  have unclaiming := (advance_unclaiming reads).1
  have offerSeen : ∀ {id offer}, (state.offers id).read t = some offer →
      state.database.offers id = some offer := by
    intro id offer seen
    exact (sound.offers.read_unclaimed (at_ ▸ unclaiming.offers _ _)).symm.trans seen
  have issuerSeen : ∀ {id issuer}, (state.issuers id).read t = some issuer →
      state.database.issuers id = some issuer := by
    intro id issuer seen
    exact (sound.issuers.read_unclaimed (at_ ▸ unclaiming.issuers _ _)).symm.trans seen
  cases reads with
  | tokenIssuer | probeCancel | readCancel => trivial
  | offer request issuerId issuer offer now id seen code pending fresh tenant scope => exact code
  | bearer request token now id seen presented live =>
      have stored : state.database.accessTokens id = some token :=
        (sound.accessTokens.read_unclaimed (at_ ▸ unclaiming.tokens _ _)).symm.trans seen
      have key := sound.tokensKeyed id token stored
      exact ⟨presented, live, rfl, .inl (by rw [key]; exact stored)⟩
  | reading bearer offer now seen pending fresh =>
      exact ⟨before, sound.coherent.keyed _ _ (offerSeen seen)⟩
  | type reading validity => exact before
  | proof reading validity issuer assertionKeyId proof seen =>
      exact ⟨before, sound.issuersKeyed _ _ (issuerSeen seen)⟩
  | probe request expiresIn issuer seen tenant => exact ⟨issuer, issuerSeen seen, tenant⟩
  | probeType request expiresIn vct => exact before

theorem facts_own (sound : Sound state) (move : Move config state t action after) :
    Facts after t (after.sessions t) := by
  have taken := move
  have effect := move_effect sound move
  have before := sound.holding t
  cases move with
  | advance action next reads =>
      have facts := facts_advance sound rfl reads
      rw [sessions_goto]
      exact facts
  | refuse action handler next from_ to_ =>
      rw [sessions_rollback]
      cases to_ <;> trivial
  | insertToken redemption tokenHash at_ unlocked absent =>
      rw [at_] at before
      rw [sessions_withToken]
      refine ⟨before, rfl, .inl ?_⟩
      rw [database_withToken]
      exact Function.update_self ..
  | insertNonce redemption token nonceHash at_ fresh absent =>
      rw [at_] at before
      rw [sessions_withNonce]
      exact ⟨before.1, before.2.1, Database.effect_stands effect before.2.2, rfl⟩
  | consumeNonce issuance nonce at_ present live =>
      rw [at_] at before
      rcases sound.nonces _ _ present with ⟨key, _, minted⟩
      rw [sessions_withoutNonce]
      exact ⟨issuance_effect effect before, key, live, List.mem_cons_self,
        move_minted taken minted⟩
  | lockOffer consumption offer at_ minted free seen tenant issuer pending =>
      rw [at_] at before
      have stored : state.database.offers consumption.token.offerId = some offer := by
        refine (sound.offers.read_unclaimed ?_).symm.trans seen
        rw [at_]
        rfl
      have key : offer.id = consumption.token.offerId := sound.coherent.keyed _ _ stored
      have same : (state.offers.update t consumption.token.offerId fun row => row).snapshot =
          state.offers.snapshot := Table.snapshot_update ..
      rw [sessions_goto]
      refine ⟨consumption_move sound taken before, ⟨offer, ?_, pending, rfl⟩, key, issuer, ?_⟩
      · exact (congrFun same _).trans (key ▸ stored)
      · apply move_redeemed taken
        exact redeemed_of_minted sound before minted stored pending _ rfl
  | insertCredential grant sealing at_ free absent =>
      rw [at_] at before
      have same : ({ state with
          credentials := state.credentials.update t sealing.credentialId fun _ =>
            some (grant.draft sealing).row }.goto t
              (.credentialInserted (grant.draft sealing))).database = state.database := by
        simp [State.database, State.goto]
      have unseen : state.database.credentials sealing.credentialId = none := by
        refine (sound.credentials.read_unclaimed ?_).symm.trans absent
        rw [at_]
        rfl
      have signer : grant.issuer.id = grant.issued.issuerId := by
        rw [before.signer, before.owner, before.issuer]
      rw [sessions_goto]
      exact ⟨grant_kept sound taken same before, rfl, signer, by rw [same]; exact unseen⟩
  | setIssued draft at_ free =>
      rw [at_] at before
      have same : ({ state with
          offers := state.offers.update t draft.issued.id
            (Option.map (CredentialOffers.writeIssued draft.issued)) }.goto t
              (.offerIssued draft)).database = state.database := by
        simp [State.database, State.goto]
      rw [sessions_goto]
      exact draft_kept sound taken same before
  | deleteToken draft accessTokens at_ deleted =>
      rw [at_] at before
      have same : ({ state with accessTokens := accessTokens }.goto t
          (.tokenDeleted draft)).database = state.database := by
        simp [State.database, State.goto, AccessTokens.deleteByHash_snapshot deleted]
      rw [sessions_goto]
      exact draft_kept sound taken same before
  | insertOffer request expiresIn vct id code now at_ unheld unlocked absent =>
      rw [sessions_withOffer]
      trivial
  | cancel request moved row now at_ unlocked present pending =>
      rw [sessions_withCancelled]
      trivial
  | lockIssuer request issuer at_ free seen tenant =>
      have stored : state.database.issuers request.issuerId = some issuer := by
        refine (sound.issuers.read_unclaimed ?_).symm.trans seen
        rw [at_]
        rfl
      rw [sessions_goto]
      exact ownIssuer_effect effect ⟨issuer, stored, tenant⟩
  | setState request at_ free =>
      rw [at_] at before
      rw [sessions_goto]
      exact ownIssuer_effect effect before
  | cancelAllPending request at_ free =>
      rw [at_] at before
      rw [sessions_withPendingCancelled]
      exact ownIssuer_effect effect before
  | commit acknowledged next commits =>
      rw [sessions_commit]
      generalize at_ : state.sessions t = from_ at commits before
      cases commits with
      | unacknowledged draft error => trivial
      | deactivation request outcome => trivial
      | issuance draft =>
          have issued : draft.issued.state = .issued := by
            rcases before.offer with ⟨offer, _, _, same⟩
            rw [same]
            rfl
          have written := commitIssuance_database sound (.credentialIssued draft) at_
          refine ⟨consumption_move sound taken before.consumption, ?_, issued, before.key,
            move_redeemed taken before.redeemed⟩
          exact (congrFun (congrArg Database.offers written) _).trans (Function.update_self ..)

theorem move_offerIds (move : Move config state t action after) {id : CredentialOfferId}
    (present : id ∈ state.offerIds) : id ∈ after.offerIds := by
  cases move with
  | insertOffer request expiresIn vct key code now at_ unheld unlocked absent =>
      exact List.mem_cons_of_mem _ present
  | _ => exact present

/-- Where the row of an offer comes from: it had one, or this statement inserts it. -/
theorem offer_origin (sound : Sound state) (move : Move config state t action after)
    {id : CredentialOfferId} {offer : CredentialOffer}
    (stored : after.database.offers id = some offer) :
    (∃ row, state.database.offers id = some row) ∨
      ∃ request expiresIn vct code now, action = .insertOffer id code now ∧
        state.sessions t = .typeProbed request expiresIn vct ∧
        offer = CredentialOffer.new id request.tenantId request.issuerId
          (some request.credentialTypeId) vct request.claims code (now + expiresIn) now ∧
        id ∈ after.offerIds := by
  cases move with
  | insertOffer request expiresIn vct key code now at_ unheld unlocked absent =>
      rw [database_withOffer] at stored
      rcases update_some stored with ⟨rfl, here⟩ | ⟨_, old⟩
      · cases here
        exact .inr ⟨request, expiresIn, vct, code, now, rfl, at_, rfl, List.mem_cons_self⟩
      · exact .inl ⟨offer, old⟩
  | refuse action handler next from_ to_ =>
      rw [database_rollback] at stored
      exact .inl ⟨offer, stored⟩
  | lockOffer consumption row at_ minted free seen tenant issuer pending =>
      have same : (state.offers.update t consumption.token.offerId fun row => row).snapshot =
          state.offers.snapshot := Table.snapshot_update ..
      exact .inl ⟨offer, (congrFun same id).symm.trans stored⟩
  | setIssued draft at_ free =>
      have same : (state.offers.update t draft.issued.id
          (Option.map (CredentialOffers.writeIssued draft.issued))).snapshot =
            state.offers.snapshot := Table.snapshot_update ..
      exact .inl ⟨offer, (congrFun same id).symm.trans stored⟩
  | cancel request moved row now at_ unlocked present pending =>
      rw [database_withCancelled state t request moved now present] at stored
      rcases update_some stored with ⟨rfl, _⟩ | ⟨_, old⟩
      · exact .inl ⟨row, present⟩
      · exact .inl ⟨offer, old⟩
  | cancelAllPending request at_ free =>
      rw [database_withPendingCancelled] at stored
      exact .inl ⟨offer, stored⟩
  | commit acknowledged next commits =>
      refine .inl ?_
      cases at_ : state.sessions t with
      | tokenDeleted draft =>
          have facts := sound.holding t
          rw [at_] at facts
          rcases facts.offer with ⟨row, present, _⟩
          rw [commitIssuance_database sound next at_] at stored
          rcases update_some stored with ⟨rfl, _⟩ | ⟨_, old⟩
          · exact ⟨row, present⟩
          · exact ⟨offer, old⟩
      | offersCancelled request =>
          rcases commitMark_database sound next at_ with ⟨_, _, _, written⟩
          rw [written] at stored
          rcases Database.cancelPending_cases state.database request id with
            ⟨same, _⟩ | ⟨row, present, _⟩
          · exact ⟨offer, same.symm.trans stored⟩
          · exact ⟨row, present⟩
      | _ =>
          rw [at_] at commits
          cases commits
  | _ => exact .inl ⟨offer, stored⟩

theorem listed_move (sound : Sound state) (move : Move config state t action after)
    {id : CredentialOfferId} {offer : CredentialOffer}
    (stored : after.database.offers id = some offer) : id ∈ after.offerIds := by
  rcases offer_origin sound move stored with ⟨row, old⟩ | ⟨_, _, _, _, _, _, _, _, listed⟩
  · exact move_offerIds move (sound.listed id row old)
  · exact listed

theorem nonces_move (sound : Sound state) (move : Move config state t action after) :
    ∀ hash nonce, after.nonces hash = some nonce →
      nonce.nonceHash = hash ∧ hash ∈ after.drawnNonces ∧ Minted after.sessions nonce := by
  have before : ∀ hash nonce, state.nonces hash = some nonce →
      nonce.nonceHash = hash ∧ hash ∈ state.drawnNonces ∧ Minted after.sessions nonce := by
    intro hash nonce present
    rcases sound.nonces hash nonce present with ⟨key, drawn, minted⟩
    exact ⟨key, drawn, move_minted move minted⟩
  cases move with
  | insertNonce redemption token nonceHash at_ fresh absent =>
      intro hash nonce present
      rcases update_some present with ⟨rfl, here⟩ | ⟨_, old⟩
      · cases here
        exact ⟨rfl, List.mem_cons_self, t, redemption, token, sessions_withNonce ..⟩
      · rcases before hash nonce old with ⟨key, drawn, minted⟩
        exact ⟨key, List.mem_cons_of_mem _ drawn, minted⟩
  | consumeNonce issuance consumed at_ there live =>
      intro hash nonce present
      rcases update_some present with ⟨rfl, here⟩ | ⟨_, old⟩
      · cases here
      · exact before hash nonce old
  | _ => exact before

theorem accepted_move (sound : Sound state) (move : Move config state t action after) :
    ∀ q nonce, (q, nonce) ∈ after.accepted →
      nonce.nonceHash ∈ after.drawnNonces ∧ after.nonces nonce.nonceHash = none := by
  have before := sound.accepted
  cases move with
  | insertNonce redemption token nonceHash at_ fresh absent =>
      intro q nonce present
      rcases before q nonce present with ⟨drawn, gone⟩
      have different : nonce.nonceHash ≠ nonceHash := by
        rintro rfl
        exact fresh drawn
      exact ⟨List.mem_cons_of_mem _ drawn, (Function.update_of_ne different ..).trans gone⟩
  | consumeNonce issuance consumed at_ there live =>
      rcases sound.nonces _ _ there with ⟨key, drawn, _⟩
      intro q nonce present
      rcases List.mem_cons.mp present with new | old
      · cases new
        exact ⟨key ▸ drawn, by rw [key]; exact Function.update_self ..⟩
      · rcases before q nonce old with ⟨drawn, gone⟩
        refine ⟨drawn, ?_⟩
        by_cases same : nonce.nonceHash = issuance.proof.nonce
        · rw [same]
          exact Function.update_self ..
        · exact (Function.update_of_ne same ..).trans gone
  | _ => exact before

/-- A consumed nonce is gone, and its value is never drawn again. -/
theorem acceptedOnce_move (sound : Sound state) (move : Move config state t action after) :
    ∀ q nonce other rival, (q, nonce) ∈ after.accepted → (other, rival) ∈ after.accepted →
      nonce.nonceHash = rival.nonceHash → other = q := by
  have before := sound.acceptedOnce
  cases move with
  | consumeNonce issuance consumed at_ there live =>
      have key := (sound.nonces _ _ there).1
      have unused : ∀ q nonce, (q, nonce) ∈ state.accepted →
          nonce.nonceHash ≠ consumed.nonceHash := by
        intro q nonce present same
        have gone := (sound.accepted q nonce present).2
        rw [same, key, there] at gone
        cases gone
      intro q nonce other rival present presentRival same
      rcases List.mem_cons.mp present with new | old
      · cases new
        rcases List.mem_cons.mp presentRival with newRival | oldRival
        · cases newRival
          rfl
        · exact absurd same.symm (unused other rival oldRival)
      · rcases List.mem_cons.mp presentRival with newRival | oldRival
        · cases newRival
          exact absurd same (unused q nonce old)
        · exact before q nonce other rival old oldRival same
  | _ => exact before

theorem sound_move (sound : Sound state) (move : Move config state t action after) :
    Sound after := by
  have effect := move_effect sound move
  refine ⟨issuers_move sound move, offers_move sound move, tokens_move sound move,
    credentials_move sound move, Database.effect_coherent sound.coherent effect,
    Database.effect_issuersKeyed effect sound.issuersKeyed,
    Database.effect_tokensKeyed effect sound.tokensKeyed, fun _ _ => listed_move sound move,
    nonces_move sound move, accepted_move sound move, acceptedOnce_move sound move, ?_⟩
  intro q
  by_cases own : q = t
  · subst own
    exact facts_own sound move
  · exact facts_other sound move own

end Move

theorem sound_step {config : Config} {state after : State} {event : Event} (sound : Sound state)
    (taken : state.step config event = some after) : Sound after :=
  sound_move sound (step_move taken)

theorem sound_run {config : Config} {first last : State} {trace : List Event}
    (initial : first.Initial) (run : Run (Steps (State.step config)) first trace last) :
    Sound last :=
  run.invariant Sound (fun _ _ _ sound taken => sound_step sound taken) (sound_initial initial)

theorem step_effect {config : Config} {state after : State} {event : Event} (sound : Sound state)
    (taken : state.step config event = some after) : state.database.Effect after.database :=
  move_effect sound (step_move taken)

end SwiyuIssuer.Oidc
