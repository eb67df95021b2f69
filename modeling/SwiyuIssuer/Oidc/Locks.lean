import SwiyuIssuer.Oidc.Facts

/-! Every statement keeps the row locks to what the sessions claim. -/

namespace SwiyuIssuer.Oidc

open Library Persistence StatusStore

section Move

variable {config : Config} {state after : State} {t : TxId} {action : Action} {next : Session}

theorem advance_unclaiming {from_ : Session} (reads : Advance state t from_ next) :
    from_.Unclaiming ∧ next.Unclaiming := by
  cases reads <;> exact ⟨⟨fun _ _ => rfl, fun _ _ => rfl, fun _ _ => rfl, fun _ _ => rfl⟩,
    ⟨fun _ _ => rfl, fun _ _ => rfl, fun _ _ => rfl, fun _ _ => rfl⟩⟩

theorem refusal_unclaiming {handler : Handler} (refusal : Refusal handler next) :
    next.Unclaiming := by
  cases refusal <;> exact ⟨fun _ _ => rfl, fun _ _ => rfl, fun _ _ => rfl, fun _ _ => rfl⟩

theorem commits_unclaiming {from_ : Session} (commits : Commits from_ next) :
    next.Unclaiming := by
  cases commits <;> exact ⟨fun _ _ => rfl, fun _ _ => rfl, fun _ _ => rfl, fun _ _ => rfl⟩

/-! The steps that every table takes alike: statements that only read, refusals and commits. -/

section Table

variable {κ α : Type} {table : Table TxId κ α} {claim : Session → κ → α → Option α}

theorem held_advance (held : Held table state.sessions claim)
    (dropped : ∀ {session : Session}, session.Unclaiming → ∀ id committed,
      claim session id committed = none)
    (reads : Advance state t (state.sessions t) next) :
    Held table (state.goto t next).sessions claim := by
  have unclaiming := advance_unclaiming reads
  apply held.goto
  intro id committed
  rw [dropped unclaiming.1, dropped unclaiming.2]

theorem held_refuse {handler : Handler} (held : Held table state.sessions claim)
    (dropped : ∀ {session : Session}, session.Unclaiming → ∀ id committed,
      claim session id committed = none)
    (refusal : Refusal handler next) :
    Held (table.rollback t) (state.rollback t next).sessions claim :=
  held.rollback (dropped (refusal_unclaiming refusal))

/-- The commit of a table whose claims do not depend on the committed rows. -/
theorem held_commit (held : Held table state.sessions claim)
    (dropped : ∀ {session : Session}, session.Unclaiming → ∀ id committed,
      claim session id committed = none)
    (independent : ∀ {session : Session} {id : κ} {committed : α},
      claim session id committed = none → ∀ other, claim session id other = none)
    (commits : Commits (state.sessions t) next) :
    Held (table.commit t) (state.commit t next).sessions claim := by
  apply held.commit (dropped (commits_unclaiming commits))
  intro other id version _ _ unclaimed
  exact independent unclaimed version

end Table

theorem issuers_move (sound : Sound state) (move : Move config state t action after) :
    Held after.issuers after.sessions Session.issuerClaim := by
  have held := sound.issuers
  cases move with
  | advance action next reads => exact held_advance held Session.Unclaiming.issuers reads
  | refuse action handler next from_ to_ => exact held_refuse held Session.Unclaiming.issuers to_
  | insertToken _ _ at_ | insertNonce _ _ _ at_ | consumeNonce _ _ at_ | lockOffer _ _ at_
  | insertCredential _ _ at_ | setIssued _ at_ | deleteToken _ _ at_ | insertOffer _ _ _ _ _ _ at_
  | cancel _ _ _ _ at_ | cancelAllPending _ at_ => exact held.goto_from at_ fun _ _ => rfl
  | lockIssuer request issuer at_ free seen tenant =>
      apply held.update free
      · have unclaimed : ((state.sessions t).issuerClaim request.issuerId
            (state.issuers request.issuerId).committed) = none := by
          rw [at_]
          rfl
        rw [held.read_unclaimed unclaimed]
        exact if_pos rfl
      · intro other committed different
        rw [at_]
        exact if_neg different
  | setState request at_ free =>
      apply held.update free
      · have claimed : ((state.sessions t).issuerClaim request.issuerId
            (state.issuers request.issuerId).committed) =
              some (state.issuers request.issuerId).committed := by
          rw [at_]
          exact if_pos rfl
        rw [held.read_claimed claimed]
        exact if_pos rfl
      · intro other committed different
        rw [at_]
        exact (if_neg different).trans (if_neg different).symm
  | commit acknowledged next commits =>
      exact held_commit held Session.Unclaiming.issuers Session.issuerClaim_none commits

theorem credentials_move (sound : Sound state) (move : Move config state t action after) :
    Held after.credentials after.sessions Session.credentialClaim := by
  have held := sound.credentials
  cases move with
  | advance action next reads => exact held_advance held Session.Unclaiming.credentials reads
  | refuse action handler next from_ to_ =>
      exact held_refuse held Session.Unclaiming.credentials to_
  | insertToken _ _ at_ | insertNonce _ _ _ at_ | consumeNonce _ _ at_ | lockOffer _ _ at_
  | setIssued _ at_ | deleteToken _ _ at_ | insertOffer _ _ _ _ _ _ at_ | cancel _ _ _ _ at_
  | lockIssuer _ _ at_ | setState _ at_ | cancelAllPending _ at_ =>
      exact held.goto_from at_ fun _ _ => rfl
  | insertCredential grant sealing at_ free absent =>
      apply held.update free
      · exact if_pos rfl
      · intro other committed different
        rw [at_]
        exact if_neg different
  | commit acknowledged next commits =>
      exact held_commit held Session.Unclaiming.credentials Session.credentialClaim_none commits

/-- The token row of a draft is there to delete: the offer is pending, so it has not been issued. -/
theorem grant_token {grant : Grant} (checked : grant.Checked state t) :
    state.database.accessTokens grant.token.offerId = some grant.token := by
  rcases checked.stands with held | ⟨issued, stored, state_⟩
  · exact held
  · rcases checked.offer with ⟨offer, present, pending, _⟩
    rw [checked.key, stored] at present
    cases present
    rw [state_] at pending
    cases pending

theorem tokens_move (sound : Sound state) (move : Move config state t action after) :
    Held after.accessTokens after.sessions Session.tokenClaim := by
  have held := sound.accessTokens
  cases move with
  | advance action next reads => exact held_advance held Session.Unclaiming.tokens reads
  | refuse action handler next from_ to_ => exact held_refuse held Session.Unclaiming.tokens to_
  | insertNonce _ _ _ at_ | consumeNonce _ _ at_ | lockOffer _ _ at_ | insertCredential _ _ at_
  | setIssued _ at_ | insertOffer _ _ _ _ _ _ at_ | cancel _ _ _ _ at_ | lockIssuer _ _ at_
  | setState _ at_ | cancelAllPending _ at_ => exact held.goto_from at_ fun _ _ => rfl
  | insertToken redemption tokenHash at_ unlocked absent =>
      apply held.autocommit unlocked
      · intro id committed
        rw [at_]
        rfl
      · intro other
        exact Session.tokenClaim_none (held.unclaimed unlocked other) _
  | deleteToken draft accessTokens at_ deleted =>
      have facts := sound.holding t
      rw [at_] at facts
      have unclaimed : (state.sessions t).tokenClaim draft.token.offerId
          (state.accessTokens draft.token.offerId).committed = none := by
        rw [at_]
        rfl
      have seen : (state.accessTokens draft.token.offerId).read t = some draft.token :=
        (held.read_unclaimed unclaimed).trans (grant_token facts.grant)
      rcases AccessTokens.deleteByHash_own seen deleted with ⟨free, rfl⟩
      apply held.update free
      · exact if_pos rfl
      · intro other committed different
        rw [at_]
        exact if_neg different
  | commit acknowledged next commits =>
      exact held_commit held Session.Unclaiming.tokens Session.tokenClaim_none commits

section Offers

theorem lockOffer_held (sound : Sound state) {consumption : Consumption} {offer : CredentialOffer}
    (at_ : state.sessions t = .nonceConsumed consumption)
    (free : (state.offers consumption.token.offerId).free t = true)
    (seen : (state.offers consumption.token.offerId).read t = some offer) :
    Held (state.offers.update t consumption.token.offerId fun row => row)
      (Function.update state.sessions t
        (.offerLocked { consumption with issued := offer.asIssued consumption.now }))
      Session.offerClaim := by
  have unclaimed : (state.sessions t).offerClaim consumption.token.offerId
      (state.offers consumption.token.offerId).committed = none := by
    rw [at_]
    rfl
  have committed := sound.offers.read_unclaimed unclaimed
  have key : offer.id = consumption.token.offerId :=
    sound.coherent.keyed _ _ (committed.symm.trans seen)
  apply sound.offers.update free
  · rw [committed]
    exact if_pos key.symm
  · intro other committed different
    rw [at_]
    exact if_neg (key ▸ different)

theorem setIssued_held (sound : Sound state) {draft : Draft}
    (at_ : state.sessions t = .credentialInserted draft)
    (free : (state.offers draft.issued.id).free t = true) :
    Held (state.offers.update t draft.issued.id
        (Option.map (CredentialOffers.writeIssued draft.issued)))
      (Function.update state.sessions t (.offerIssued draft)) Session.offerClaim := by
  have claimed : (state.sessions t).offerClaim draft.issued.id
      (state.offers draft.issued.id).committed =
        some (state.offers draft.issued.id).committed := by
    rw [at_]
    exact if_pos rfl
  apply sound.offers.update free
  · rw [sound.offers.read_claimed claimed]
    exact if_pos rfl
  · intro other committed different
    rw [at_]
    exact (if_neg different).trans (if_neg different).symm

/-- The foreign key: who cancels all offers of an issuer holds the row of the issuer. -/
theorem uncancelled (sound : Sound state) {issuerId : IssuerId}
    (unheld : (state.issuers issuerId).writer = none) {other : TxId} {request : MarkRequest}
    (marking : state.sessions other = .offersCancelled request) : issuerId ≠ request.issuerId := by
  rintro rfl
  have claims : (state.sessions other).issuerClaim request.issuerId
      (state.issuers request.issuerId).committed =
        some ((state.issuers request.issuerId).committed.map
          fun row => { row with state := some .deactivated }) := by
    rw [marking]
    exact if_pos rfl
  have locked := (sound.issuers request.issuerId other _).mpr claims
  rw [unheld] at locked
  cases locked

theorem cancelAllPending_held (sound : Sound state) {request : MarkRequest}
    (at_ : state.sessions t = .issuerMarked request)
    (free : ∀ id ∈ state.offerIds, CredentialOffers.isPending request.tenantId request.issuerId
      ((state.offers id).read t) = true → (state.offers id).free t = true) :
    Held (state.withPendingCancelled t request).offers
      (state.withPendingCancelled t request).sessions Session.offerClaim := by
  have unclaimed : ∀ id committed, (state.sessions t).offerClaim id committed = none := by
    intro id committed
    rw [at_]
    rfl
  apply sound.offers.rewrite
  intro id
  have committed := sound.offers.read_unclaimed (unclaimed id _)
  by_cases pending : CredentialOffers.isPending request.tenantId request.issuerId
      ((state.offers id).read t) = true
  · refine .inr ⟨_, ?_, if_pos pending, ?_⟩
    · cases found : (state.offers id).committed with
      | none =>
          rw [committed, found] at pending
          cases pending
      | some offer => exact free id (sound.listed id offer found) pending
    · rw [committed] at pending ⊢
      exact if_pos pending
  · refine .inl ⟨if_neg pending, ?_⟩
    rw [unclaimed]
    rw [committed] at pending
    exact if_neg pending

/-- What a commit installs is issued or cancelled. -/
theorem installed_settled (sound : Sound state) (commits : Commits (state.sessions t) next)
    {id : CredentialOfferId} {committed : Option CredentialOffer} {offer : CredentialOffer}
    (claims : (state.sessions t).offerClaim id committed = some (some offer)) :
    offer.state ≠ .pending := by
  have facts := sound.holding t
  cases at_ : state.sessions t with
  | tokenDeleted draft =>
      rw [at_] at facts claims
      rcases facts.offer with ⟨row, _, _, same⟩
      rcases Option.ite_none_right_eq_some.mp claims with ⟨_, written⟩
      rcases Option.map_eq_some_iff.mp (Option.some.inj written) with ⟨before, _, rfl⟩
      rw [CredentialOffers.writeIssued, same]
      exact fun absurd_ => by cases absurd_
  | offersCancelled request =>
      rw [at_] at claims
      rcases Option.ite_none_right_eq_some.mp claims with ⟨_, written⟩
      rcases Option.map_eq_some_iff.mp (Option.some.inj written) with ⟨before, _, rfl⟩
      exact fun absurd_ => by cases absurd_
  | _ =>
      rw [at_] at commits
      cases commits

theorem offers_move (sound : Sound state) (move : Move config state t action after) :
    Held after.offers after.sessions Session.offerClaim := by
  have held := sound.offers
  cases move with
  | advance action next reads => exact held_advance held Session.Unclaiming.offers reads
  | refuse action handler next from_ to_ => exact held_refuse held Session.Unclaiming.offers to_
  | insertToken _ _ at_ | insertNonce _ _ _ at_ | consumeNonce _ _ at_ | insertCredential _ _ at_
  | deleteToken _ _ at_ | lockIssuer _ _ at_ | setState _ at_ =>
      exact held.goto_from at_ fun _ _ => rfl
  | lockOffer consumption offer at_ minted free seen tenant issuer pending =>
      exact lockOffer_held sound at_ free seen
  | setIssued draft at_ free => exact setIssued_held sound at_ free
  | insertOffer request expiresIn vct id code now at_ unheld unlocked absent =>
      apply held.autocommit unlocked
      · intro other committed
        rw [at_]
        rfl
      · intro other
        apply Session.offerClaim_none (held.unclaimed unlocked other)
        intro marked marking
        by_contra pending
        rw [Bool.not_eq_false] at pending
        exact uncancelled sound unheld marking (CredentialOffers.isPending_some.mp pending).1.2
  | cancel request moved row now at_ unlocked present pending =>
      apply held.autocommit unlocked
      · intro other committed
        rw [at_]
        rfl
      · intro other
        apply Session.offerClaim_none (held.unclaimed unlocked other)
        intro marked _
        apply CredentialOffers.isPending_settled
        intro offer cancelled
        rw [present] at cancelled
        cases cancelled
        exact fun absurd_ => by cases absurd_
  | cancelAllPending request at_ free => exact cancelAllPending_held sound at_ free
  | commit acknowledged next commits =>
      apply held.commit (commits_unclaiming commits).offers
      intro other id version _ claims unclaimed
      apply Session.offerClaim_none unclaimed
      intro request _
      apply CredentialOffers.isPending_settled
      rintro offer rfl
      exact installed_settled sound commits claims

end Offers

end Move

end SwiyuIssuer.Oidc
