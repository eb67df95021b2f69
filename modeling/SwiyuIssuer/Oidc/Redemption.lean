import SwiyuIssuer.Oidc.Lifecycle

/-! Who gets a credential, and how often a pre-authorised code is redeemed. -/

namespace SwiyuIssuer.Oidc

open Library Persistence StatusStore

namespace Session

/-- The offer for which a `/token` request has an access token in the database. -/
def minted : Session → Option CredentialOfferId
  | tokenInserted redemption _ | tokenIssued redemption _ _ => some redemption.offer.id
  | _ => none

/-- The offer for which a `/token` request has answered with an access token. -/
def redeemed : Session → Option CredentialOfferId
  | tokenIssued redemption _ _ => some redemption.offer.id
  | _ => none

/-- The offer for which a `/credential` request has answered with a credential. -/
def delivered : Session → Option CredentialOfferId
  | credentialIssued draft => some draft.issued.id
  | _ => none

theorem minted_of_redeemed {session : Session} {id : CredentialOfferId}
    (answered : session.redeemed = some id) : session.minted = some id := by
  cases session <;> first | exact answered | cases answered

theorem delivered_some {session : Session} {id : CredentialOfferId}
    (answered : session.delivered = some id) :
    ∃ draft, session = .credentialIssued draft ∧ draft.issued.id = id := by
  cases session with
  | credentialIssued draft => exact ⟨draft, rfl, Option.some.inj answered⟩
  | _ => cases answered

end Session

variable {config : Config} {state after first last : State} {trace : List Event}

theorem delivered_origin {t : TxId} {action : Action} (move : Move config state t action after)
    {q : TxId} {draft : Draft} (answered : after.sessions q = .credentialIssued draft) :
    state.sessions q = .credentialIssued draft ∨
      q = t ∧ state.sessions t = .tokenDeleted draft := by
  by_cases own : q = t
  · subst own
    refine .inr ⟨rfl, ?_⟩
    cases move with
    | advance action next reads =>
        rw [sessions_goto] at answered
        subst answered
        generalize state.sessions q = from_ at reads
        cases reads
    | refuse action handler next from_ to_ =>
        rw [sessions_rollback] at answered
        subst answered
        cases to_
    | commit acknowledged next commits =>
        rw [sessions_commit] at answered
        subst answered
        generalize state.sessions q = from_ at commits ⊢
        cases commits
        rfl
    | _ => simp at answered
  · exact .inl ((move_others move own).symm.trans answered)

def DeliveredOnce (state : State) : Prop :=
  ∀ q other id, (state.sessions q).delivered = some id →
    (state.sessions other).delivered = some id → other = q

theorem deliveredOnce_step {event : Event} (sound : Sound state) (once : DeliveredOnce state)
    (taken : state.step config event = some after) : DeliveredOnce after := by
  have move := step_move taken
  -- the offer of the draft that is being committed is pending: nobody has delivered it yet
  have fresh : ∀ draft rival q, state.sessions event.t = .tokenDeleted draft →
      state.sessions q = .credentialIssued rival → rival.issued.id ≠ draft.issued.id := by
    intro draft rival q at_ answered same
    have facts := sound.holding event.t
    rw [at_] at facts
    have done := sound.holding q
    rw [answered] at done
    rcases facts.offer with ⟨offer, stored, pending, _⟩
    have issued := done.offer
    rw [same, stored] at issued
    cases issued
    have state_ := done.issued
    rw [pending] at state_
    cases state_
  intro q other id answered rival
  rcases Session.delivered_some answered with ⟨draft, at_, rfl⟩
  rcases Session.delivered_some rival with ⟨draft', at_', same⟩
  rcases delivered_origin move at_ with old | ⟨rfl, now⟩
  · rcases delivered_origin move at_' with old' | ⟨rfl, now'⟩
    · exact once q other draft.issued.id (by rw [old]; rfl) (by rw [old', ← same]; rfl)
    · exact absurd same.symm (fresh draft' draft q now' old)
  · rcases delivered_origin move at_' with old' | ⟨rfl, _⟩
    · exact absurd same (fresh draft draft' other now old')
    · rfl

theorem deliveredOnce_run (initial : first.Initial)
    (run : Run (Steps (State.step config)) first trace last) : DeliveredOnce last := by
  have start : DeliveredOnce first := by
    intro q other id answered
    rw [initial.sessions q] at answered
    cases answered
  exact (run.invariant_under Sound DeliveredOnce (fun _ _ _ sound taken => sound_step sound taken)
    (fun _ _ _ sound once taken => deliveredOnce_step sound once taken) (sound_initial initial)
    start).2

/-- Who has presented what, once a `/credential` request has returned a credential: the access
token of the offer, which a `/token` request with the code of the offer returned, and the nonce
that it returned with it, both unexpired; that nonce serves no other request, and the offer no
other delivery. -/
theorem credentials_go_to_the_redeemer (config : Config) {first last : State}
    {trace : List Event} (initial : first.Initial)
    (run : Run (Steps (State.step config)) first trace last) {r : TxId} {draft : Draft}
    (returned : last.sessions r = .credentialIssued draft) :
    (draft.request.bearer = .ok draft.token.tokenHash ∧ draft.token.offerId = draft.issued.id ∧
      draft.checkedAt < draft.token.expiresAt) ∧
    (draft.proof.nonce = draft.nonce.nonceHash ∧ draft.nonce.offerId = draft.issued.id ∧
      draft.now < draft.nonce.expiresAt) ∧
    (∃ q redemption, last.sessions q = .tokenIssued redemption draft.token draft.nonce ∧
      redemption.offer.id = draft.issued.id ∧
      redemption.offer.preAuthCode = some redemption.request.preAuthorizedCode) ∧
    ((r, draft.nonce) ∈ last.accepted ∧ ∀ t nonce, (t, nonce) ∈ last.accepted →
      nonce.nonceHash = draft.proof.nonce → t = r) ∧
    ∀ other rival, last.sessions other = .credentialIssued rival →
      rival.issued.id = draft.issued.id → other = r := by
  have sound := sound_run initial run
  have facts := sound.holding r
  rw [returned] at facts
  rcases facts.redeemed with ⟨q, redemption, at_⟩
  have minting := sound.holding q
  rw [at_] at minting
  rcases minting with ⟨presents, ofToken, _, ofNonce⟩
  have offerOf : redemption.offer.id = draft.issued.id := by
    rw [← ofToken, facts.key]
  refine ⟨⟨facts.presented, facts.key.symm, facts.live⟩,
    ⟨facts.hash.symm, ofNonce.trans offerOf, facts.unexpired⟩,
    ⟨q, redemption, at_, offerOf, presents⟩, ⟨facts.accepted, ?_⟩, ?_⟩
  · intro t nonce accepted same
    exact sound.acceptedOnce r draft.nonce t nonce facts.accepted accepted
      (facts.hash.trans same.symm)
  · intro other rival at_' same
    exact deliveredOnce_run initial run r other draft.issued.id (by rw [returned]; rfl)
      (by rw [at_', ← same]; rfl)

theorem credentials_go_to_the_redeemer_sample : ∃ last draft,
    Run (Steps (State.step sampleConfig)) sampleStart sampleDelivery last ∧
    last.sessions 2 = .credentialIssued draft ∧
    ∃ q redemption, last.sessions q = .tokenIssued redemption draft.token draft.nonce ∧
      redemption.offer.id = sampleOffer := by
  have computed : (exec (State.step sampleConfig) sampleStart sampleDelivery).map
      (fun state => (state.sessions 2).delivered) = some (some sampleOffer) := by decide
  rcases Option.map_eq_some_iff.mp computed with ⟨last, reached, answered⟩
  rcases Session.delivered_some answered with ⟨draft, returned, same⟩
  have run := Run.of_exec reached
  rcases (credentials_go_to_the_redeemer sampleConfig sampleStart_initial run returned).2.2.1 with
    ⟨q, redemption, at_, offerOf, _⟩
  exact ⟨last, draft, run, returned, q, redemption, at_, offerOf.trans same⟩

/-- Not an access-token `INSERT` for an offer that has been issued meanwhile. -/
def timely (state : State) (event : Event) : Bool :=
  match event.action, state.sessions event.t with
  | .insertAccessToken _, .offerFound redemption =>
      state.database.storedState redemption.offer.id != some .issued
  | _, _ => true

def MintedOnce (state : State) : Prop :=
  ∀ q other id, (state.sessions q).minted = some id →
    (state.sessions other).minted = some id → other = q

theorem minted_stands (sound : Sound state) {q : TxId} {id : CredentialOfferId}
    (minted : (state.sessions q).minted = some id) :
    state.database.accessTokens id ≠ none ∨ state.database.storedState id = some .issued := by
  have facts := sound.holding q
  have standing : ∀ token : AccessToken, token.offerId = id → state.database.Stands token →
      state.database.accessTokens id ≠ none ∨ state.database.storedState id = some .issued := by
    rintro token rfl (held | ⟨offer, stored, issued⟩)
    · exact .inl (by rw [held]; exact Option.some_ne_none _)
    · exact .inr (by rw [Database.storedState, stored, Option.map_some, issued])
  cases at_ : state.sessions q with
  | tokenInserted redemption token =>
      rw [at_] at facts minted
      exact standing token (facts.2.1.trans (Option.some.inj minted)) facts.2.2
  | tokenIssued redemption token nonce =>
      rw [at_] at facts minted
      exact standing token (facts.2.1.trans (Option.some.inj minted)) facts.2.2.1
  | _ =>
      rw [at_] at minted
      cases minted

theorem minted_origin {t : TxId} {action : Action} (move : Move config state t action after)
    {q : TxId} {id : CredentialOfferId} (minted : (after.sessions q).minted = some id) :
    (state.sessions q).minted = some id ∨
      q = t ∧ ∃ redemption tokenHash, action = .insertAccessToken tokenHash ∧
        state.sessions t = .offerFound redemption ∧ redemption.offer.id = id ∧
        state.database.accessTokens id = none := by
  by_cases own : q = t
  · subst own
    cases move with
    | advance action next reads =>
        rw [sessions_goto] at minted
        generalize state.sessions q = from_ at reads
        cases reads <;> cases minted
    | refuse action handler next from_ to_ =>
        rw [sessions_rollback] at minted
        cases to_ <;> cases minted
    | commit acknowledged next commits =>
        rw [sessions_commit] at minted
        generalize state.sessions q = from_ at commits
        cases commits <;> cases minted
    | insertToken redemption tokenHash at_ unlocked absent =>
        rw [sessions_withToken] at minted
        cases minted
        exact .inr ⟨rfl, redemption, tokenHash, rfl, at_, rfl, absent⟩
    | insertNonce redemption token nonceHash at_ fresh absent =>
        rw [sessions_withNonce] at minted
        exact .inl (by rw [at_]; exact minted)
    | _ => simp [Session.minted] at minted
  · rw [move_others move own] at minted
    exact .inl minted

theorem mintedOnce_step {event : Event} (sound : Sound state) (once : MintedOnce state)
    (onTime : timely state event = true) (taken : state.step config event = some after) :
    MintedOnce after := by
  have move := step_move taken
  -- a second `INSERT` would need the first row gone, and then the offer has been issued
  have refused : ∀ redemption tokenHash q, event.action = .insertAccessToken tokenHash →
      state.sessions event.t = .offerFound redemption →
      state.database.accessTokens redemption.offer.id = none →
      (state.sessions q).minted ≠ some redemption.offer.id := by
    intro redemption tokenHash q inserts at_ absent minted
    simp only [timely, inserts, at_, bne_iff_ne] at onTime
    rcases minted_stands sound minted with held | issued
    · exact held absent
    · exact onTime issued
  intro q other id minted rival
  rcases minted_origin move minted with old | ⟨rfl, redemption, tokenHash, inserts, at_, rfl, absent⟩
  · rcases minted_origin move rival with old' | ⟨rfl, redemption, tokenHash, inserts, at_, rfl, absent⟩
    · exact once q other id old old'
    · exact absurd old (refused redemption tokenHash q inserts at_ absent)
  · rcases minted_origin move rival with old' | ⟨rfl, _⟩
    · exact absurd old' (refused redemption tokenHash other inserts at_ absent)
    · rfl

/-- In every run without a late access-token `INSERT`, at most one `/token` request answers with
an access token for an offer. -/
theorem codes_are_redeemed_once (config : Config) {first last : State} {trace : List Event}
    (initial : first.Initial)
    (run : Run (Guarded (fun state event => timely state event = true)
      (Steps (State.step config))) first trace last) {q other : TxId} {id : CredentialOfferId}
    (answered : (last.sessions q).redeemed = some id)
    (again : (last.sessions other).redeemed = some id) : other = q := by
  have start : MintedOnce first := by
    intro q other id minted
    rw [initial.sessions q] at minted
    cases minted
  have once := (run.invariant_under Sound MintedOnce
    (fun _ _ _ sound taken => sound_step sound taken.2)
    (fun _ _ _ sound once taken => mintedOnce_step sound once taken.1 taken.2)
    (sound_initial initial) start).2
  exact once q other id (Session.minted_of_redeemed answered) (Session.minted_of_redeemed again)

theorem codes_are_redeemed_once_sample : ∃ last,
    Run (Guarded (fun state event => timely state event = true)
      (Steps (State.step sampleConfig))) sampleStart sampleDelivery last ∧
    (last.sessions 1).redeemed = some sampleOffer ∧
    ∀ other, (last.sessions other).redeemed = some sampleOffer → other = 1 := by
  have computed : (exec (checked timely (State.step sampleConfig)) sampleStart
      sampleDelivery).map (fun state => (state.sessions 1).redeemed) =
        some (some sampleOffer) := by decide
  rcases Option.map_eq_some_iff.mp computed with ⟨last, reached, answered⟩
  have run := Run.of_checked reached
  exact ⟨last, run, answered, fun other again =>
    codes_are_redeemed_once sampleConfig sampleStart_initial run answered again⟩

/-- The third request reads the offer while it is pending and inserts its token after the issuing
transaction has deleted the first one. -/
theorem code_redeemed_twice : ∃ last,
    Run (Steps (State.step sampleConfig)) sampleStart
      (sampleCreation 0 ++ sampleRedemption 1 ⟨"t"⟩ ⟨"n"⟩ ++ samplePresentation 2 ⟨"t"⟩ ⟨"n"⟩ ++
        sampleLookup 3 ++ sampleIssuing 2 ⟨"6Cr"⟩ ++
        [⟨3, .insertAccessToken ⟨"t3"⟩⟩, ⟨3, .insertNonce ⟨"n3"⟩⟩]) last ∧
    (last.sessions 1).redeemed = some sampleOffer ∧
    (last.sessions 3).redeemed = some sampleOffer := by
  have computed : (exec (State.step sampleConfig) sampleStart
      (sampleCreation 0 ++ sampleRedemption 1 ⟨"t"⟩ ⟨"n"⟩ ++ samplePresentation 2 ⟨"t"⟩ ⟨"n"⟩ ++
        sampleLookup 3 ++ sampleIssuing 2 ⟨"6Cr"⟩ ++
        [⟨3, .insertAccessToken ⟨"t3"⟩⟩, ⟨3, .insertNonce ⟨"n3"⟩⟩])).map
      (fun state => ((state.sessions 1).redeemed, (state.sessions 3).redeemed)) =
        some (some sampleOffer, some sampleOffer) := by decide
  rcases Option.map_eq_some_iff.mp computed with ⟨last, reached, answers⟩
  have both := Prod.mk.inj answers
  exact ⟨last, Run.of_exec reached, both.1, both.2⟩

end SwiyuIssuer.Oidc
