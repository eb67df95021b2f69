import SwiyuIssuer.Signing.Site

/-! What the two signers make of the issuer row that they read. -/

namespace SwiyuIssuer.Signing

open Library Persistence Saga StatusStore

/-- What a request of the credential endpoint carries from the issuer row to the credential. -/
def SessionSigns (did : String) (key : KeyPairId) : Session → Prop
  | .issuerRead _ issuer k | .offerLocked _ issuer k | .listResolved _ issuer k _ _
  | .slotAllocated _ issuer k _ _ _ => issuer.did = did ∧ k = key
  | .inserted jwt _ | .issued (.ok jwt) =>
      jwt.header.kid = assertionKid did ∧ jwt.signedBy = key
  | _ => True

/-- A token under an entry of one of the issuer's lists is signed with the key. -/
def TokenSigned (id : IssuerId) (did : String) (key : KeyPairId) (state : State)
    (entryId : String) (token : StatusListToken) : Prop :=
  ∀ listId row, state.store.committedLists listId = some row → row.issuerId = id →
    row.registryEntryId = some entryId →
    token.header.kid = assertionKid did ∧ token.signedBy = key

/-- The list of a round belongs to the issuer that its row belongs to. -/
def Belongs (state : State) (list : StatusList) : Prop :=
  ∃ row, state.store.committedLists list.id = some row ∧ row.issuerId = list.issuerId ∧
    row.registryEntryId = list.registryEntryId

def RoundSigns (id : IssuerId) (did : String) (key : KeyPairId) (state : State) : Round → Prop
  | .acquired list => Belongs state list
  | .loaded list issuer => Belongs state list ∧
      (list.issuerId = id → issuer.did = did ∧ issuer.assertionKeyId = some key)
  | .signed _ entryId _ token _ | .sent _ entryId _ token _ _ =>
      TokenSigned id did key state entryId token
  | _ => True

structure Signers (id : IssuerId) (did : String) (key : KeyPairId) (state : State)
    (asked : TxId → Option IssuerId) : Prop where
  sessions : ∀ t, asked t = some id → SessionSigns did key (state.store.sessions t)
  rounds : ∀ p, RoundSigns id did key state (state.publishers p)
  inFlight : ∀ put ∈ state.inFlight, TokenSigned id did key state put.entryId put.token
  applied : ∀ entryId put, state.applied entryId = some put →
    TokenSigned id did key state entryId put.token

variable {codec : StatusListCodec} {id : IssuerId} {did : String} {key : KeyPairId}
  {state after : State} {asked : TxId → Option IssuerId}

theorem signers_initial (initial : state.Initial) (unasked : ∀ t, asked t = none) :
    Signers id did key state asked where
  sessions := by
    intro t absurd
    rw [unasked t] at absurd
    cases absurd
  rounds := by
    intro p
    rw [initial.publishers p]
    trivial
  inFlight := by
    intro put member
    rw [initial.inFlight] at member
    cases member
  applied := by
    intro entryId put applied
    rw [initial.applied entryId] at applied
    cases applied

section Frame

variable (grow : ListsGrow state.store.committedLists after.store.committedLists)
include grow

theorem tokenSigned_grow {entryId : String} {token : StatusListToken}
    (signed : TokenSigned id did key state entryId token) :
    TokenSigned id did key after entryId token := by
  intro listId row present owner entry
  rcases grow.backward present with ⟨old, before, grown⟩
  exact signed listId old before (grown.owner.symm.trans owner) (grown.entry.symm.trans entry)

theorem belongs_grow {list : StatusList} (belongs : Belongs state list) : Belongs after list := by
  rcases belongs with ⟨row, present, owner, entry⟩
  rcases grow.forward present with ⟨later, now, grown⟩
  exact ⟨later, now, grown.owner.trans owner, grown.entry.trans entry⟩

theorem roundSigns_grow {round : Round} (signs : RoundSigns id did key state round) :
    RoundSigns id did key after round := by
  cases round with
  | idle | succeeded | failed => trivial
  | acquired list => exact belongs_grow grow signs
  | loaded list issuer => exact ⟨belongs_grow grow signs.1, signs.2⟩
  | signed | sent => exact tokenSigned_grow grow signs

/-- What a step does to the publishers and at the registry, beside letting rows grow. -/
theorem signers_grow (signers : Signers id did key state asked) {later : TxId → Option IssuerId}
    (sessions : ∀ t, later t = some id → SessionSigns did key (after.store.sessions t))
    (rounds : ∀ p, after.publishers p = state.publishers p ∨
      RoundSigns id did key after (after.publishers p))
    (inFlight : ∀ put ∈ after.inFlight, put ∈ state.inFlight ∨
      TokenSigned id did key after put.entryId put.token)
    (applied : ∀ entryId put, after.applied entryId = some put →
      state.applied entryId = some put ∨ TokenSigned id did key after entryId put.token) :
    Signers id did key after later where
  sessions := sessions
  rounds := by
    intro p
    rcases rounds p with same | signs
    · rw [same]
      exact roundSigns_grow grow (signers.rounds p)
    · exact signs
  inFlight := by
    intro put member
    rcases inFlight put member with old | signed
    · exact tokenSigned_grow grow (signers.inFlight put old)
    · exact signed
  applied := by
    intro entryId put found
    rcases applied entryId put found with old | signed
    · exact tokenSigned_grow grow (signers.applied entryId put old)
    · exact signed

end Frame

section Sessions

variable {store next : Store} {t : TxId} {action : StatusStore.Action}

@[simp] theorem goto_session (session : Session) : (store.goto t session).sessions t = session :=
  Function.update_self ..

@[simp] theorem rollback_session (session : Session) :
    (store.rollback t session).sessions t = session := Function.update_self ..

@[simp] theorem commit_session (session : Session) :
    (store.commit t session).sessions t = session := Function.update_self ..

/-- The issuer row that a request reads goes with it to the credential. -/
theorem readIssuer_signs {request : IssueRequest} {found : Option Issuer}
    (row : ∀ issuer, found = some issuer → issuer.did = did ∧ issuer.assertionKeyId = some key)
    (taken : store.readIssuerStep t request found = some next) :
    SessionSigns did key (next.sessions t) := by
  unfold Store.readIssuerStep at taken
  split at taken
  · split at taken
    · next issuer assertionKeyId keyed =>
        cases taken
        rcases signingKey_ok keyed with ⟨present, configured⟩
        rcases row issuer present with ⟨named, held⟩
        rw [goto_session]
        rw [held] at configured
        exact ⟨named, (Option.some.inj configured).symm⟩
    · cases taken
      rw [rollback_session]
      trivial
  · cases taken

theorem session_signs (other : ∀ request issuer, action ≠ .readIssuer request issuer)
    (signs : SessionSigns did key (store.sessions t))
    (taken : store.step codec t action = some next) : SessionSigns did key (next.sessions t) := by
  cases action with
  | readIssuer request issuer => exact absurd rfl (other request issuer)
  | begin request =>
      simp only [Store.step, Store.beginStep] at taken
      split at taken
      · cases taken
        rw [goto_session]
        trivial
      · cases taken
  | requireIssuerOwned exists_ =>
      simp only [Store.step, Store.requireIssuerOwnedStep] at taken
      split at taken
      · split at taken <;> cases taken <;> simp [SessionSigns]
      · cases taken
  | find =>
      simp only [Store.step, Store.findStep] at taken
      split at taken
      · split at taken <;> cases taken <;> simp [SessionSigns]
      · cases taken
  | setState =>
      simp only [Store.step, Store.setStateStep] at taken
      split at taken
      · split at taken <;> cases taken <;> simp [SessionSigns]
      · cases taken
  | selectBitstring =>
      simp only [Store.step, Store.selectBitstringStep] at taken
      split at taken
      · split at taken
        · split at taken
          · cases taken
            simp [SessionSigns]
          · split at taken <;> cases taken <;> simp [SessionSigns]
        · cases taken
      · cases taken
  | updateBitstring =>
      simp only [Store.step, Store.updateBitstringStep] at taken
      split at taken
      · split at taken <;> cases taken
        simp [SessionSigns]
      · cases taken
  | lockOffer redeemed =>
      simp only [Store.step, Store.lockOfferStep] at taken
      split at taken
      · next at_ =>
          rw [at_] at signs
          split at taken <;> cases taken
          · rw [goto_session]
            exact signs
          · simp [SessionSigns]
      · cases taken
  | readCurrentList current =>
      simp only [Store.step, Store.readCurrentListStep] at taken
      split at taken
      · next at_ =>
          rw [at_] at signs
          split at taken <;> cases taken
          · rw [goto_session]
            exact signs
          · simp [SessionSigns]
      · cases taken
  | allocateIndex =>
      simp only [Store.step, Store.allocateIndexStep] at taken
      split at taken
      · next at_ =>
          rw [at_] at signs
          split at taken
          · split at taken <;> cases taken
            · simp [SessionSigns]
            · rw [goto_session]
              exact signs
          · cases taken
      · cases taken
  | insert id integrityHash =>
      simp only [Store.step, Store.insertStep] at taken
      split at taken
      · next at_ =>
          rw [at_] at signs
          split at taken <;> cases taken
          · simp [SessionSigns]
          · rw [goto_session]
            exact ⟨congrArg assertionKid signs.1, signs.2⟩
      · cases taken
  | commit acknowledged =>
      simp only [Store.step, Store.commitStep] at taken
      split at taken
      · cases taken
        simp [SessionSigns]
      · next at_ =>
          rw [at_] at signs
          cases taken
          rw [commit_session]
          cases acknowledged
          · trivial
          · exact signs
      · cases taken
  | fail details =>
      simp only [Store.step, Store.failStep] at taken
      split at taken <;> cases taken <;> simp [SessionSigns]

end Sessions

section Publishers

variable {p : PublisherId} {action : PublisherAction}

theorem republished_grow (republished : Republished state after) :
    ListsGrow state.store.committedLists after.store.committedLists := by
  intro listId
  rcases republished.lists listId with same | ⟨row, rewritten, before, now, _, columns⟩
  · simp only [Store.committedLists, Table.snapshot, same]
    exact listsGrow_refl (Table.snapshot state.store.statusLists) listId
  · right
    refine ⟨row, rewritten, ?_, ?_, ?_⟩
    · simp [Store.committedLists, Table.snapshot, before]
    · simp [Store.committedLists, Table.snapshot, now]
    · rw [columns]
      exact ⟨rfl, rfl, rfl, .inl ⟨rfl, rfl⟩⟩

theorem enter_rounds {round : Round} (moved : ∀ q, after.publishers q = (state.enter p round).publishers q)
    (signs : RoundSigns id did key after round) (q : PublisherId) :
    after.publishers q = state.publishers q ∨ RoundSigns id did key after (after.publishers q) := by
  rw [moved q]
  by_cases own : q = p
  · subst own
    right
    simpa [State.enter] using signs
  · left
    simp [State.enter, own]

/-- The token that a publisher signs, from the row that it has loaded. -/
theorem buildSigned_signs (publication : PublicationSound state) {list : StatusList}
    {issuer : Issuer} {entryId : String} {sign : Except SigningEngineError Unit} {now : DateTime}
    {token : StatusListToken} (belongs : Belongs state list)
    (row : list.issuerId = id → issuer.did = did ∧ issuer.assertionKeyId = some key)
    (entry : list.registryEntryId = some entryId)
    (built : buildSigned list issuer sign now = .ok token) :
    TokenSigned id did key state entryId token := by
  intro listId other present owner named
  rcases belongs with ⟨own, presentOwn, ownerOwn, entryOwn⟩
  cases publication.entries listId list.id other own entryId present presentOwn named
    (entryOwn.trans entry)
  rw [presentOwn] at present
  cases present
  rcases row (ownerOwn.symm.trans owner) with ⟨did_, configured⟩
  rcases buildSigned_ok built with ⟨_, kid, signedBy⟩
  rw [configured] at signedBy
  exact ⟨kid.trans (congrArg assertionKid did_), (Option.some.inj signedBy).symm⟩

theorem republished_sessions (signers : Signers id did key state asked)
    (republished : Republished state after) (t : TxId) (here : asked t = some id) :
    SessionSigns did key (after.store.sessions t) := by
  rw [republished.sessions]
  exact signers.sessions t here

/-- A round that goes on without a request to the registry. -/
theorem quiet_signs (signers : Signers id did key state asked)
    (republished : Republished state after) {round : Round}
    (moved : ∀ q, after.publishers q = (state.enter p round).publishers q)
    (inFlight : after.inFlight = state.inFlight) (applied : after.applied = state.applied)
    (signs : RoundSigns id did key after round) : Signers id did key after asked := by
  apply signers_grow (republished_grow republished) signers
    (republished_sessions signers republished) (enter_rounds moved signs)
  · intro put member
    exact .inl (inFlight ▸ member)
  · intro entryId put found
    exact .inl (applied ▸ found)

theorem acquireNextDirty_signs (publication : PublicationSound state)
    (signers : Signers id did key state asked) {now : DateTime} {leaseDuration : Int}
    {listId : StatusListId}
    (taken : state.publisherStep p (.acquireNextDirty now leaseDuration listId) = some after) :
    Signers id did key after asked := by
  have republished := publisherStep_republished taken
  simp only [State.publisherStep, State.acquireNextDirtyStep] at taken
  split at taken
  · split at taken
    · next chosen chosenAt =>
        cases taken
        rcases StatusLists.nextDirty_spec chosenAt with ⟨_, present, _⟩
        refine quiet_signs signers republished (fun _ => rfl) rfl rfl
          ⟨StatusLists.stampLease chosen (now + leaseDuration), ?_, rfl, rfl⟩
        have keyed := publication.keyed listId chosen present
        show (state.rewriteList listId _).store.committedLists _ = _
        rw [rewriteList_lists, StatusLists.stampLease, keyed, Function.update_self]
    · cases taken
  · cases taken

theorem loadIssuer_signs (signers : Signers id did key state asked) {issuer : Option Issuer}
    {tenantFound : Bool}
    (row : ∀ list found, issuer = some found → state.publishers p = .acquired list →
      list.issuerId = id → found.did = did ∧ found.assertionKeyId = some key)
    (taken : state.publisherStep p (.loadIssuer issuer tenantFound) = some after) :
    Signers id did key after asked := by
  have republished := publisherStep_republished taken
  have round := signers.rounds p
  simp only [State.publisherStep, State.loadIssuerStep] at taken
  split at taken
  · next list at_ =>
      rw [at_] at round
      split at taken
      · cases taken
        exact quiet_signs signers republished (fun _ => rfl) rfl rfl trivial
      · next found =>
          split at taken
          · cases taken
            exact quiet_signs signers republished (fun _ => rfl) rfl rfl
              ⟨round, row list found rfl at_⟩
          · cases taken
            exact quiet_signs signers republished (fun _ => rfl) rfl rfl trivial
  · cases taken

theorem signToken_signs (publication : PublicationSound state)
    (signers : Signers id did key state asked) {now : DateTime}
    {sign : Except SigningEngineError Unit}
    (taken : state.publisherStep p (.buildSigned now sign) = some after) :
    Signers id did key after asked := by
  have republished := publisherStep_republished taken
  have round := signers.rounds p
  simp only [State.publisherStep, State.buildSignedStep] at taken
  split at taken
  · next list issuer at_ =>
      rw [at_] at round
      split at taken
      · cases taken
      · next entryId entry =>
          split at taken
          · next token built =>
              cases taken
              exact quiet_signs signers republished (fun _ => rfl) rfl rfl
                (buildSigned_signs publication round.1 round.2 entry built)
          · cases taken
            exact quiet_signs signers republished (fun _ => rfl) rfl rfl trivial
  · cases taken

/-- The request carries the token of the round that sends it. -/
theorem put_signs (signers : Signers id did key state asked)
    (taken : state.publisherStep p .put = some after) : Signers id did key after asked := by
  have republished := publisherStep_republished taken
  have round := signers.rounds p
  simp only [State.publisherStep, State.putStep] at taken
  split at taken
  · next list entryId now token retried at_ =>
      rw [at_] at round
      cases taken
      apply signers_grow (republished_grow republished) signers
        (republished_sessions signers republished)
      · exact enter_rounds (fun _ => rfl) round
      · intro put member
        rcases List.mem_cons.mp member with rfl | old
        · exact .inr round
        · exact .inl old
      · exact fun _ _ found => .inl found
  · cases taken

theorem unauthorized_signs (signers : Signers id did key state asked)
    (taken : state.publisherStep p .unauthorized = some after) :
    Signers id did key after asked := by
  have republished := publisherStep_republished taken
  have round := signers.rounds p
  simp only [State.publisherStep, State.unauthorizedStep] at taken
  split at taken
  · next list entryId now token serial at_ =>
      rw [at_] at round
      split at taken
      · cases taken
      · cases taken
        apply signers_grow (republished_grow republished) signers
          (republished_sessions signers republished)
        · exact enter_rounds (fun _ => rfl) round
        · exact fun put member => .inl (List.mem_filter.mp member).1
        · exact fun _ _ found => .inl found
  · cases taken

theorem answer_signs (signers : Signers id did key state asked)
    {result : Except TokenAwareError Unit} {word : UInt64}
    (taken : state.publisherStep p (.answer result word) = some after) :
    Signers id did key after asked := by
  have republished := publisherStep_republished taken
  simp only [State.publisherStep, State.answerStep] at taken
  split at taken
  · split at taken
    · cases taken
      exact quiet_signs signers republished (fun _ => rfl) rfl rfl trivial
    · cases taken
  · split at taken
    · split at taken
      · cases taken
        exact quiet_signs signers republished (fun _ => rfl) rfl rfl trivial
      · cases taken
    · cases taken
      exact quiet_signs signers republished (fun _ => rfl) rfl rfl trivial
  · cases taken

theorem record_signs (signers : Signers id did key state asked)
    (taken : state.publisherStep p .record = some after) : Signers id did key after asked := by
  have republished := publisherStep_republished taken
  simp only [State.publisherStep, State.recordStep] at taken
  split at taken
  · split at taken
    · split at taken <;> cases taken <;>
        exact quiet_signs signers republished (fun _ => rfl) rfl rfl trivial
    · cases taken
  · split at taken
    · cases taken
      exact quiet_signs signers republished (fun _ => rfl) rfl rfl trivial
    · cases taken
  · cases taken

theorem publisher_signs (publication : PublicationSound state)
    (signers : Signers id did key state asked)
    (row : ∀ list issuer tenantFound, action = .loadIssuer (some issuer) tenantFound →
      state.publishers p = .acquired list → list.issuerId = id →
      issuer.did = did ∧ issuer.assertionKeyId = some key)
    (taken : state.publisherStep p action = some after) : Signers id did key after asked := by
  cases action with
  | acquireNextDirty now leaseDuration listId =>
      exact acquireNextDirty_signs publication signers taken
  | loadIssuer issuer tenantFound =>
      refine loadIssuer_signs signers ?_ taken
      intro list found present
      exact row list found tenantFound (present ▸ rfl)
  | buildSigned now sign => exact signToken_signs publication signers taken
  | put => exact put_signs signers taken
  | unauthorized => exact unauthorized_signs signers taken
  | answer result word => exact answer_signs signers taken
  | record => exact record_signs signers taken
  | crash =>
      have republished := publisherStep_republished taken
      cases taken
      exact quiet_signs signers republished (fun _ => rfl) rfl rfl trivial

theorem deliver_signs (signers : Signers id did key state asked) {serial : Nat}
    (taken : state.deliverStep serial = some after) : Signers id did key after asked := by
  unfold State.deliverStep at taken
  split at taken
  · next put found =>
      have grow : ListsGrow state.store.committedLists after.store.committedLists := by
        cases taken
        exact listsGrow_refl _
      cases taken
      apply signers_grow grow signers signers.sessions
      · exact fun _ => .inl rfl
      · exact fun other member => .inl (List.mem_filter.mp member).1
      · intro entryId last applied
        by_cases same : entryId = put.entryId
        · subst same
          simp only [Function.update_self, Option.some.injEq] at applied
          subst applied
          exact .inr (tokenSigned_grow grow (signers.inFlight put (List.mem_of_find?_eq_some found)))
        · simp only [Function.update_of_ne same] at applied
          exact .inl applied
  · cases taken

theorem lose_signs (signers : Signers id did key state asked) (serial : Nat) :
    Signers id did key (state.loseStep serial) asked := by
  have grow : ListsGrow state.store.committedLists (state.loseStep serial).store.committedLists :=
    listsGrow_refl _
  apply signers_grow grow signers signers.sessions
  · exact fun _ => .inl rfl
  · exact fun put member => .inl (List.mem_filter.mp member).1
  · exact fun _ _ found => .inl found

end Publishers

end SwiyuIssuer.Signing
