import SwiyuIssuer.StatusStore.Sessions

namespace SwiyuIssuer.StatusStore

open Library Persistence

/-- Nothing is locked, and no row that was read is still relied upon. -/
def Session.Plain : Session → Prop
  | .idle | .opened _ | .issuerChecked _ | .answered _ => True
  | .issuerRead .. | .offerLocked .. | .listResolved .. | .issued _ => True
  | _ => False

/-- Everything one statement of `t` can do to the two tables and to the session of `t`. -/
inductive Move (codec : StatusListCodec) (store : Store) (t : TxId) : Action → Store → Prop
  | plain (action : Action) (next : Session) (from_ : (store.sessions t).Plain)
      (to_ : next.Plain) : Move codec store t action (store.goto t next)
  | load (request : LifecycleRequest) (row moved : IssuedCredential)
      (at_ : store.sessions t = .issuerChecked request)
      (read : (store.credentials request.credentialId).read t = some row)
      (allowed : request.operation.applyTransition row = .ok moved) :
      Move codec store t .find (store.goto t (.transitioned request moved))
  | writeState (request : LifecycleRequest) (credential : IssuedCredential)
      (at_ : store.sessions t = .transitioned request credential)
      (free : (store.credentials credential.id).free t = true) :
      Move codec store t .setState
        ({ store with
          credentials := store.credentials.update t credential.id
            (Option.map fun row => { row with state := credential.state }) }.goto t
              (.stateWritten request credential))
  | lockList (request : LifecycleRequest) (credential : IssuedCredential) (row : StatusList)
      (bitstring : Bitstring) (at_ : store.sessions t = .stateWritten request credential)
      (free : (store.statusLists credential.statusListId).free t = true)
      (read : (store.statusLists credential.statusListId).read t = some row)
      (edited : codec.setAt row.bitstring credential.statusListIndex
        request.operation.bitValue = .ok bitstring) :
      Move codec store t .selectBitstring
        ({ store with statusLists := store.statusLists.update t credential.statusListId id }.goto t
          (.bitstringRead request credential bitstring))
  | writeBits (request : LifecycleRequest) (credential : IssuedCredential) (bitstring : Bitstring)
      (at_ : store.sessions t = .bitstringRead request credential bitstring)
      (free : (store.statusLists credential.statusListId).free t = true) :
      Move codec store t .updateBitstring
        ({ store with
          statusLists := store.statusLists.update t credential.statusListId
            (Option.map fun row => StatusLists.writeBitstring row bitstring) }.goto t
              (.bitWritten request credential))
  | allocate (request : IssueRequest) (issuer : Issuer) (assertionKeyId : KeyPairId)
      (listId : StatusListId) (registryUrl : String) (row allocated : StatusList)
      (index : StatusListIndex)
      (at_ : store.sessions t = .listResolved request issuer assertionKeyId listId registryUrl)
      (free : (store.statusLists listId).free t = true)
      (read : (store.statusLists listId).read t = some row)
      (taken : StatusLists.allocateIndex row = some (allocated, index)) :
      Move codec store t .allocateIndex
        ({ store with statusLists := store.statusLists.update t listId fun _ => some allocated }.goto
          t (.slotAllocated request issuer assertionKeyId listId registryUrl index))
  | insert (request : IssueRequest) (issuer : Issuer) (assertionKeyId : KeyPairId)
      (listId : StatusListId) (registryUrl : String) (index : StatusListIndex)
      (id : IssuedCredentialId) (integrityHash : Vector UInt8 integrityHashLen)
      (at_ : store.sessions t =
        .slotAllocated request issuer assertionKeyId listId registryUrl index)
      (free : (store.credentials id).free t = true)
      (read : (store.credentials id).read t = none) :
      Move codec store t (.insert id integrityHash)
        ({ store with
          credentials := store.credentials.update t id fun _ =>
            some (newCredential id request issuer listId index integrityHash) }.goto t
          (.inserted
            (buildSdJwtVc assertionKeyId issuer request.vct request.cnfJwk
              (buildStatusClaim registryUrl index) request.now request.expiresAt)
            (newCredential id request issuer listId index integrityHash)))
  | commitLifecycle (acknowledged : Bool) (request : LifecycleRequest)
      (credential : IssuedCredential) (next : Session)
      (at_ : store.sessions t = .bitWritten request credential) (to_ : next.Plain) :
      Move codec store t (.commit acknowledged) (store.commit t next)
  | commitIssue (acknowledged : Bool) (jwt : SdJwtVc) (credential : IssuedCredential)
      (next : Session) (at_ : store.sessions t = .inserted jwt credential) (to_ : next.Plain) :
      Move codec store t (.commit acknowledged) (store.commit t next)
  | rollback (action : Action) (next : Session) (to_ : next.Plain) :
      Move codec store t action (store.rollback t next)

variable {codec : StatusListCodec} {store after : Store} {t : TxId}

private theorem begin_move {request : LifecycleRequest}
    (taken : store.beginStep t request = some after) :
    Move codec store t (.begin request) after := by
  unfold Store.beginStep at taken
  split at taken
  · next at_ =>
      cases taken
      exact .plain _ _ (by rw [at_]; trivial) trivial
  · cases taken

private theorem requireIssuerOwned_move {exists_ : Bool}
    (taken : store.requireIssuerOwnedStep t exists_ = some after) :
    Move codec store t (.requireIssuerOwned exists_) after := by
  unfold Store.requireIssuerOwnedStep at taken
  split at taken
  · next at_ =>
      split at taken
      · cases taken
        exact .plain _ _ (by rw [at_]; trivial) trivial
      · cases taken
        exact .rollback _ _ trivial
  · cases taken

private theorem find_move (taken : store.findStep t = some after) :
    Move codec store t .find after := by
  unfold Store.findStep at taken
  split at taken
  · next request at_ =>
      split at taken
      · next allowed =>
          cases taken
          obtain ⟨row, found, moves⟩ := loadAndTransition_ok allowed
          exact .load request row _ at_ (IssuedCredentials.find_some found).1 moves
      · cases taken
        exact .rollback _ _ trivial
  · cases taken

private theorem setState_move (taken : store.setStateStep t = some after) :
    Move codec store t .setState after := by
  unfold Store.setStateStep at taken
  split at taken
  · next request credential at_ =>
      split at taken
      · cases taken
      · cases taken
        exact .rollback _ _ trivial
      · next written =>
          cases taken
          obtain ⟨free, _, rfl⟩ := IssuedCredentials.setState_ok written
          exact .writeState request credential at_ free
  · cases taken

private theorem selectBitstring_move (taken : store.selectBitstringStep codec t = some after) :
    Move codec store t .selectBitstring after := by
  unfold Store.selectBitstringStep at taken
  split at taken
  · next request credential at_ =>
      dsimp only at taken
      split at taken
      · next free =>
          split at taken
          · cases taken
            exact .rollback _ _ trivial
          · next row read =>
              split at taken
              · cases taken
                exact .rollback _ _ trivial
              · next bitstring edited =>
                  cases taken
                  unfold StatusLists.editBitstring at edited
                  split at edited
                  · next written =>
                      cases edited
                      exact .lockList request credential row bitstring at_ free read written
                  · cases edited
      · cases taken
  · cases taken

private theorem updateBitstring_move (taken : store.updateBitstringStep t = some after) :
    Move codec store t .updateBitstring after := by
  unfold Store.updateBitstringStep at taken
  split at taken
  · next request credential bitstring at_ =>
      split at taken
      · next free =>
          cases taken
          exact .writeBits request credential bitstring at_ free
      · cases taken
  · cases taken

private theorem readIssuer_move {request : IssueRequest} {issuer : Option Issuer}
    (taken : store.readIssuerStep t request issuer = some after) :
    Move codec store t (.readIssuer request issuer) after := by
  unfold Store.readIssuerStep at taken
  split at taken
  · next at_ =>
      split at taken
      · cases taken
        exact .plain _ _ (by rw [at_]; trivial) trivial
      · cases taken
        exact .rollback _ _ trivial
  · cases taken

private theorem lockOffer_move {redeemed : Except OAuthError Unit}
    (taken : store.lockOfferStep t redeemed = some after) :
    Move codec store t (.lockOffer redeemed) after := by
  unfold Store.lockOfferStep at taken
  split at taken
  · next at_ =>
      split at taken
      · cases taken
        exact .plain _ _ (by rw [at_]; trivial) trivial
      · cases taken
        exact .rollback _ _ trivial
  · cases taken

private theorem readCurrentList_move {current : Option (StatusListId × Option String)}
    (taken : store.readCurrentListStep t current = some after) :
    Move codec store t (.readCurrentList current) after := by
  unfold Store.readCurrentListStep at taken
  split at taken
  · next at_ =>
      split at taken
      · cases taken
        exact .plain _ _ (by rw [at_]; trivial) trivial
      · cases taken
        exact .rollback _ _ trivial
  · cases taken

private theorem allocateIndex_move (taken : store.allocateIndexStep t = some after) :
    Move codec store t .allocateIndex after := by
  unfold Store.allocateIndexStep at taken
  split at taken
  · next request issuer assertionKeyId listId registryUrl at_ =>
      dsimp only at taken
      split at taken
      · next free =>
          split at taken
          · cases taken
            exact .rollback _ _ trivial
          · next allocated index chosen =>
              cases taken
              obtain ⟨row, read, free_⟩ := Option.bind_eq_some_iff.mp chosen
              exact .allocate request issuer assertionKeyId listId registryUrl row allocated index
                at_ free read free_
      · cases taken
  · cases taken

private theorem insert_move {id : IssuedCredentialId}
    {integrityHash : Vector UInt8 integrityHashLen}
    (taken : store.insertStep t id integrityHash = some after) :
    Move codec store t (.insert id integrityHash) after := by
  unfold Store.insertStep at taken
  split at taken
  · next request issuer assertionKeyId listId registryUrl index at_ =>
      dsimp only at taken
      split at taken
      · cases taken
      · cases taken
        exact .rollback _ _ trivial
      · next written =>
          cases taken
          obtain ⟨free, read, rfl⟩ := IssuedCredentials.insert_ok written
          exact .insert request issuer assertionKeyId listId registryUrl index id integrityHash
            at_ free read
  · cases taken

private theorem commit_move {acknowledged : Bool}
    (taken : store.commitStep t acknowledged = some after) :
    Move codec store t (.commit acknowledged) after := by
  unfold Store.commitStep at taken
  split at taken
  · next request credential at_ =>
      cases taken
      exact .commitLifecycle acknowledged request credential _ at_ trivial
  · next jwt credential at_ =>
      cases taken
      exact .commitIssue acknowledged jwt credential _ at_ trivial
  · cases taken

private theorem fail_move {details : String} (taken : store.failStep t details = some after) :
    Move codec store t (.fail details) after := by
  unfold Store.failStep at taken
  split at taken <;> first
    | cases taken; exact .rollback _ _ trivial
    | cases taken

theorem step_move {action : Action} (taken : store.step codec t action = some after) :
    Move codec store t action after := by
  cases action with
  | begin request => exact begin_move taken
  | requireIssuerOwned exists_ => exact requireIssuerOwned_move taken
  | find => exact find_move taken
  | setState => exact setState_move taken
  | selectBitstring => exact selectBitstring_move taken
  | updateBitstring => exact updateBitstring_move taken
  | readIssuer request issuer => exact readIssuer_move taken
  | lockOffer redeemed => exact lockOffer_move taken
  | readCurrentList current => exact readCurrentList_move taken
  | allocateIndex => exact allocateIndex_move taken
  | insert id integrityHash => exact insert_move taken
  | commit acknowledged => exact commit_move taken
  | fail details => exact fail_move taken

end SwiyuIssuer.StatusStore
