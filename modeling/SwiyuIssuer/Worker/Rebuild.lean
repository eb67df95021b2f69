import SwiyuIssuer.Worker.DeactivateIssuer

/-! Steps that are executed again: what the builders answer when their own entry is the tail of the
log, and how the last steps of the two sagas can end. -/

namespace SwiyuIssuer.Worker

open Library Persistence

def isBackend : Option SigningEngineError → Bool
  | none | some (.backend _) => true
  | some _ => false

def EngineFaults.areBackend (faults : EngineFaults) : Bool :=
  isBackend faults.newAuthorized && isBackend faults.newAuthentication &&
    isBackend faults.newAssertion && isBackend faults.outgoing && isBackend faults.sign

/-- The signing engine's backend has failed a call. -/
def BackendFailed {α : Type} (answer : Except BuildError α) : Prop :=
  ∃ details, answer = .error (.chained (.engine (.backend details)))

theorem getPublicKey_again {engine : Engine} {fault : Option SigningEngineError}
    (backend : isBackend fault = true) (id : KeyPairId) :
    engine.getPublicKey fault id = .ok (engine.publicKey id) ∨
      BackendFailed (engine.getPublicKey fault id) := by
  cases fault with
  | none => exact .inl rfl
  | some error =>
      cases error with
      | backend details => exact .inr ⟨details, rfl⟩
      | _ => cases backend

theorem authorizedMultikey_again {core : SwiyuCore} {engine : Engine}
    {fault later : Option SigningEngineError} {role : String} {id : KeyPairId} {multikey : String}
    (answered : authorizedMultikey core engine fault role id = .ok multikey)
    (backend : isBackend later = true) :
    authorizedMultikey core engine later role id = .ok multikey ∨
      BackendFailed (authorizedMultikey core engine later role id) := by
  rcases Answers.bind_ok.mp answered with ⟨pk, found, shaped⟩
  rw [getPublicKey_ok found] at shaped
  unfold authorizedMultikey
  rcases getPublicKey_again backend id with again | ⟨details, failed⟩
  · rw [again]
    exact .inl shaped
  · rw [failed]
    exact .inr ⟨details, rfl⟩

theorem p256Key_again {engine : Engine} {fault later : Option SigningEngineError} {role : String}
    {id : KeyPairId} {key : P256PublicKey} (answered : p256Key engine fault role id = .ok key)
    (backend : isBackend later = true) :
    p256Key engine later role id = .ok key ∨ BackendFailed (p256Key engine later role id) := by
  rcases Answers.bind_ok.mp answered with ⟨pk, found, shaped⟩
  rw [getPublicKey_ok found] at shaped
  unfold p256Key
  rcases getPublicKey_again backend id with again | ⟨details, failed⟩
  · rw [again]
    exact .inl shaped
  · rw [failed]
    exact .inr ⟨details, rfl⟩

theorem bind_again {α β : Type} {first : Except BuildError α} {value : α}
    {rest : α → Except BuildError β} {Ends : Except BuildError β → Prop}
    (again : first = .ok value ∨ BackendFailed first) (ends : Ends (rest value))
    (failed : ∀ details, Ends (.error (.chained (.engine (.backend details))))) :
    Ends (first >>= rest) := by
  rcases again with same | ⟨details, same⟩
  · rw [same]
    exact ends
  · rw [same]
    exact failed details

/-- What a builder answers once its entry is the tail of the log. -/
def Published (built : Except BuildError LogEntry) : Prop :=
  built = .error .already ∨ BackendFailed built

theorem published_backend (details : String) :
    Published (.error (.chained (.engine (.backend details)))) := .inr ⟨details, rfl⟩

theorem buildRotationEntry_again {core : SwiyuCore} {engine : Engine} {faults later : EngineFaults}
    {issuer : Issuer} {triple : KeyTriple} {log before : List LogEntry} {now : DateTime}
    {entry : LogEntry}
    (built : buildRotationEntry core engine faults issuer triple before now = .ok entry)
    (tail : log.getLast? = some entry) (backend : later.areBackend = true) :
    Published (buildRotationEntry core engine later issuer triple log now) := by
  rcases buildRotationEntry_ok built with
    ⟨_, _, _, _, _, _, keys, _, _, doc, _, _, document, _⟩
  simp only [buildRotationEntry, Answers.bind_ok, chainedOr_ok] at built
  rcases built with ⟨_, active, outgoing, row, _, _, _, _, multikey, authorized, authentication,
    authenticated, assertion, asserted, _⟩
  have same := authorizedMultikey_ok authorized
  simp only [EngineFaults.areBackend, Bool.and_eq_true] at backend
  have parsed : predecessorDoc entry = .ok doc := by rw [predecessorDoc, document]
  unfold buildRotationEntry
  rw [active, chainedOr_ok.mpr row, chainedOr_ok.mpr tail]
  apply bind_again (.inl rfl) _ published_backend
  apply bind_again (.inl rfl) _ published_backend
  apply bind_again (.inl rfl) _ published_backend
  apply bind_again (.inl parsed) _ published_backend
  apply bind_again (authorizedMultikey_again authorized backend.1.1.1.1) _ published_backend
  apply bind_again (p256Key_again authenticated backend.1.1.1.2) _ published_backend
  apply bind_again (p256Key_again asserted backend.1.1.2) _ published_backend
  rw [if_pos (by rw [keys, same]; rfl)]
  exact .inl rfl

theorem buildDeactivationEntry_again {core : SwiyuCore} {engine : Engine}
    {faults later : EngineFaults} {issuer : Issuer} {log before : List LogEntry} {now : DateTime}
    {entry : LogEntry}
    (built : buildDeactivationEntry core engine faults issuer before now = .ok entry)
    (tail : log.getLast? = some entry) :
    buildDeactivationEntry core engine later issuer log now = .error .already := by
  rcases buildDeactivationEntry_ok built with ⟨_, authorized, _, row, _, _, ended, _⟩
  simp only [buildDeactivationEntry, Answers.bind_ok] at built
  rcases built with ⟨_, active, _⟩
  unfold buildDeactivationEntry
  rw [active, chainedOr_ok.mpr row, chainedOr_ok.mpr tail]
  show (if entry.deactivated = some true then _ else _) = _
  rw [if_pos ended]

def isTerminal : StepOutcome → Bool
  | .terminal _ _ => true
  | _ => false

/-- Whether the error is transient; a failure to decrypt the secrets is judged by its cause. -/
def isTransient : TokenAwareError → Bool
  | .token (.persistence (.encryption e)) => e.isRetryable
  | error => error.isRetryable

theorem fromTokenAwareError_transient {error : TokenAwareError} {retryCode terminalCode : String}
    (transient : isTransient error = true) :
    isTerminal (fromTokenAwareError error retryCode terminalCode) = false := by
  unfold fromTokenAwareError
  split
  · next e =>
      rw [if_pos (show e.isRetryable = true from transient)]
      rfl
  · cases transient
  · next e =>
      rw [if_pos (show e.isRetryable = true from transient)]
      rfl
  · next e _ unencrypted =>
      have retryable : e.isRetryable = true := by
        cases e with
        | persistence error =>
            cases error with
            | encryption cause => exact absurd rfl (unencrypted cause)
            | _ => rfl
        | _ => exact transient
      rw [if_pos retryable]
      rfl

/-- The issuer's DID leads to a log at the registry. -/
def Addressed (core : SwiyuCore) (issuer : Issuer) : Prop :=
  ∃ path identifier, parseIssuerDid core issuer = .ok path ∧
    requireIdentifier issuer path = .ok identifier

theorem preparePublish_again {core : SwiyuCore} {texts : SagaTexts} {issuer : Issuer}
    {answer : Except RegistryError (List LogEntry)}
    {build : List LogEntry → Except BuildError LogEntry} (addressed : Addressed core issuer)
    (answered : (∃ error, answer = .error error ∧ error.isRetryable = true) ∨
      ∃ log, answer = .ok log ∧ Published (build log)) :
    ∃ outcome, preparePublish core texts issuer answer build = .error outcome ∧
      isTerminal outcome = false := by
  rcases addressed with ⟨path, identifier, parsed, identified⟩
  rcases answered with ⟨error, rfl, retryable⟩ | ⟨log, rfl, again⟩
  · have failed : fetchLog (.error error : Except RegistryError (List LogEntry)) =
        .error (.retry "registry_unavailable" error.display) := by
      simp [fetchLog, retryable]
    refine ⟨.retry "registry_unavailable" error.display, ?_, rfl⟩
    unfold preparePublish
    rw [parsed, failed]
    show (requireIdentifier issuer path >>= _) = _
    rw [identified]
    rfl
  · have settled : ∃ outcome, settleBuild texts (build log) = .error outcome ∧
        isTerminal outcome = false := by
      rcases again with same | ⟨details, same⟩
      · rw [same]
        exact ⟨_, rfl, rfl⟩
      · rw [same]
        exact ⟨_, rfl, rfl⟩
    rcases settled with ⟨outcome, settled, live⟩
    refine ⟨outcome, ?_, live⟩
    unfold preparePublish
    rw [parsed]
    show (requireIdentifier issuer path >>= _) = _
    rw [identified]
    show (settleBuild texts (build log) >>= _) = _
    rw [settled]
    rfl

/-- On the task's own active row the swap either works or is tried again. -/
theorem executeSwapKeys_live {row : Issuer} {tenantId : TenantId} {issuerId : IssuerId}
    {state : RotateKeysStateData} {triple : KeyTriple} (own : isRow row tenantId issuerId = true)
    (active : row.state = some .active) (frozen : state.newKeyTriple = some triple)
    (calls : SwapCalls) : isTerminal (executeSwapKeys row tenantId issuerId state calls).2 = false := by
  unfold executeSwapKeys
  rw [frozen]
  cases calls.pool with
  | some message => rfl
  | none =>
      have answered := swapKeyTriple_own own active triple.authorized triple.authentication
        triple.assertion calls.update calls.reread
      cases called : swapKeyTriple row tenantId issuerId triple.authorized triple.authentication
          triple.assertion calls.update calls.reread with
      | mk after answer =>
      rw [called] at answered
      rcases answered with ⟨outcome, same⟩ | ⟨details, same⟩
      · cases same
        simp only [called]
        rfl
      · cases same
        simp only [called]
        rfl

theorem executeMarkDeactivated_live {row : Issuer} {tenantId : TenantId} {issuerId : IssuerId}
    {state : IssuerState} (own : isRow row tenantId issuerId = true)
    (present : row.state = some state) (calls : MarkCalls) :
    isTerminal (executeMarkDeactivated row tenantId issuerId calls).2 = false := by
  have found : ∃ marked, row.tryDeactivate = .ok marked := by
    unfold Issuer.tryDeactivate
    rw [present]
    cases state with
    | active | deactivated => exact ⟨_, rfl⟩
  rcases found with ⟨marked, found⟩
  unfold executeMarkDeactivated
  rw [own, found]
  cases calls.begin_ with
  | some message => rfl
  | none =>
      cases calls.find with
      | some message => rfl
      | none =>
          cases calls.setState with
          | some message => rfl
          | none =>
              cases calls.cancelPending with
              | some message => rfl
              | none => cases calls.commit <;> rfl

end SwiyuIssuer.Worker
