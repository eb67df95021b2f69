import SwiyuIssuer.StatusStore.Publisher
import SwiyuIssuer.Worker.CreateIssuer

/-! The `*_with_refresh` helpers, and what their two consumers make of the error. -/

namespace SwiyuIssuer.Worker

inductive RegistryCall (α : Type)
  | get (answer : Except TokenProviderError String)
  | invalidate (answer : Except TokenProviderError String)
  | registry (token : String) (answer : Except RegistryError α)

/-- What a helper returns, the calls it has made in order, and the world after them. -/
structure Refreshed (World α : Type) where
  result : Except TokenAwareError α
  calls : List (RegistryCall α)
  world : World

/-- A token provider. An answer depends in any way on what has happened before. -/
structure TokenProvider (World : Type) where
  get : World → Except TokenProviderError String × World
  invalidate : World → Except TokenProviderError String × World

structure RegistryFacade (World : Type) where
  allocateDid : (token partnerId : String) → World → Except RegistryError Allocation × World
  publishLogEntry : (token partnerId identifier entry : String) → World →
    Except RegistryError Unit × World

structure StatusRegistryFacade (World : Type) where
  createStatusListEntry : (token partnerId : String) → World →
    Except RegistryError StatusListEntry × World
  updateStatusListEntry : (token partnerId entryId statusListJwt : String) → World →
    Except RegistryError Unit × World

section Helpers

variable {World α : Type}

/-- `retry_on_401!`. -/
def retryOn401 (provider : TokenProvider World)
    (call : (token : String) → World → Except RegistryError α × World) (world : World) :
    Refreshed World α :=
  match provider.get world with
  | (.error e, world) => ⟨.error (.token e), [.get (.error e)], world⟩
  | (.ok token, world) =>
      match call token world with
      | (.ok value, world) => ⟨.ok value, [.get (.ok token), .registry token (.ok value)], world⟩
      | (.error error, world) =>
          if error.kind = .httpStatus 401 then
            match provider.invalidate world with
            | (.error e, world) =>
                ⟨.error (.token e), [.get (.ok token), .registry token (.error error),
                  .invalidate (.error e)], world⟩
            | (.ok fresh, world) =>
                let (answer, world) := call fresh world
                ⟨answer.mapError .registry, [.get (.ok token), .registry token (.error error),
                  .invalidate (.ok fresh), .registry fresh answer], world⟩
          else
            ⟨.error (.registry error), [.get (.ok token), .registry token (.error error)], world⟩

variable (provider : TokenProvider World) (registry : RegistryFacade World)
  (statusRegistry : StatusRegistryFacade World)

def allocateDidWithRefresh (partnerId : String) : World → Refreshed World Allocation :=
  retryOn401 provider fun token => registry.allocateDid token partnerId

def publishLogEntryWithRefresh (partnerId identifier entry : String) :
    World → Refreshed World Unit :=
  retryOn401 provider fun token => registry.publishLogEntry token partnerId identifier entry

def createStatusListEntryWithRefresh (partnerId : String) :
    World → Refreshed World StatusListEntry :=
  retryOn401 provider fun token => statusRegistry.createStatusListEntry token partnerId

def updateStatusListEntryWithRefresh (partnerId entryId statusListJwt : String) :
    World → Refreshed World Unit :=
  retryOn401 provider fun token =>
    statusRegistry.updateStatusListEntry token partnerId entryId statusListJwt

end Helpers

namespace RegistryCall

variable {α : Type}

def isRegistry : RegistryCall α → Bool
  | registry _ _ => true
  | _ => false

def isUnauthorized : RegistryCall α → Bool
  | registry _ (.error error) => error.kind == .httpStatus 401
  | _ => false

end RegistryCall

/-- A registry call is made at most twice: the second time under the token that `invalidate` minted
after the first was answered 401. -/
structure RetriedOnce {World α : Type} (run : Refreshed World α) : Prop where
  atMostTwo : run.calls.countP RegistryCall.isRegistry ≤ 2
  second : run.calls.countP RegistryCall.isRegistry = 2 → ∃ stale error fresh answer,
    error.kind = .httpStatus 401 ∧ run.calls = [.get (.ok stale), .registry stale (.error error),
      .invalidate (.ok fresh), .registry fresh answer]
  unchanged : ∀ token answer, .registry token answer ∈ run.calls →
    (RegistryCall.registry token answer).isUnauthorized = false →
    run.result = answer.mapError .registry
  final : ∀ token answer, run.calls.getLast? = some (.registry token answer) →
    run.result = answer.mapError .registry
  unavailable : ∀ e, .get (.error e) ∈ run.calls ∨ .invalidate (.error e) ∈ run.calls →
    run.result = .error (.token e)

theorem retryOn401_retriedOnce {World α : Type} (provider : TokenProvider World)
    (call : (token : String) → World → Except RegistryError α × World) (world : World) :
    RetriedOnce (retryOn401 provider call world) := by
  unfold retryOn401
  split
  · constructor <;> simp [RegistryCall.isRegistry]
  · next token second got =>
      split
      · constructor <;> simp [List.countP_cons, RegistryCall.isRegistry]
      · next error third refused =>
          split
          · next unauthorized =>
              split
              · constructor <;> simp [List.countP_cons, RegistryCall.isRegistry,
                  RegistryCall.isUnauthorized, unauthorized]
              · next fresh fourth invalidated =>
                  constructor
                  · simp [List.countP_cons, RegistryCall.isRegistry]
                  · simp [unauthorized]
                  · intro again answer made authorized
                    simp only [List.mem_cons, reduceCtorEq, RegistryCall.registry.injEq,
                      List.not_mem_nil, or_false, false_or] at made
                    rcases made with ⟨rfl, rfl⟩ | ⟨rfl, rfl⟩
                    · simp [RegistryCall.isUnauthorized, unauthorized] at authorized
                    · rfl
                  · simp
                  · simp
          · next authorized =>
              constructor <;>
                simp [List.countP_cons, RegistryCall.isRegistry]

def isRetry : StepOutcome → Bool
  | .retry _ _ => true
  | _ => false

/-- Whether `run_round` can schedule the next attempt before its flat long retry. -/
def publisherRetriesSoon (error : TokenAwareError) : Prop :=
  ∃ list now word next,
    StatusStore.State.failedRound list now error word = .failed list now error.toString next ∧
      next < now + StatusStore.terminalRetryAfter

/-- What the two consumers do with one error, under any codes of the worker's caller. -/
structure ClassifiedAlike (error : TokenAwareError) : Prop where
  worker : ∀ retryCode terminalCode,
    isRetry (fromTokenAwareError error retryCode terminalCode) = error.isRetryable
  publisher : publisherRetriesSoon error ↔ error.isRetryable = true
  credentials : ∀ details, error = .token (.missingCredentials details) →
    ¬ publisherRetriesSoon error ∧ ∀ retryCode terminalCode,
      isRetry (fromTokenAwareError error retryCode terminalCode) = false
  decryption : ∀ e, error = .token (.persistence (.encryption e)) → e.isRetryable = false →
    ¬ publisherRetriesSoon error ∧ ∀ retryCode terminalCode,
      isRetry (fromTokenAwareError error retryCode terminalCode) = false

/-- The error is a secret of the tenant that will not decrypt on a later attempt either. -/
def undecryptable : TokenAwareError → Bool
  | .token (.persistence (.encryption e)) => !e.isRetryable
  | _ => false

theorem publisherRetriesSoon_iff (error : TokenAwareError) :
    publisherRetriesSoon error ↔ error.isRetryable = true := by
  constructor
  · rintro ⟨list, now, word, next, round, soon⟩
    by_contra flat
    rw [StatusStore.State.failedRound, if_neg flat] at round
    cases round
    exact absurd soon (Int.lt_irrefl _)
  · intro retryable
    refine ⟨StatusList.new ⟨""⟩ ⟨""⟩ 0, 0, 0, 0, ?_, by decide⟩
    rw [StatusStore.State.failedRound, if_pos retryable]
    rfl

theorem fromTokenAwareError_retry (error : TokenAwareError) (retryCode terminalCode : String) :
    isRetry (fromTokenAwareError error retryCode terminalCode) =
      (error.isRetryable && !undecryptable error) := by
  unfold fromTokenAwareError
  split
  · next e =>
      cases retryable : e.isRetryable <;>
        simp [isRetry, TokenAwareError.isRetryable, undecryptable, retryable]
  · rfl
  · next e =>
      cases retryable : e.isRetryable <;>
        simp [isRetry, TokenAwareError.isRetryable, TokenProviderError.isRetryable,
          undecryptable, retryable]
  · next e _ unencrypted =>
      have decryptable : undecryptable (.token e) = false := by
        cases e with
        | persistence error =>
            cases error with
            | encryption cause => exact absurd rfl (unencrypted cause)
            | _ => rfl
        | _ => rfl
      cases retryable : e.isRetryable <;>
        simp [isRetry, TokenAwareError.isRetryable, decryptable, retryable]

theorem undecryptable_retryable {error : TokenAwareError} (failing : undecryptable error = true) :
    error.isRetryable = true := by
  unfold undecryptable at failing
  split at failing
  · rfl
  · cases failing

theorem classifiedAlike_iff (error : TokenAwareError) :
    ClassifiedAlike error ↔ undecryptable error = false := by
  constructor
  · intro alike
    have agree := alike.worker "" ""
    rw [fromTokenAwareError_retry] at agree
    by_contra failing
    have failing : undecryptable error = true := Bool.of_not_eq_false failing
    simp [undecryptable_retryable failing, failing] at agree
  · intro decryptable
    have worker : ∀ retryCode terminalCode,
        isRetry (fromTokenAwareError error retryCode terminalCode) =
          error.isRetryable := by
      intro retryCode terminalCode
      rw [fromTokenAwareError_retry, decryptable, Bool.not_false, Bool.and_true]
    refine ⟨worker, publisherRetriesSoon_iff error, ?_, ?_⟩
    · rintro details rfl
      exact ⟨fun soon => Bool.false_ne_true ((publisherRetriesSoon_iff _).mp soon), worker⟩
    · rintro e rfl permanent
      simp [undecryptable, permanent] at decryptable

/-- Every helper keeps to one repetition after a 401, whatever provider and registries answer, and
the two consumers classify an error alike exactly when it is not a permanent decryption failure. -/
theorem registry_calls_are_retried_once {World : Type} (provider : TokenProvider World)
    (registry : RegistryFacade World) (statusRegistry : StatusRegistryFacade World) (world : World)
    (partnerId identifier entry entryId statusListJwt : String) (error : TokenAwareError) :
    (RetriedOnce (allocateDidWithRefresh provider registry partnerId world) ∧
      RetriedOnce (publishLogEntryWithRefresh provider registry partnerId identifier entry world) ∧
      RetriedOnce (createStatusListEntryWithRefresh provider statusRegistry partnerId world) ∧
      RetriedOnce
        (updateStatusListEntryWithRefresh provider statusRegistry partnerId entryId statusListJwt
          world) ∧
      ClassifiedAlike error) ↔
      undecryptable error = false := by
  rw [← classifiedAlike_iff]
  constructor
  · exact fun ⟨_, _, _, _, alike⟩ => alike
  · exact fun alike => ⟨retryOn401_retriedOnce .., retryOn401_retriedOnce ..,
      retryOn401_retriedOnce .., retryOn401_retriedOnce .., alike⟩

/-- A secret sealed under another key: the task fails, while the publisher comes back in a minute. -/
theorem tampered_secret_is_classified_differently :
    let error : TokenAwareError := .token (.persistence (.encryption .tampered))
    error.isRetryable = true ∧
      fromTokenAwareError error "registry_unavailable" "registry_rejected" =
        .terminal "credential_decryption_failed" "authentication tag verification failed" ∧
      publisherRetriesSoon error ∧ ¬ ClassifiedAlike error := by
  refine ⟨rfl, rfl, (publisherRetriesSoon_iff _).mpr rfl, ?_⟩
  intro alike
  exact absurd ((classifiedAlike_iff _).mp alike) (by decide)

end SwiyuIssuer.Worker
