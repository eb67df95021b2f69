import SwiyuIssuer.Oauth.Provider

/-! What a step does to the row of the tenant and to the refresh tokens that came in. -/

namespace SwiyuIssuer.Oauth

open Library Persistence

/-- The part of a state that the chain is about. -/
structure Ledger where
  tenant : Cell CallerId (Option TenantOauthRow)
  phase : CallerId → Phase
  history : List String
  response : CallerId → Option Nat

def State.ledger (state : State) : Ledger where
  tenant := state.tenant
  phase := state.phase
  history := state.history
  response := state.response

@[simp] theorem State.ledger_phase (state : State) : state.ledger.phase = state.phase := rfl

namespace Ledger

def stored (ledger : Ledger) : Option String := refreshTokenOf ledger.tenant.committed

/-- A call goes on, and its statement leaves the row as `tenant`. -/
def goto (ledger : Ledger) (c : CallerId) (phase : Phase)
    (tenant : Cell CallerId (Option TenantOauthRow)) : Ledger where
  tenant := tenant
  phase := Function.update ledger.phase c phase
  history := ledger.history
  response := ledger.response

def receive (ledger : Ledger) (c : CallerId) (response : TokenResponse) : Ledger where
  tenant := ledger.tenant
  phase := Function.update ledger.phase c (.received response)
  history := ledger.history ++ [response.refreshToken]
  response := Function.update ledger.response c (some ledger.history.length)

def operate (ledger : Ledger) (row : Option TenantOauthRow) (tokens : List String) : Ledger where
  tenant := Cell.clean row
  phase := ledger.phase
  history := ledger.history ++ tokens
  response := ledger.response

end Ledger

/-- After a success response of the token endpoint the refresh is not given up: the response arrives
whole and decodes, its token is encrypted, written and committed, and the call is not cancelled; no
refresh loses its connection; and the date at which the access token elapses exists. -/
def careful (deployment : Deployment) (state : State) : Event → Bool
  | .receive _ answer =>
      !answer.isSuccess || (doRefreshGrant deployment.codec answer).isOk
  | .encrypt _ fault => fault.isNone
  | .update _ fault => fault.isNone
  | .commit _ (.failed _) => false
  | .settle c now =>
      match state.phase c with
      | .committed response => datable now response.expiresIn
      | _ => true
  | .cancel c => (state.phase c).unsaved.isNone
  | .sever c => !(state.phase c).inTransaction
  | _ => true

/-- What a careful step does to the chain. -/
inductive Effect (ledger : Ledger) : Ledger → Prop
  | aside : Effect ledger ledger
  | walked (c : CallerId) (phase : Phase) : (ledger.phase c).inTransaction = false →
      phase.inTransaction = false → phase ≠ .finished .panicked →
      Effect ledger (ledger.goto c phase ledger.tenant)
  | left (c : CallerId) (ended : Ended) : (ledger.phase c).unsaved = none →
      ended ≠ .panicked →
      Effect ledger (ledger.goto c (.finished ended) (ledger.tenant.rollback c))
  | selected (c : CallerId) (row : TenantOauthRow) (creds : ValidatedCreds) :
      (ledger.phase c).inTransaction = false → ledger.tenant.free c = true →
      ledger.tenant.read c = some row →
      refreshTokenOf (some row) = some creds.refreshToken →
      Effect ledger (ledger.goto c (.ready creds) (ledger.tenant.update c id))
  | sent (c : CallerId) (creds : ValidatedCreds) : ledger.phase c = .ready creds →
      Effect ledger (ledger.goto c (.sent creds) ledger.tenant)
  | received (c : CallerId) (creds : ValidatedCreds) (response : TokenResponse) :
      ledger.phase c = .sent creds →
      Effect ledger (ledger.receive c response)
  | encrypted (c : CallerId) (response : TokenResponse) (keyName : String) :
      ledger.phase c = .received response →
      Effect ledger (ledger.goto c (.sealed response ⟨keyName, response.refreshToken⟩) ledger.tenant)
  | updated (c : CallerId) (response : TokenResponse) (ciphertext : Ciphertext)
      (row : TenantOauthRow) : ledger.phase c = .sealed response ciphertext →
      (ledger.tenant.pending c).isSome = true → row.refreshToken = some ciphertext →
      Effect ledger (ledger.goto c (.updated response) (ledger.tenant.update c fun _ => some row))
  | vanished (c : CallerId) (response : TokenResponse) (ciphertext : Ciphertext) (after : Ledger) :
      ledger.phase c = .sealed response ciphertext → ledger.tenant.read c = none →
      Effect ledger after
  | committed (c : CallerId) (response : TokenResponse) (phase : Phase) :
      ledger.phase c = .updated response → phase.inTransaction = false →
      phase ≠ .finished .panicked →
      Effect ledger (ledger.goto c phase (ledger.tenant.commit c))
  | severed (c : CallerId) : (ledger.phase c).inTransaction = false →
      Effect ledger { ledger with tenant := ledger.tenant.rollback c }
  | operated (row : Option TenantOauthRow) (tokens : List String) :
      ledger.tenant.writer = none →
      (tokens = [] ∧ refreshTokenOf row = ledger.stored ∨
        ∃ token, tokens = [token] ∧ refreshTokenOf row = some token) →
      Effect ledger (ledger.operate row tokens)

section Effects

variable {deployment : Deployment} {state after : State}

theorem fail_left {c : CallerId} (error : TokenProviderError)
    (nothing : (state.phase c).unsaved = none) :
    Effect state.ledger (state.fail deployment c error).ledger :=
  .left c (.returned (.error error)) nothing (by simp)

theorem validate_ok {tenantId : TenantId} {faults : ReadFaults} {row : TenantOauthRow}
    {creds : ValidatedCreds} (valid : validate tenantId faults row = .ok creds) :
    refreshTokenOf (some row) = some creds.refreshToken := by
  rcases Answers.bind_ok.mp valid with ⟨read, opened, validated⟩
  have stored := validated_refreshToken (Answers.mapError_ok.mp opened) validated
  simp [refreshTokenOf, stored]

theorem select_effect {c : CallerId} {faults : ReadFaults}
    (begun : state.phase c = .begun)
    (selected : select deployment state c faults = some after) :
    Effect state.ledger after.ledger := by
  have nothing : (state.phase c).unsaved = none := by rw [begun]; rfl
  have outside : (state.phase c).inTransaction = false := by rw [begun]; rfl
  unfold select at selected
  split at selected
  · cases selected
    exact fail_left _ nothing
  · split at selected
    · next free =>
        split at selected
        · cases selected
          exact fail_left _ nothing
        · next row found =>
            split at selected
            · next creds valid =>
                cases selected
                exact .selected c row creds outside free found (validate_ok valid)
            · cases selected
              exact fail_left _ nothing
    · cases selected

theorem receive_effect {c : CallerId} {creds : ValidatedCreds} {answer : HttpAnswer}
    (sent : state.phase c = .sent creds)
    (kept : careful deployment state (.receive c answer) = true) :
    Effect state.ledger (receive deployment state c answer).ledger := by
  unfold receive
  split
  · next response granted =>
      rw [carriedToken_of_grant granted]
      exact .received c creds response sent
  · next error granted =>
      have failed : answer.isSuccess = false := by
        simpa [careful, granted, Except.isOk, Except.toBool] using kept
      rw [carriedToken_failed failed]
      exact fail_left error (by rw [sent]; rfl)

theorem update_effect {c : CallerId} {response : TokenResponse} {ciphertext : Ciphertext}
    (sealed : state.phase c = .sealed response ciphertext)
    (updated : update deployment state c response ciphertext none = some after) :
    Effect state.ledger after.ledger := by
  simp only [update] at updated
  split at updated
  · next holds =>
      split at updated
      · next missing => exact .vanished c response ciphertext _ sealed missing
      · next row found =>
          cases updated
          exact .updated c response ciphertext { row with refreshToken := some ciphertext } sealed
            holds rfl
  · cases updated

theorem commit_effect {c : CallerId} {response : TokenResponse} {answer : DbAnswer}
    (updated : state.phase c = .updated response)
    (kept : careful deployment state (.commit c answer) = true)
    (committed : commit deployment state c response answer = some after) :
    Effect state.ledger after.ledger := by
  cases answer with
  | failed details => cases kept
  | ok =>
      simp only [commit] at committed
      split at committed
      · cases committed
        exact .committed c response (.committed response) updated rfl (by simp)
      · cases committed
  | lost details =>
      simp only [commit] at committed
      split at committed
      · cases committed
        have same : (({ state with tenant := state.tenant.commit c } : State).dbError deployment c
            details).ledger = state.ledger.goto c
              (.finished (.returned (.error (.persistence (.db details))))) (state.tenant.commit c) := by
          simp [State.dbError, State.fail, State.finish, State.ledger, Ledger.goto,
            Cell.rollback_commit]
        rw [same]
        exact .committed c response _ updated rfl (by simp)
      · cases committed

theorem settle_effect {c : CallerId} {response : TokenResponse} {now : DateTime}
    (committed : state.phase c = .committed response)
    (kept : careful deployment state (.settle c now) = true) :
    Effect state.ledger (settle deployment state c response now).ledger := by
  have nothing : (state.phase c).unsaved = none := by rw [committed]; rfl
  have exists_ : expiresAt now response.expiresIn = some (now + seconds response.expiresIn) := by
    rw [careful, committed] at kept
    exact if_pos kept
  rw [settle, exists_]
  exact .left c (.returned (.ok response.accessToken)) nothing (by simp)

theorem operate_effect {change : Option TenantOauthRow → Option TenantOauthRow}
    {history tokens : List String} (learned : history = state.history ++ tokens)
    (known : tokens = [] ∧ refreshTokenOf (change state.tenant.committed) = state.stored ∨
      ∃ token, tokens = [token] ∧
        refreshTokenOf (change state.tenant.committed) = some token)
    (operated : state.operate change history = some after) :
    Effect state.ledger after.ledger := by
  subst learned
  unfold State.operate at operated
  split at operated
  · cases operated
  · next unlocked =>
      cases operated
      exact .operated _ tokens (by simpa [State.ledger] using unlocked) known

/-- Every careful step has one of the effects. -/
theorem careful_effect {event : Event}
    (taken : Guarded (fun state event => careful deployment state event = true)
      (Steps (next deployment)) state event after) : Effect state.ledger after.ledger := by
  rcases taken with ⟨kept, taken⟩
  unfold Steps at taken
  cases event with
  | get c now =>
      simp only [next] at taken
      split at taken
      · next access idle _ =>
          cases taken
          exact .left c (.returned (.ok access)) (by simp [idle, Phase.unsaved])
            (by simp)
      · next idle _ =>
          cases taken
          exact .walked c .queued (by simp [idle, Phase.inTransaction]) rfl (by simp)
      · cases taken
  | invalidate c =>
      simp only [next] at taken
      split at taken
      · next idle =>
          cases taken
          exact .walked c .queued (by simp [idle, Phase.inTransaction]) rfl (by simp)
      · cases taken
  | lock c =>
      simp only [next] at taken
      split at taken
      · next queued _ =>
          cases taken
          exact .walked c .locked (by simp [queued, Phase.inTransaction]) rfl (by simp)
      · cases taken
  | recheck c now =>
      simp only [next] at taken
      split at taken
      · next access locked _ =>
          cases taken
          exact .left c (.returned (.ok access)) (by simp [locked, Phase.unsaved])
            (by simp)
      · next locked _ =>
          cases taken
          exact .walked c .opening (by simp [locked, Phase.inTransaction]) rfl
            (by simp)
      · cases taken
  | begin c fault =>
      simp only [next] at taken
      split at taken
      · next opening =>
          cases taken
          cases fault with
          | some details => exact fail_left _ (by simp [opening, Phase.unsaved])
          | none =>
              exact .walked c .begun (by simp [opening, Phase.inTransaction]) rfl
                (by simp)
      · cases taken
  | select c faults =>
      simp only [next] at taken
      split at taken
      · next begun => exact select_effect begun taken
      · cases taken
  | send c =>
      simp only [next] at taken
      split at taken
      · next creds ready =>
          cases taken
          exact .sent c creds ready
      · cases taken
  | receive c answer =>
      simp only [next] at taken
      split at taken
      · next creds sent =>
          cases taken
          exact receive_effect sent kept
      · cases taken
  | encrypt c fault =>
      simp only [next] at taken
      split at taken
      · next response received =>
          cases taken
          cases fault with
          | some error => cases kept
          | none => exact .encrypted c response _ received
      · cases taken
  | update c fault =>
      simp only [next] at taken
      split at taken
      · next response ciphertext sealed =>
          cases fault with
          | some details => cases kept
          | none => exact update_effect sealed taken
      · cases taken
  | commit c answer =>
      simp only [next] at taken
      split at taken
      · next response updated => exact commit_effect updated kept taken
      · cases taken
  | settle c now =>
      simp only [next] at taken
      split at taken
      · next response committed =>
          cases taken
          exact settle_effect committed kept
      · cases taken
  | cancel c =>
      simp only [next] at taken
      split at taken
      · cases taken
      · cases taken
      · cases taken
        exact .left c .cancelled (by simpa [careful] using kept) (by simp)
  | sever c =>
      cases taken
      exact .severed c (by simpa [careful] using kept)
  | restart r =>
      cases taken
      exact .aside
  | insertTenant =>
      simp only [next] at taken
      split at taken
      · next absent =>
          refine operate_effect (List.append_nil _).symm (.inl ⟨rfl, ?_⟩) taken
          simp [State.stored, absent, refreshTokenOf]
      · cases taken
  | setCredentials clientId clientSecret =>
      simp only [next] at taken
      split at taken
      · cases taken
      · next row present =>
          refine operate_effect (List.append_nil _).symm (.inl ⟨rfl, ?_⟩) taken
          simp [State.stored, present, refreshTokenOf]
  | importRefreshToken token =>
      simp only [next] at taken
      split at taken
      · cases taken
      · next row present =>
          exact operate_effect rfl (.inr ⟨token, rfl, rfl⟩) taken

end Effects

/-- What a step of a caller does to the row of the tenant. -/
inductive TenantMove (c : CallerId) (tenant : Cell CallerId (Option TenantOauthRow)) :
    Cell CallerId (Option TenantOauthRow) → Prop
  | aside : TenantMove c tenant tenant
  | dropped : TenantMove c tenant (tenant.rollback c)
  | locked (free : tenant.free c = true) : TenantMove c tenant (tenant.update c id)
  | rotated (row : TenantOauthRow) (ciphertext : Ciphertext) (free : tenant.free c = true)
      (read : tenant.read c = some row) :
      TenantMove c tenant
        (tenant.update c fun _ => some { row with refreshToken := some ciphertext })
  | committed : TenantMove c tenant (tenant.commit c)

/-- A step of `c` leaves the other calls where they are, and a call never gets back to where none has
begun. -/
structure Moved (c : CallerId) (state after : State) : Prop where
  tenant : TenantMove c state.tenant after.tenant
  others : ∀ d, d ≠ c → after.phase d = state.phase d
  idle : after.phase c = .idle →
    state.phase c = .idle ∧ after.tenant = state.tenant.rollback c

section Moves

variable {deployment : Deployment} {state after : State} {c : CallerId}

theorem moved_to (phase : Phase) (tenant : TenantMove c state.tenant after.tenant)
    (phases : after.phase = Function.update state.phase c phase) (busy : phase ≠ .idle) :
    Moved c state after := by
  refine ⟨tenant, ?_, ?_⟩
  · intro d other
    rw [phases, Function.update_of_ne other]
  · intro idle
    rw [phases, Function.update_self] at idle
    exact absurd idle busy

theorem fail_moved (error : TokenProviderError) : Moved c state (state.fail deployment c error) :=
  moved_to (.finished (.returned (.error error))) .dropped rfl (by simp)

theorem select_moved {faults : ReadFaults} (selected : select deployment state c faults = some after) :
    Moved c state after := by
  unfold select at selected
  split at selected
  · cases selected
    exact fail_moved _
  · split at selected
    · next free =>
        split at selected
        · cases selected
          exact fail_moved _
        · split at selected
          · next creds valid =>
              cases selected
              exact moved_to (.ready creds) (.locked free) rfl (by simp)
          · cases selected
            exact fail_moved _
    · cases selected

theorem learn_fields (state : State) (token : Option String) :
    (state.learn c token).tenant = state.tenant ∧ (state.learn c token).phase = state.phase := by
  cases token <;> exact ⟨rfl, rfl⟩

theorem receive_moved (answer : HttpAnswer) : Moved c state (receive deployment state c answer) := by
  unfold receive
  split
  · next response granted =>
      rw [carriedToken_of_grant granted]
      exact moved_to (.received response) .aside rfl (by simp)
  · next error granted =>
      have kept := learn_fields (c := c) state (carriedToken deployment.codec answer)
      have left : Moved c (state.learn c (carriedToken deployment.codec answer))
          ((state.learn c (carriedToken deployment.codec answer)).fail deployment c error) :=
        fail_moved error
      exact ⟨kept.1 ▸ left.tenant, fun d other => (left.others d other).trans (congrFun kept.2 d),
        fun idle => kept.1 ▸ kept.2 ▸ left.idle idle⟩

theorem update_moved {response : TokenResponse} {ciphertext : Ciphertext} {fault : Option String}
    (updated : update deployment state c response ciphertext fault = some after) :
    Moved c state after := by
  unfold update at updated
  split at updated
  · cases updated
    exact fail_moved _
  · split at updated
    · next holds =>
        rcases Option.isSome_iff_exists.mp holds with ⟨version, held⟩
        split at updated
        · cases updated
          exact fail_moved _
        · next row found =>
            cases updated
            exact moved_to (.updated response) (.rotated row ciphertext (Cell.free_pending held) found)
              rfl (by simp)
    · cases updated

theorem commit_moved {response : TokenResponse} {answer : DbAnswer}
    (committed : commit deployment state c response answer = some after) : Moved c state after := by
  unfold commit at committed
  cases answer with
  | failed details =>
      cases committed
      exact fail_moved _
  | ok =>
      dsimp only at committed
      split at committed
      · cases committed
        exact moved_to (.committed response) .committed rfl (by simp)
      · cases committed
  | lost details =>
      dsimp only at committed
      split at committed
      · cases committed
        refine moved_to (.finished (.returned (.error (.persistence (.db details))))) ?_ rfl (by simp)
        show TenantMove c state.tenant ((state.tenant.commit c).rollback c)
        rw [Cell.rollback_commit]
        exact .committed
      · cases committed

theorem settle_moved (response : TokenResponse) (now : DateTime) :
    Moved c state (settle deployment state c response now) := by
  unfold settle
  split
  · exact moved_to (.finished .panicked) .dropped rfl (by simp)
  · exact moved_to (.finished (.returned (.ok response.accessToken))) .dropped rfl (by simp)

/-- Every step of a caller. -/
theorem caller_moved {event : Event} (caller : event.caller = some c)
    (taken : next deployment state event = some after) : Moved c state after := by
  cases event with
  | restart | insertTenant | setCredentials | importRefreshToken => cases caller
  | sever d =>
      cases caller
      cases taken
      exact ⟨.dropped, fun _ _ => rfl, fun idle => ⟨idle, rfl⟩⟩
  | get d now =>
      cases caller
      simp only [next] at taken
      split at taken
      · cases taken
        exact moved_to (.finished _) .dropped rfl (by simp)
      · cases taken
        exact moved_to .queued .aside rfl (by simp)
      · cases taken
  | invalidate d =>
      cases caller
      simp only [next] at taken
      split at taken
      · cases taken
        exact moved_to .queued .aside rfl (by simp)
      · cases taken
  | lock d =>
      cases caller
      simp only [next] at taken
      split at taken
      · cases taken
        exact moved_to .locked .aside rfl (by simp)
      · cases taken
  | recheck d now =>
      cases caller
      simp only [next] at taken
      split at taken
      · cases taken
        exact moved_to (.finished _) .dropped rfl (by simp)
      · cases taken
        exact moved_to .opening .aside rfl (by simp)
      · cases taken
  | begin d fault =>
      cases caller
      simp only [next] at taken
      split at taken
      · cases taken
        cases fault with
        | some details => exact fail_moved _
        | none => exact moved_to .begun .aside rfl (by simp)
      · cases taken
  | select d faults =>
      cases caller
      simp only [next] at taken
      split at taken
      · exact select_moved taken
      · cases taken
  | send d =>
      cases caller
      simp only [next] at taken
      split at taken
      · next creds ready =>
          cases taken
          exact moved_to (.sent creds) .aside rfl (by simp)
      · cases taken
  | receive d answer =>
      cases caller
      simp only [next] at taken
      split at taken
      · cases taken
        exact receive_moved answer
      · cases taken
  | encrypt d fault =>
      cases caller
      simp only [next] at taken
      split at taken
      · next response received =>
          cases taken
          cases fault with
          | some error => exact fail_moved _
          | none => exact moved_to (.sealed response _) .aside rfl (by simp)
      · cases taken
  | update d fault =>
      cases caller
      simp only [next] at taken
      split at taken
      · exact update_moved taken
      · cases taken
  | commit d answer =>
      cases caller
      simp only [next] at taken
      split at taken
      · exact commit_moved taken
      · cases taken
  | settle d now =>
      cases caller
      simp only [next] at taken
      split at taken
      · next response committed =>
          cases taken
          exact settle_moved response now
      · cases taken
  | cancel d =>
      cases caller
      simp only [next] at taken
      split at taken
      · cases taken
      · cases taken
      · cases taken
        exact moved_to (.finished .cancelled) .dropped rfl (by simp)

end Moves

end SwiyuIssuer.Oauth
