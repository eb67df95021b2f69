import SwiyuIssuer.Domain.OAuth2
import SwiyuIssuer.Library.RowLock
import SwiyuIssuer.Library.Run
import SwiyuIssuer.Persistence.Issuers

/-! The providers of one tenant on every replica, and the callers of `get` and `invalidate`, one
suspension point at a time. -/

namespace SwiyuIssuer.Oauth

open Library Persistence

abbrev CallerId := Nat

abbrev ReplicaId := Nat

/-- What the replicas have in common for the tenant, and which replica each caller runs on. -/
structure Deployment where
  tenantId : TenantId
  safetyMargin : Int
  codec : Codec
  home : CallerId → ReplicaId

structure CachedToken where
  access : String
  expiresAt : DateTime
deriving DecidableEq, Repr

inductive Ended
  | returned (answer : Except TokenProviderError String)
  | cancelled
  | panicked

/-- Where a call of `get` or `invalidate` stands: the local variables that are live there. -/
inductive Phase
  | idle
  | queued
  | locked
  | opening
  | begun
  | ready (creds : ValidatedCreds)
  | sent (creds : ValidatedCreds)
  | received (response : TokenResponse)
  | sealed (response : TokenResponse) (ciphertext : Ciphertext)
  | updated (response : TokenResponse)
  | committed (response : TokenResponse)
  | finished (ended : Ended)

namespace Phase

def inTransaction : Phase → Bool
  | ready _ | sent _ | received _ | sealed _ _ | updated _ => true
  | _ => false

/-- The response that was received and whose token is not committed yet. -/
def unsaved : Phase → Option TokenResponse
  | received response | sealed response _ | updated response => some response
  | _ => none

end Phase

/-- `history` has the refresh tokens that came into the tenant's hands, in order: those of success
responses and those that an operator imported; `response` is the place in it of the token that a
caller received. -/
structure State where
  tenant : Cell CallerId (Option TenantOauthRow)
  cached : ReplicaId → Option CachedToken
  refreshLock : ReplicaId → Option CallerId
  phase : CallerId → Phase
  history : List String
  response : CallerId → Option Nat

inductive Event
  | get (c : CallerId) (now : DateTime)
  | invalidate (c : CallerId)
  | lock (c : CallerId)
  | recheck (c : CallerId) (now : DateTime)
  | begin (c : CallerId) (fault : Option String)
  | select (c : CallerId) (faults : ReadFaults)
  | send (c : CallerId)
  | receive (c : CallerId) (answer : HttpAnswer)
  | encrypt (c : CallerId) (fault : Option SecretEncryptionError)
  | update (c : CallerId) (fault : Option String)
  | commit (c : CallerId) (answer : DbAnswer)
  | settle (c : CallerId) (now : DateTime)
  | cancel (c : CallerId)
  | sever (c : CallerId)
  | restart (r : ReplicaId)
  | insertTenant
  | setCredentials (clientId clientSecret : String)
  | importRefreshToken (token : String)

def Event.caller : Event → Option CallerId
  | get c _ | invalidate c | lock c | recheck c _ | begin c _ | select c _ | send c | receive c _
  | encrypt c _ | update c _ | commit c _ | settle c _ | cancel c | sever c => some c
  | restart _ | insertTenant | setCredentials .. | importRefreshToken _ => none

def refreshTokenOf (row : Option TenantOauthRow) : Option String :=
  (row.bind fun columns => columns.refreshToken).map fun ciphertext => ciphertext.plaintext

namespace State

def stored (state : State) : Option String := refreshTokenOf state.tenant.committed

def goto (state : State) (c : CallerId) (phase : Phase) : State :=
  { state with phase := Function.update state.phase c phase }

def finish (deployment : Deployment) (state : State) (c : CallerId) (ended : Ended) : State :=
  { state with
    tenant := state.tenant.rollback c
    refreshLock :=
      if state.refreshLock (deployment.home c) = some c then
        Function.update state.refreshLock (deployment.home c) none
      else state.refreshLock
    phase := Function.update state.phase c (.finished ended) }

def fail (deployment : Deployment) (state : State) (c : CallerId) (error : TokenProviderError) :
    State :=
  state.finish deployment c (.returned (.error error))

def dbError (deployment : Deployment) (state : State) (c : CallerId) (details : String) : State :=
  state.fail deployment c (.persistence (.db details))

def cachedAccess (deployment : Deployment) (state : State) (c : CallerId) (now : DateTime) :
    Option String :=
  match state.cached (deployment.home c) with
  | some token =>
      if isFresh deployment.safetyMargin token.expiresAt now then some token.access else none
  | none => none

/-- The transaction of `c` still has its connection, and with it the row lock. -/
def holds (state : State) (c : CallerId) : Bool := (state.tenant.pending c).isSome

def learn (state : State) (c : CallerId) (token : Option String) : State :=
  match token with
  | some token =>
      { state with
        history := state.history ++ [token]
        response := Function.update state.response c (some state.history.length) }
  | none => state

/-- A transaction of the operator's tool on the row: it waits for the lock, and commits. -/
def operate (state : State) (change : Option TenantOauthRow → Option TenantOauthRow)
    (history : List String) : Option State :=
  if state.tenant.writer.isSome then none
  else some { state with tenant := state.tenant.autocommit change, history := history }

end State

/-- What `refresh_and_cache` makes of the row that its `SELECT` locked. -/
def validate (tenantId : TenantId) (faults : ReadFaults) (row : TenantOauthRow) :
    Except TokenProviderError ValidatedCreds :=
  (readOauthCredentials tenantId faults row).mapError .persistence >>= fun creds =>
    ValidatedCreds.fromRow creds tenantId

section Steps

variable (deployment : Deployment)

def begin (state : State) (c : CallerId) (fault : Option String) : State :=
  match fault with
  | some details => state.dbError deployment c details
  | none => state.goto c .begun

/-- `read_oauth_credentials_for_update` and `from_row`. -/
def select (state : State) (c : CallerId) (faults : ReadFaults) : Option State :=
  match faults.query with
  | some details => some (state.dbError deployment c details)
  | none =>
      if state.tenant.free c then
        match state.tenant.read c with
        | none => some (state.fail deployment c (.missingCredentials
            ("tenant " ++ deployment.tenantId.display ++ " not found")))
        | some row =>
            match validate deployment.tenantId faults row with
            | .ok creds =>
                some { state.goto c (.ready creds) with tenant := state.tenant.update c id }
            | .error error => some (state.fail deployment c error)
      else none

def receive (state : State) (c : CallerId) (answer : HttpAnswer) : State :=
  let learned := state.learn c (carriedToken deployment.codec answer)
  match doRefreshGrant deployment.codec answer with
  | .ok response => learned.goto c (.received response)
  | .error error => learned.fail deployment c error

/-- The first half of `write_oauth_refresh_token`. -/
def encrypt (state : State) (c : CallerId) (response : TokenResponse)
    (fault : Option SecretEncryptionError) : State :=
  match fault with
  | some error => state.fail deployment c (.persistence (.encryption error))
  | none => state.goto c (.sealed response
      ⟨oauth2RefreshTokenKeyName deployment.tenantId, response.refreshToken⟩)

/-- The `UPDATE` of `write_oauth_refresh_token`, under the row lock that the `SELECT` took. -/
def update (state : State) (c : CallerId) (response : TokenResponse) (ciphertext : Ciphertext)
    (fault : Option String) : Option State :=
  match fault with
  | some details => some (state.dbError deployment c details)
  | none =>
      if state.holds c then
        match state.tenant.read c with
        | none => some (state.fail deployment c (.persistence .notFound))
        | some row =>
            let written := { row with refreshToken := some ciphertext }
            some { state.goto c (.updated response) with
              tenant := state.tenant.update c fun _ => some written }
      else none

def commit (state : State) (c : CallerId) (response : TokenResponse) (answer : DbAnswer) :
    Option State :=
  let applied := { state with tenant := state.tenant.commit c }
  match answer with
  | .failed details => some (state.dbError deployment c details)
  | .ok => if state.holds c then some (applied.goto c (.committed response)) else none
  | .lost details => if state.holds c then some (applied.dbError deployment c details) else none

def settle (state : State) (c : CallerId) (response : TokenResponse) (now : DateTime) : State :=
  match expiresAt now response.expiresIn with
  | none => state.finish deployment c .panicked
  | some expiresAt =>
      { state.finish deployment c (.returned (.ok response.accessToken)) with
        cached := Function.update state.cached (deployment.home c)
          (some ⟨response.accessToken, expiresAt⟩) }

def next (state : State) : Event → Option State
  | .get c now =>
      match state.phase c, state.cachedAccess deployment c now with
      | .idle, some access => some (state.finish deployment c (.returned (.ok access)))
      | .idle, none => some (state.goto c .queued)
      | _, _ => none
  | .invalidate c =>
      match state.phase c with
      | .idle => some { state.goto c .queued with
          cached := Function.update state.cached (deployment.home c) none }
      | _ => none
  | .lock c =>
      match state.phase c, state.refreshLock (deployment.home c) with
      | .queued, none => some { state.goto c .locked with
          refreshLock := Function.update state.refreshLock (deployment.home c) (some c) }
      | _, _ => none
  | .recheck c now =>
      match state.phase c, state.cachedAccess deployment c now with
      | .locked, some access => some (state.finish deployment c (.returned (.ok access)))
      | .locked, none => some (state.goto c .opening)
      | _, _ => none
  | .begin c fault =>
      match state.phase c with
      | .opening => some (begin deployment state c fault)
      | _ => none
  | .select c faults =>
      match state.phase c with
      | .begun => select deployment state c faults
      | _ => none
  | .send c =>
      match state.phase c with
      | .ready creds => some (state.goto c (.sent creds))
      | _ => none
  | .receive c answer =>
      match state.phase c with
      | .sent _ => some (receive deployment state c answer)
      | _ => none
  | .encrypt c fault =>
      match state.phase c with
      | .received response => some (encrypt deployment state c response fault)
      | _ => none
  | .update c fault =>
      match state.phase c with
      | .sealed response ciphertext => update deployment state c response ciphertext fault
      | _ => none
  | .commit c answer =>
      match state.phase c with
      | .updated response => commit deployment state c response answer
      | _ => none
  | .settle c now =>
      match state.phase c with
      | .committed response => some (settle deployment state c response now)
      | _ => none
  | .cancel c =>
      match state.phase c with
      | .idle | .finished _ => none
      | _ => some (state.finish deployment c .cancelled)
  | .sever c => some { state with tenant := state.tenant.rollback c }
  | .restart r => some { state with cached := Function.update state.cached r none }
  | .insertTenant =>
      match state.tenant.committed with
      | none => state.operate (fun _ => some ⟨none, none, none⟩) state.history
      | some _ => none
  | .setCredentials clientId clientSecret =>
      match state.tenant.committed with
      | none => none
      | some row =>
          let written := { row with
            clientId := some clientId
            clientSecret := some ⟨oauth2ClientSecretKeyName deployment.tenantId, clientSecret⟩ }
          state.operate (fun _ => some written) state.history
  | .importRefreshToken token =>
      match state.tenant.committed with
      | none => none
      | some row =>
          let written := { row with
            refreshToken := some ⟨oauth2RefreshTokenKeyName deployment.tenantId, token⟩ }
          state.operate (fun _ => some written) (state.history ++ [token])

end Steps

structure State.Initial (state : State) : Prop where
  unlocked : state.tenant.writer = none
  untaken : ∀ r, state.refreshLock r = none
  cold : ∀ r, state.cached r = none
  idle : ∀ c, state.phase c = .idle
  unanswered : ∀ c, state.response c = none
  known : state.history = state.stored.toList

end SwiyuIssuer.Oauth
