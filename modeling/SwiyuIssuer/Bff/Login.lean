import SwiyuIssuer.Bff.Sessions
import SwiyuIssuer.Library.Run
import SwiyuIssuer.Library.Text
import Mathlib.Logic.Function.Basic

/-! The login handshake: the pending logins, and the requests of any number of browsers, one step
between two awaited calls at a time. -/

namespace SwiyuIssuer.Bff

open Library

/-- A cookie jar, and with it the session that its cookie names. -/
abbrev Browser := Nat

abbrev RequestId := Nat

/-- Nanoseconds of the monotonic clock. -/
abbrev Instant := Nat

def pendingLoginTtl : Nat := 600 * 10 ^ 9

structure PendingLogin where
  nonce : String
  pkceVerifier : String
  returnTo : String
  createdAt : Instant
deriving DecidableEq, Repr

/-- What `begin_login` draws. -/
structure LoginSecrets where
  state : String
  nonce : String
  pkceVerifier : String

def sanitizeReturnTo (raw : Option String) : String :=
  match raw with
  | some path =>
      match path.toList with
      | '/' :: '/' :: _ => "/"
      | '/' :: _ => path
      | _ => "/"
  | none => "/"

/-- A character whose UTF-8 bytes are allowed in a header value. -/
def isHeaderChar (c : Char) : Bool := (32 ≤ c.toNat && c.toNat != 127) || c == '\t'

/-- The `Location` of `Redirect::to`, which answers 500 where the text makes no header value. -/
def redirectTo (uri : String) : Option String :=
  if uri.toList.all isHeaderChar then some uri else none

structure CallbackQuery where
  code : Option String
  state : Option String
  error : Option String
  errorDescription : Option String

inductive LoginError
  | exchange (details : String)
  | noIdToken
  | idToken (details : String)
deriving DecidableEq, Repr

structure VerifiedUser where
  iss : String
  sub : String
  accessToken : String
  refreshToken : Option String
  idToken : String
  accessExpiryUnix : Int
deriving DecidableEq, Repr

/-- A callback that has taken its pending login. -/
structure Callback where
  browser : Browser
  state : String
  pending : PendingLogin
deriving DecidableEq, Repr

/-- Where a callback request stands. `failed` redirects to `/login` with the code; `responding` has
a session that is to be saved with its response. -/
inductive Request
  | idle
  | taken (callback : Callback) (code : String)
  | verified (callback : Callback) (user : VerifiedUser)
  | resolved (callback : Callback) (data : SessionData)
  | responding (callback : Callback) (data : SessionData)
  | failed (code : String)
  | serverError
  | loggedIn (returnTo : String)
  | dropped
deriving DecidableEq, Repr

def Request.callback : Request → Option Callback
  | .taken callback _ | .verified callback _ | .resolved callback _
  | .responding callback _ => some callback
  | _ => none

structure Started where
  state : String
  browser : Browser
  at_ : Instant
deriving DecidableEq, Repr

/-- A session that a callback has written. -/
structure Completion where
  request : RequestId
  state : String
  browser : Browser
  at_ : Instant
  data : SessionData
deriving DecidableEq, Repr

/-- `started` and `completions` are a history that no handler reads, the latest first. -/
structure World where
  clock : Instant
  pending : String → Option PendingLogin
  sessions : Browser → Option SessionData
  requests : RequestId → Request
  started : List Started
  completions : List Completion

inductive Event
  | tick (elapsed : Nat)
  | login (browser : Browser) (returnTo : Option String) (secrets : LoginSecrets)
  | callback (request : RequestId) (browser : Browser) (query : CallbackQuery)
  | completeLogin (request : RequestId) (answer : Except LoginError VerifiedUser)
  | resolveAccounts (request : RequestId) (answer : Except String Json) (nowUnix : Int)
  | insert (request : RequestId) (inserted : Except String Unit)
  | finish (request : RequestId) (saved : Except String Unit)
  | drop (request : RequestId)
  | sweep

def sessionOf (user : VerifiedUser) (accounts : List SessionAccount) (selected : SessionAccount)
    (nowUnix : Int) : SessionData where
  iss := user.iss
  sub := user.sub
  kcAccessToken := user.accessToken
  kcRefreshToken := user.refreshToken.getD ""
  kcIdToken := user.idToken
  kcAccessExpiryUnix := user.accessExpiryUnix
  loggedInAtUnix := nowUnix
  accounts := accounts
  selectedAccountId := selected.id

namespace World

variable (world : World)

def goto (request : RequestId) (next : Request) : World :=
  { world with requests := Function.update world.requests request next }

/-- The state is drawn at random: it is not one that was drawn before. -/
def loginStep (browser : Browser) (returnTo : Option String) (secrets : LoginSecrets) :
    Option World :=
  if secrets.state ∈ world.started.map Started.state then none
  else some { world with
    pending := Function.update world.pending secrets.state (some
      ⟨secrets.nonce, secrets.pkceVerifier, sanitizeReturnTo returnTo, world.clock⟩)
    started := ⟨secrets.state, browser, world.clock⟩ :: world.started }

def callbackStep (request : RequestId) (browser : Browser) (query : CallbackQuery) :
    Option World :=
  match world.requests request with
  | .idle =>
      match query.error, query.code, query.state with
      | some _, _, _ => some (world.goto request (.failed "idp"))
      | none, some code, some state =>
          match world.pending state with
          | none => some (world.goto request (.failed "state"))
          | some pending => some ({ world with
              pending := Function.update world.pending state none }.goto request
                (.taken ⟨browser, state, pending⟩ code))
      | none, _, _ => some (world.goto request (.failed "state"))
  | _ => none

def completeLoginStep (request : RequestId) (answer : Except LoginError VerifiedUser) :
    Option World :=
  match world.requests request with
  | .taken callback _ =>
      match answer with
      | .error _ => some (world.goto request (.failed "idp"))
      | .ok user => some (world.goto request (.verified callback user))
  | _ => none

def resolveAccountsStep (request : RequestId) (answer : Except String Json) (nowUnix : Int) :
    Option World :=
  match world.requests request with
  | .verified callback user =>
      match answer with
      | .error _ => some (world.goto request (.failed "unavailable"))
      | .ok resolved =>
          match activeAccounts resolved with
          | [] => some (world.goto request (.failed "no_access"))
          | first :: rest => some (world.goto request
              (.resolved callback (sessionOf user (first :: rest) first nowUnix)))
  | _ => none

def insertStep (request : RequestId) (inserted : Except String Unit) : Option World :=
  match world.requests request with
  | .resolved callback data =>
      match inserted with
      | .error _ => some (world.goto request (.failed "unavailable"))
      | .ok () => some (world.goto request (.responding callback data))
  | _ => none

def complete (request : RequestId) (callback : Callback) (data : SessionData) : World :=
  { world with
    sessions := Function.update world.sessions callback.browser (some data)
    completions := ⟨request, callback.state, callback.browser, world.clock, data⟩ ::
      world.completions }

/-- The session layer saves a modified session, unless the response is a server error. -/
def finishStep (request : RequestId) (saved : Except String Unit) : Option World :=
  match world.requests request with
  | .responding callback data =>
      match redirectTo callback.pending.returnTo, saved with
      | some _, .ok () => some ((world.complete request callback data).goto request
          (.loggedIn callback.pending.returnTo))
      | _, _ => some (world.goto request .serverError)
  | _ => none

/-- The connection is gone while the handler waits. -/
def dropStep (request : RequestId) : Option World :=
  if (world.requests request).callback.isSome then some (world.goto request .dropped) else none

def sweep : World :=
  { world with pending := fun state =>
      (world.pending state).filter fun login => world.clock - login.createdAt < pendingLoginTtl }

def next : Event → Option World
  | .tick elapsed => some { world with clock := world.clock + elapsed }
  | .login browser returnTo secrets => world.loginStep browser returnTo secrets
  | .callback request browser query => world.callbackStep request browser query
  | .completeLogin request answer => world.completeLoginStep request answer
  | .resolveAccounts request answer nowUnix => world.resolveAccountsStep request answer nowUnix
  | .insert request inserted => world.insertStep request inserted
  | .finish request saved => world.finishStep request saved
  | .drop request => world.dropStep request
  | .sweep => some world.sweep

structure Initial : Prop where
  pending : ∀ state, world.pending state = none
  requests : ∀ request, world.requests request = .idle
  started : world.started = []
  completions : world.completions = []

end World

end SwiyuIssuer.Bff
