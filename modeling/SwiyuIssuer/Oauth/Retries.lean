import SwiyuIssuer.Oauth.Grants
import SwiyuIssuer.Oauth.Registry

/-! The `*_with_refresh` helpers on the provider of a tenant, and the grants that they cause. -/

namespace SwiyuIssuer.Oauth

open Library Persistence

abbrev HelperId := Nat

/-- Where `retry_on_401!` stands between its awaits. An end without a result is a dropped call. -/
inductive Attempt
  | idle
  | getting
  | calling (token : String)
  | unauthorized (token : String)
  | invalidating (token : String)
  | recalling (token fresh : String)
  | ended (result : Option (Except TokenAwareError Unit))

structure Retries where
  provider : State
  attempt : HelperId → Attempt

/-- The two calls of the provider that a helper may make. -/
def getCall (h : HelperId) : CallerId := 2 * h

def invalidateCall (h : HelperId) : CallerId := 2 * h + 1

/-- `provider` is any other step at the provider, also one inside the call of a helper. -/
inductive RetryEvent
  | provider (event : Event)
  | get (h : HelperId) (now : DateTime)
  | got (h : HelperId)
  | respond (h : HelperId) (answer : Except RegistryError Unit)
  | invalidate (h : HelperId)
  | invalidated (h : HelperId)
  | drop (h : HelperId)

def RetryEvent.call : RetryEvent → Option Event
  | provider event => some event
  | get h now => some (.get (getCall h) now)
  | invalidate h => some (.invalidate (invalidateCall h))
  | got _ | respond _ _ | invalidated _ | drop _ => none

def calls (trace : List RetryEvent) : List Event := trace.filterMap RetryEvent.call

/-- The `?` on a call of the provider. -/
def Ended.attempt (resume : String → Attempt) : Ended → Attempt
  | returned (.ok token) => resume token
  | returned (.error e) => .ended (some (.error (.token e)))
  | cancelled | panicked => .ended none

/-- The `match` on the first answer of the registry. -/
def afterCall (token : String) : Except RegistryError Unit → Attempt
  | .ok value => .ended (some (.ok value))
  | .error error =>
      if error.kind = .httpStatus 401 then .unauthorized token
      else .ended (some (.error (.registry error)))

namespace Retries

variable (deployment : Deployment)

def goto (world : Retries) (h : HelperId) (attempt : Attempt) : Retries :=
  { world with attempt := Function.update world.attempt h attempt }

def starts (world : Retries) (h : HelperId) (event : Event) (attempt : Attempt) : Option Retries :=
  (next deployment world.provider event).map fun provider =>
    { world.goto h attempt with provider := provider }

def step (world : Retries) : RetryEvent → Option Retries
  | .provider event =>
      (next deployment world.provider event).map fun provider => { world with provider := provider }
  | .get h now =>
      match world.attempt h with
      | .idle => world.starts deployment h (.get (getCall h) now) .getting
      | _ => none
  | .got h =>
      match world.attempt h, world.provider.phase (getCall h) with
      | .getting, .finished ended => some (world.goto h (ended.attempt .calling))
      | _, _ => none
  | .respond h answer =>
      match world.attempt h with
      | .calling token => some (world.goto h (afterCall token answer))
      | .recalling _ _ => some (world.goto h (.ended (some (answer.mapError .registry))))
      | _ => none
  | .invalidate h =>
      match world.attempt h with
      | .unauthorized token =>
          world.starts deployment h (.invalidate (invalidateCall h)) (.invalidating token)
      | _ => none
  | .invalidated h =>
      match world.attempt h, world.provider.phase (invalidateCall h) with
      | .invalidating token, .finished ended =>
          some (world.goto h (ended.attempt (.recalling token)))
      | _, _ => none
  | .drop h => some (world.goto h (.ended none))

end Retries

section Steps

variable {deployment : Deployment} {world after : Retries} {event : RetryEvent}

end Steps

section Runs

variable {deployment : Deployment}

end Runs

section Sample

def requested (c : CallerId) (body : String) : List Event :=
  [.lock c, .recheck c 0, .begin c none, .select c {}, .send c,
    .receive c (.received 200 (.ok body))]

def stored (c : CallerId) : List Event :=
  [.encrypt c none, .update c none, .commit c .ok, .settle c 0]

def Attempt.refused : Attempt → Option String
  | unauthorized token => some token
  | _ => none

def overtakenTrace : List Event := [.invalidate 1] ++ stored 0 ++ [.lock 1, .recheck 1 0]

end Sample

end SwiyuIssuer.Oauth
