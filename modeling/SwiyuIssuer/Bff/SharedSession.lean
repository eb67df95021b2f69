import SwiyuIssuer.Bff.Sessions
import SwiyuIssuer.Library.Run
import Mathlib.Logic.Function.Basic

/-! One session under any number of guarded and `select-account` requests, and the realm that
rotates its refresh tokens. -/

namespace SwiyuIssuer.Bff.SharedSession

open Library

abbrev RequestId := Nat

structure Tokens where
  access : String
  refresh : String
deriving DecidableEq, Repr

def tokens (data : SessionData) : Tokens := ⟨data.kcAccessToken, data.kcRefreshToken⟩

def safetyMarginSecs : Int := 30

def renewed (data : SessionData) (granted : Tokens) (expiresIn nowUnix : Int) : SessionData :=
  { data with
    kcAccessToken := granted.access
    kcRefreshToken := granted.refresh
    kcAccessExpiryUnix := nowUnix + (expiresIn - safetyMarginSecs) }

/-- The record that the session layer has loaded for a request. It is saved after the response. -/
structure Session where
  record : SessionData
  modified : Bool
deriving DecidableEq, Repr

def Session.load (data : SessionData) : Session := ⟨data, false⟩

/-- A value that the record has already is no modification. -/
def Session.insert (session : Session) (data : SessionData) : Session :=
  if session.record = data then session else ⟨data, true⟩

def Session.unsaved (session : Session) : Option SessionData :=
  if session.modified then some session.record else none

/-- `handled` is the response of a guarded handler, by its status. -/
inductive Answer
  | handled (status : Nat)
  | selected (account : SessionAccount)
  | unauthenticated
  | badRequest
  | gatewayError
  | internalError
deriving DecidableEq, Repr

def isServerError (status : Nat) : Bool := decide (500 ≤ status ∧ status < 600)

def Answer.isServerError : Answer → Bool
  | .handled status => SharedSession.isServerError status
  | .gatewayError | .internalError => true
  | .selected _ | .unauthenticated | .badRequest => false

def Answer.isSelection : Answer → Bool
  | .selected _ => true
  | _ => false

/-- The layer saves what a handler has modified, unless the response is a server error. -/
def Session.saves (session : Session) (answer : Answer) : Bool :=
  session.modified && !answer.isServerError

/-- Where a request stands, with its copies of the session. -/
inductive Request
  | idle
  | refreshing (loaded : SessionData)
  | refreshed (loaded data : SessionData)
  | exchanging (session : Session)
  | authorized (session : Session) (accountId : String)
  | selecting (loaded data : SessionData)
  | responding (session : Session) (answer : Answer)
  | answered (answer : Answer)
  | dropped
deriving DecidableEq, Repr

namespace Request

def copies : Request → List SessionData
  | refreshing loaded => [loaded]
  | refreshed loaded data | selecting loaded data => [loaded, data]
  | exchanging session | authorized session _ | responding session _ => [session.record]
  | idle | answered _ | dropped => []

def unsaved : Request → Option SessionData
  | refreshed loaded data => ((Session.load loaded).insert data).unsaved
  | exchanging session | authorized session _ => session.unsaved
  | responding session answer =>
      if session.saves answer && !answer.isSelection then some session.record else none
  | idle | refreshing _ | selecting .. | answered _ | dropped => none

def isOpen : Request → Bool
  | idle | answered _ | dropped => false
  | _ => true

end Request

/-- What becomes of a `refresh_token` grant with a live token: answered, or executed without the
answer getting through. `unreached` is a grant that the realm never saw. -/
inductive GrantAnswer
  | issued (granted : Tokens) (expiresIn : Int)
  | lost (granted : Tokens)
  | unreached

/-- `live` is the only pair whose refresh token the realm takes. The last four are a history that no
handler reads: every pair issued, the access tokens for which a grant was made, the requests that the
realm turned away, and the selection of the last `select-account` that was saved. -/
structure World where
  clock : Int
  stored : SessionData
  live : Tokens
  requests : RequestId → Request
  issued : List Tokens
  calls : List String
  rejected : List RequestId
  chosen : String

inductive Event
  | tick (elapsed : Nat)
  | readSession (request : RequestId)
  | refresh (request : RequestId) (answer : GrantAnswer)
  | insertRefreshed (request : RequestId) (inserted : Except String Unit)
  | exchange (request : RequestId) (answer : Except String String)
  | respond (request : RequestId) (status : Nat)
  | readForSelection (request : RequestId) (accountId : String)
  | insertSelection (request : RequestId) (inserted : Except String Unit)
  | finish (request : RequestId) (saved : Except String Unit)
  | drop (request : RequestId)

namespace World

section Steps

variable (absoluteTimeoutSecs : Int) (world : World)

def goto (request : RequestId) (next : Request) : World :=
  { world with requests := Function.update world.requests request next }

/-- `require_session`, and `UserAuth` up to its first awaited call: a request loads the session
once. -/
def readSessionStep (request : RequestId) : Option World :=
  match world.requests request with
  | .idle =>
      let data := world.stored
      if data.isLive world.clock absoluteTimeoutSecs && data.selected.isSome then
        if data.kcAccessExpiryUnix ≤ world.clock then some (world.goto request (.refreshing data))
        else some (world.goto request (.exchanging (.load data)))
      else some (world.goto request (.responding (.load data) .unauthenticated))
  | _ => none

/-- The pair is drawn by the realm: it is not one that was issued before. -/
def IsNew (granted : Tokens) : Prop :=
  granted.access ∉ world.issued.map Tokens.access ∧
    granted.refresh ∉ world.issued.map Tokens.refresh

instance (granted : Tokens) : Decidable (world.IsNew granted) :=
  inferInstanceAs (Decidable (_ ∧ _))

def called (data : SessionData) : World := { world with calls := data.kcAccessToken :: world.calls }

def rotate (granted : Tokens) : World :=
  { world with live := granted, issued := granted :: world.issued }

def reject (request : RequestId) : World := { world with rejected := request :: world.rejected }

def refreshStep (request : RequestId) (answer : GrantAnswer) : Option World :=
  match world.requests request with
  | .refreshing data =>
      let refused : Request := .responding (.load data) .unauthenticated
      match answer with
      | .unreached => some (world.goto request refused)
      | .issued granted expiresIn =>
          if data.kcRefreshToken = world.live.refresh then
            if world.IsNew granted then some (((world.called data).rotate granted).goto request
              (.refreshed data (renewed data granted expiresIn world.clock)))
            else none
          else some (((world.called data).reject request).goto request refused)
      | .lost granted =>
          if data.kcRefreshToken = world.live.refresh then
            if world.IsNew granted then
              some (((world.called data).rotate granted).goto request refused)
            else none
          else some (((world.called data).reject request).goto request refused)
  | _ => none

def insertRefreshedStep (request : RequestId) (inserted : Except String Unit) : Option World :=
  match world.requests request with
  | .refreshed loaded data =>
      match inserted with
      | .error _ => some (world.goto request (.responding (.load loaded) .internalError))
      | .ok () => some (world.goto request (.exchanging ((Session.load loaded).insert data)))
  | _ => none

def exchangeStep (request : RequestId) (answer : Except String String) : Option World :=
  match world.requests request with
  | .exchanging session =>
      match answer with
      | .error _ => some (world.goto request (.responding session .gatewayError))
      | .ok _ => some (world.goto request (.authorized session session.record.selectedAccountId))
  | _ => none

def respondStep (request : RequestId) (status : Nat) : Option World :=
  match world.requests request with
  | .authorized session _ => some (world.goto request (.responding session (.handled status)))
  | _ => none

def readForSelectionStep (request : RequestId) (accountId : String) : Option World :=
  match world.requests request with
  | .idle =>
      let data := world.stored
      if data.accounts.any fun account => account.id == accountId then
        some (world.goto request (.selecting data { data with selectedAccountId := accountId }))
      else some (world.goto request (.responding (.load data) .badRequest))
  | _ => none

def selectedAnswer (data : SessionData) : Answer :=
  match data.selected with
  | some account => .selected account
  | none => .internalError

def insertSelectionStep (request : RequestId) (inserted : Except String Unit) : Option World :=
  match world.requests request with
  | .selecting loaded data =>
      match inserted with
      | .error _ => some (world.goto request (.responding (.load loaded) .internalError))
      | .ok () => some (world.goto request
          (.responding ((Session.load loaded).insert data) (selectedAnswer data)))
  | _ => none

/-- `Session::save`: the store keeps the whole record, whatever it held. -/
def save (record : SessionData) (answer : Answer) : World :=
  { world with
    stored := record
    chosen := if answer.isSelection then record.selectedAccountId else world.chosen }

/-- The session layer, once the handlers have made the response. -/
def finishStep (request : RequestId) (saved : Except String Unit) : Option World :=
  match world.requests request with
  | .responding session answer =>
      if session.saves answer then
        match saved with
        | .error _ => some (world.goto request (.answered .internalError))
        | .ok () => some ((world.save session.record answer).goto request (.answered answer))
      else some (world.goto request (.answered answer))
  | _ => none

def dropStep (request : RequestId) : Option World :=
  if (world.requests request).isOpen then some (world.goto request .dropped) else none

def next : Event → Option World
  | .tick elapsed => some { world with clock := world.clock + elapsed }
  | .readSession request => world.readSessionStep absoluteTimeoutSecs request
  | .refresh request answer => world.refreshStep request answer
  | .insertRefreshed request inserted => world.insertRefreshedStep request inserted
  | .exchange request answer => world.exchangeStep request answer
  | .respond request status => world.respondStep request status
  | .readForSelection request accountId => world.readForSelectionStep request accountId
  | .insertSelection request inserted => world.insertSelectionStep request inserted
  | .finish request saved => world.finishStep request saved
  | .drop request => world.dropStep request

end Steps

/-- A session as a login has left it. -/
structure Initial (world : World) : Prop where
  requests : ∀ request, world.requests request = .idle
  live : world.live = tokens world.stored
  issued : world.issued = [world.live]
  calls : world.calls = []
  rejected : world.rejected = []
  chosen : world.chosen = world.stored.selectedAccountId

/-- The stored refresh token is the latest one or about to be overwritten with it, each access token
was renewed at most once, the realm turned no request away, and the last selection stands. -/
structure Intact (world : World) : Prop where
  current : world.stored.kcRefreshToken = world.live.refresh ∨
    ∃ request data, (world.requests request).unsaved = some data ∧
      data.kcRefreshToken = world.live.refresh
  once : world.calls.Nodup
  admitted : world.rejected = []
  selection : world.stored.selectedAccountId = world.chosen

/-- A renewed session is saved over the selection that it was read with, and a selection over the
tokens that it was read with. -/
def Saves (world : World) (saved : Except String Unit) (session : Session) (answer : Answer) : Prop :=
  if answer.isSelection then
    saved = .ok () → session.record.kcRefreshToken = world.live.refresh ∨
      ∃ other copy, (world.requests other).unsaved = some copy
  else saved = .ok () ∧ session.record.selectedAccountId = world.stored.selectedAccountId

/-- The step does not act on a copy of the session that has gone stale, nor give up a renewed one: a
refresh presents the live token and gets its answer, the request that has it goes on to a response
that is no server error, and a save overwrites nothing that its copy lacks. -/
def Fresh (world : World) : Event → Prop
  | .refresh request answer => ∀ data, world.requests request = .refreshing data →
      match answer with
      | .unreached => True
      | .issued _ _ => data.kcRefreshToken = world.live.refresh
      | .lost _ => False
  | .insertRefreshed request inserted =>
      (world.requests request).unsaved ≠ none → inserted = .ok ()
  | .exchange request answer =>
      (world.requests request).unsaved ≠ none → answer.isOk = true
  | .respond request status =>
      (world.requests request).unsaved ≠ none → isServerError status = false
  | .finish request saved => ∀ session answer, world.requests request = .responding session answer →
      session.saves answer = true → world.Saves saved session answer
  | .drop request => (world.requests request).unsaved = none
  | _ => True

end World

end SwiyuIssuer.Bff.SharedSession
