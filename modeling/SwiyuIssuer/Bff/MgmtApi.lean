import SwiyuIssuer.Domain.Numbers
import SwiyuIssuer.Library.Text

/-! The requests that the BFF makes of the management API, and the guarded routes that make them. -/

namespace SwiyuIssuer.Bff

open Library

inductive Method
  | get
  | post
  | put
  | patch
  | delete
deriving DecidableEq, Repr

/-- The exchanged token, and the account that travels in `X-User-Account`. -/
structure UserAuth where
  bearer : String
  accountId : String
deriving DecidableEq, Repr

/-- What a client method hands to the HTTP client. `query` is appended to the parsed URL, pair by
pair. -/
structure Call where
  method : Method
  url : String
  auth : UserAuth
  query : List (String × String)
  body : Option Json

structure MgmtApiClient where
  baseUrl : String
deriving DecidableEq, Repr

namespace MgmtApiClient

def new (baseUrl : String) : MgmtApiClient := ⟨Text.trimEndMatches (· == '/') baseUrl⟩

def actAsUser (method : Method) (url : String) (auth : UserAuth) : Call :=
  ⟨method, url, auth, [], none⟩

variable (client : MgmtApiClient) (auth : UserAuth)

def listIssuers : Call := actAsUser .get s!"{client.baseUrl}/api/v1/issuers" auth

def createIssuer (body : Json) : Call :=
  { actAsUser .post s!"{client.baseUrl}/api/v1/issuers" auth with body := some body }

def getIssuer (issuerId : String) : Call :=
  actAsUser .get s!"{client.baseUrl}/api/v1/issuers/{issuerId}" auth

def deactivateIssuer (issuerId : String) : Call :=
  actAsUser .post s!"{client.baseUrl}/api/v1/issuers/{issuerId}/deactivate" auth

def rotateKeys (issuerId : String) (body : Json) : Call :=
  { actAsUser .post s!"{client.baseUrl}/api/v1/issuers/{issuerId}/rotate-keys" auth with
    body := some body }

def getOperationTask (taskId : String) : Call :=
  actAsUser .get s!"{client.baseUrl}/api/v1/operation-tasks/{taskId}" auth

/-- Only the parameters that are present are attached. -/
def present (name : String) (value : Option String) : List (String × String) :=
  (value.map fun text => (name, text)).toList

def listCredentialOffers (issuerId : String) (limit : Option Nat) (cursor : Option String) : Call :=
  { actAsUser .get s!"{client.baseUrl}/api/v1/issuers/{issuerId}/credential-offers" auth with
    query := present "limit" (limit.map toString) ++ present "cursor" cursor }

def getCredentialOffer (issuerId offerId : String) : Call :=
  actAsUser .get s!"{client.baseUrl}/api/v1/issuers/{issuerId}/credential-offers/{offerId}" auth

def createCredentialOffer (issuerId : String) (body : Json) : Call :=
  { actAsUser .post s!"{client.baseUrl}/api/v1/issuers/{issuerId}/credential-offers" auth with
    body := some body }

def cancelCredentialOffer (issuerId offerId : String) : Call :=
  actAsUser .post s!"{client.baseUrl}/api/v1/issuers/{issuerId}/credential-offers/{offerId}/cancel"
    auth

def listIssuedCredentials (issuerId : String) (limit : Option Nat)
    (cursor state vct : Option String) : Call :=
  { actAsUser .get s!"{client.baseUrl}/api/v1/issuers/{issuerId}/credentials" auth with
    query := present "limit" (limit.map toString) ++ present "cursor" cursor ++
      present "state" state ++ present "vct" vct }

def getIssuedCredential (issuerId credentialId : String) : Call :=
  actAsUser .get s!"{client.baseUrl}/api/v1/issuers/{issuerId}/credentials/{credentialId}" auth

def suspendIssuedCredential (issuerId credentialId : String) : Call :=
  actAsUser .post
    s!"{client.baseUrl}/api/v1/issuers/{issuerId}/credentials/{credentialId}/suspend" auth

def unsuspendIssuedCredential (issuerId credentialId : String) : Call :=
  actAsUser .post
    s!"{client.baseUrl}/api/v1/issuers/{issuerId}/credentials/{credentialId}/unsuspend" auth

def revokeIssuedCredential (issuerId credentialId : String) : Call :=
  actAsUser .post
    s!"{client.baseUrl}/api/v1/issuers/{issuerId}/credentials/{credentialId}/revoke" auth

def listCredentialTypes (issuerId : String) : Call :=
  actAsUser .get s!"{client.baseUrl}/api/v1/issuers/{issuerId}/credential-types" auth

def getCredentialTypeSchema (credentialTypeId : String) : Call :=
  actAsUser .get s!"{client.baseUrl}/api/v1/credential-types/{credentialTypeId}/schema" auth

end MgmtApiClient

structure OfferListQuery where
  limit : Option Nat
  cursor : Option String
deriving DecidableEq, Repr

structure CredentialListQuery where
  limit : Option Nat
  cursor : Option String
  state : Option String
  vct : Option String
deriving DecidableEq, Repr

/-- The guarded routes, with what their extractors have read: path parameters decoded, query and
body. -/
inductive Route
  | listIssuers
  | createIssuer (body : Json)
  | getIssuer (issuerId : String)
  | getDidLog (issuerId : String)
  | deactivateIssuer (issuerId : String)
  | rotateKeys (issuerId : String) (body : Json)
  | getTask (taskId : String)
  | listCredentialOffers (issuerId : String) (query : OfferListQuery)
  | createCredentialOffer (issuerId : String) (body : Json)
  | getCredentialOffer (issuerId offerId : String)
  | cancelCredentialOffer (issuerId offerId : String)
  | listCredentials (issuerId : String) (query : CredentialListQuery)
  | getCredential (issuerId credentialId : String)
  | suspendCredential (issuerId credentialId : String)
  | resumeCredential (issuerId credentialId : String)
  | revokeCredential (issuerId credentialId : String)
  | listCredentialTypes (issuerId : String)
  | getCredentialTypeSchema (credentialTypeId : String)

/-- The one management-API call of each handler. -/
def Route.call (client : MgmtApiClient) (auth : UserAuth) : Route → Call
  | .listIssuers => client.listIssuers auth
  | .createIssuer body => client.createIssuer auth body
  | .getIssuer issuerId => client.getIssuer auth issuerId
  | .getDidLog issuerId => client.getIssuer auth issuerId
  | .deactivateIssuer issuerId => client.deactivateIssuer auth issuerId
  | .rotateKeys issuerId body => client.rotateKeys auth issuerId body
  | .getTask taskId => client.getOperationTask auth taskId
  | .listCredentialOffers issuerId query =>
      client.listCredentialOffers auth issuerId query.limit query.cursor
  | .createCredentialOffer issuerId body => client.createCredentialOffer auth issuerId body
  | .getCredentialOffer issuerId offerId => client.getCredentialOffer auth issuerId offerId
  | .cancelCredentialOffer issuerId offerId => client.cancelCredentialOffer auth issuerId offerId
  | .listCredentials issuerId query =>
      client.listIssuedCredentials auth issuerId query.limit query.cursor query.state query.vct
  | .getCredential issuerId credentialId => client.getIssuedCredential auth issuerId credentialId
  | .suspendCredential issuerId credentialId =>
      client.suspendIssuedCredential auth issuerId credentialId
  | .resumeCredential issuerId credentialId =>
      client.unsuspendIssuedCredential auth issuerId credentialId
  | .revokeCredential issuerId credentialId =>
      client.revokeIssuedCredential auth issuerId credentialId
  | .listCredentialTypes issuerId => client.listCredentialTypes auth issuerId
  | .getCredentialTypeSchema credentialTypeId =>
      client.getCredentialTypeSchema auth credentialTypeId

end SwiyuIssuer.Bff
