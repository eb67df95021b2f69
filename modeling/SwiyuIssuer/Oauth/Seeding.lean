import SwiyuIssuer.Oauth.Effects

/-! The commands of `cli::tenant` that give a tenant its credentials: `import_oauth_refresh_token`,
`set_oauth_credentials` and `bootstrap_dev_from_env`. Each is a `SELECT` and the writes that it decides
on, in one transaction, beside the refreshes of the providers. What `bootstrap_dev_from_env` does after
its commit is on other tables. -/

namespace SwiyuIssuer.Oauth

open Library Persistence

abbrev RunId := CallerId

/-- The partner is the one of the tenant, and what the other fields are for nothing here reads. -/
structure BootstrapDevTenantArgs where
  clientId : Option String
  clientSecret : Option String
  refreshToken : Option String
deriving DecidableEq, Repr

inductive SeedRequest
  | importOauthRefreshToken (token : String) (onlyIfEmpty : Bool)
  | setOauthCredentials (clientId clientSecret : String) (onlyIfEmpty : Bool)
  | bootstrapDevFromEnv (args : BootstrapDevTenantArgs) (force : Bool)
deriving DecidableEq, Repr

inductive SeedOutcome
  | wrote
  | skipped
deriving DecidableEq, Repr

inductive SeedReturn
  | outcome (outcome : SeedOutcome)
  | tenant (id : TenantId)
deriving DecidableEq, Repr

inductive SeedError
  | tenantNotFound (bare : String)
  | persistence (error : PersistenceError)
  | sqlx (details : String)
deriving DecidableEq, Repr

inductive SeedWrite
  | insert
  | updateMetadata
  | writeOauthClientCredentials (clientId clientSecret : String)
  | writeOauthRefreshToken (refreshToken : String)
deriving DecidableEq, Repr

def SeedWrite.apply (tenantId : TenantId) :
    SeedWrite → Option TenantOauthRow → Option TenantOauthRow
  | insert, _ => some ⟨none, none, none⟩
  | updateMetadata, version => version
  | writeOauthClientCredentials clientId clientSecret, version =>
      version.map fun row => { row with
        clientId := some clientId
        clientSecret := some ⟨oauth2ClientSecretKeyName tenantId, clientSecret⟩ }
  | writeOauthRefreshToken refreshToken, version =>
      version.map fun row => { row with
        refreshToken := some ⟨oauth2RefreshTokenKeyName tenantId, refreshToken⟩ }

namespace BootstrapDevTenantArgs

def clientWrites (args : BootstrapDevTenantArgs) : List SeedWrite :=
  match args.clientId, args.clientSecret with
  | some clientId, some clientSecret => [.writeOauthClientCredentials clientId clientSecret]
  | _, _ => []

def refreshTokenWrites (args : BootstrapDevTenantArgs) : List SeedWrite :=
  match args.refreshToken with
  | some refreshToken => [.writeOauthRefreshToken refreshToken]
  | none => []

def writes (args : BootstrapDevTenantArgs) (force : Bool) : Option TenantOauthRow → List SeedWrite
  | none => .insert :: (args.clientWrites ++ args.refreshTokenWrites)
  | some existing =>
      if force then .updateMetadata :: (args.clientWrites ++ args.refreshTokenWrites)
      else
        (if existing.clientId.isNone && existing.clientSecret.isNone then args.clientWrites
          else []) ++
        if existing.refreshToken.isNone then args.refreshTokenWrites else []

end BootstrapDevTenantArgs

namespace SeedRequest

/-- The request is to leave alone what it finds set. -/
def onlyIfEmpty : SeedRequest → Bool
  | importOauthRefreshToken _ onlyIfEmpty | setOauthCredentials _ _ onlyIfEmpty => onlyIfEmpty
  | bootstrapDevFromEnv _ force => !force

/-- What the command goes on with after its `SELECT`; `none` is the skip. -/
def plan (tenantId : TenantId) (found : Option TenantOauthRow) :
    SeedRequest → Except SeedError (Option (List SeedWrite))
  | importOauthRefreshToken token onlyIfEmpty =>
      match found with
      | none => .error (.tenantNotFound tenantId.bare)
      | some tenant =>
          if onlyIfEmpty && tenant.refreshToken.isSome then .ok none
          else .ok (some [.writeOauthRefreshToken token])
  | setOauthCredentials clientId clientSecret onlyIfEmpty =>
      match found with
      | none => .error (.tenantNotFound tenantId.bare)
      | some tenant =>
          if onlyIfEmpty && tenant.clientId.isSome && tenant.clientSecret.isSome then .ok none
          else .ok (some [.writeOauthClientCredentials clientId clientSecret])
  | bootstrapDevFromEnv args force => .ok (some (args.writes force found))

def returned (tenantId : TenantId) : SeedRequest → SeedReturn
  | importOauthRefreshToken .. | setOauthCredentials .. => .outcome .wrote
  | bootstrapDevFromEnv .. => .tenant tenantId

end SeedRequest

/-- Where a run stands: what its `SELECT` has found, and the writes that are left. -/
inductive SeedPhase
  | idle
  | begun (request : SeedRequest)
  | writing (request : SeedRequest) (found : Option TenantOauthRow) (todo : List SeedWrite)
  | ended (request : SeedRequest) (answer : Except SeedError SeedReturn)
  | killed (request : SeedRequest)

def SeedPhase.request : SeedPhase → Option SeedRequest
  | idle => none
  | begun request | writing request _ _ | ended request _ | killed request => some request

inductive WriteFault
  | encrypt (error : SecretEncryptionError)
  | execute (details : String)

def WriteFault.toError : WriteFault → PersistenceError
  | encrypt error => .encryption error
  | execute details => .db details

/-- The runs share the numbers of the callers, so that a row lock has one holder. -/
structure SeedingState where
  provider : State
  runs : RunId → SeedPhase

/-- A run whose connection is lost fails: the server rolls back what the run has not committed. -/
inductive SeedingEvent
  | refresh (event : Event)
  | begin (c : RunId) (request : SeedRequest) (fault : Option String)
  | find (c : RunId) (fault : Option String)
  | write (c : RunId) (fault : Option WriteFault)
  | commit (c : RunId) (answer : DbAnswer)
  | kill (c : RunId)

namespace SeedingState

def tenant (state : SeedingState) : Cell CallerId (Option TenantOauthRow) := state.provider.tenant

def goto (state : SeedingState) (c : RunId) (phase : SeedPhase)
    (tenant : Cell CallerId (Option TenantOauthRow)) : SeedingState where
  provider := { state.provider with tenant := tenant }
  runs := Function.update state.runs c phase

def finish (state : SeedingState) (c : RunId) (phase : SeedPhase) : SeedingState :=
  state.goto c phase (state.tenant.rollback c)

def fail (state : SeedingState) (c : RunId) (request : SeedRequest) (error : SeedError) :
    SeedingState :=
  state.finish c (.ended request (.error error))

end SeedingState

section Steps

variable (deployment : Deployment) (state : SeedingState)

def beginRun (c : RunId) (request : SeedRequest) (fault : Option String) : SeedingState :=
  match fault with
  | some details => state.fail c request (.sqlx details)
  | none => state.goto c (.begun request) state.tenant

/-- `find_by_id` or `find_by_partner_id`: a `SELECT` that takes no lock. -/
def findTenant (c : RunId) (request : SeedRequest) (fault : Option String) : SeedingState :=
  match fault with
  | some details => state.fail c request (.persistence (.db details))
  | none =>
      match request.plan deployment.tenantId (state.tenant.read c) with
      | .error error => state.fail c request error
      | .ok none => state.finish c (.ended request (.ok (.outcome .skipped)))
      | .ok (some writes) =>
          state.goto c (.writing request (state.tenant.read c) writes) state.tenant

/-- A statement that waits for the row lock is not taken. `update_metadata` of a missing row is no
error to `bootstrap_dev_from_env`. The id that it generates for an `INSERT` is that of the tenant. -/
def writeTenant (c : RunId) (request : SeedRequest) (found : Option TenantOauthRow)
    (write : SeedWrite) (todo : List SeedWrite) : Option SeedingState :=
  let written :=
    if state.tenant.free c then
      some (state.goto c (.writing request found todo)
        (state.tenant.update c (write.apply deployment.tenantId)))
    else none
  match write, state.tenant.read c with
  | .insert, some _ =>
      some (state.fail c request (.persistence (.uniqueViolation "tenants_partner_id_key")))
  | .insert, none => written
  | .updateMetadata, none => some (state.goto c (.writing request found todo) state.tenant)
  | _, none => some (state.fail c request (.persistence .notFound))
  | _, some _ => written

def commitRun (c : RunId) (request : SeedRequest) (answer : DbAnswer) : SeedingState :=
  match answer with
  | .ok => state.goto c (.ended request (.ok (request.returned deployment.tenantId)))
      (state.tenant.commit c)
  | .lost details => state.goto c (.ended request (.error (.sqlx details))) (state.tenant.commit c)
  | .failed details => state.fail c request (.sqlx details)

/-- The operator's transactions of `Event` are not taken: here they are runs. -/
def seedingNext : SeedingEvent → Option SeedingState
  | .refresh event =>
      match event.caller with
      | some c =>
          match state.runs c with
          | .idle => (next deployment state.provider event).map fun provider =>
              { state with provider := provider }
          | _ => none
      | none =>
          match event with
          | .restart r => (next deployment state.provider (.restart r)).map fun provider =>
              { state with provider := provider }
          | _ => none
  | .begin c request fault =>
      match state.runs c, state.provider.phase c with
      | .idle, .idle => some (beginRun state c request fault)
      | _, _ => none
  | .find c fault =>
      match state.runs c with
      | .begun request => some (findTenant deployment state c request fault)
      | _ => none
  | .write c fault =>
      match state.runs c with
      | .writing request found (write :: todo) =>
          match fault with
          | some fault => some (state.fail c request (.persistence fault.toError))
          | none => writeTenant deployment state c request found write todo
      | _ => none
  | .commit c answer =>
      match state.runs c with
      | .writing request _ [] => some (commitRun deployment state c request answer)
      | _ => none
  | .kill c =>
      match state.runs c with
      | .begun request | .writing request _ _ => some (state.finish c (.killed request))
      | _ => none

end Steps

/-- The tenant as it is before the first run, or no tenant yet: the client's id and secret are both NULL
or both set. -/
structure SeedingState.Initial (state : SeedingState) : Prop where
  provider : state.provider.Initial
  idle : ∀ c, state.runs c = .idle
  paired : ∀ row, state.tenant.committed = some row →
    (row.clientId = none ↔ row.clientSecret = none)

end SwiyuIssuer.Oauth
