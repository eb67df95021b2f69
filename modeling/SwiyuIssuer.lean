import SwiyuIssuer.Library.Run
import SwiyuIssuer.Library.RowLock
import SwiyuIssuer.Library.Claims
import SwiyuIssuer.Library.PackedDigits
import SwiyuIssuer.Library.Answers
import SwiyuIssuer.Domain.Issuer
import SwiyuIssuer.Domain.StatusList
import SwiyuIssuer.Domain.IssuedCredential
import SwiyuIssuer.Domain.SignedTokens
import SwiyuIssuer.Domain.Json
import SwiyuIssuer.Domain.OperationTask
import SwiyuIssuer.Domain.CredentialOffer
import SwiyuIssuer.Persistence.StatusLists
import SwiyuIssuer.Persistence.IssuedCredentials
import SwiyuIssuer.Persistence.OperationTasks
import SwiyuIssuer.Persistence.CredentialOffers
import SwiyuIssuer.Persistence.OidcSecrets
import SwiyuIssuer.Persistence.IssuerRows
import SwiyuIssuer.StatusStore.Sessions
import SwiyuIssuer.StatusStore.Moves
import SwiyuIssuer.StatusStore.Integrity
import SwiyuIssuer.StatusStore.Soundness
import SwiyuIssuer.Worker.Backoff
import SwiyuIssuer.Worker.States
import SwiyuIssuer.Worker.Outcome
import SwiyuIssuer.Worker.Runner
import SwiyuIssuer.Worker.Dispatch
import SwiyuIssuer.Worker.Progress
import SwiyuIssuer.Worker.Attempts
import SwiyuIssuer.Worker.Queue
import SwiyuIssuer.Worker.Exclusion
import SwiyuIssuer.Worker.DidLog
import SwiyuIssuer.Persistence.Issuers
import SwiyuIssuer.Worker.RotateKeys
import SwiyuIssuer.Worker.DeactivateIssuer
import SwiyuIssuer.Worker.Rebuild
import SwiyuIssuer.Saga.World
import SwiyuIssuer.Saga.Moves
import SwiyuIssuer.Saga.Tasks
import SwiyuIssuer.Saga.ChainAuthorisation
import SwiyuIssuer.Saga.EntryTimes
import SwiyuIssuer.Saga.OpenTasks
import SwiyuIssuer.Saga.Agreement
import SwiyuIssuer.Saga.RotationRequest
import SwiyuIssuer.StatusStore.Publisher
import SwiyuIssuer.StatusStore.SlotIntegrity
import SwiyuIssuer.StatusStore.Allocation
import SwiyuIssuer.StatusStore.Revocation
import SwiyuIssuer.StatusStore.Publication
import SwiyuIssuer.StatusStore.CleanLists
import SwiyuIssuer.Oidc.Sessions
import SwiyuIssuer.Oidc.Store
import SwiyuIssuer.Oidc.Moves
import SwiyuIssuer.Oidc.Effects
import SwiyuIssuer.Oidc.Facts
import SwiyuIssuer.Oidc.Locks
import SwiyuIssuer.Oidc.Soundness
import SwiyuIssuer.Oidc.Provenance
import SwiyuIssuer.Oidc.Lifecycle
import SwiyuIssuer.Oidc.Redemption
import SwiyuIssuer.Oidc.Deactivation
import SwiyuIssuer.Oidc.Progress
import SwiyuIssuer.Oidc.Refusals
import SwiyuIssuer.Oidc.Retries
import SwiyuIssuer.Worker.CreateIssuer
import SwiyuIssuer.Resume.Stages
import SwiyuIssuer.Resume.Supply
import SwiyuIssuer.Resume.Journal
import SwiyuIssuer.Resume.Ready
import SwiyuIssuer.Oauth.Chain
import SwiyuIssuer.Resume.Runs
import SwiyuIssuer.Signing.Verifiability
import SwiyuIssuer.Linking.Deactivation
import SwiyuIssuer.Catalogue.Retirement
import SwiyuIssuer.Catalogue.Documents
import SwiyuIssuer.Library.Projection
import SwiyuIssuer.Catalogue.Tenancy
import SwiyuIssuer.Catalogue.Isolation
import SwiyuIssuer.StatusStore.Modes
import SwiyuIssuer.Management.Listings
import SwiyuIssuer.Creation.Provisioning
import SwiyuIssuer.Worker.RegistryFacades
import SwiyuIssuer.Domain.Numbers
import SwiyuIssuer.Library.Text
import SwiyuIssuer.Management.TokenValidator
import SwiyuIssuer.Library.Base64Url
import SwiyuIssuer.Oidc.WalletProof
import SwiyuIssuer.Linking.Identity
import SwiyuIssuer.Domain.JsonText
import SwiyuIssuer.Saga.AppendOnly
import SwiyuIssuer.Oidc.SdJwt
import SwiyuIssuer.Oidc.SdJwtVerifier
import SwiyuIssuer.Bff.Login
import SwiyuIssuer.Bff.Handshake
import SwiyuIssuer.Bff.SharedSession
import SwiyuIssuer.Bff.SessionMoves
import SwiyuIssuer.Bff.Rotation
import SwiyuIssuer.Library.Percent
import SwiyuIssuer.Library.UrlPath
import SwiyuIssuer.Bff.MgmtApi
import SwiyuIssuer.Bff.Confinement
import SwiyuIssuer.Library.Replace
import SwiyuIssuer.Worker.LogUrl
import SwiyuIssuer.Worker.Resolution
import SwiyuIssuer.Oidc.Thumbprint
import SwiyuIssuer.Catalogue.Validators
import SwiyuIssuer.Catalogue.Validity
import SwiyuIssuer.Library.Cooldown
import SwiyuIssuer.Management.JwksCache
import SwiyuIssuer.Library.Base64Standard
import SwiyuIssuer.Library.Bytes
import SwiyuIssuer.Library.Decimal
import SwiyuIssuer.Secrets.Envelopes
import SwiyuIssuer.Secrets.VaultEngine
import SwiyuIssuer.Bff.ReturnTo
import SwiyuIssuer.Bff.Liveness
import SwiyuIssuer.Library.Patch
import SwiyuIssuer.Linking.PatchAccounts
import SwiyuIssuer.Oidc.Cancellation
import SwiyuIssuer.Linking.Expiry
import SwiyuIssuer.Oauth.LiveColumns
import SwiyuIssuer.Library.Simulation
import SwiyuIssuer.Library.SingleFlight
import SwiyuIssuer.Oauth.SingleFlight
import SwiyuIssuer.Library.Lifespan
import SwiyuIssuer.Engine.Keys
import SwiyuIssuer.Engine.Contract
import SwiyuIssuer.Engine.Dev
import SwiyuIssuer.Engine.Vault
import SwiyuIssuer.Engine.VaultKeys
import SwiyuIssuer.Engine.VaultRuns
import SwiyuIssuer.Engine.Any
import SwiyuIssuer.Library.Radix
import SwiyuIssuer.Library.Base58
import SwiyuIssuer.Management.Identifiers
import SwiyuIssuer.Secrets.Engines
import SwiyuIssuer.Secrets.TenantColumns
import SwiyuIssuer.Oauth.Registry
import SwiyuIssuer.Oauth.Grants
import SwiyuIssuer.Oauth.Retries
import SwiyuIssuer.Management.FilteredOffers
import SwiyuIssuer.Linking.Tenancy
import SwiyuIssuer.Linking.Isolation
import SwiyuIssuer.Catalogue.Deeplinks
import SwiyuIssuer.Library.Rows
import SwiyuIssuer.Library.Confined
import SwiyuIssuer.Tenancy.Database
import SwiyuIssuer.Tenancy.References
import SwiyuIssuer.Tenancy.Statements
import SwiyuIssuer.Tenancy.Writers
import SwiyuIssuer.Tenancy.Store
import SwiyuIssuer.Tenancy.Ownership
import SwiyuIssuer.Tenancy.Requests
import SwiyuIssuer.Tenancy.Handlers
import SwiyuIssuer.Tenancy.Confinement
import SwiyuIssuer.Tenancy.Isolated
import SwiyuIssuer.Tenancy.Isolation
