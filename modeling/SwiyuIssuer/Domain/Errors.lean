import SwiyuIssuer.Domain.Ids

namespace SwiyuIssuer

inductive DomainError
  | invalidInput (details : String)
  | stateTransitionNotAllowed
deriving DecidableEq, Repr

def DomainError.toString : DomainError → String
  | invalidInput details => "invalid input: " ++ details
  | stateTransitionNotAllowed => "state transition not allowed"

inductive SecretEncryptionError
  | keyNotFound (key : String)
  | malformedCiphertext
  | keyNameMismatch (envelope argument : String)
  | keyVersionNotFound (keyName : String) (version : Nat)
  | tampered
  | backend (details : String)
deriving DecidableEq, Repr

namespace SecretEncryptionError

def isRetryable : SecretEncryptionError → Bool
  | backend _ => true
  | _ => false

def toString : SecretEncryptionError → String
  | keyNotFound key => "key not configured: " ++ key
  | malformedCiphertext => "ciphertext envelope is malformed"
  | keyNameMismatch envelope argument =>
      "ciphertext key_name does not match argument: envelope=" ++ envelope ++
        ", argument=" ++ argument
  | keyVersionNotFound keyName version =>
      "ciphertext key_version is not configured: " ++ keyName ++ " v" ++ ToString.toString version
  | tampered => "authentication tag verification failed"
  | backend details => "backend error: " ++ details

end SecretEncryptionError

inductive PersistenceError
  | notFound
  | uniqueViolation (what : String)
  | dataIntegrity (details : String)
  | db (details : String)
  | encryption (error : SecretEncryptionError)
deriving DecidableEq, Repr

def PersistenceError.toString : PersistenceError → String
  | notFound => "not found"
  | uniqueViolation what => "unique constraint violated: " ++ what
  | dataIntegrity details => "data integrity violation: " ++ details
  | db _ => "database error"
  | encryption error => "encryption error: " ++ error.toString

inductive ApiError
  | notFound
  | claimsValidationFailed (errors : List String)
  | invalidInput (details : String)
  | conflict (details : String)
  | internal (details : String)
deriving DecidableEq, Repr

def ApiError.ofDomain : DomainError → ApiError
  | .invalidInput details => .invalidInput details
  | .stateTransitionNotAllowed => .conflict "state transition not allowed"

def ApiError.ofPersistence : PersistenceError → ApiError
  | .notFound => .notFound
  | .uniqueViolation what => .conflict ("unique constraint violated: " ++ what)
  | .dataIntegrity details => .internal details
  | .db details => .internal details
  | .encryption error => .internal error.toString

/-- The errors of the two documents that wallets read. -/
inductive OidcError
  | notFound
  | expired
  | invalidInput (details : String)
  | internal (details : String)
deriving DecidableEq, Repr

def OidcError.ofPersistence : PersistenceError → OidcError
  | .notFound => .notFound
  | .uniqueViolation what => .internal ("unique constraint violated: " ++ what)
  | .dataIntegrity details => .internal details
  | .db details => .internal details
  | .encryption error => .internal error.toString

inductive OAuthError
  | invalidGrant (description : String)
  | invalidRequest (description : String)
  | unsupportedGrantType (grantType : String)
  | invalidToken (description : String)
  | invalidProof (description : String)
  | invalidCredentialRequest (description : String)
  | unsupportedCredentialFormat (format : String)
  | internal (details : String)
deriving DecidableEq, Repr

def OAuthError.ofPersistence : PersistenceError → OAuthError
  | .notFound => .invalidGrant "no offer matches the presented pre-authorised code"
  | .uniqueViolation _ => .invalidGrant "the pre-authorised code has already been redeemed"
  | .dataIntegrity details => .internal details
  | .db details => .internal details
  | .encryption error => .internal error.toString

inductive RegistryErrorKind
  | transport
  | httpStatus (status : Nat)
  | decode
deriving DecidableEq, Repr

/-- The error type of the registry clients, with the text of its own `Display` and the verdict of
its own `is_retryable`. -/
structure RegistryError where
  kind : RegistryErrorKind
  display : String
  retryable : Bool
deriving DecidableEq, Repr

def RegistryError.isRetryable (error : RegistryError) : Bool := error.retryable

inductive TokenProviderError
  | refreshRejected (details : String)
  | transport (details : String)
  | decode (details : String)
  | missingCredentials (details : String)
  | persistence (error : PersistenceError)
deriving DecidableEq, Repr

namespace TokenProviderError

def isRetryable : TokenProviderError → Bool
  | transport _ | persistence _ => true
  | _ => false

def toString : TokenProviderError → String
  | refreshRejected details => "refresh token rejected: " ++ details
  | transport details => "token endpoint transport: " ++ details
  | decode details => "token endpoint decode: " ++ details
  | missingCredentials details => "tenant missing oauth credentials: " ++ details
  | persistence error => error.toString

end TokenProviderError

inductive TokenAwareError
  | registry (error : RegistryError)
  | token (error : TokenProviderError)
deriving DecidableEq, Repr

namespace TokenAwareError

def isRetryable : TokenAwareError → Bool
  | registry error => error.isRetryable
  | token error => error.isRetryable

def toString : TokenAwareError → String
  | registry error => error.display
  | token error => error.toString

end TokenAwareError

end SwiyuIssuer
