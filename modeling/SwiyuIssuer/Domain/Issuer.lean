import SwiyuIssuer.Domain.Errors

namespace SwiyuIssuer

inductive KeyRole
  | authorized
  | authentication
  | assertion
deriving DecidableEq, Repr

/-- `{role:?}` in an error text. -/
def KeyRole.debug : KeyRole → String
  | authorized => "Authorized"
  | authentication => "Authentication"
  | assertion => "Assertion"

inductive KeyAlgorithm
  | ed25519
  | ecdsaP256
deriving DecidableEq, Repr

def KeyAlgorithm.forRole : KeyRole → KeyAlgorithm
  | .authorized => ed25519
  | .assertion | .authentication => ecdsaP256

/-- The handle of a key pair inside the signing engine, by its hyphenated UUID text. -/
structure KeyPairId where
  text : String
deriving DecidableEq, Repr

structure RawPublicKey where
  algorithm : KeyAlgorithm
  bytes : List UInt8
deriving DecidableEq, Repr

inductive SigningEngineError
  | keyNotFound (id : KeyPairId)
  | unsupportedAlgorithm
  | invalidInputLength (expected actual : Nat)
  | backend (details : String)
deriving DecidableEq, Repr

def SigningEngineError.toString : SigningEngineError → String
  | keyNotFound id => "key pair not found: " ++ id.text
  | unsupportedAlgorithm => "unsupported role/algorithm combination"
  | invalidInputLength expected actual =>
      "invalid input length: expected " ++ ToString.toString expected ++ " bytes, got " ++
        ToString.toString actual
  | backend details => "backend error: " ++ details

inductive IssuerState
  | active
  | deactivated
deriving DecidableEq, Repr

namespace IssuerState

def asStr : IssuerState → String
  | active => "active"
  | deactivated => "deactivated"

def parse : String → Except DomainError IssuerState
  | "active" => .ok active
  | "deactivated" => .ok deactivated
  | other => .error (.invalidInput ("unknown issuer state: " ++ other))

theorem parse_asStr (state : IssuerState) : parse state.asStr = .ok state := by
  cases state <;> rfl

end IssuerState

inductive MarkOutcome
  | already
  | nowDeactivated
deriving DecidableEq, Repr

structure Issuer where
  id : IssuerId
  tenantId : TenantId
  did : String
  state : Option IssuerState
  authorizedKeyId : Option KeyPairId
  authenticationKeyId : Option KeyPairId
  assertionKeyId : Option KeyPairId
deriving DecidableEq, Repr

namespace Issuer

def keyIdForRole (issuer : Issuer) : KeyRole → Option KeyPairId
  | .authorized => issuer.authorizedKeyId
  | .authentication => issuer.authenticationKeyId
  | .assertion => issuer.assertionKeyId

def tryDeactivate (issuer : Issuer) : Except DomainError (MarkOutcome × Issuer) :=
  match issuer.state with
  | some .active => .ok (.nowDeactivated, { issuer with state := some .deactivated })
  | some .deactivated => .ok (.already, issuer)
  | none => .error .stateTransitionNotAllowed

end Issuer

end SwiyuIssuer
