import SwiyuIssuer.Domain.StatusList

namespace SwiyuIssuer

inductive IssuedCredentialState
  | active
  | suspended
  | revoked
deriving DecidableEq, Repr

namespace IssuedCredentialState

def asStr : IssuedCredentialState → String
  | active => "active"
  | suspended => "suspended"
  | revoked => "revoked"

def parse : String → Except DomainError IssuedCredentialState
  | "active" => .ok active
  | "suspended" => .ok suspended
  | "revoked" => .ok revoked
  | other => .error (.invalidInput ("unknown issued credential state: " ++ other))

def isTerminal (state : IssuedCredentialState) : Bool := state == revoked

/-- The slot value that each lifecycle handler writes beside the state it moves to. -/
def statusValue : IssuedCredentialState → StatusValue
  | active => .valid
  | suspended => .suspended
  | revoked => .revoked

theorem parse_asStr (state : IssuedCredentialState) : parse state.asStr = .ok state := by
  cases state <;> rfl

end IssuedCredentialState

def integrityHashLen : Nat := 32

structure IssuedCredential where
  id : IssuedCredentialId
  tenantId : TenantId
  issuerId : IssuerId
  credentialOfferId : CredentialOfferId
  vct : String
  holderKeyJkt : String
  statusListId : StatusListId
  statusListIndex : StatusListIndex
  state : IssuedCredentialState
  integrityHash : Vector UInt8 integrityHashLen
  issuedAt : DateTime
  expiresAt : DateTime
deriving DecidableEq

namespace IssuedCredential

def isExpiredAt (credential : IssuedCredential) (now : DateTime) : Bool :=
  decide (credential.expiresAt ≤ now)

def trySuspend (credential : IssuedCredential) : Except DomainError IssuedCredential :=
  match credential.state with
  | .active => .ok { credential with state := .suspended }
  | _ => .error .stateTransitionNotAllowed

def tryUnsuspend (credential : IssuedCredential) : Except DomainError IssuedCredential :=
  match credential.state with
  | .suspended => .ok { credential with state := .active }
  | _ => .error .stateTransitionNotAllowed

def tryRevoke (credential : IssuedCredential) : Except DomainError IssuedCredential :=
  match credential.state with
  | .active | .suspended => .ok { credential with state := .revoked }
  | .revoked => .error .stateTransitionNotAllowed

end IssuedCredential

/-- The three handlers that share `run_lifecycle_op`. -/
inductive LifecycleOperation
  | suspend
  | unsuspend
  | revoke
deriving DecidableEq, Repr

namespace LifecycleOperation

def applyTransition : LifecycleOperation → IssuedCredential → Except DomainError IssuedCredential
  | suspend => IssuedCredential.trySuspend
  | unsuspend => IssuedCredential.tryUnsuspend
  | revoke => IssuedCredential.tryRevoke

def bitValue : LifecycleOperation → StatusValue
  | suspend => .suspended
  | unsuspend => .valid
  | revoke => .revoked

/-- A transition rewrites the state column only, to the state whose slot value the handler
writes, and never starts from a terminal state. -/
theorem applyTransition_spec {operation : LifecycleOperation} {credential moved : IssuedCredential}
    (allowed : operation.applyTransition credential = .ok moved) :
    moved = { credential with state := moved.state } ∧
      moved.state.statusValue = operation.bitValue ∧ credential.state.isTerminal = false := by
  cases operation with
  | suspend =>
      simp only [applyTransition, IssuedCredential.trySuspend] at allowed
      split at allowed
      · next active =>
          cases allowed
          exact ⟨rfl, rfl, by rw [active]; rfl⟩
      · cases allowed
  | unsuspend =>
      simp only [applyTransition, IssuedCredential.tryUnsuspend] at allowed
      split at allowed
      · next suspended =>
          cases allowed
          exact ⟨rfl, rfl, by rw [suspended]; rfl⟩
      · cases allowed
  | revoke =>
      simp only [applyTransition, IssuedCredential.tryRevoke] at allowed
      split at allowed
      · next active =>
          cases allowed
          exact ⟨rfl, rfl, by rw [active]; rfl⟩
      · next suspended =>
          cases allowed
          exact ⟨rfl, rfl, by rw [suspended]; rfl⟩
      · cases allowed

end LifecycleOperation

end SwiyuIssuer
