import SwiyuIssuer.Domain.Issuer

/-! The requests to a signing engine, and the labels of its algorithms. -/

namespace SwiyuIssuer

namespace KeyAlgorithm

def asStr : KeyAlgorithm → String
  | ed25519 => "ed25519"
  | ecdsaP256 => "ecdsa-p256"

/-- `try_from`; the error is the unknown label. -/
def tryFrom : String → Except String KeyAlgorithm
  | "ed25519" => .ok ed25519
  | "ecdsa-p256" => .ok ecdsaP256
  | other => .error other

theorem tryFrom_asStr (algorithm : KeyAlgorithm) : tryFrom algorithm.asStr = .ok algorithm := by
  cases algorithm <;> rfl

theorem asStr_of_tryFrom {label : String} {algorithm : KeyAlgorithm}
    (read : tryFrom label = .ok algorithm) : label = algorithm.asStr := by
  unfold tryFrom at read
  split at read
  · cases read
    rfl
  · cases read
    rfl
  · cases read

theorem asStr_injective : Function.Injective asStr := by
  intro left right same
  have parsed := tryFrom_asStr left
  rw [same, tryFrom_asStr] at parsed
  exact (Except.ok.inj parsed).symm

end KeyAlgorithm

namespace Engine

abbrev CallId := Nat

inductive Request
  | generateKeypair (role : KeyRole)
  | getPublicKey (id : KeyPairId)
  | sign (id : KeyPairId) (input : List UInt8)
  | deleteKeypair (id : KeyPairId)
deriving DecidableEq, Repr

structure GeneratedKeyPair where
  id : KeyPairId
  publicKey : RawPublicKey
deriving DecidableEq, Repr

structure Signature where
  algorithm : KeyAlgorithm
  bytes : List UInt8
deriving DecidableEq, Repr

inductive Answer
  | generated (pair : GeneratedKeyPair)
  | publicKey (key : RawPublicKey)
  | signed (signature : Signature)
  | deleted
deriving DecidableEq, Repr

abbrev Reply := Except SigningEngineError Answer

/-- `UnknownAlgorithm`, with the text that `debug` shows. -/
def unknownAlgorithm (debug : String → String) (label : String) : String :=
  "unknown algorithm: " ++ debug label

end Engine

end SwiyuIssuer
