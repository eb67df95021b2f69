import SwiyuIssuer.Domain.Issuer
import SwiyuIssuer.Domain.StatusList

/-! The two documents that are signed with an issuer's assertion key.

A signature is modelled by the key pair that made it; the compact serialisation, which decodes to
the header and payload it was built from, is left out. -/

namespace SwiyuIssuer

structure JwsHeader where
  alg : String
  typ : String
  kid : String
deriving DecidableEq, Repr

structure StatusListJwtPayload where
  iss : String
  sub : String
  iat : DateTime
  statusList : Bitstring

structure StatusListToken where
  header : JwsHeader
  payload : StatusListJwtPayload
  signedBy : KeyPairId

def assertionKid (did : String) : String := did ++ "#assertion-key-01"

inductive StatusListToken.BuildError
  | missingRegistryUrl (listId : String)
  | missingAssertionKey (issuerId : String)
  | engine (error : SigningEngineError)
deriving DecidableEq, Repr

def StatusListToken.BuildError.toString : StatusListToken.BuildError → String
  | missingRegistryUrl listId =>
      "status_list " ++ listId ++
        " has no registry_url; create_status_list_entry must run first"
  | missingAssertionKey issuerId => "issuer " ++ issuerId ++ " has no assertion_key_id"
  | engine error => "signing engine: " ++ error.toString

/-- `build_signed`, given the engine's answer to `sign`. -/
def buildSigned (list : StatusList) (issuer : Issuer) (sign : Except SigningEngineError Unit)
    (now : DateTime) : Except StatusListToken.BuildError StatusListToken :=
  match list.registryUrl with
  | none => .error (.missingRegistryUrl list.id.bare)
  | some registryUrl =>
      match issuer.assertionKeyId with
      | none => .error (.missingAssertionKey issuer.id.bare)
      | some assertionKeyId =>
          match sign with
          | .error error => .error (.engine error)
          | .ok () => .ok
              { header := ⟨"ES256", "statuslist+jwt", assertionKid issuer.did⟩
                payload := ⟨issuer.did, registryUrl, now, list.bitstring⟩
                signedBy := assertionKeyId }

theorem buildSigned_ok {list : StatusList} {issuer : Issuer}
    {sign : Except SigningEngineError Unit} {now : DateTime} {token : StatusListToken}
    (built : buildSigned list issuer sign now = .ok token) :
    token.payload.statusList = list.bitstring ∧ token.header.kid = assertionKid issuer.did ∧
      issuer.assertionKeyId = some token.signedBy := by
  unfold buildSigned at built
  split at built
  · cases built
  · split at built
    · cases built
    · next key =>
        split at built
        · cases built
        · cases built
          exact ⟨rfl, rfl, key⟩

structure StatusClaim where
  idx : StatusListIndex
  uri : String
deriving DecidableEq

def buildStatusClaim (registryUrl : String) (index : StatusListIndex) : StatusClaim :=
  ⟨index, registryUrl⟩

/-- The registered claims of the signed body; the business claims ride outside it, as salted
disclosures. -/
structure SdJwtPayload where
  iss : String
  iat : DateTime
  exp : DateTime
  vct : String
  cnfJwk : String
  status : StatusClaim
deriving DecidableEq

structure SdJwtVc where
  header : JwsHeader
  payload : SdJwtPayload
  signedBy : KeyPairId
deriving DecidableEq

def buildSdJwtVc (assertionKeyId : KeyPairId) (issuer : Issuer) (vct cnfJwk : String)
    (status : StatusClaim) (now expiresAt : DateTime) : SdJwtVc where
  header := ⟨"ES256", "vc+sd-jwt", assertionKid issuer.did⟩
  payload := ⟨issuer.did, now, expiresAt, vct, cnfJwk, status⟩
  signedBy := assertionKeyId

end SwiyuIssuer
