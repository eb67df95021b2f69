import SwiyuIssuer.Domain.JsonText
import SwiyuIssuer.Oidc.Lifecycle
import SwiyuIssuer.Oidc.WalletProof

/-! The compact form of an SD-JWT VC, as the credential endpoint assembles it and as a reader takes
it apart. -/

namespace SwiyuIssuer.Oidc.SdJwt

open Library Library.Answers Library.Base64Url WalletProof

abbrev Digest := Vector UInt8 integrityHashLen

abbrev Salt := Vector UInt8 16

structure Disclosure where
  salt : String
  name : String
  value : Json

/-- `Display`: base64url of the JSON array of the three parts. -/
def Disclosure.toText (disclosure : Disclosure) : String :=
  encode (Text.asBytes
    (Json.array [.string disclosure.salt, .string disclosure.name, disclosure.value]).toText)

def freshSalt (drawn : Salt) : String := encode drawn.toList

def number (value : Int) : Json := .number (toString value)

def statusValue (claim : StatusClaim) : Json :=
  .object [("status_list", .object [("idx", number claim.idx.val), ("uri", .string claim.uri)])]

/-- A `Map` writes its members in the order of their names. -/
def headerValue (header : JwsHeader) : Json :=
  .object [("alg", .string header.alg), ("kid", .string header.kid), ("typ", .string header.typ)]

/-- The top-level members of the claims, each with the salt that is drawn for it. -/
def disclose (draws : Nat → Salt) : Json → List Disclosure
  | .object claims => claims.mapIdx fun index claim => ⟨freshSalt (draws index), claim.1, claim.2⟩
  | _ => []

inductive BuildError
  | engine (error : SigningEngineError)
deriving DecidableEq, Repr

def BuildError.toString : BuildError → String
  | engine error => "signing engine: " ++ error.toString

section Assembly

variable (sha256 : Bytes → Digest) (sign : KeyPairId → Digest → Except SigningEngineError Bytes)

def digestText (disclosure : String) : String :=
  encode (sha256 (Text.asBytes disclosure)).toList

def payloadValue (draws : Nat → Salt) (issuer : Issuer) (offer : CredentialOffer) (cnfJwk : Json)
    (status : StatusClaim) (now expiresAt : DateTime) : Json :=
  .object [
    ("_sd", .array ((disclose draws offer.claims).map fun disclosure =>
      .string (digestText sha256 disclosure.toText))),
    ("_sd_alg", .string "sha-256"),
    ("cnf", .object [("jwk", cnfJwk)]),
    ("exp", number (timestamp expiresAt)),
    ("iat", number (timestamp now)),
    ("iss", .string issuer.did),
    ("status", statusValue status),
    ("vct", .string offer.vct)]

def segment (value : Json) : String := encode (Text.asBytes value.toText)

def compact (jws : String) (disclosures : List Disclosure) : String :=
  disclosures.foldl (fun text disclosure => text ++ "~" ++ disclosure.toText) jws ++ "~"

/-- `to_vec` does not fail on a value. -/
def buildSdJwtVc (draws : Nat → Salt) (assertionKeyId : KeyPairId) (issuer : Issuer)
    (offer : CredentialOffer) (cnfJwk : Json) (status : StatusClaim) (now expiresAt : DateTime) :
    Except BuildError String := do
  let headerB64 := segment (headerValue ⟨"ES256", "vc+sd-jwt", assertionKid issuer.did⟩)
  let payloadB64 :=
    segment (payloadValue sha256 draws issuer offer cnfJwk status now expiresAt)
  let signingInput := headerB64 ++ "." ++ payloadB64
  let signature ← (sign assertionKeyId (sha256 (Text.asBytes signingInput))).mapError .engine
  return compact (signingInput ++ "." ++ encode signature) (disclose draws offer.claims)

end Assembly

def missingMember (kind name : String) : OAuthError :=
  .invalidProof (kind ++ "cnf JWK is missing `" ++ name ++ "`")

def jwkText (cnfJwk : Json) (kind name : String) : Except OAuthError String :=
  okOr ((cnfJwk.get name).bind Json.asStr) (missingMember kind name)

/-- `cnf_jwk_thumbprint`; `debug` is `{:?}` of a text. -/
def cnfJwkThumbprint (sha256 : Bytes → Digest) (debug : String → String) (cnfJwk : Json) :
    Except OAuthError String := do
  let kty ← jwkText cnfJwk "" "kty"
  let canonical ←
    if kty = "OKP" then do
      let crv ← jwkText cnfJwk "OKP " "crv"
      let x ← jwkText cnfJwk "OKP " "x"
      .ok ("\x7b\"crv\":\"" ++ crv ++ "\",\"kty\":\"OKP\",\"x\":\"" ++ x ++ "\"\x7d")
    else if kty = "EC" then do
      let crv ← jwkText cnfJwk "EC " "crv"
      let x ← jwkText cnfJwk "EC " "x"
      let y ← jwkText cnfJwk "EC " "y"
      .ok ("\x7b\"crv\":\"" ++ crv ++ "\",\"kty\":\"EC\",\"x\":\"" ++ x ++ "\",\"y\":\"" ++ y ++
        "\"\x7d")
    else .error (.invalidProof ("unsupported cnf JWK kty " ++ debug kty))
  return encode (sha256 (Text.asBytes canonical)).toList

/-- The status slot of a credential and the id generated for its row. -/
structure Slot where
  statusListId : StatusListId
  statusListIndex : StatusListIndex
  registryUrl : String
  credentialId : IssuedCredentialId

/-- The handler between `allocate_status_slot` and the `INSERT`: the credential that it returns, and
what the row stores of it. -/
def sealCredential (sha256 : Bytes → Digest)
    (sign : KeyPairId → Digest → Except SigningEngineError Bytes) (debug : String → String)
    (draws : Nat → Salt) (grant : Grant) (cnfJwk : Json) (slot : Slot) :
    Except OAuthError (String × Sealing) := do
  let status := buildStatusClaim slot.registryUrl slot.statusListIndex
  let credential ← (buildSdJwtVc sha256 sign draws grant.assertionKeyId grant.issuer grant.issued
    cnfJwk status grant.now grant.expiresAt).mapError fun error => .internal error.toString
  let integrityHash := sha256 (Text.asBytes credential)
  let holderKeyJkt ← cnfJwkThumbprint sha256 debug cnfJwk
  return (credential, ⟨slot.statusListId, slot.statusListIndex, slot.registryUrl, holderKeyJkt,
    integrityHash, slot.credentialId⟩)

section Reading

structure Jws where
  header : Json
  payload : Json
  signingInput : String
  signature : Bytes

def readSegment (text : String) : Option Json := do
  let bytes ← decode text
  let text ← Text.fromUtf8 bytes
  Json.ofText text

def readJws (text : String) : Option Jws :=
  match Text.split '.' text with
  | [headerB64, payloadB64, signatureB64] => do
      let header ← readSegment headerB64
      let payload ← readSegment payloadB64
      let signature ← decode signatureB64
      return ⟨header, payload, headerB64 ++ "." ++ payloadB64, signature⟩
  | _ => none

def readDisclosure (text : String) : Option Disclosure := do
  match ← readSegment text with
  | .array [.string salt, .string name, value] => some ⟨salt, name, value⟩
  | _ => none

/-- The issuer-signed JWT and the disclosures of a compact credential. -/
def readCompact (credential : String) : Option (Jws × List String) :=
  match Text.split '~' credential with
  | jws :: segments =>
      if segments.getLast? = some "" then do
        let jws ← readJws jws
        return (jws, segments.dropLast)
      else none
  | [] => none

end Reading

section Segments

theorem number_spelled (value : Int) : (number value).isSpelled = true := by
  have digits : ∀ n : Nat, ∀ c ∈ Nat.toDigits 10 n, Json.isNumberChar c = true := by
    intro n c member
    have decimal := Nat.isDigit_of_mem_toDigits (by decide) (by decide) member
    simp [Json.isNumberChar, decimal]
  have spelled : ∀ n : Nat, Json.isSpelled (.number n.repr) = true := by
    intro n
    have some_ := Nat.toDigits_ne_nil (n := n) (b := 10)
    simpa [Json.isSpelled, some_] using digits n
  rw [number, Int.toString_eq_repr, Int.repr_eq_if]
  split
  · exact spelled value.toNat
  · have back := spelled (-value).toNat
    simp only [Json.isSpelled, String.toList_append, Bool.and_eq_true, List.all_append] at back ⊢
    exact ⟨by simp, by decide, back.2⟩

theorem readSegment_segment {value : Json} (spelled : value.isSpelled = true) :
    readSegment (segment value) = some value := by
  simp [readSegment, segment, decode_encode, Text.fromUtf8_asBytes, Json.ofText_toText spelled]

theorem readSegment_toText {disclosure : Disclosure} (spelled : disclosure.value.isSpelled = true) :
    readSegment disclosure.toText =
      some (.array [.string disclosure.salt, .string disclosure.name, disclosure.value]) :=
  readSegment_segment (by simp [Json.isSpelled, Json.itemsSpelled, spelled])

theorem readDisclosure_toText {disclosure : Disclosure}
    (spelled : disclosure.value.isSpelled = true) :
    readDisclosure disclosure.toText = some disclosure := by
  simp [readDisclosure, readSegment_toText spelled]

theorem encode_clean (bytes : Bytes) :
    '.' ∉ (encode bytes).toList ∧ '~' ∉ (encode bytes).toList :=
  ⟨not_mem_encode (by decide) bytes, not_mem_encode (by decide) bytes⟩

theorem compact_split (jws : String) (disclosures : List Disclosure) :
    Text.split '~' (compact jws disclosures) =
      Text.split '~' jws ++ (disclosures.map Disclosure.toText ++ [""]) := by
  induction disclosures generalizing jws with
  | nil =>
      have joined : (compact jws []).toList = jws.toList ++ '~' :: [] := by
        simp [compact, String.toList_append]
      rw [Text.split_append_cons joined, String.ofList_toList]
      rfl
  | cons disclosure disclosures ih =>
      have joined : (jws ++ "~" ++ disclosure.toText).toList =
          jws.toList ++ '~' :: disclosure.toText.toList := by simp [String.toList_append]
      have step : compact jws (disclosure :: disclosures) =
          compact (jws ++ "~" ++ disclosure.toText) disclosures := rfl
      rw [step, ih, Text.split_append_cons joined, String.ofList_toList, String.ofList_toList,
        (Text.split_clean (encode_clean _).2 : Text.split '~' disclosure.toText = _)]
      simp

theorem readJws_join {header payload : Json} (headerSpelled : header.isSpelled = true)
    (payloadSpelled : payload.isSpelled = true) (signature : Bytes) :
    readJws (segment header ++ "." ++ segment payload ++ "." ++ encode signature) =
      some ⟨header, payload, segment header ++ "." ++ segment payload, signature⟩ := by
  have pieces : Text.split '.' (segment header ++ "." ++ segment payload ++ "." ++ encode signature) =
      [segment header, segment payload, encode signature] := by
    apply Text.split_of_join
    · simp [String.toList_append, List.intercalate]
    · simp
    · intro piece member
      simp only [List.mem_cons, List.not_mem_nil, or_false] at member
      rcases member with rfl | rfl | rfl <;> exact (encode_clean _).1
  simp [readJws, pieces, readSegment_segment headerSpelled, readSegment_segment payloadSpelled,
    decode_encode]

theorem jws_clean (header payload : Json) (signature : Bytes) :
    '~' ∉ (segment header ++ "." ++ segment payload ++ "." ++ encode signature).toList := by
  simp [String.toList_append, segment, (encode_clean _).2]

end Segments

section Assembled

variable {sha256 : Bytes → Digest} {sign : KeyPairId → Digest → Except SigningEngineError Bytes}
  {debug : String → String} {draws : Nat → Salt} {issuer : Issuer} {offer : CredentialOffer}
  {cnfJwk claims : Json} {status : StatusClaim} {now expiresAt : DateTime} {grant : Grant}
  {slot : Slot} {sealing : Sealing} {credential : String} {assertionKeyId : KeyPairId}

def topLevel : Json → List (String × Json)
  | .object claims => claims
  | _ => []

/-- A value less its member under a name. -/
def without (name : String) : Json → Json
  | .object members => .object (members.filter fun member => member.1 != name)
  | value => value

theorem disclose_claims (draws : Nat → Salt) (claims : Json) :
    (disclose draws claims).map (fun disclosure => (disclosure.name, disclosure.value)) =
      topLevel claims := by
  cases claims with
  | object claims =>
      apply List.ext_getElem?
      intro index
      simp only [disclose, topLevel, List.getElem?_map, List.getElem?_mapIdx, Option.map_map]
      cases claims[index]? <;> rfl
  | _ => rfl

theorem disclose_spelled (spelled : claims.isSpelled = true) :
    ∀ disclosure ∈ disclose draws claims, disclosure.value.isSpelled = true := by
  intro disclosure member
  have listed : (disclosure.name, disclosure.value) ∈ topLevel claims := by
    rw [← disclose_claims draws]
    exact List.mem_map_of_mem member
  cases claims with
  | object claims =>
      rw [Json.isSpelled] at spelled
      exact Json.membersSpelled_mem spelled _ listed
  | _ => cases listed

theorem mapM_readDisclosure {disclosures : List Disclosure}
    (spelled : ∀ disclosure ∈ disclosures, disclosure.value.isSpelled = true) :
    (disclosures.map Disclosure.toText).mapM readDisclosure = some disclosures := by
  induction disclosures with
  | nil => rfl
  | cons disclosure disclosures ih =>
      have rest := ih fun other listed => spelled other (List.mem_cons_of_mem _ listed)
      simp [List.mapM_cons, readDisclosure_toText (spelled disclosure List.mem_cons_self), rest]

theorem headerValue_spelled (header : JwsHeader) : (headerValue header).isSpelled = true := rfl

theorem payloadValue_spelled (jwk : cnfJwk.isSpelled = true) :
    (payloadValue sha256 draws issuer offer cnfJwk status now expiresAt).isSpelled = true := by
  have digests : ∀ disclosures : List Disclosure, Json.itemsSpelled
      (disclosures.map fun disclosure => .string (digestText sha256 disclosure.toText)) = true := by
    intro disclosures
    induction disclosures with
    | nil => rfl
    | cons disclosure disclosures ih => simpa [Json.itemsSpelled, Json.isSpelled] using ih
  simp [payloadValue, statusValue, Json.isSpelled, Json.membersSpelled, digests, number_spelled, jwk]

/-- What a reader of the compact credential finds. -/
structure Assembled (sha256 : Bytes → Digest) (claims : Json) (credential : String) (jws : Jws)
    (disclosures : List String) : Prop where
  closed : ∃ front, credential = front ++ "~"
  segments : ∃ token, Text.split '~' credential = token :: (disclosures ++ [""]) ∧
    readJws token = some jws
  disclosed : ∃ read, disclosures.mapM readDisclosure = some read ∧
    read.map (fun disclosure => (disclosure.name, disclosure.value)) = topLevel claims
  digests : jws.payload.get "_sd" =
    some (.array (disclosures.map fun disclosure => .string (digestText sha256 disclosure)))

theorem buildSdJwtVc_assembled (spelled : offer.claims.isSpelled = true)
    (jwk : cnfJwk.isSpelled = true)
    (built : buildSdJwtVc sha256 sign draws assertionKeyId issuer offer cnfJwk status now expiresAt =
      .ok credential) :
    ∃ jws, Assembled sha256 offer.claims credential jws
        ((disclose draws offer.claims).map Disclosure.toText) ∧
      jws.header = headerValue ⟨"ES256", "vc+sd-jwt", assertionKid issuer.did⟩ ∧
      jws.payload = payloadValue sha256 draws issuer offer cnfJwk status now expiresAt ∧
      sign assertionKeyId (sha256 (Text.asBytes jws.signingInput)) = .ok jws.signature := by
  rcases bind_ok.mp built with ⟨signature, signed, same⟩
  cases same
  have payload : (payloadValue sha256 draws issuer offer cnfJwk status now expiresAt).isSpelled =
      true := payloadValue_spelled jwk
  have read := readJws_join (headerValue_spelled ⟨"ES256", "vc+sd-jwt", assertionKid issuer.did⟩)
    payload signature
  refine ⟨_, ⟨⟨_, rfl⟩, ⟨_, ?_, read⟩, ⟨_, mapM_readDisclosure (disclose_spelled spelled),
    disclose_claims draws offer.claims⟩, ?_⟩, rfl, rfl, mapError_ok.mp signed⟩
  · rw [compact_split, Text.split_clean (jws_clean _ _ signature)]
    rfl
  · rw [List.map_map]
    rfl

theorem sealCredential_ok
    (sealed : sealCredential sha256 sign debug draws grant cnfJwk slot = .ok (credential, sealing)) :
    buildSdJwtVc sha256 sign draws grant.assertionKeyId grant.issuer grant.issued cnfJwk
        (buildStatusClaim slot.registryUrl slot.statusListIndex) grant.now grant.expiresAt =
      .ok credential ∧
    sealing.registryUrl = slot.registryUrl ∧ sealing.statusListIndex = slot.statusListIndex ∧
      sealing.integrityHash = sha256 (Text.asBytes credential) := by
  simp only [sealCredential, bind_ok, mapError_ok] at sealed
  rcases sealed with ⟨_, built, _, _, same⟩
  cases same
  exact ⟨built, rfl, rfl, rfl⟩

/-- The header and the signer are those of the draft, and so is every claim of the payload outside
the digests. -/
theorem compact_refines_draft (spelled : grant.issued.claims.isSpelled = true)
    (jwk : cnfJwk.isSpelled = true)
    (sealed : sealCredential sha256 sign debug draws grant cnfJwk slot = .ok (credential, sealing)) :
    ∃ jws disclosures, Assembled sha256 grant.issued.claims credential jws disclosures ∧
      jws.header = headerValue (grant.draft sealing).jwt.header ∧
      sign (grant.draft sealing).jwt.signedBy (sha256 (Text.asBytes jws.signingInput)) =
        .ok jws.signature ∧
      let payload := (grant.draft sealing).jwt.payload
      without "_sd" jws.payload = .object [("_sd_alg", .string "sha-256"),
        ("cnf", .object [("jwk", cnfJwk)]), ("exp", number (timestamp payload.exp)),
        ("iat", number (timestamp payload.iat)), ("iss", .string payload.iss),
        ("status", statusValue payload.status), ("vct", .string payload.vct)] := by
  rcases sealCredential_ok sealed with ⟨built, url, index, _⟩
  rcases buildSdJwtVc_assembled spelled jwk built with ⟨jws, assembled, header, payload, signed⟩
  refine ⟨jws, _, assembled, header, signed, ?_⟩
  rw [payload]
  dsimp only [Grant.draft, SwiyuIssuer.buildSdJwtVc]
  rw [url, index]
  rfl

/-- A sealed credential is read back to the claims that went in, another choice of claims changes
nothing of the payload but the digests, and the row stores the hash of what is returned. -/
theorem assembly_round_trips (spelled : grant.issued.claims.isSpelled = true)
    (jwk : cnfJwk.isSpelled = true)
    (sealed : sealCredential sha256 sign debug draws grant cnfJwk slot = .ok (credential, sealing)) :
    (∃ jws disclosures, Assembled sha256 grant.issued.claims credential jws disclosures ∧
      ∀ other otherCredential otherSealing, other.isSpelled = true →
        sealCredential sha256 sign debug draws
            { grant with issued := { grant.issued with claims := other } } cnfJwk slot =
          .ok (otherCredential, otherSealing) →
        ∃ otherJws otherDisclosures,
          Assembled sha256 other otherCredential otherJws otherDisclosures ∧
            without "_sd" otherJws.payload = without "_sd" jws.payload) ∧
      (grant.draft sealing).row.integrityHash = sha256 (Text.asBytes credential) := by
  rcases sealCredential_ok sealed with ⟨_, url, index, hashed⟩
  rcases compact_refines_draft spelled jwk sealed with ⟨jws, _, assembled, _, _, payload⟩
  refine ⟨⟨jws, _, assembled, ?_⟩, hashed⟩
  intro other otherCredential otherSealing otherSpelled otherSealed
  rcases sealCredential_ok otherSealed with ⟨_, otherUrl, otherIndex, _⟩
  rcases compact_refines_draft otherSpelled jwk otherSealed with
    ⟨otherJws, _, otherAssembled, _, _, otherPayload⟩
  refine ⟨otherJws, _, otherAssembled, ?_⟩
  rw [payload, otherPayload]
  dsimp only [Grant.draft, SwiyuIssuer.buildSdJwtVc]
  rw [url, index, otherUrl, otherIndex]

end Assembled

section Sample

def offerOf (claims : Json) : CredentialOffer :=
  .new sampleOffer sampleIssuer.tenantId sampleIssuer.id (some ⟨"7Ct"⟩) "urn:residence" claims
    sampleCode (seconds 600) 0

def grantOf (claims : Json) : Grant where
  request := ⟨supportedFormat, "urn:residence", supportedProofType, .ok sampleIssuer.id, .ok ⟨"t"⟩⟩
  issuerId := sampleIssuer.id
  token := ⟨⟨"t"⟩, sampleIssuer.tenantId, sampleIssuer.id, sampleOffer, seconds 300⟩
  checkedAt := 2
  offer := offerOf claims
  now := 2
  validity := seconds 1000
  issuer := sampleIssuer
  assertionKeyId := ⟨"2"⟩
  proof := ⟨⟨"n"⟩, "jwk"⟩
  nonce := ⟨⟨"n"⟩, sampleIssuer.tenantId, sampleIssuer.id, sampleOffer, seconds 300⟩
  issued := offerOf claims

def sampleClaims : Json := .object [("age", .number "30"), ("name", .string "Alice")]

def sampleJwk : Json := .object [("crv", .string "P-256"), ("kty", .string "EC"),
  ("x", .string "abc"), ("y", .string "def")]

def sampleSlot : Slot := ⟨⟨"3Ls"⟩, ⟨0, swiyuStatusListCapacity_pos⟩, "https://status.test/1", ⟨"6Cr"⟩⟩

theorem assembly_round_trips_sample : ∃ credential sealing jws disclosures,
    sealCredential (fun _ => .replicate integrityHashLen 0) (fun _ _ => .ok []) String.quote
        (fun _ => .replicate 16 0) (grantOf sampleClaims) sampleJwk sampleSlot =
      .ok (credential, sealing) ∧
    Assembled (fun _ => .replicate integrityHashLen 0) sampleClaims credential jws disclosures := by
  rcases show ∃ sealed, sealCredential (fun _ => .replicate integrityHashLen 0) (fun _ _ => .ok [])
      String.quote (fun _ => .replicate 16 0) (grantOf sampleClaims) sampleJwk sampleSlot =
      .ok sealed from ⟨_, rfl⟩ with ⟨⟨credential, sealing⟩, sealed⟩
  have whole := assembly_round_trips (by decide) (by decide) sealed
  rcases whole.1 with ⟨jws, disclosures, assembled, _⟩
  exact ⟨credential, sealing, jws, disclosures, sealed, assembled⟩

end Sample

end SwiyuIssuer.Oidc.SdJwt
