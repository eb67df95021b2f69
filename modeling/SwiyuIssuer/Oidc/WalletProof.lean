import SwiyuIssuer.Domain.Numbers
import SwiyuIssuer.Library.Base64Url
import SwiyuIssuer.Library.Text

/-! The structural checks of a wallet's proof of possession: `parse_wallet_proof`. -/

namespace SwiyuIssuer.Oidc.WalletProof

open Library Library.Answers Library.Base64Url

def proofIatSkewSeconds : Int := 300

structure ProofClaims where
  nonce : String
  cnfJwk : Json
  alg : String
  signingInput : String
  signature : Bytes

def invalidProofStructure : OAuthError :=
  .invalidProof "proof JWT is malformed or not a three-segment JWS"

def missing (part : String) : OAuthError := .invalidProof ("proof JWT " ++ part)

def staleProof (iat : Int) : OAuthError :=
  .invalidProof ("proof `iat` " ++ toString iat ++ " is more than " ++
    toString proofIatSkewSeconds ++ "s away from server time")

/-- Whole seconds since the epoch, as `DateTime::timestamp` counts them. -/
def timestamp (now : DateTime) : Int := now / 1000000

def expectedAudience (issuerBaseUrl : String) (issuerId : IssuerId) : String :=
  Text.trimEndMatches (· == '/') issuerBaseUrl ++ "/i/" ++ issuerId.bare

/-- What is known of a proof when its age is looked at. -/
structure Presented where
  headerB64 : String
  payloadB64 : String
  signature : Bytes
  alg : String
  cnfJwk : Json
  payload : Json
  iat : Int

section Parsing

variable (fromSlice : Bytes → Option Json) (debug : String → String)

def readProof (jwt issuerBaseUrl : String) (issuerId : IssuerId) : Except OAuthError Presented :=
  match Text.split '.' jwt with
  | [headerB64, payloadB64, signatureB64] => do
      let headerBytes ← okOr (decode headerB64) invalidProofStructure
      let payloadBytes ← okOr (decode payloadB64) invalidProofStructure
      let signature ← okOr (decode signatureB64) invalidProofStructure
      let header ← okOr (fromSlice headerBytes) invalidProofStructure
      let payload ← okOr (fromSlice payloadBytes) invalidProofStructure
      let alg ← okOr ((header.get "alg").bind Json.asStr) (missing "header is missing `alg`")
      let cnfJwk ← okOr (header.get "jwk") (missing "header is missing the `jwk` member")
      let aud ← okOr ((payload.get "aud").bind Json.asStr) (missing "payload is missing `aud`")
      if aud = expectedAudience issuerBaseUrl issuerId then
        let iat ← okOr ((payload.get "iat").bind Json.toI64) (missing "payload is missing `iat`")
        .ok ⟨headerB64, payloadB64, signature, alg, cnfJwk, payload, iat⟩
      else
        .error (.invalidProof ("proof `aud` " ++ debug aud ++ " does not match issuer URL " ++
          debug (expectedAudience issuerBaseUrl issuerId)))
  | _ => .error invalidProofStructure

def finishProof (proof : Presented) : Except OAuthError ProofClaims := do
  let nonce ← okOr ((proof.payload.get "nonce").bind Json.asStr)
    (missing "payload is missing `nonce`")
  return ⟨nonce, proof.cnfJwk, proof.alg, proof.headerB64 ++ "." ++ proof.payloadB64,
    proof.signature⟩

/-- `none` is a panic. -/
def parseWalletProof (overflowChecks : Bool) (jwt issuerBaseUrl : String) (issuerId : IssuerId)
    (now : DateTime) : Option (Except OAuthError ProofClaims) :=
  match readProof fromSlice debug jwt issuerBaseUrl issuerId with
  | .error error => some (.error error)
  | .ok proof => do
      let age ← settleI64 overflowChecks (proof.iat - timestamp now)
      let distance ← settleI64 overflowChecks |age|
      if distance > proofIatSkewSeconds then return .error (staleProof proof.iat)
      return finishProof proof

/-- A proof that is made out for the issuer, with its header and payload. -/
structure MadeFor (jwt issuerBaseUrl : String) (issuerId : IssuerId) (header payload : Json) :
    Prop where
  segments : ∃ headerBytes payloadBytes signature,
    jwt = encode headerBytes ++ "." ++ encode payloadBytes ++ "." ++ encode signature ∧
    fromSlice headerBytes = some header ∧ fromSlice payloadBytes = some payload
  alg : ∃ alg, header.get "alg" = some (.string alg)
  jwk : ∃ jwk, header.get "jwk" = some jwk
  aud : payload.get "aud" = some (.string (expectedAudience issuerBaseUrl issuerId))

/-- `iat` is an `i64`. -/
def IssuedAt (payload : Json) (iat : Int) : Prop := (payload.get "iat").bind Json.toI64 = some iat

structure FreshAndBound (jwt issuerBaseUrl : String) (issuerId : IssuerId) (now : DateTime)
    (header payload : Json) (iat : Int) (nonce : String) : Prop where
  madeFor : MadeFor fromSlice jwt issuerBaseUrl issuerId header payload
  issued : IssuedAt payload iat
  fresh : |iat - timestamp now| ≤ 300
  nonce : payload.get "nonce" = some (.string nonce)

/-- The text in front of the second dot. -/
def BeforeSecondDot (jwt input : String) : Prop :=
  ∃ rest, jwt = input ++ "." ++ rest ∧ input.toList.count '.' = 1

/-- A proof is accepted exactly when it is fresh and bound, with overflow checks and without. -/
def ParsesExactly (jwt issuerBaseUrl : String) (issuerId : IssuerId) (now : DateTime) : Prop :=
  ∀ overflowChecks, ∃ answer,
    parseWalletProof fromSlice debug overflowChecks jwt issuerBaseUrl issuerId now = some answer ∧
    ((∃ claims, answer = .ok claims) ↔
      ∃ header payload iat nonce,
        FreshAndBound fromSlice jwt issuerBaseUrl issuerId now header payload iat nonce) ∧
    ∀ claims, answer = .ok claims → BeforeSecondDot jwt claims.signingInput

/-- The age of a proof for the issuer is less than `2 ^ 63` seconds either way. -/
def AgeInRange (jwt issuerBaseUrl : String) (issuerId : IssuerId) (now : DateTime) : Prop :=
  ∀ header payload iat, MadeFor fromSlice jwt issuerBaseUrl issuerId header payload →
    IssuedAt payload iat → |iat - timestamp now| < 2 ^ 63

end Parsing

theorem dot_not_mem (bytes : Bytes) : '.' ∉ (encode bytes).toList :=
  not_mem_encode (by decide) bytes

theorem split_segments (headerBytes payloadBytes signature : Bytes) :
    Text.split '.' (encode headerBytes ++ "." ++ encode payloadBytes ++ "." ++ encode signature) =
      [encode headerBytes, encode payloadBytes, encode signature] := by
  apply Text.split_of_join
  · simp [String.toList_append, List.intercalate_cons_cons]
  · simp
  · simp [dot_not_mem]

theorem join_segments {jwt headerB64 payloadB64 signatureB64 : String}
    (segments : Text.split '.' jwt = [headerB64, payloadB64, signatureB64]) :
    jwt = headerB64 ++ "." ++ payloadB64 ++ "." ++ signatureB64 := by
  have joined := Text.split_join '.' jwt
  rw [segments] at joined
  apply String.toList_injective
  rw [← joined]
  simp [String.toList_append, List.intercalate_cons_cons]

variable {fromSlice : Bytes → Option Json} {debug : String → String} {jwt issuerBaseUrl : String}
  {issuerId : IssuerId}

theorem readProof_sound {proof : Presented}
    (read : readProof fromSlice debug jwt issuerBaseUrl issuerId = .ok proof) :
    (∃ header, MadeFor fromSlice jwt issuerBaseUrl issuerId header proof.payload) ∧
      IssuedAt proof.payload proof.iat ∧
      BeforeSecondDot jwt (proof.headerB64 ++ "." ++ proof.payloadB64) := by
  unfold readProof at read
  split at read
  · next headerB64 payloadB64 signatureB64 segments =>
      simp only [bind_ok, okOr_ok] at read
      rcases read with ⟨headerBytes, headerRead, payloadBytes, payloadRead, signature,
        signatureRead, header, headerJson, payload, payloadJson, alg, algRead, jwk, jwkRead, aud,
        audRead, rest⟩
      split at rest
      · next addressed =>
          simp only [bind_ok, okOr_ok] at rest
          rcases rest with ⟨iat, iatRead, answered⟩
          cases answered
          have whole := join_segments segments
          rw [decode_iff] at headerRead payloadRead signatureRead
          subst headerRead payloadRead signatureRead
          refine ⟨⟨header, ⟨_, _, _, whole, headerJson, payloadJson⟩, ⟨alg, Json.bind_asStr.mp algRead⟩,
            ⟨jwk, jwkRead⟩, addressed ▸ Json.bind_asStr.mp audRead⟩, iatRead, encode signature, whole, ?_⟩
          rw [String.toList_append, String.toList_append, List.count_append, List.count_append,
            List.count_eq_zero.mpr (dot_not_mem headerBytes),
            List.count_eq_zero.mpr (dot_not_mem payloadBytes)]
          rfl
      · cases rest
  · cases read

theorem readProof_complete (debug : String → String) {header payload : Json} {iat : Int}
    (madeFor : MadeFor fromSlice jwt issuerBaseUrl issuerId header payload)
    (issuedAt : IssuedAt payload iat) :
    ∃ proof, readProof fromSlice debug jwt issuerBaseUrl issuerId = .ok proof ∧
      proof.payload = payload ∧ proof.iat = iat := by
  rcases madeFor with ⟨⟨headerBytes, payloadBytes, signature, rfl, headerJson, payloadJson⟩,
    ⟨alg, algNamed⟩, ⟨jwk, jwkNamed⟩, addressed⟩
  refine ⟨⟨encode headerBytes, encode payloadBytes, signature, alg, jwk, payload, iat⟩, ?_, rfl,
    rfl⟩
  unfold readProof
  rw [split_segments]
  simp only [bind_ok, okOr_ok]
  refine ⟨headerBytes, decode_encode headerBytes, payloadBytes, decode_encode payloadBytes,
    signature, decode_encode signature, header, headerJson, payload, payloadJson, alg,
    Json.bind_asStr.mpr algNamed, jwk, jwkNamed, _, Json.bind_asStr.mpr addressed, ?_⟩
  rw [if_pos rfl, bind_ok]
  exact ⟨iat, okOr_ok.mpr issuedAt, rfl⟩

theorem finishProof_ok {proof : Presented} {claims : ProofClaims} :
    finishProof proof = .ok claims ↔
      ∃ nonce, proof.payload.get "nonce" = some (.string nonce) ∧
        claims = ⟨nonce, proof.cnfJwk, proof.alg, proof.headerB64 ++ "." ++ proof.payloadB64,
          proof.signature⟩ := by
  simp only [finishProof, bind_ok, okOr_ok, Json.bind_asStr]
  constructor
  · rintro ⟨nonce, named, answered⟩
    cases answered
    exact ⟨nonce, named, rfl⟩
  · rintro ⟨nonce, named, rfl⟩
    exact ⟨nonce, named, rfl⟩

variable {now : DateTime}

theorem inI64_of_abs {exact : Int} (small : |exact| < 2 ^ 63) :
    inI64 exact = true ∧ inI64 |exact| = true := by
  rw [abs_lt] at small
  have positive := abs_nonneg exact
  have bounded : |exact| < 2 ^ 63 := abs_lt.mpr small
  simp only [inI64, decide_eq_true_eq]
  omega

theorem parseWalletProof_inRange (overflowChecks : Bool) {proof : Presented}
    (read : readProof fromSlice debug jwt issuerBaseUrl issuerId = .ok proof)
    (inRange : |proof.iat - timestamp now| < 2 ^ 63) :
    parseWalletProof fromSlice debug overflowChecks jwt issuerBaseUrl issuerId now =
      some (if |proof.iat - timestamp now| > proofIatSkewSeconds then .error (staleProof proof.iat)
        else finishProof proof) := by
  rcases inI64_of_abs inRange with ⟨age, distance⟩
  unfold parseWalletProof
  rw [read]
  simp only [settleI64_inside age, settleI64_inside distance, Option.bind_eq_bind,
    Option.bind_some]
  split <;> rfl

theorem parseWalletProof_outOfRange {proof : Presented}
    (read : readProof fromSlice debug jwt issuerBaseUrl issuerId = .ok proof)
    (outOfRange : ¬ |proof.iat - timestamp now| < 2 ^ 63) :
    parseWalletProof fromSlice debug true jwt issuerBaseUrl issuerId now = none := by
  unfold parseWalletProof
  rw [read]
  cases age : inI64 (proof.iat - timestamp now) with
  | false => simp [settleI64_outside age]
  | true =>
      have distance : inI64 |proof.iat - timestamp now| = false := by
        rw [inI64, decide_eq_false_iff_not]
        omega
      simp [settleI64_inside age, settleI64_outside distance]

/-- Parsing is exact, and never panics, exactly when the age of a proof that is made out for the
issuer is in range. -/
theorem wallet_proofs_are_parsed_exactly (fromSlice : Bytes → Option Json)
    (debug : String → String) (jwt issuerBaseUrl : String) (issuerId : IssuerId) (now : DateTime) :
    ParsesExactly fromSlice debug jwt issuerBaseUrl issuerId now ↔
      AgeInRange fromSlice jwt issuerBaseUrl issuerId now := by
  cases read : readProof fromSlice debug jwt issuerBaseUrl issuerId with
  | error error =>
      have unread : ∀ header payload iat, MadeFor fromSlice jwt issuerBaseUrl issuerId header payload →
          ¬ IssuedAt payload iat := by
        intro header payload iat madeFor issuedAt
        rcases readProof_complete debug madeFor issuedAt with ⟨proof, found, _⟩
        rw [read] at found
        cases found
      constructor
      · intro _ header payload iat madeFor issuedAt
        exact absurd issuedAt (unread header payload iat madeFor)
      · intro _ overflowChecks
        refine ⟨.error error, ?_, ⟨?_, ?_⟩, ?_⟩
        · rw [parseWalletProof, read]
        · rintro ⟨claims, absurd_⟩
          cases absurd_
        · rintro ⟨header, payload, iat, nonce, accepted⟩
          exact absurd accepted.issued (unread header payload iat accepted.madeFor)
        · intro claims absurd_
          cases absurd_
  | ok proof =>
      rcases readProof_sound read with ⟨⟨header, madeFor⟩, issuedAt, front⟩
      have unique : ∀ header' payload iat,
          MadeFor fromSlice jwt issuerBaseUrl issuerId header' payload → IssuedAt payload iat →
            proof.payload = payload ∧ proof.iat = iat := by
        intro header' payload iat madeFor' issuedAt'
        rcases readProof_complete debug madeFor' issuedAt' with ⟨other, found, same⟩
        rw [read] at found
        cases found
        exact same
      constructor
      · intro exactly_ header' payload iat madeFor' issuedAt'
        rcases unique header' payload iat madeFor' issuedAt' with ⟨_, rfl⟩
        by_contra outOfRange
        rcases exactly_ true with ⟨answer, answered, _⟩
        rw [parseWalletProof_outOfRange read outOfRange] at answered
        cases answered
      · intro inRange overflowChecks
        have age := inRange header proof.payload proof.iat madeFor issuedAt
        refine ⟨_, parseWalletProof_inRange overflowChecks read age, ?_, ?_⟩
        · constructor
          · rintro ⟨claims, accepted⟩
            split at accepted
            · cases accepted
            · next fresh =>
                rcases finishProof_ok.mp accepted with ⟨nonce, named, _⟩
                exact ⟨header, proof.payload, proof.iat, nonce, madeFor, issuedAt,
                  not_lt.mp fresh, named⟩
          · rintro ⟨header', payload, iat, nonce, madeFor', issuedAt', fresh, named⟩
            rcases unique header' payload iat madeFor' issuedAt' with ⟨rfl, rfl⟩
            have young : ¬ |proof.iat - timestamp now| > proofIatSkewSeconds := not_lt.mpr fresh
            rw [if_neg young]
            exact ⟨_, finishProof_ok.mpr ⟨nonce, named, rfl⟩⟩
        · intro claims accepted
          split at accepted
          · cases accepted
          · rcases finishProof_ok.mp accepted with ⟨nonce, _, rfl⟩
            exact front

def ascii (text : String) : Bytes := text.toList.map fun c => .ofNat c.toNat

def sampleHeaderText : String := "\x7b\"alg\":\"ES256\",\"jwk\":\x7b\x7d\x7d"

def samplePayloadText : String :=
  "\x7b\"aud\":\"https://issuer.example/i/abc\",\"iat\":-9223372035154775808,\"nonce\":\"n\"\x7d"

def sampleHeader : Json := .object [("alg", .string "ES256"), ("jwk", .object [])]

def samplePayload : Json :=
  .object [("aud", .string "https://issuer.example/i/abc"), ("iat", .number "-9223372035154775808"),
    ("nonce", .string "n")]

def sampleSlice (bytes : Bytes) : Option Json :=
  if bytes = ascii sampleHeaderText then some sampleHeader
  else if bytes = ascii samplePayloadText then some samplePayload
  else none

def sampleProof : String :=
  encode (ascii sampleHeaderText) ++ "." ++ encode (ascii samplePayloadText) ++ "." ++ encode []

/-- A proof that is `2 ^ 63` seconds old panics, or passes as fresh. -/
theorem oldest_proof_panics_or_is_fresh :
    let parse := fun overflowChecks => parseWalletProof sampleSlice String.quote overflowChecks
      sampleProof "https://issuer.example/" ⟨"abc"⟩ (seconds 1700000000)
    parse true = none ∧ (∃ claims, parse false = some (.ok claims)) ∧
      ¬ ParsesExactly sampleSlice String.quote sampleProof "https://issuer.example/" ⟨"abc"⟩
        (seconds 1700000000) := by
  have audience : "https://issuer.example/i/abc" =
      expectedAudience "https://issuer.example/" ⟨"abc"⟩ := by decide
  have differ : ascii samplePayloadText ≠ ascii sampleHeaderText := by decide
  have madeFor : MadeFor sampleSlice sampleProof "https://issuer.example/" ⟨"abc"⟩ sampleHeader
      samplePayload :=
    ⟨⟨_, _, _, rfl, if_pos rfl, (if_neg differ).trans (if_pos rfl)⟩, ⟨"ES256", rfl⟩,
      ⟨.object [], rfl⟩, congrArg (fun text => some (Json.string text)) audience⟩
  have issuedAt : (samplePayload.get "iat").bind Json.toI64 = some (-9223372035154775808) := by
    decide
  rcases readProof_complete String.quote madeFor issuedAt with ⟨proof, read, named, age⟩
  have nonce : proof.payload.get "nonce" = some (.string "n") := by
    rw [named]
    rfl
  rcases show ∃ claims, finishProof proof = .ok claims from ⟨_, finishProof_ok.mpr ⟨"n", nonce, rfl⟩⟩
    with ⟨claims, finished⟩
  have panics : parseWalletProof sampleSlice String.quote true sampleProof "https://issuer.example/"
      ⟨"abc"⟩ (seconds 1700000000) = none := by
    apply parseWalletProof_outOfRange read
    rw [age]
    decide
  refine ⟨panics, ⟨claims, ?_⟩, ?_⟩
  · dsimp only
    rw [parseWalletProof, read]
    dsimp only
    rw [age, finished]
    rfl
  · intro exactly_
    rcases exactly_ true with ⟨answer, answered, _⟩
    rw [panics] at answered
    cases answered

end SwiyuIssuer.Oidc.WalletProof
