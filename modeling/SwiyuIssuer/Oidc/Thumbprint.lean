import SwiyuIssuer.Oidc.SdJwtVerifier
import SwiyuIssuer.Oidc.WalletProof

/-! The thumbprint of a holder key, against the canonical JSON of RFC 7638. -/

namespace SwiyuIssuer.Oidc.SdJwt

open Library Library.Answers Library.Base64Url WalletProof

/-- The members that the thumbprint of a key type is made of, in lexicographic order. -/
def requiredMembers (kty : String) : Option (List String) :=
  if kty = "EC" then some ["crv", "kty", "x", "y"]
  else if kty = "OKP" then some ["crv", "kty", "x"]
  else if kty = "RSA" then some ["e", "kty", "n"]
  else if kty = "oct" then some ["k", "kty"]
  else none

def required (jwk : Json) : Option JsonMap := do
  let kty ← (jwk.get "kty").bind Json.asStr
  let names ← requiredMembers kty
  names.mapM fun name => (jwk.get name).map (name, ·)

def canonicalText (jwk : Json) : Option String :=
  (required jwk).map fun members => (Json.object members).toText

/-- The thumbprint of RFC 7638, with SHA-256. -/
def rfc7638 (sha256 : Bytes → Digest) (jwk : Json) : Option String :=
  (canonicalText jwk).map fun text => encode (sha256 (Text.asBytes text)).toList

section Verification

variable (verifyWithEmbeddedJwk : Json → Bytes → Bytes → Except String Unit)

def proofHeader (alg : String) (jwk : Json) : Json :=
  .object [("alg", .string alg), ("jwk", jwk)]

def verifySignature (proof : WalletProof.ProofClaims) : Except OAuthError Unit :=
  (verifyWithEmbeddedJwk (proofHeader proof.alg proof.cnfJwk) (Text.asBytes proof.signingInput)
    proof.signature).mapError .invalidProof

def curveOf (alg : String) : Option String :=
  if alg = "ES256" then some "P-256" else if alg = "EdDSA" then some "Ed25519" else none

/-- The member is unpadded base64url of 32 bytes. -/
def IsCoordinate (jwk : Json) (name : String) : Prop :=
  ∃ bytes : Bytes, bytes.length = 32 ∧ jwk.get name = some (.string (encode bytes))

/-- A JWK with the curve of the algorithm and the coordinates of its key type. -/
structure WellFormed (alg : String) (jwk : Json) : Prop where
  curve : ∃ crv, curveOf alg = some crv ∧ jwk.get "crv" = some (.string crv)
  x : IsCoordinate jwk "x"
  y : jwk.get "kty" = some (.string "EC") → IsCoordinate jwk "y"

/-- `verify_with_embedded_jwk` accepts only well-formed keys. -/
def AcceptsWellFormed : Prop :=
  ∀ alg jwk input signature,
    verifyWithEmbeddedJwk (proofHeader alg jwk) input signature = .ok () → WellFormed alg jwk

/-- The endpoint goes on with the key of a proof, and stores its thumbprint. -/
structure Accepted (sha256 : Bytes → Digest) (debug : String → String) (jwk : Json) (jkt : String) :
    Prop where
  verified : ∃ proof : WalletProof.ProofClaims, proof.cnfJwk = jwk ∧
    verifySignature verifyWithEmbeddedJwk proof = .ok ()
  stored : cnfJwkThumbprint sha256 debug jwk = .ok jkt

end Verification

section Writing

/-- A text that is written between quotation marks as it is. -/
def Plain (text : String) : Prop := ∀ c ∈ text.toList, Json.escape c = [c]

theorem quoteBody_plain {text : String} (plain : Plain text) :
    Json.quoteBody text = text.toList ++ ['"'] := by
  have same : ∀ chars : List Char, (∀ c ∈ chars, Json.escape c = [c]) →
      chars.flatMap Json.escape = chars := by
    intro chars each
    induction chars with
    | nil => rfl
    | cons c rest ih =>
        rw [List.flatMap_cons, each c List.mem_cons_self,
          ih fun d later => each d (List.mem_cons_of_mem c later)]
        rfl
  rw [Json.quoteBody, same _ plain]

theorem alphabet_plain : ∀ c ∈ alphabet, Json.escape c = [c] := by
  have table : alphabet.all (fun c => Json.escape c == [c]) = true := by decide +kernel
  intro c listed
  simpa using List.all_eq_true.mp table c listed

theorem encode_plain (bytes : Bytes) : Plain (encode bytes) := by
  intro c member
  rw [encode, String.toList_ofList] at member
  exact alphabet_plain c (encodeBytes_mem bytes c member)

theorem toText_okp {crv x : String} (curve : Plain crv) (first : Plain x) :
    (Json.object [("crv", .string crv), ("kty", .string "OKP"), ("x", .string x)]).toText =
      "\x7b\"crv\":\"" ++ crv ++ "\",\"kty\":\"OKP\",\"x\":\"" ++ x ++ "\"\x7d" := by
  apply String.toList_injective
  simp [Json.toText, Json.write, Json.writeMembers, quoteBody_plain curve, quoteBody_plain first]
  rfl

theorem toText_ec {crv x y : String} (curve : Plain crv) (first : Plain x) (second : Plain y) :
    (Json.object [("crv", .string crv), ("kty", .string "EC"), ("x", .string x),
        ("y", .string y)]).toText =
      "\x7b\"crv\":\"" ++ crv ++ "\",\"kty\":\"EC\",\"x\":\"" ++ x ++ "\",\"y\":\"" ++ y ++
        "\"\x7d" := by
  apply String.toList_injective
  simp [Json.toText, Json.write, Json.writeMembers, quoteBody_plain curve, quoteBody_plain first,
    quoteBody_plain second]
  rfl

theorem curveOf_plain {alg crv : String} (curve : curveOf alg = some crv) : Plain crv := by
  have known : crv = "P-256" ∨ crv = "Ed25519" := by
    unfold curveOf at curve
    split at curve
    · exact .inl (Option.some.inj curve).symm
    · split at curve
      · exact .inr (Option.some.inj curve).symm
      · cases curve
  have table : ("P-256".toList ++ "Ed25519".toList).all (fun c => Json.escape c == [c]) = true := by
    decide
  intro c member
  have listed : c ∈ "P-256".toList ++ "Ed25519".toList := by
    rcases known with rfl | rfl
    · exact List.mem_append_left _ member
    · exact List.mem_append_right _ member
  simpa using List.all_eq_true.mp table c listed

end Writing

section Thumbprints

variable {sha256 : Bytes → Digest} {debug : String → String} {alg : String} {jwk : Json}
  {jkt : String} {verifyWithEmbeddedJwk : Json → Bytes → Bytes → Except String Unit}

theorem jwkText_ok {kind name text : String} :
    jwkText jwk kind name = .ok text ↔ jwk.get name = some (.string text) := by
  rw [jwkText, okOr_ok, Json.bind_asStr]

theorem required_okp {crv x : String} (typed : jwk.get "kty" = some (.string "OKP"))
    (curve : jwk.get "crv" = some (.string crv)) (first : jwk.get "x" = some (.string x)) :
    required jwk = some [("crv", .string crv), ("kty", .string "OKP"), ("x", .string x)] := by
  simp [required, requiredMembers, typed, curve, first, Json.asStr]

theorem required_ec {crv x y : String} (typed : jwk.get "kty" = some (.string "EC"))
    (curve : jwk.get "crv" = some (.string crv)) (first : jwk.get "x" = some (.string x))
    (second : jwk.get "y" = some (.string y)) :
    required jwk = some [("crv", .string crv), ("kty", .string "EC"), ("x", .string x),
      ("y", .string y)] := by
  simp [required, requiredMembers, typed, curve, first, second, Json.asStr]

theorem WellFormed.curve_plain (wellFormed : WellFormed alg jwk) {crv : String}
    (got : jwk.get "crv" = some (.string crv)) : Plain crv := by
  rcases wellFormed.curve with ⟨known, curve, named⟩
  rw [named, Option.some_inj, Json.string.injEq] at got
  exact got ▸ curveOf_plain curve

theorem IsCoordinate.plain {name text : String} (coordinate : IsCoordinate jwk name)
    (got : jwk.get name = some (.string text)) : Plain text := by
  rcases coordinate with ⟨bytes, _, encoded⟩
  rw [encoded, Option.some_inj, Json.string.injEq] at got
  exact got ▸ encode_plain bytes

/-- The formatted text is the canonical JSON, whichever key type it is formatted for. -/
theorem cnfJwkThumbprint_canonical (wellFormed : WellFormed alg jwk)
    (stored : cnfJwkThumbprint sha256 debug jwk = .ok jkt) :
    ∃ members, required jwk = some members ∧ (Json.object members).isSpelled = true ∧
      encode (sha256 (Text.asBytes (Json.object members).toText)).toList = jkt := by
  rcases bind_ok.mp stored with ⟨kty, typed, stored⟩
  have typed := jwkText_ok.mp typed
  split at stored
  · next okp =>
      simp only [bind_ok, jwkText_ok] at stored
      rcases stored with ⟨crv, curve, x, first, canonical, formatted, hashed⟩
      cases formatted
      refine ⟨_, required_okp (okp ▸ typed) curve first, rfl, ?_⟩
      rw [toText_okp (wellFormed.curve_plain curve) (wellFormed.x.plain first)]
      exact Except.ok.inj hashed
  · split at stored
    · next ec =>
        simp only [bind_ok, jwkText_ok] at stored
        rcases stored with ⟨crv, curve, x, first, y, second, canonical, formatted, hashed⟩
        cases formatted
        have typed := ec ▸ typed
        refine ⟨_, required_ec typed curve first second, rfl, ?_⟩
        rw [toText_ec (wellFormed.curve_plain curve) (wellFormed.x.plain first)
          ((wellFormed.y typed).plain second)]
        exact Except.ok.inj hashed
    · cases stored

theorem Accepted.wellFormed (accepts : AcceptsWellFormed verifyWithEmbeddedJwk)
    (accepted : Accepted verifyWithEmbeddedJwk sha256 debug jwk jkt) : ∃ alg, WellFormed alg jwk := by
  rcases accepted.verified with ⟨proof, rfl, verified⟩
  exact ⟨proof.alg, accepts _ _ _ _ (mapError_ok.mp verified)⟩

/-- The stored thumbprint is that of RFC 7638, and two keys share it only when their required
members are the same. -/
theorem thumbprints_are_rfc7638 {other : Json} {otherJkt : String}
    (accepts : AcceptsWellFormed verifyWithEmbeddedJwk)
    (first : Accepted verifyWithEmbeddedJwk sha256 debug jwk jkt)
    (second : Accepted verifyWithEmbeddedJwk sha256 debug other otherJkt)
    (collisionFree : ∀ text ∈ canonicalText jwk, ∀ otherText ∈ canonicalText other,
      CollisionFree sha256 [text, otherText]) :
    rfc7638 sha256 jwk = some jkt ∧ (jkt = otherJkt ↔ required jwk = required other) := by
  rcases first.wellFormed accepts with ⟨alg, wellFormed⟩
  rcases second.wellFormed accepts with ⟨otherAlg, otherWellFormed⟩
  rcases cnfJwkThumbprint_canonical wellFormed first.stored with ⟨members, read, spelled, hashed⟩
  rcases cnfJwkThumbprint_canonical otherWellFormed second.stored with
    ⟨others, otherRead, otherSpelled, otherHashed⟩
  constructor
  · rw [rfc7638, canonicalText, read, Option.map_some, Option.map_some, hashed]
  · rw [read, otherRead, Option.some_inj]
    constructor
    · intro same
      rw [← hashed, ← otherHashed] at same
      have texts := collisionFree _ (by simp [canonicalText, read]) _
        (by simp [canonicalText, otherRead]) _ List.mem_cons_self _
        (List.mem_cons_of_mem _ List.mem_cons_self) (Vector.toList_inj.mp (encode_injective same))
      have values := Json.ofText_toText spelled
      rw [texts, Json.ofText_toText otherSpelled] at values
      exact (Json.object.inj (Option.some.inj values)).symm
    · intro same
      rw [← hashed, ← otherHashed, same]

end Thumbprints

section Sample

def isCoordinate (jwk : Json) (name : String) : Bool :=
  (((jwk.get name).bind Json.asStr).bind decode).any fun bytes => bytes.length == 32

def sampleVerify (header : Json) (_ signature : Bytes) : Except String Unit :=
  match header.get "jwk" with
  | none => .error "missing jwk"
  | some jwk =>
      if (header.get "alg").bind Json.asStr = some "ES256" ∧
          (jwk.get "crv").bind Json.asStr = some "P-256" ∧ isCoordinate jwk "x" = true ∧
          isCoordinate jwk "y" = true ∧ signature.length = 64 then .ok ()
      else .error "rejected"

theorem isCoordinate_true {jwk : Json} {name : String} (checked : isCoordinate jwk name = true) :
    IsCoordinate jwk name := by
  rcases (Option.any_eq_true _ _).mp checked with ⟨bytes, read, long⟩
  rcases Option.bind_eq_some_iff.mp read with ⟨text, got, decoded⟩
  rw [Json.bind_asStr] at got
  refine ⟨bytes, by simpa using long, ?_⟩
  rw [got, decode_iff.mp decoded]

theorem sampleVerify_wellFormed : AcceptsWellFormed sampleVerify := by
  intro alg jwk input signature accepted
  have algorithm : (proofHeader alg jwk).get "alg" = some (.string alg) := rfl
  have key : (proofHeader alg jwk).get "jwk" = some jwk := rfl
  rw [sampleVerify, key, algorithm] at accepted
  dsimp only at accepted
  split at accepted
  · next checks =>
      have named : alg = "ES256" := by simpa [Json.asStr] using checks.1
      have curve : curveOf alg = some "P-256" := by rw [curveOf, if_pos named]
      exact ⟨⟨"P-256", curve, Json.bind_asStr.mp checks.2.1⟩, isCoordinate_true checks.2.2.1,
        fun _ => isCoordinate_true checks.2.2.2.1⟩
  · cases accepted

def zeroCoordinate : String := encode (.replicate 32 0)

/-- The same key twice, once with its members in another order and a `kid`. -/
def ecKey : Json := .object [("crv", .string "P-256"), ("kty", .string "EC"),
  ("x", .string zeroCoordinate), ("y", .string zeroCoordinate)]

def namedEcKey : Json := .object [("y", .string zeroCoordinate), ("kid", .string "k\"1"),
  ("x", .string zeroCoordinate), ("kty", .string "EC"), ("crv", .string "P-256")]

theorem sample_accepted (jwk : Json) (same : jwk = ecKey ∨ jwk = namedEcKey) :
    Accepted sampleVerify (fun _ => .replicate integrityHashLen 0) String.quote jwk
      (encode (.replicate 32 0)) := by
  refine ⟨⟨⟨"n", jwk, "ES256", "a.b", .replicate 64 0⟩, rfl, ?_⟩, ?_⟩
  · rcases same with rfl | rfl <;> decide +kernel
  · rcases same with rfl | rfl <;> decide +kernel

theorem thumbprints_are_rfc7638_sample :
    rfc7638 (fun _ => .replicate integrityHashLen 0) ecKey = some (encode (.replicate 32 0)) ∧
      required ecKey = required namedEcKey := by
  have texts : canonicalText namedEcKey = canonicalText ecKey := rfl
  have whole := thumbprints_are_rfc7638 sampleVerify_wellFormed (sample_accepted ecKey (.inl rfl))
    (sample_accepted namedEcKey (.inr rfl)) (by
      intro text one otherText two first listed second listed' _
      rw [texts, one] at two
      simp_all)
  exact ⟨whole.1, whole.2.mp rfl⟩

end Sample

end SwiyuIssuer.Oidc.SdJwt
