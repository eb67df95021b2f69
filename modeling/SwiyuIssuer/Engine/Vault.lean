import SwiyuIssuer.Domain.OAuth2
import SwiyuIssuer.Engine.Contract
import SwiyuIssuer.Library.Base64Standard
import SwiyuIssuer.Library.Text
import Mathlib.Data.List.Infix

/-! `VaultSigningEngine`: the requests to Vault Transit, one response at a time, and the cache of
algorithms of every process. -/

namespace SwiyuIssuer.Engine

open Library Lifespan

/-- `{algorithm:?}` in an error text. -/
def debugAlgorithm : KeyAlgorithm → String
  | .ed25519 => "Ed25519"
  | .ecdsaP256 => "EcdsaP256"

namespace Vault

abbrev ProcessId := Nat

def vaultKeyVersion : String := "1"

def vaultSignaturePrefix : String := "vault:v1:"

def vaultSignKeyNotFound : String := "signing key not found"

def vaultConfigKeyNotFound : String := "no existing key named"

def vaultDeleteKeyNotFound : String := "could not delete key; not found"

/-- What the engine calls outside this repository: `serde_json`, the PEM reader of `p256`, and how
`base64`, a status and a string are worded. -/
structure Client where
  codec : Codec
  fromPublicKeyPem : String → Except String (List UInt8)
  decodeError : KeyAlgorithm → String → String
  statusText : Nat → String
  debug : String → String

/-- A request to the Transit mount; the one to `keys/{id}/config` allows the deletion. -/
inductive Call
  | create (id : KeyPairId) (type : String)
  | read (id : KeyPairId)
  | sign (id : KeyPairId) (body : Json)
  | config (id : KeyPairId)
  | delete (id : KeyPairId)

def Call.id : Call → KeyPairId
  | create id _ | read id | sign id _ | config id | delete id => id

structure Response where
  status : Nat
  body : Except String String

/-- `body.contains(pattern)`. -/
def contains (body pattern : String) : Bool := decide (pattern.toList <:+: body.toList)

/-- `response.text().await.unwrap_or_default()`. -/
def Response.text (response : Response) : String :=
  match response.body with
  | .ok text => text
  | .error _ => ""

def keyVersion (value : Json) : Except JsonError String := do
  let fields ← value.visitText ["public_key"]
  fields.required "public_key" Json.asString

/-- A `HashMap`: of a member that is repeated the last one stands. -/
def keyVersions : Json → Except JsonError (List (String × String))
  | .object members => members.reverse.mapM fun member => do
      let publicKey ← keyVersion member.2
      return (member.1, publicKey)
  | _ => .error .mismatch

structure KeyReadData where
  type : String
  keys : List (String × String)

def KeyReadData.decode (value : Json) : Except JsonError KeyReadData := do
  let fields ← value.visitText ["type", "keys"]
  let type ← fields.required "type" Json.asString
  let keys ← fields.required "keys" keyVersions
  return ⟨type, keys⟩

def keyReadResponse (value : Json) : Except JsonError KeyReadData := do
  let fields ← value.visitText ["data"]
  fields.required "data" KeyReadData.decode

def signData (value : Json) : Except JsonError String := do
  let fields ← value.visitText ["signature"]
  fields.required "signature" Json.asString

def signResponse (value : Json) : Except JsonError String := do
  let fields ← value.visitText ["data"]
  fields.required "data" signData

def buildSignRequest (input : List UInt8) : KeyAlgorithm → Json
  | .ed25519 => .object [("input", .string (Base64Standard.encode input))]
  | .ecdsaP256 => .object [
      ("input", .string (Base64Standard.encode input)),
      ("prehashed", .bool true),
      ("hash_algorithm", .string "sha2-256"),
      ("marshaling_algorithm", .string "jws")]

section Responses

variable (client : Client)

/-- `response.json()`. -/
def json {α : Type} (type : String) (decode : Json → Except JsonError α) (response : Response) :
    Except SigningEngineError α :=
  (response.body >>= client.codec.fromStr type decode).mapError .backend

def refused (response : Response) : SigningEngineError :=
  .backend ("vault " ++ client.statusText response.status ++ ": " ++ response.text)

/-- `map_error` for `Op::Get`. -/
def getError (id : KeyPairId) (response : Response) : SigningEngineError :=
  if response.status = 404 then .keyNotFound id else refused client response

/-- `map_error` for `Op::Sign`. -/
def signError (id : KeyPairId) (response : Response) : SigningEngineError :=
  if response.status = 400 ∧ contains response.text vaultSignKeyNotFound = true then .keyNotFound id
  else refused client response

def parseVaultAlgorithm (label : String) : Except SigningEngineError KeyAlgorithm :=
  (KeyAlgorithm.tryFrom label).mapError fun other =>
    .backend ("unknown vault key type: " ++ unknownAlgorithm client.debug other)

def parseEd25519PublicKey (b64 : String) : Except SigningEngineError (List UInt8) :=
  match Base64Standard.decode b64 with
  | none => .error (.backend ("ed25519 base64: " ++ client.decodeError .ed25519 b64))
  | some bytes =>
      if bytes.length ≠ 32 then
        .error (.backend ("ed25519 public key has unexpected length: " ++ toString bytes.length))
      else .ok bytes

def parseEcdsaP256PublicKeyPem (pem : String) : Except SigningEngineError (List UInt8) :=
  (client.fromPublicKeyPem pem).mapError fun e => .backend ("ecdsa-p256 pem: " ++ e)

def parsePublicKey : KeyAlgorithm → String → Except SigningEngineError (List UInt8)
  | .ed25519 => parseEd25519PublicKey client
  | .ecdsaP256 => parseEcdsaP256PublicKeyPem client

/-- `fetch_public_key`, behind its response and ahead of `cache_set`. -/
def fetchPublicKey (id : KeyPairId) (response : Response) :
    Except SigningEngineError RawPublicKey := do
  if isSuccess response.status = false then throw (getError client id response)
  let data ← json client "KeyReadResponse" keyReadResponse response
  let algorithm ← parseVaultAlgorithm client data.type
  let publicKey ← Answers.okOr (data.keys.lookup vaultKeyVersion)
    (.backend ("vault key " ++ id.text ++ " missing version \x60" ++ vaultKeyVersion ++ "\x60"))
  let bytes ← parsePublicKey client algorithm publicKey
  return ⟨algorithm, bytes⟩

def decodeSignature : KeyAlgorithm → String → Option (List UInt8)
  | .ed25519 => Base64Standard.decode
  | .ecdsaP256 => Base64Url.decode

def parseVaultSignature (raw : String) (algorithm : KeyAlgorithm) :
    Except SigningEngineError (List UInt8) :=
  match Text.stripPrefix vaultSignaturePrefix raw with
  | none => .error (.backend ("vault signature missing \x60" ++ vaultSignaturePrefix ++
      "\x60 prefix: " ++ raw))
  | some body =>
      match decodeSignature algorithm body with
      | none => .error (.backend ("vault signature base64: " ++ client.decodeError algorithm body))
      | some bytes =>
          if bytes.length ≠ 64 then
            .error (.backend ("vault signature has unexpected length: " ++ toString bytes.length))
          else .ok bytes

/-- `sign`, behind the response of `sign/{id}`. -/
def readSignature (id : KeyPairId) (algorithm : KeyAlgorithm) (response : Response) :
    Except SigningEngineError Signature := do
  if isSuccess response.status = false then throw (signError client id response)
  let raw ← json client "SignResponse" signResponse response
  let bytes ← parseVaultSignature client raw algorithm
  return ⟨algorithm, bytes⟩

/-- `create_key`, behind its response. -/
def createKey (response : Response) : Except SigningEngineError Unit :=
  if isSuccess response.status then .ok ()
  else .error (.backend ("vault create-key " ++ client.statusText response.status ++ ": " ++
    response.text))

/-- `allow_deletion`, behind its response. -/
def allowDeletion (id : KeyPairId) (response : Response) : Except SigningEngineError Unit :=
  if isSuccess response.status then .ok ()
  else if response.status = 400 ∧ contains response.text vaultConfigKeyNotFound = true then .ok ()
  else .error (.backend ("vault keys/" ++ id.text ++ "/config " ++
    client.statusText response.status ++ ": " ++ response.text))

/-- `delete_key`, behind its response. -/
def deleteKey (id : KeyPairId) (response : Response) : Except SigningEngineError Unit :=
  if isSuccess response.status then .ok ()
  else if response.status = 400 ∧ contains response.text vaultDeleteKeyNotFound = true then .ok ()
  else .error (.backend ("vault delete keys/" ++ id.text ++ " " ++
    client.statusText response.status ++ ": " ++ response.text))

end Responses

inductive Purpose
  | created (role : KeyRole)
  | wanted
  | lookup (input : List UInt8)

/-- Where a call stands: the request whose response it waits for. -/
inductive Phase
  | idle
  | creating (role : KeyRole) (id : KeyPairId)
  | fetching (id : KeyPairId) (purpose : Purpose)
  | signing (id : KeyPairId) (input : List UInt8) (algorithm : KeyAlgorithm)
  | allowing (id : KeyPairId)
  | deleting (id : KeyPairId)
  | returned (request : Request) (reply : Reply)
  | dropped (request : Request)

def Purpose.request (id : KeyPairId) : Purpose → Request
  | created role => .generateKeypair role
  | wanted => .getPublicKey id
  | lookup input => .sign id input

namespace Phase

def request : Phase → Option Request
  | idle => none
  | creating role _ => some (.generateKeypair role)
  | fetching id purpose => some (purpose.request id)
  | signing id input _ => some (.sign id input)
  | allowing id | deleting id => some (.deleteKeypair id)
  | returned request _ | dropped request => some request

def reply : Phase → Option Reply
  | returned _ reply => some reply
  | _ => none

def call : Phase → Option Call
  | creating role id => some (.create id (KeyAlgorithm.forRole role).asStr)
  | fetching id _ => some (.read id)
  | signing id input algorithm => some (.sign id (buildSignRequest input algorithm))
  | allowing id => some (.config id)
  | deleting id => some (.delete id)
  | _ => none

end Phase

/-- Vault Transit: the version 1 of a key, with its type, and the responses that a request may have. -/
structure TransitKey where
  type : String
  publicKey : String

structure Transit where
  Server : Type
  key : Server → KeyPairId → Option TransitKey
  answers : Server → Call → Response → Server → Prop

/-- `sent` has a call's last request until Vault has it, and `response` what Vault makes of it. -/
structure State (transit : Transit) where
  server : transit.Server
  used : KeyPairId → Bool
  cache : ProcessId → KeyPairId → Option KeyAlgorithm
  phase : CallId → Phase
  sent : CallId → Option Call
  response : CallId → Option Response

/-- `id` is what `generate_keypair` draws, and nothing to the other requests. -/
inductive Event
  | ask (c : CallId) (request : Request) (id : KeyPairId)
  | serve (c : CallId) (response : Response)
  | receive (c : CallId)
  | giveUp (c : CallId) (details : String)
  | drop (c : CallId)
  | restart (p : ProcessId)

namespace State

variable {transit : Transit}

def goto (state : State transit) (c : CallId) (phase : Phase) : State transit :=
  { state with phase := Function.update state.phase c phase }

def send (state : State transit) (c : CallId) (phase : Phase) : State transit :=
  { state with
    phase := Function.update state.phase c phase
    sent := Function.update state.sent c phase.call
    response := Function.update state.response c none }

def return_ (state : State transit) (c : CallId) (request : Request) (reply : Reply) :
    State transit :=
  state.goto c (.returned request reply)

def fail (state : State transit) (c : CallId) (request : Request) (error : SigningEngineError) :
    State transit :=
  state.return_ c request (.error error)

def cacheSet (state : State transit) (p : ProcessId) (id : KeyPairId)
    (algorithm : Option KeyAlgorithm) : State transit :=
  { state with
    cache := Function.update state.cache p (Function.update (state.cache p) id algorithm) }

end State

section Calls

variable {transit : Transit} (client : Client) (home : CallId → ProcessId)

/-- `sign`, behind `lookup_algorithm`. -/
def signAs (state : State transit) (c : CallId) (id : KeyPairId) (input : List UInt8)
    (algorithm : KeyAlgorithm) : State transit :=
  if algorithm = .ecdsaP256 ∧ input.length ≠ 32 then
    state.fail c (.sign id input) (.invalidInputLength 32 input.length)
  else state.send c (.signing id input algorithm)

def start (state : State transit) (c : CallId) (id : KeyPairId) : Request → State transit
  | .generateKeypair role =>
      { state.send c (.creating role id) with used := Function.update state.used id true }
  | .getPublicKey asked => state.send c (.fetching asked .wanted)
  | .sign asked input =>
      match state.cache (home c) asked with
      | some algorithm => signAs state c asked input algorithm
      | none => state.send c (.fetching asked (.lookup input))
  | .deleteKeypair asked => state.send c (.allowing asked)

def fetched (state : State transit) (c : CallId) (id : KeyPairId) (key : RawPublicKey) :
    Purpose → State transit
  | .created role =>
      if key.algorithm ≠ .forRole role then
        state.fail c (.generateKeypair role) (.backend ("vault returned algorithm " ++
          debugAlgorithm key.algorithm ++ " for key " ++ id.text ++ ", expected " ++
          debugAlgorithm (.forRole role)))
      else state.return_ c (.generateKeypair role) (.ok (.generated ⟨id, key⟩))
  | .wanted => state.return_ c (.getPublicKey id) (.ok (.publicKey key))
  | .lookup input => signAs state c id input key.algorithm

def resume (state : State transit) (c : CallId) (response : Response) : Phase → Option (State transit)
  | .creating role id =>
      match createKey client response with
      | .error e => some (state.fail c (.generateKeypair role) e)
      | .ok () => some (state.send c (.fetching id (.created role)))
  | .fetching id purpose =>
      match fetchPublicKey client id response with
      | .error e => some (state.fail c (purpose.request id) e)
      | .ok key =>
          some (fetched (state.cacheSet (home c) id (some key.algorithm)) c id key purpose)
  | .signing id input algorithm =>
      some (state.return_ c (.sign id input)
        ((readSignature client id algorithm response).map .signed))
  | .allowing id =>
      match allowDeletion client id response with
      | .error e => some (state.fail c (.deleteKeypair id) e)
      | .ok () => some (state.send c (.deleting id))
  | .deleting id =>
      match deleteKey client id response with
      | .error e => some (state.fail c (.deleteKeypair id) e)
      | .ok () =>
          some ((state.cacheSet (home c) id none).return_ c (.deleteKeypair id) (.ok .deleted))
  | .idle | .returned .. | .dropped _ => none

def Drawn (state : State transit) (id : KeyPairId) : Request → Prop
  | .generateKeypair _ => state.used id = false
  | _ => True

inductive Moves (state : State transit) : Event → State transit → Prop
  | ask (c : CallId) (request : Request) (id : KeyPairId) : state.phase c = .idle →
      Drawn state id request →
      Moves state (.ask c request id) (start home state c id request)
  | serve (c : CallId) (call : Call) (response : Response) (server : transit.Server) :
      state.sent c = some call → transit.answers state.server call response server →
      Moves state (.serve c response)
        { state with
          server := server
          sent := Function.update state.sent c none
          response := Function.update state.response c (some response) }
  | receive (c : CallId) (response : Response) (after : State transit) :
      state.response c = some response →
      resume client home state c response (state.phase c) = some after →
      Moves state (.receive c) after
  | giveUp (c : CallId) (request : Request) (details : String) :
      (state.phase c).call ≠ none → (state.phase c).request = some request →
      Moves state (.giveUp c details) (state.fail c request (.backend details))
  | drop (c : CallId) (request : Request) :
      (state.phase c).call ≠ none → (state.phase c).request = some request →
      Moves state (.drop c) (state.goto c (.dropped request))
  | restart (p : ProcessId) :
      Moves state (.restart p)
        { state with cache := Function.update state.cache p (fun _ => none) }

end Calls

def Material (client : Client) (key : TransitKey) (raw : RawPublicKey) : Prop :=
  key.type = raw.algorithm.asStr ∧ parsePublicKey client raw.algorithm key.publicKey = .ok raw.bytes

/-- What Vault documents of Transit. -/
structure Transit.Documented (transit : Transit) (client : Client) (verifies : Verifies) :
    Prop where
  apart : ∀ {server call response after}, transit.answers server call response after →
    ∀ id, id ≠ call.id → transit.key after id = transit.key server id
  creates : ∀ {server id type response after},
    transit.answers server (.create id type) response after →
      transit.key after id = transit.key server id ∨
        ∃ publicKey, transit.key after id = some ⟨type, publicKey⟩ ∧ transit.key server id = none
  deletes : ∀ {server id response after}, transit.answers server (.delete id) response after →
    transit.key after id = transit.key server id ∨ transit.key after id = none
  keeps : ∀ {server call response after}, transit.answers server call response after →
    (∀ id type, call ≠ .create id type) → (∀ id, call ≠ .delete id) →
      transit.key after call.id = transit.key server call.id
  /-- A key that is read is there, under the type and the public key in the body. -/
  reads : ∀ {server id response after data}, transit.answers server (.read id) response after →
    isSuccess response.status = true →
    json client "KeyReadResponse" keyReadResponse response = .ok data →
      ∃ key, transit.key server id = some key ∧ data.type = key.type ∧
        ∀ publicKey, data.keys.lookup vaultKeyVersion = some publicKey → publicKey = key.publicKey
  unread : ∀ {server id response after}, transit.answers server (.read id) response after →
    response.status = 404 → transit.key server id = none
  /-- A key that is asked for a signature in the way of its type gives one. -/
  signs : ∀ {server id body response after raw}, transit.answers server (.sign id body) response after →
    isSuccess response.status = true → json client "SignResponse" signResponse response = .ok raw →
      ∃ key, transit.key server id = some key ∧ ∀ own input bytes, Material client key own →
        body = buildSignRequest input own.algorithm →
          parseVaultSignature client raw own.algorithm = .ok bytes → verifies own input bytes
  unsigned : ∀ {server id body response after},
    transit.answers server (.sign id body) response after → response.status = 400 →
      contains response.text vaultSignKeyNotFound = true → transit.key server id = none
  erased : ∀ {server id response after}, transit.answers server (.delete id) response after →
    isSuccess response.status = true ∨
      (response.status = 400 ∧ contains response.text vaultDeleteKeyNotFound = true) →
        transit.key after id = none

/-- Vault and the processes before the first call; `used` has at least the keys that Vault has. -/
structure State.Initial {transit : Transit} (state : State transit) : Prop where
  drawn : ∀ id, state.used id = false → transit.key state.server id = none
  cold : ∀ p id, state.cache p id = none
  idle : ∀ c, state.phase c = .idle
  unsent : ∀ c, state.sent c = none

end Vault

end SwiyuIssuer.Engine
