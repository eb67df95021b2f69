import SwiyuIssuer.Domain.Issuer
import SwiyuIssuer.Domain.Json
import SwiyuIssuer.Library.Answers

/-! Inputs and accumulated state of the three sagas, as the worker reads them from JSONB. -/

namespace SwiyuIssuer.Worker

open Library

/-- `uuid::Uuid`: parsing accepts the hyphenated text that serialisation writes. -/
structure UuidFormat where
  parse : String → Option KeyPairId
  parse_text : ∀ id : KeyPairId, parse id.text = some id

/-- Every text is taken for a hyphenated one. -/
def hyphenatedUuid : UuidFormat where
  parse text := some ⟨text⟩
  parse_text _ := rfl

structure KeyTriple where
  authorized : KeyPairId
  authentication : KeyPairId
  assertion : KeyPairId
deriving DecidableEq, Repr

def KeyTriple.forRole (triple : KeyTriple) : KeyRole → KeyPairId
  | .authorized => triple.authorized
  | .authentication => triple.authentication
  | .assertion => triple.assertion

def KeyTriple.toJson (triple : KeyTriple) : Json :=
  .object [("authorized", .string triple.authorized.text),
    ("authentication", .string triple.authentication.text),
    ("assertion", .string triple.assertion.text)]

structure CreateIssuerInput where
  description : String
  displayName : String
deriving DecidableEq, Repr

structure DeactivateIssuerInput where
deriving DecidableEq, Repr

structure RotateKeysInput where
  roles : List KeyRole
deriving DecidableEq, Repr

structure CreateIssuerStateData where
  assignedDidUrl : Option String
  assignedIdentifier : Option String
  keyIds : Option KeyTriple
  didlogPublished : Bool
  statusListRegistryEntryId : Option String
  statusListRegistryUrl : Option String
deriving DecidableEq, Repr

structure DeactivateIssuerStateData where
  didlogPublished : Bool
deriving DecidableEq, Repr

structure RotateKeysStateData where
  newKeyTriple : Option KeyTriple
  didlogPublished : Bool
deriving DecidableEq, Repr

def CreateIssuerInput.decode (value : Json) : Except JsonError CreateIssuerInput := do
  let names := ["description", "display_name"]
  let fields ← (value.visitStruct names) >>= Json.denyUnknownFields names
  let description ← fields.required "description" Json.asString
  let displayName ← fields.required "display_name" Json.asString
  return ⟨description, displayName⟩

def DeactivateIssuerInput.decode (value : Json) : Except JsonError DeactivateIssuerInput := do
  let _ ← (value.visitStruct []) >>= Json.denyUnknownFields []
  return {}

def roleNamed : String → Except JsonError KeyRole
  | "authorized" => .ok .authorized
  | "authentication" => .ok .authentication
  | "assertion" => .ok .assertion
  | other => .error (.custom ("unknown role name: " ++ other))

/-- The `seen` loop of `wire_roles`: the first occurrence of each role is kept. -/
def firstOccurrences (roles : List KeyRole) : List KeyRole :=
  roles.foldl (fun out role => if out.contains role then out else out ++ [role]) []

/-- `wire_roles::deserialize`. -/
def wireRoles (value : Json) : Except JsonError (List KeyRole) := do
  let raw ← value.asSeq >>= List.mapM Json.asString
  if raw.isEmpty then .error (.custom "roles must be non-empty")
  else if raw.contains "all" then
    if 1 < raw.length then
      .error (.custom
        "\"all\" must appear alone in roles, not mixed with concrete role names")
    else .ok [.authorized, .authentication, .assertion]
  else (raw.mapM roleNamed).map firstOccurrences

def RotateKeysInput.decode (value : Json) : Except JsonError RotateKeysInput := do
  let fields ← (value.visitStruct ["roles"]) >>= Json.denyUnknownFields ["roles"]
  let roles ← fields.required "roles" wireRoles
  return ⟨roles⟩

section Decode

variable (uuid : UuidFormat)

def readKeyPairId (value : Json) : Except JsonError KeyPairId := do
  let text ← value.asString
  match uuid.parse text with
  | some id => .ok id
  | none => .error .mismatch

def KeyTriple.decode (value : Json) : Except JsonError KeyTriple := do
  let fields ← value.visitStruct ["authorized", "authentication", "assertion"]
  let authorized ← fields.required "authorized" (readKeyPairId uuid)
  let authentication ← fields.required "authentication" (readKeyPairId uuid)
  let assertion ← fields.required "assertion" (readKeyPairId uuid)
  return ⟨authorized, authentication, assertion⟩

def CreateIssuerStateData.decode (value : Json) : Except JsonError CreateIssuerStateData := do
  let fields ← value.visitStruct ["assigned_did_url", "assigned_identifier", "key_ids",
    "didlog_published", "status_list_registry_entry_id", "status_list_registry_url"]
  let assignedDidUrl ← fields.orDefault "assigned_did_url" none (Json.asOption Json.asString)
  let assignedIdentifier ←
    fields.orDefault "assigned_identifier" none (Json.asOption Json.asString)
  let keyIds ← fields.orDefault "key_ids" none (Json.asOption (KeyTriple.decode uuid))
  let didlogPublished ← fields.orDefault "didlog_published" false Json.asBool
  let statusListRegistryEntryId ←
    fields.orDefault "status_list_registry_entry_id" none (Json.asOption Json.asString)
  let statusListRegistryUrl ←
    fields.orDefault "status_list_registry_url" none (Json.asOption Json.asString)
  return ⟨assignedDidUrl, assignedIdentifier, keyIds, didlogPublished, statusListRegistryEntryId,
    statusListRegistryUrl⟩

def DeactivateIssuerStateData.decode (value : Json) :
    Except JsonError DeactivateIssuerStateData := do
  let fields ← value.visitStruct ["didlog_published"]
  let didlogPublished ← fields.orDefault "didlog_published" false Json.asBool
  return ⟨didlogPublished⟩

def RotateKeysStateData.decode (value : Json) : Except JsonError RotateKeysStateData := do
  let fields ← value.visitStruct ["new_key_triple", "didlog_published"]
  let newKeyTriple ←
    fields.orDefault "new_key_triple" none (Json.asOption (KeyTriple.decode uuid))
  let didlogPublished ← fields.orDefault "didlog_published" false Json.asBool
  return ⟨newKeyTriple, didlogPublished⟩

end Decode

theorem readKeyPairId_text (uuid : UuidFormat) (id : KeyPairId) :
    readKeyPairId uuid (.string id.text) = .ok id := by
  apply Answers.bind_ok.mpr
  exact ⟨id.text, rfl, by rw [uuid.parse_text]⟩

theorem KeyTriple.decode_toJson (uuid : UuidFormat) (triple : KeyTriple) :
    KeyTriple.decode uuid triple.toJson = .ok triple := by
  simp only [KeyTriple.decode, Answers.bind_ok]
  refine ⟨_, rfl, triple.authorized, ?_, triple.authentication, ?_, triple.assertion, ?_, rfl⟩
  · exact readKeyPairId_text uuid triple.authorized
  · exact readKeyPairId_text uuid triple.authentication
  · exact readKeyPairId_text uuid triple.assertion

theorem KeyTriple.toJson_injective : Function.Injective KeyTriple.toJson := by
  intro left right same
  have read := KeyTriple.decode_toJson hyphenatedUuid left
  rw [same, KeyTriple.decode_toJson] at read
  cases read
  rfl

end SwiyuIssuer.Worker
