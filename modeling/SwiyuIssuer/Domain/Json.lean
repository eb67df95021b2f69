import SwiyuIssuer.Domain.Errors

/-! JSON values, and the part of `serde_json` that reads a struct from one: from a JSONB column, or
from a text. -/

namespace SwiyuIssuer

inductive Json
  | null
  | bool (value : Bool)
  | number (text : String)
  | string (text : String)
  | array (items : List Json)
  | object (members : List (String × Json))

/-- `serde_json::Map`, read by key only. -/
abbrev JsonMap := List (String × Json)

namespace JsonMap

def get (map : JsonMap) (key : String) : Option Json := map.lookup key

def insert (map : JsonMap) (key : String) (value : Json) : JsonMap :=
  (key, value) :: map.filter fun member => member.1 != key

/-- The loop of `advance_step`: each key of the patch overwrites the value under it. -/
def merge (map patch : JsonMap) : JsonMap :=
  patch.foldl (fun merged member => merged.insert member.1 member.2) map

@[simp] theorem get_insert_self (map : JsonMap) (key : String) (value : Json) :
    (map.insert key value).get key = some value := by
  simp [get, insert]

theorem get_filter_ne (map : JsonMap) {key other : String} (different : other ≠ key) :
    List.lookup other (map.filter fun member => member.1 != key) = map.lookup other := by
  induction map with
  | nil => rfl
  | cons member map ih =>
      rcases member with ⟨name, value⟩
      by_cases dropped : name = key
      · have skipped : (other == key) = false := by simpa using different
        simp [dropped, List.lookup_cons, skipped, ih]
      · simp [dropped, List.lookup_cons, ih]

theorem get_insert_ne (map : JsonMap) {key other : String} (value : Json)
    (different : other ≠ key) : (map.insert key value).get other = map.get other := by
  have skipped : (other == key) = false := by simpa using different
  simp only [get, insert, List.lookup_cons, skipped]
  exact get_filter_ne map different

end JsonMap

/-- Why a value does not deserialise: an error of this repository's own visitors, or one that
`serde` words itself. -/
inductive JsonError
  | custom (text : String)
  | mismatch
deriving DecidableEq, Repr

namespace Json

/-- The fields that a derived `Deserialize` visits in a JSONB value: the members of an object, or the
items of an array in the order of declaration. -/
def visitStruct (names : List String) : Json → Except JsonError JsonMap
  | object members => .ok members
  | array items =>
      if items.length ≤ names.length then .ok (names.zip items) else .error .mismatch
  | _ => .error .mismatch

/-- The same in a text, where an object may repeat a member; the array has every field. -/
def visitText (names : List String) : Json → Except JsonError JsonMap
  | object members =>
      if names.all fun name => (members.map Prod.fst).count name ≤ 1 then .ok members
      else .error .mismatch
  | array items =>
      if items.length = names.length then .ok (names.zip items) else .error .mismatch
  | _ => .error .mismatch

/-- `#[serde(deny_unknown_fields)]`. -/
def denyUnknownFields (names : List String) (fields : JsonMap) : Except JsonError JsonMap :=
  if fields.all fun member => names.contains member.1 then .ok fields else .error .mismatch

def asString : Json → Except JsonError String
  | string text => .ok text
  | _ => .error .mismatch

def asBool : Json → Except JsonError Bool
  | bool value => .ok value
  | _ => .error .mismatch

def asSeq : Json → Except JsonError (List Json)
  | array items => .ok items
  | _ => .error .mismatch

/-- A field of an `Option` type: `null` reads as `None`. -/
def asOption {α : Type} (read : Json → Except JsonError α) : Json → Except JsonError (Option α)
  | null => .ok none
  | value => (read value).map some

end Json

def JsonMap.required {α : Type} (fields : JsonMap) (name : String)
    (read : Json → Except JsonError α) : Except JsonError α :=
  match fields.get name with
  | some value => read value
  | none => .error .mismatch

/-- A field under `#[serde(default)]`. -/
def JsonMap.orDefault {α : Type} (fields : JsonMap) (name : String) (default : α)
    (read : Json → Except JsonError α) : Except JsonError α :=
  match fields.get name with
  | some value => read value
  | none => .ok default

end SwiyuIssuer
