import SwiyuIssuer.Domain.Errors

/-! `api_management::cursor`, over the two crates that it writes texts with. -/

namespace SwiyuIssuer.Management

/-- `bs58`, and the RFC 3339 texts of `chrono`. -/
structure Crates where
  bs58Encode : ByteArray → String
  bs58Decode : String → Except String ByteArray
  toRfc3339 : DateTime → String
  parseFromRfc3339 : String → Option DateTime

def idBytes : Nat := 10

/-- The Bitcoin alphabet. -/
def isBase58Char (c : Char) : Bool :=
  ('1' ≤ c && c ≤ '9') || ('A' ≤ c && c ≤ 'H') || ('J' ≤ c && c ≤ 'N') || ('P' ≤ c && c ≤ 'Z') ||
    ('a' ≤ c && c ≤ 'k') || ('m' ≤ c && c ≤ 'z')

def validateBare (crates : Crates) (s : String) : Except DomainError Unit :=
  if s.toList.any fun c => !isBase58Char c then
    .error (.invalidInput ("identifier contains non-base58 character: " ++ s))
  else
    match crates.bs58Decode s with
    | .error err => .error (.invalidInput ("identifier is not valid base58: " ++ err))
    | .ok decoded =>
        if decoded.size ≠ idBytes then
          .error (.invalidInput ("identifier must decode to " ++ toString idBytes ++
            " bytes, got " ++ toString decoded.size))
        else .ok ()

/-- `split_once`. -/
def splitOnce (text : String) (separator : Char) : Option (String × String) :=
  match text.toList.dropWhile (· != separator) with
  | _ :: back => some (String.ofList (text.toList.takeWhile (· != separator)), String.ofList back)
  | [] => none

namespace Cursor

structure DecodedCursor where
  timestamp : DateTime
  bareId : String
deriving DecidableEq, Repr

def invalidCursor : ApiError :=
  .invalidInput "cursor query parameter: malformed or not issued by this server"

variable (crates : Crates)

def encode (timestamp : DateTime) (bareId : String) : String :=
  crates.bs58Encode (crates.toRfc3339 timestamp ++ "|" ++ bareId).toUTF8

def decode (raw : String) : Except ApiError DecodedCursor :=
  match crates.bs58Decode raw with
  | .error _ => .error invalidCursor
  | .ok bytes =>
      match (String.fromUTF8? bytes).bind (splitOnce · '|') with
      | none => .error invalidCursor
      | some (ts, id) =>
          match crates.parseFromRfc3339 ts, validateBare crates id with
          | some timestamp, .ok () => .ok ⟨timestamp, id⟩
          | _, _ => .error invalidCursor

/-- What the crates promise of one timestamp and one id: their own round trips, and the characters
of an RFC 3339 text. The id is one that `from_bare` accepts. -/
structure Writes (timestamp : DateTime) (bareId : String) : Prop where
  bytes : crates.bs58Decode (encode crates timestamp bareId) =
    .ok (crates.toRfc3339 timestamp ++ "|" ++ bareId).toUTF8
  time : crates.parseFromRfc3339 (crates.toRfc3339 timestamp) = some timestamp
  plain : '|' ∉ (crates.toRfc3339 timestamp).toList
  valid : validateBare crates bareId = .ok ()

end Cursor

theorem splitOnce_append {front back : String} {separator : Char}
    (absent : separator ∉ front.toList) :
    splitOnce (front ++ String.singleton separator ++ back) separator = some (front, back) := by
  have kept : ∀ c ∈ front.toList, (c != separator) = true := by
    intro c member
    rw [bne_iff_ne]
    rintro rfl
    exact absent member
  have text : (front ++ String.singleton separator ++ back).toList =
      front.toList ++ separator :: back.toList := by
    simp
  have later : (front.toList ++ separator :: back.toList).dropWhile (· != separator) =
      separator :: back.toList := by
    rw [List.dropWhile_append_of_pos kept]
    simp
  have earlier : (front.toList ++ separator :: back.toList).takeWhile (· != separator) =
      front.toList := by
    rw [List.takeWhile_append_of_pos kept]
    simp
  rw [splitOnce, text, later, earlier]
  simp

theorem fromUTF8_toUTF8 (text : String) : String.fromUTF8? text.toUTF8 = some text :=
  dif_pos text.isValidUTF8

/-- A cursor decodes to the timestamp and the id that it was made of. -/
theorem Cursor.decode_encode {crates : Crates} {timestamp : DateTime} {bareId : String}
    (writes : Cursor.Writes crates timestamp bareId) :
    Cursor.decode crates (Cursor.encode crates timestamp bareId) = .ok ⟨timestamp, bareId⟩ := by
  have split := @splitOnce_append _ bareId _ writes.plain
  rw [Cursor.decode, writes.bytes]
  dsimp only
  rw [fromUTF8_toUTF8, Option.bind_some, show "|" = String.singleton '|' from rfl, split]
  dsimp only
  rw [writes.time, writes.valid]

end SwiyuIssuer.Management
