import SwiyuIssuer.Domain.Json
import SwiyuIssuer.Library.Answers
import Mathlib.Algebra.Group.Int.Defs
import Mathlib.Algebra.Group.Nat.Defs

/-! The pure parts of a `refresh_token` grant: the tenant's credentials, the answer of the token
endpoint, and the clock of a cached token. -/

namespace SwiyuIssuer

open Library

/-- A secret under a key of the encryption engine, by what it seals. -/
structure Ciphertext where
  keyName : String
  plaintext : String
deriving DecidableEq, Repr

/-- The OAuth2 columns of a row of `tenants`. -/
structure TenantOauthRow where
  clientId : Option String
  clientSecret : Option Ciphertext
  refreshToken : Option Ciphertext
deriving DecidableEq, Repr

structure TenantOauthCreds where
  clientId : Option String
  clientSecret : Option String
  refreshToken : Option String
deriving DecidableEq, Repr

structure ValidatedCreds where
  clientId : String
  clientSecret : String
  refreshToken : String
deriving DecidableEq, Repr

def oauth2RefreshTokenKeyName (tenantId : TenantId) : String :=
  "tenant-" ++ tenantId.bare ++ "-oauth2_refresh_token"

def oauth2ClientSecretKeyName (tenantId : TenantId) : String :=
  "tenant-" ++ tenantId.bare ++ "-oauth2_client_secret"

/-- The engine opens a ciphertext under the key that sealed it, when the call does not fail. -/
def decryptToSecretString (fault : Option SecretEncryptionError) (keyName : String)
    (ciphertext : Ciphertext) : Except PersistenceError String :=
  match fault with
  | some e => .error (.encryption e)
  | none =>
      if ciphertext.keyName = keyName then .ok ciphertext.plaintext
      else .error (.encryption (.keyNameMismatch ciphertext.keyName keyName))

def decryptColumn (fault : Option SecretEncryptionError) (keyName : String) :
    Option Ciphertext → Except PersistenceError (Option String)
  | none => .ok none
  | some ciphertext => (decryptToSecretString fault keyName ciphertext).map some

/-- Which of the calls of one read fail, and how. -/
structure ReadFaults where
  query : Option String := none
  clientSecret : Option SecretEncryptionError := none
  refreshToken : Option SecretEncryptionError := none

/-- The two `decrypt` calls of `read_oauth_credentials_for_update`, after its `SELECT`. -/
def readOauthCredentials (tenantId : TenantId) (faults : ReadFaults) (row : TenantOauthRow) :
    Except PersistenceError TenantOauthCreds := do
  let clientSecret ←
    decryptColumn faults.clientSecret (oauth2ClientSecretKeyName tenantId) row.clientSecret
  let refreshToken ←
    decryptColumn faults.refreshToken (oauth2RefreshTokenKeyName tenantId) row.refreshToken
  return ⟨row.clientId, clientSecret, refreshToken⟩

def presentOr (tenantId : TenantId) (column : String) :
    Option String → Except TokenProviderError String
  | some value => .ok value
  | none => .error (.missingCredentials
      ("tenant " ++ tenantId.display ++ ": " ++ column ++ " is NULL"))

def ValidatedCreds.fromRow (row : TenantOauthCreds) (tenantId : TenantId) :
    Except TokenProviderError ValidatedCreds := do
  let clientId ← presentOr tenantId "oauth_client_id" row.clientId
  let clientSecret ← presentOr tenantId "oauth_client_secret" row.clientSecret
  let refreshToken ← presentOr tenantId "oauth_refresh_token" row.refreshToken
  return ⟨clientId, clientSecret, refreshToken⟩

/-- `expires_in` is any `i64`. -/
structure TokenResponse where
  accessToken : String
  refreshToken : String
  expiresIn : Int
deriving DecidableEq, Repr

/-- What is behind a `POST` to the token endpoint. -/
inductive HttpAnswer
  | unsent (error : String)
  | received (status : Nat) (body : Except String String)
deriving Repr

def isSuccess (status : Nat) : Bool := decide (200 ≤ status ∧ status < 300)

def isClientError (status : Nat) : Bool := decide (400 ≤ status ∧ status < 500)

def HttpAnswer.isSuccess : HttpAnswer → Bool
  | received status _ => SwiyuIssuer.isSuccess status
  | unsent _ => false

/-- `serde_json` on a text. `parse` is the value that a visitor meets in it, if it is JSON at all; a
string that is no text, such as half of a surrogate pair, counts as a value of another kind. `word`
is the error of a body that does not read as the type. -/
structure Codec where
  parse : String → Option Json
  word (type body : String) : String

/-- `serde_json::from_str`. -/
def Codec.fromStr {α : Type} (codec : Codec) (type : String) (decode : Json → Except JsonError α)
    (body : String) : Except String α :=
  match codec.parse body with
  | none => .error (codec.word type body)
  | some value => (decode value).mapError fun _ => codec.word type body

/-- The value of a string of decimal digits; a fraction or an exponent makes it none. -/
def decimalValue (digits : List Char) : Option Nat :=
  digits.foldlM (fun value digit =>
    if digit.isDigit then some (value * 10 + (digit.toNat - 48)) else none) 0

/-- An integer literal in the range of `i64`; `-0` is a float. -/
def Json.asI64 : Json → Except JsonError Int
  | .number text =>
      let literal : Option Int := match text.toList with
        | '-' :: digits => (decimalValue digits).map fun value => -value
        | digits => (decimalValue digits).map fun value => value
      match literal with
      | some value =>
          if -2 ^ 63 ≤ value ∧ value < 2 ^ 63 ∧ text ≠ "-0" then .ok value else .error .mismatch
      | none => .error .mismatch
  | _ => .error .mismatch

def tokenFields : List String := ["access_token", "refresh_token", "expires_in"]

def TokenResponse.decode (value : Json) : Except JsonError TokenResponse := do
  let fields ← value.visitText tokenFields
  let accessToken ← fields.required "access_token" Json.asString
  let refreshToken ← fields.required "refresh_token" Json.asString
  let expiresIn ← fields.required "expires_in" Json.asI64
  return ⟨accessToken, refreshToken, expiresIn⟩

structure OauthErrorBody where
  error : Option String
  errorDescription : Option String

def OauthErrorBody.decode (value : Json) : Except JsonError OauthErrorBody := do
  let fields ← value.visitText ["error", "error_description"]
  let error ← fields.orDefault "error" none (Json.asOption Json.asString)
  let errorDescription ← fields.orDefault "error_description" none (Json.asOption Json.asString)
  return ⟨error, errorDescription⟩

section Grant

variable (codec : Codec)

def parseTokenResponse (body : String) : Except TokenProviderError TokenResponse :=
  (codec.fromStr "TokenResponse" TokenResponse.decode body).mapError fun e =>
    .decode ("token endpoint body: " ++ e)

def formatOauthError (status : Nat) (body : String) : String :=
  match codec.fromStr "OauthErrorBody" OauthErrorBody.decode body with
  | .ok parsed =>
      let kind := parsed.error.getD "(no error code)"
      let detail := parsed.errorDescription.getD ""
      if detail.isEmpty then "HTTP " ++ toString status ++ ": " ++ kind
      else "HTTP " ++ toString status ++ ": " ++ kind ++ ": " ++ detail
  | .error _ => "HTTP " ++ toString status ++ ": " ++ body

def doRefreshGrant : HttpAnswer → Except TokenProviderError TokenResponse
  | .unsent e => .error (.transport e)
  | .received _ (.error e) => .error (.transport e)
  | .received status (.ok body) =>
      if isSuccess status then parseTokenResponse codec body
      else if isClientError status then .error (.refreshRejected (formatOauthError codec status body))
      else .error (.transport
        ("token endpoint returned HTTP " ++ toString status ++ ": " ++ body))

/-- The refresh token in a body, whatever else is wrong with it. -/
def Json.refreshToken : Json → Option String
  | .object members => members.findSome? fun member =>
      if member.1 = "refresh_token" then member.2.asString.toOption else none
  | .array (_ :: .string token :: _) => some token
  | _ => none

def carriedToken : HttpAnswer → Option String
  | .received status (.ok body) =>
      if isSuccess status then (codec.parse body).bind Json.refreshToken else none
  | _ => none

end Grant

/-- The largest count that `TimeDelta::seconds` accepts: `i64::MAX` milliseconds, in seconds. -/
def maxDeltaSeconds : Int := 9223372036854775

/-- `DateTime::<Utc>::MIN_UTC` and `MAX_UTC`. -/
def minUtc : DateTime := seconds (-8334601228800)

def maxUtc : DateTime := seconds 8210266876799 + 999999

/-- The count is a `TimeDelta`, and the date that far from `now` is a `DateTime<Utc>`. -/
def datable (now : DateTime) (expiresIn : Int) : Bool :=
  decide (-maxDeltaSeconds ≤ expiresIn ∧ expiresIn ≤ maxDeltaSeconds ∧
    minUtc ≤ now + seconds expiresIn ∧ now + seconds expiresIn ≤ maxUtc)

/-- `now + Duration::seconds(expires_in)`; `none` is a panic, of `TimeDelta::seconds` or of the
addition. -/
def expiresAt (now : DateTime) (expiresIn : Int) : Option DateTime :=
  if datable now expiresIn then some (now + seconds expiresIn) else none

/-- `is_fresh`; the difference of two dates is always a `TimeDelta`. -/
def isFresh (safetyMargin : Int) (expiresAt now : DateTime) : Bool :=
  decide (safetyMargin < expiresAt - now)

theorem decryptToSecretString_ok {fault : Option SecretEncryptionError} {keyName : String}
    {ciphertext : Ciphertext} {secret : String}
    (opened : decryptToSecretString fault keyName ciphertext = .ok secret) :
    ciphertext = ⟨keyName, secret⟩ := by
  unfold decryptToSecretString at opened
  split at opened
  · cases opened
  · split at opened
    · next same =>
        cases opened
        rw [← same]
    · cases opened

theorem validated_refreshToken {tenantId : TenantId} {faults : ReadFaults} {row : TenantOauthRow}
    {read : TenantOauthCreds} {creds : ValidatedCreds}
    (opened : readOauthCredentials tenantId faults row = .ok read)
    (validated : ValidatedCreds.fromRow read tenantId = .ok creds) :
    row.refreshToken = some ⟨oauth2RefreshTokenKeyName tenantId, creds.refreshToken⟩ := by
  simp only [readOauthCredentials, Answers.bind_ok] at opened
  rcases opened with ⟨clientSecret, _, refreshToken, column, made⟩
  cases made
  simp only [ValidatedCreds.fromRow, Answers.bind_ok] at validated
  rcases validated with ⟨_, _, _, _, token, present, made⟩
  cases made
  cases stored : row.refreshToken with
  | none =>
      rw [stored] at column
      cases column
      cases present
  | some ciphertext =>
      rw [stored] at column
      rcases Answers.map_ok.mp column with ⟨secret, decrypted, rfl⟩
      cases present
      rw [decryptToSecretString_ok decrypted]

theorem Codec.fromStr_ok {α : Type} {codec : Codec} {type body : String}
    {decode : Json → Except JsonError α} {result : α} :
    codec.fromStr type decode body = .ok result ↔
      ∃ value, codec.parse body = some value ∧ decode value = .ok result := by
  unfold Codec.fromStr
  cases codec.parse body with
  | none => simp
  | some value => simp [Answers.mapError_ok]

/-- Any other body than that of a success response is no token. -/
theorem carriedToken_failed {codec : Codec} {answer : HttpAnswer}
    (failed : answer.isSuccess = false) : carriedToken codec answer = none := by
  cases answer with
  | unsent => rfl
  | received status body =>
      cases body with
      | error => rfl
      | ok body => exact if_neg (by simp [show isSuccess status = false from failed])

theorem carried_of_get {members : JsonMap} {token : String}
    (found : members.get "refresh_token" = some (.string token)) :
    (Json.object members).refreshToken = some token := by
  induction members with
  | nil => cases found
  | cons member members ih =>
      rcases member with ⟨name, value⟩
      rw [Json.refreshToken, List.findSome?_cons]
      rw [JsonMap.get, List.lookup_cons] at found
      by_cases here : name = "refresh_token"
      · subst here
        cases found
        rfl
      · have elsewhere : ("refresh_token" == name) = false := by simpa using Ne.symm here
        rw [elsewhere] at found
        rw [if_neg here]
        exact ih found

theorem TokenResponse.decode_carried {value : Json} {response : TokenResponse}
    (decoded : TokenResponse.decode value = .ok response) :
    value.refreshToken = some response.refreshToken := by
  simp only [TokenResponse.decode, Answers.bind_ok] at decoded
  rcases decoded with ⟨fields, visited, _, _, token, required, _, _, made⟩
  cases made
  have found : fields.get "refresh_token" = some (.string token) := by
    rw [JsonMap.required] at required
    split at required
    · next value present =>
        rw [present]
        cases value <;> cases required
        rfl
    · cases required
  cases value with
  | object members =>
      rw [Json.visitText] at visited
      split at visited
      · cases visited
        exact carried_of_get found
      · cases visited
  | array items =>
      rw [Json.visitText] at visited
      split at visited
      · cases visited
        match items, found with
        | _ :: second :: _, found =>
            cases found
            rfl
      · cases visited
  | _ => cases visited

/-- A success response that decodes carries the refresh token that it decodes to. -/
theorem carriedToken_of_grant {codec : Codec} {answer : HttpAnswer} {response : TokenResponse}
    (granted : doRefreshGrant codec answer = .ok response) :
    carriedToken codec answer = some response.refreshToken := by
  unfold doRefreshGrant at granted
  split at granted
  · cases granted
  · cases granted
  · next status body =>
      split at granted
      · next success =>
          rcases Codec.fromStr_ok.mp (Answers.mapError_ok.mp granted) with ⟨value, parsed, decoded⟩
          rw [carriedToken, if_pos success, parsed]
          exact TokenResponse.decode_carried decoded
      · split at granted <;> cases granted

end SwiyuIssuer
