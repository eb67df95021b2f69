import SwiyuIssuer.Library.Simulation
import SwiyuIssuer.Library.Update
import SwiyuIssuer.Management.Identifiers
import SwiyuIssuer.Oauth.Seeding
import SwiyuIssuer.Secrets.Engines

/-! The secret columns of `tenants` as the blobs that they are, under the statements of
`persistence::tenants`; beside them the same rows with each blob as the pair that it seals, the rows
that the providers and the seeding commands work on. -/

namespace SwiyuIssuer.Secrets

open Library Oauth

/-- The OAuth2 columns as they are stored. -/
structure StoredRow where
  clientId : Option String
  clientSecret : Option (List UInt8)
  refreshToken : Option (List UInt8)
deriving DecidableEq, Repr

/-- The two encrypted columns. -/
inductive Family
  | clientSecret
  | refreshToken
deriving DecidableEq, Repr

def Family.column : Family → String
  | clientSecret => "oauth_client_secret"
  | refreshToken => "oauth_refresh_token"

def Family.keyName (tenantId : TenantId) : Family → String
  | clientSecret => oauth2ClientSecretKeyName tenantId
  | refreshToken => oauth2RefreshTokenKeyName tenantId

def StoredRow.get (row : StoredRow) : Family → Option (List UInt8)
  | .clientSecret => row.clientSecret
  | .refreshToken => row.refreshToken

def StoredRow.set (row : StoredRow) (blob : Option (List UInt8)) : Family → StoredRow
  | .clientSecret => { row with clientSecret := blob }
  | .refreshToken => { row with refreshToken := blob }

section Statements

variable (crypto : Dev.Crypto) (utf8Error : List UInt8 → String) (engine : AnySecretEncryptionEngine)

/-- `utf8Error` words the error of `String::from_utf8`; `none` is a panic. -/
def decryptToSecretString (draw : Draw) (keyName : String) (ciphertext : List UInt8)
    (column : String) : Option (Except PersistenceError String) :=
  (engine.decrypt crypto draw keyName ciphertext).map fun
    | .error e => .error (.encryption e)
    | .ok plaintext =>
        match Text.fromUtf8 plaintext with
        | some s => .ok s
        | none => .error (.dataIntegrity
            (column ++ ": decrypted bytes are not valid UTF-8: " ++ utf8Error plaintext))

def decryptColumn (draw : Draw) (tenantId : TenantId) (family : Family) :
    Option (List UInt8) → Option (Except PersistenceError (Option String))
  | none => some (.ok none)
  | some bytes =>
      (decryptToSecretString crypto utf8Error engine draw (family.keyName tenantId) bytes
        family.column).map fun answer => answer.map some

/-- `read_oauth_credentials_for_update` behind its `SELECT`. -/
def readOauthCredentialsForUpdate (secretDraw tokenDraw : Draw) (tenantId : TenantId)
    (row : StoredRow) : Option (Except PersistenceError TenantOauthCreds) := do
  match ← decryptColumn crypto utf8Error engine secretDraw tenantId .clientSecret row.clientSecret with
  | .error e => return .error e
  | .ok clientSecret =>
      let refreshToken ←
        decryptColumn crypto utf8Error engine tokenDraw tenantId .refreshToken row.refreshToken
      return refreshToken.map fun refreshToken => ⟨row.clientId, clientSecret, refreshToken⟩

/-- What a statement leaves where it finds a row or none, and the errors it fails with. -/
def writeRow (draw : Draw) (tenantId : TenantId) :
    SeedWrite → Option StoredRow → Except PersistenceError (Option StoredRow)
  | .insert, none => .ok (some ⟨none, none, none⟩)
  | .insert, some _ => .error (.uniqueViolation "tenants_pkey")
  | .updateMetadata, found => .ok found
  | .writeOauthClientCredentials clientId clientSecret, found =>
      match engine.encrypt crypto draw (oauth2ClientSecretKeyName tenantId)
          (Text.asBytes clientSecret) with
      | .error e => .error (.encryption e)
      | .ok ciphertext =>
          match found with
          | none => .error .notFound
          | some row => .ok (some
              { row with clientId := some clientId, clientSecret := some ciphertext })
  | .writeOauthRefreshToken refreshToken, found =>
      match engine.encrypt crypto draw (oauth2RefreshTokenKeyName tenantId)
          (Text.asBytes refreshToken) with
      | .error e => .error (.encryption e)
      | .ok ciphertext =>
          match found with
          | none => .error .notFound
          | some row => .ok (some { row with refreshToken := some ciphertext })

end Statements

structure Cell where
  tenantId : TenantId
  family : Family
deriving DecidableEq, Repr

/-- What is committed on the table: one of its statements, or somebody's copy of an encrypted column
into another one. -/
inductive Event
  | write (tenantId : TenantId) (write : SeedWrite)
  | copy (source target : Cell)
deriving DecidableEq, Repr

abbrev Tenants := TenantId → Option StoredRow

inductive Moves (crypto : Dev.Crypto) (issued : Vault.Issued) (engine : AnySecretEncryptionEngine) :
    Tenants → Event → Tenants → Prop
  | write {table : Tenants} {after : Option StoredRow} (tenantId : TenantId) (write : SeedWrite)
      (draw : Draw) (relies : engine.Relies crypto issued draw)
      (written : writeRow crypto engine draw tenantId write (table tenantId) = .ok after) :
      Moves crypto issued engine table (.write tenantId write)
        (Function.update table tenantId after)
  | copy {table : Tenants} {row other : StoredRow} (source target : Cell)
      (read : table source.tenantId = some row) (found : table target.tenantId = some other) :
      Moves crypto issued engine table (.copy source target)
        (Function.update table target.tenantId
          (some (other.set (row.get source.family) target.family)))

/-- The table with each blob as the pair that it seals. -/
abbrev SealedTenants := TenantId → Option TenantOauthRow

def pairOf (row : TenantOauthRow) : Family → Option Ciphertext
  | .clientSecret => row.clientSecret
  | .refreshToken => row.refreshToken

def setPair (row : TenantOauthRow) (pair : Option Ciphertext) : Family → TenantOauthRow
  | .clientSecret => { row with clientSecret := pair }
  | .refreshToken => { row with refreshToken := pair }

inductive SealedMoves : SealedTenants → Event → SealedTenants → Prop
  | write {table : SealedTenants} (tenantId : TenantId) (write : SeedWrite) :
      SealedMoves table (.write tenantId write)
        (Function.update table tenantId (write.apply tenantId (table tenantId)))
  | copy {table : SealedTenants} {row other : TenantOauthRow} (source target : Cell)
      (read : table source.tenantId = some row) (found : table target.tenantId = some other) :
      SealedMoves table (.copy source target)
        (Function.update table target.tenantId
          (some (setPair other (pairOf row source.family) target.family)))

section Refinement

variable (crypto : Dev.Crypto) (issued : Vault.Issued) (engine : AnySecretEncryptionEngine)

def SealsColumn : Option (List UInt8) → Option Ciphertext → Prop :=
  Option.Rel fun blob pair =>
    engine.Seals crypto issued blob pair.keyName (Text.asBytes pair.plaintext)

structure SealsRow (row : StoredRow) (pairs : TenantOauthRow) : Prop where
  clientId : row.clientId = pairs.clientId
  columns : ∀ family, SealsColumn crypto issued engine (row.get family) (pairOf pairs family)

def SealsTable (table : Tenants) (sealed : SealedTenants) : Prop :=
  ∀ tenantId, Option.Rel (SealsRow crypto issued engine) (table tenantId) (sealed tenantId)

end Refinement

section Reads

variable {crypto : Dev.Crypto} {issued : Vault.Issued} {engine : AnySecretEncryptionEngine}
  {utf8Error : List UInt8 → String} {draw secretDraw tokenDraw : Draw}

theorem decryptToSecretString_seals {blob : List UInt8} {pair : Ciphertext} (keyName column : String)
    (relies : engine.Relies crypto issued draw)
    (holds : engine.Seals crypto issued blob pair.keyName (Text.asBytes pair.plaintext)) :
    ∃ fault, (engine.inProcess = true → fault = none) ∧
      decryptToSecretString crypto utf8Error engine draw keyName blob column =
        some (SwiyuIssuer.decryptToSecretString fault keyName pair) := by
  rcases @decrypt_seals _ _ _ _ keyName _ _ _ relies holds with ⟨fault, inside, answer⟩
  refine ⟨fault, inside, ?_⟩
  rw [decryptToSecretString, answer, Option.map_some]
  cases fault with
  | some e => rfl
  | none =>
      by_cases same : pair.keyName = keyName
      · simp [opened, SwiyuIssuer.decryptToSecretString, same, Text.fromUtf8_asBytes]
      · simp [opened, SwiyuIssuer.decryptToSecretString, same]

theorem decryptColumn_seals {tenantId : TenantId} {blob : Option (List UInt8)}
    {pair : Option Ciphertext} (family : Family) (relies : engine.Relies crypto issued draw)
    (holds : SealsColumn crypto issued engine blob pair) :
    ∃ fault, (engine.inProcess = true → fault = none) ∧
      decryptColumn crypto utf8Error engine draw tenantId family blob =
        some (SwiyuIssuer.decryptColumn fault (family.keyName tenantId) pair) := by
  cases holds with
  | none => exact ⟨none, fun _ => rfl, rfl⟩
  | some holds =>
      rcases decryptToSecretString_seals (family.keyName tenantId) family.column relies holds with
        ⟨fault, inside, answer⟩
      refine ⟨fault, inside, ?_⟩
      rw [decryptColumn, answer]
      rfl

/-- A read of the blobs is a read of the pairs. -/
theorem read_seals {tenantId : TenantId} {row : StoredRow} {pairs : TenantOauthRow}
    (holds : SealsRow crypto issued engine row pairs)
    (secretRelies : engine.Relies crypto issued secretDraw)
    (tokenRelies : engine.Relies crypto issued tokenDraw) :
    ∃ faults, (engine.inProcess = true → faults = ⟨none, none, none⟩) ∧
      readOauthCredentialsForUpdate crypto utf8Error engine secretDraw tokenDraw tenantId row =
        some (readOauthCredentials tenantId faults pairs) := by
  rcases @decryptColumn_seals _ _ _ utf8Error _ tenantId _ _ .clientSecret secretRelies
    (holds.columns .clientSecret) with ⟨secretFault, secretInside, secret⟩
  rcases @decryptColumn_seals _ _ _ utf8Error _ tenantId _ _ .refreshToken tokenRelies
    (holds.columns .refreshToken) with ⟨tokenFault, tokenInside, token⟩
  simp only [StoredRow.get, pairOf, Family.keyName] at secret token
  refine ⟨⟨none, secretFault, tokenFault⟩, ?_, ?_⟩
  · intro inside
    rw [secretInside inside, tokenInside inside]
  · rw [readOauthCredentialsForUpdate, secret, readOauthCredentials, holds.clientId]
    cases SwiyuIssuer.decryptColumn secretFault (oauth2ClientSecretKeyName tenantId)
        pairs.clientSecret with
    | error e => rfl
    | ok clientSecret =>
        simp only [Option.bind_eq_bind, Option.bind_some, token]
        cases SwiyuIssuer.decryptColumn tokenFault (oauth2RefreshTokenKeyName tenantId)
            pairs.refreshToken with
        | error e => rfl
        | ok refreshToken => rfl

end Reads

section Moves

variable {crypto : Dev.Crypto} {issued : Vault.Issued} {engine : AnySecretEncryptionEngine}

theorem SealsRow.set {row : StoredRow} {pairs : TenantOauthRow} {blob : Option (List UInt8)}
    {pair : Option Ciphertext} (family : Family) (holds : SealsRow crypto issued engine row pairs)
    (column : SealsColumn crypto issued engine blob pair) :
    SealsRow crypto issued engine (row.set blob family) (setPair pairs pair family) := by
  constructor
  · cases family <;> exact holds.clientId
  · intro other
    cases family <;> cases other <;>
      first | exact column | exact holds.columns .clientSecret | exact holds.columns .refreshToken

theorem SealsRow.named {row : StoredRow} {pairs : TenantOauthRow} (clientId : Option String)
    (holds : SealsRow crypto issued engine row pairs) :
    SealsRow crypto issued engine { row with clientId } { pairs with clientId } :=
  ⟨rfl, fun family => by cases family <;> first
    | exact holds.columns .clientSecret
    | exact holds.columns .refreshToken⟩

theorem writeRow_clientCredentials {draw : Draw} {tenantId : TenantId}
    {clientId clientSecret : String} {found after : Option StoredRow}
    (written : writeRow crypto engine draw tenantId
      (.writeOauthClientCredentials clientId clientSecret) found = .ok after) :
    ∃ ciphertext row, engine.encrypt crypto draw (oauth2ClientSecretKeyName tenantId)
        (Text.asBytes clientSecret) = .ok ciphertext ∧
      found = some row ∧
      after = some { row with clientId := some clientId, clientSecret := some ciphertext } := by
  cases made : engine.encrypt crypto draw (oauth2ClientSecretKeyName tenantId)
      (Text.asBytes clientSecret) with
  | error e => simp [writeRow, made] at written
  | ok ciphertext =>
      cases found with
      | none => simp [writeRow, made] at written
      | some row =>
          simp only [writeRow, made, Except.ok.injEq] at written
          exact ⟨ciphertext, row, rfl, rfl, written.symm⟩

theorem writeRow_refreshToken {draw : Draw} {tenantId : TenantId} {refreshToken : String}
    {found after : Option StoredRow}
    (written : writeRow crypto engine draw tenantId (.writeOauthRefreshToken refreshToken) found =
      .ok after) :
    ∃ ciphertext row, engine.encrypt crypto draw (oauth2RefreshTokenKeyName tenantId)
        (Text.asBytes refreshToken) = .ok ciphertext ∧
      found = some row ∧ after = some { row with refreshToken := some ciphertext } := by
  cases made : engine.encrypt crypto draw (oauth2RefreshTokenKeyName tenantId)
      (Text.asBytes refreshToken) with
  | error e => simp [writeRow, made] at written
  | ok ciphertext =>
      cases found with
      | none => simp [writeRow, made] at written
      | some row =>
          simp only [writeRow, made, Except.ok.injEq] at written
          exact ⟨ciphertext, row, rfl, rfl, written.symm⟩

/-- What a statement leaves seals what it leaves of the pairs. -/
theorem writeRow_seals {draw : Draw} {tenantId : TenantId} {write : SeedWrite}
    {found after : Option StoredRow} {pairs : Option TenantOauthRow}
    (relies : engine.Relies crypto issued draw)
    (holds : Option.Rel (SealsRow crypto issued engine) found pairs)
    (written : writeRow crypto engine draw tenantId write found = .ok after) :
    Option.Rel (SealsRow crypto issued engine) after (write.apply tenantId pairs) := by
  cases write with
  | insert =>
      cases holds with
      | some _ => cases written
      | none =>
          cases written
          refine .some ⟨rfl, ?_⟩
          intro family
          cases family <;> exact .none
  | updateMetadata =>
      cases written
      exact holds
  | writeOauthClientCredentials clientId clientSecret =>
      rcases writeRow_clientCredentials written with ⟨ciphertext, row, made, rfl, rfl⟩
      cases holds with
      | some holds =>
          exact .some ((holds.named (some clientId)).set .clientSecret
            (.some (encrypt_seals relies made)))
  | writeOauthRefreshToken refreshToken =>
      rcases writeRow_refreshToken written with ⟨ciphertext, row, made, rfl, rfl⟩
      cases holds with
      | some holds => exact .some (holds.set .refreshToken (.some (encrypt_seals relies made)))

theorem SealsTable.update {table : Tenants} {sealed : SealedTenants} {after : Option StoredRow}
    {pairs : Option TenantOauthRow} (holds : SealsTable crypto issued engine table sealed)
    (tenantId : TenantId) (here : Option.Rel (SealsRow crypto issued engine) after pairs) :
    SealsTable crypto issued engine (Function.update table tenantId after)
      (Function.update sealed tenantId pairs) := by
  intro other
  by_cases same : other = tenantId
  · subst same
    rw [Function.update_self, Function.update_self]
    exact here
  · rw [Function.update_of_ne same, Function.update_of_ne same]
    exact holds other

theorem SealsTable.row {table : Tenants} {sealed : SealedTenants} {tenantId : TenantId}
    {row : StoredRow} (holds : SealsTable crypto issued engine table sealed)
    (found : table tenantId = some row) :
    ∃ pairs, sealed tenantId = some pairs ∧ SealsRow crypto issued engine row pairs := by
  have here := holds tenantId
  rw [found] at here
  generalize sealed tenantId = entry at here
  cases here with
  | some holds => exact ⟨_, rfl, holds⟩

/-- The table of blobs takes its steps as the table of pairs does. -/
theorem moves_mirror : Mirrors (Moves crypto issued engine) SealedMoves
    (SealsTable crypto issued engine) := by
  intro table event after sealed holds taken
  cases taken with
  | write tenantId write draw relies written =>
      exact ⟨_, .write tenantId write,
        holds.update tenantId (writeRow_seals relies (holds tenantId) written)⟩
  | copy source target read found =>
      rcases holds.row read with ⟨pairs, readPairs, sealsRead⟩
      rcases holds.row found with ⟨others, foundPairs, sealsFound⟩
      exact ⟨_, .copy source target readPairs foundPairs,
        holds.update target.tenantId (.some (sealsFound.set target.family
          (sealsRead.columns source.family)))⟩

end Moves

section Pairs

/-- The event stores the text in the column. -/
inductive Writes : Event → Cell → String → Prop
  | clientSecret (tenantId : TenantId) (clientId clientSecret : String) :
      Writes (.write tenantId (.writeOauthClientCredentials clientId clientSecret))
        ⟨tenantId, .clientSecret⟩ clientSecret
  | refreshToken (tenantId : TenantId) (refreshToken : String) :
      Writes (.write tenantId (.writeOauthRefreshToken refreshToken))
        ⟨tenantId, .refreshToken⟩ refreshToken

def Touches (cell : Cell) : Event → Prop
  | .write tenantId .insert => cell.tenantId = tenantId
  | .write _ .updateMetadata => False
  | .write tenantId (.writeOauthClientCredentials _ _) => cell = ⟨tenantId, .clientSecret⟩
  | .write tenantId (.writeOauthRefreshToken _) => cell = ⟨tenantId, .refreshToken⟩
  | .copy _ target => cell = target

def Event.isCopy : Event → Bool
  | .copy _ _ => true
  | .write _ _ => false

def Cell.keyName (cell : Cell) : String := cell.family.keyName cell.tenantId

def pairAt (table : SealedTenants) (cell : Cell) : Option Ciphertext :=
  (table cell.tenantId).bind fun row => pairOf row cell.family

variable {table after : SealedTenants} {event : Event} {cell : Cell}

theorem pairOf_setPair (row : TenantOauthRow) (pair : Option Ciphertext) (family other : Family) :
    pairOf (setPair row pair family) other = if other = family then pair else pairOf row other := by
  cases family <;> cases other <;> rfl

theorem pairAt_update (table : SealedTenants) (tenantId : TenantId) (entry : Option TenantOauthRow)
    (cell : Cell) : pairAt (Function.update table tenantId entry) cell =
      if cell.tenantId = tenantId then entry.bind fun row => pairOf row cell.family
      else pairAt table cell := by
  unfold pairAt
  by_cases same : cell.tenantId = tenantId
  · rw [if_pos same, same, Function.update_self]
  · rw [if_neg same, Function.update_of_ne same]

theorem pairAt_update_self (table : SealedTenants) (tenantId : TenantId)
    (entry : Option TenantOauthRow) (family : Family) :
    pairAt (Function.update table tenantId entry) ⟨tenantId, family⟩ =
      entry.bind fun row => pairOf row family := by
  rw [pairAt_update, if_pos rfl]

def Left (table after : SealedTenants) (event : Event) (cell : Cell) : Prop :=
  pairAt after cell = none ∨
    (∃ text, Writes event cell text ∧ pairAt after cell = some ⟨cell.keyName, text⟩) ∨
    ∃ source, event = .copy source cell ∧ pairAt after cell = pairAt table source

theorem pairAt_write {tenantId : TenantId} {write : SeedWrite} {family : Family}
    (here : pairAt after ⟨tenantId, family⟩ =
      (write.apply tenantId (table tenantId)).bind fun row => pairOf row family) :
    (¬ Touches ⟨tenantId, family⟩ (.write tenantId write) ∧
        pairAt after ⟨tenantId, family⟩ = pairAt table ⟨tenantId, family⟩) ∨
      Touches ⟨tenantId, family⟩ (.write tenantId write) ∧
        Left table after (.write tenantId write) ⟨tenantId, family⟩ := by
  have before : pairAt table ⟨tenantId, family⟩ =
      (table tenantId).bind fun row => pairOf row family := rfl
  cases write with
  | insert => exact .inr ⟨rfl, .inl (here.trans (by cases family <;> rfl))⟩
  | updateMetadata => exact .inl ⟨id, here⟩
  | writeOauthClientCredentials clientId clientSecret =>
      cases found : table tenantId with
      | none =>
          rw [found] at here before
          cases family with
          | clientSecret => exact .inr ⟨rfl, .inl here⟩
          | refreshToken => exact .inl ⟨by simp [Touches], here.trans before.symm⟩
      | some row =>
          rw [found] at here before
          cases family with
          | clientSecret =>
              exact .inr ⟨rfl, .inr (.inl ⟨_, .clientSecret tenantId clientId clientSecret, here⟩)⟩
          | refreshToken => exact .inl ⟨by simp [Touches], here.trans before.symm⟩
  | writeOauthRefreshToken refreshToken =>
      cases found : table tenantId with
      | none =>
          rw [found] at here before
          cases family with
          | clientSecret => exact .inl ⟨by simp [Touches], here.trans before.symm⟩
          | refreshToken => exact .inr ⟨rfl, .inl here⟩
      | some row =>
          rw [found] at here before
          cases family with
          | clientSecret => exact .inl ⟨by simp [Touches], here.trans before.symm⟩
          | refreshToken =>
              exact .inr ⟨rfl, .inr (.inl ⟨_, .refreshToken tenantId refreshToken, here⟩)⟩

theorem Touches.tenant {tenantId : TenantId} {write : SeedWrite}
    (touches : Touches cell (.write tenantId write)) : cell.tenantId = tenantId := by
  cases write with
  | insert => exact touches
  | updateMetadata => exact touches.elim
  | writeOauthClientCredentials => exact congrArg Cell.tenantId touches
  | writeOauthRefreshToken => exact congrArg Cell.tenantId touches

theorem pairAt_step (taken : SealedMoves table event after) (cell : Cell) :
    (¬ Touches cell event ∧ pairAt after cell = pairAt table cell) ∨
      Touches cell event ∧ Left table after event cell := by
  cases taken with
  | write tenantId write =>
      rcases cell with ⟨owner, family⟩
      by_cases same : owner = tenantId
      · subst same
        exact pairAt_write (pairAt_update_self _ _ _ _)
      · refine .inl ⟨fun touches => same touches.tenant, ?_⟩
        rw [pairAt_update, if_neg same]
  | copy source target read found =>
      rename_i row other
      rcases cell with ⟨owner, family⟩
      by_cases same : owner = target.tenantId
      · subst same
        have here := pairAt_update_self table target.tenantId
          (some (setPair other (pairOf row source.family) target.family)) family
        rw [Option.bind_some, pairOf_setPair] at here
        by_cases column : family = target.family
        · rw [if_pos column] at here
          refine .inr ⟨by rw [column]; rfl, .inr (.inr ⟨source, by rw [column], ?_⟩)⟩
          rw [here, pairAt, read]
          rfl
        · rw [if_neg column] at here
          refine .inl ⟨fun touches => column (congrArg Cell.family touches), ?_⟩
          rw [here, pairAt, found]
          rfl
      · refine .inl ⟨fun touches => same (congrArg Cell.tenantId touches), ?_⟩
        rw [pairAt_update, if_neg same]

section Runs

variable {first last : SealedTenants} {trace : List Event}

/-- Where a pair comes from: the start, or a write on the way. -/
theorem known_run {Known : Ciphertext → Prop} (run : Run SealedMoves first trace last)
    (early : ∀ cell pair, pairAt first cell = some pair → Known pair)
    (known : ∀ event ∈ trace, ∀ cell text, Writes event cell text → Known ⟨cell.keyName, text⟩) :
    ∀ cell pair, pairAt last cell = some pair → Known pair := by
  induction run with
  | nil => exact early
  | cons taken _ ih =>
      rcases List.forall_mem_cons.mp known with ⟨now, later⟩
      apply ih ?_ later
      intro cell pair found
      rcases pairAt_step taken cell with ⟨_, kept⟩ | ⟨_, none_ | ⟨text, wrote, left⟩ | ⟨source, _, copied⟩⟩
      · exact early cell pair (kept ▸ found)
      · rw [none_] at found
        cases found
      · rw [left] at found
        cases found
        exact now cell text wrote
      · exact early source pair (copied ▸ found)

/-- Without copies, each pair is under the key name of its column. -/
theorem own_run (run : Run SealedMoves first trace last)
    (early : ∀ cell pair, pairAt first cell = some pair → pair.keyName = cell.keyName)
    (uncopied : ∀ event ∈ trace, event.isCopy = false) :
    ∀ cell pair, pairAt last cell = some pair → pair.keyName = cell.keyName := by
  induction run with
  | nil => exact early
  | cons taken _ ih =>
      rcases List.forall_mem_cons.mp uncopied with ⟨now, later⟩
      apply ih ?_ later
      intro cell pair found
      rcases pairAt_step taken cell with ⟨_, kept⟩ | ⟨_, none_ | ⟨text, _, left⟩ | ⟨source, rfl, _⟩⟩
      · exact early cell pair (kept ▸ found)
      · rw [none_] at found
        cases found
      · rw [left] at found
        cases found
        rfl
      · cases now

theorem kept_run (run : Run SealedMoves first trace last)
    (untouched : ∀ event ∈ trace, ¬ Touches cell event) : pairAt last cell = pairAt first cell := by
  induction run with
  | nil => rfl
  | cons taken _ ih =>
      rcases List.forall_mem_cons.mp untouched with ⟨now, later⟩
      rcases pairAt_step taken cell with ⟨_, kept⟩ | ⟨touches, _⟩
      · exact (ih later).trans kept
      · exact absurd touches now

end Runs

def Family.suffix : Family → String
  | clientSecret => "-oauth2_client_secret"
  | refreshToken => "-oauth2_refresh_token"

theorem keyName_eq (cell : Cell) :
    cell.keyName = "tenant-" ++ cell.tenantId.bare ++ cell.family.suffix := by
  rcases cell with ⟨tenantId, family⟩
  cases family with
  | clientSecret => rfl
  | refreshToken => rfl

theorem suffix_length (family other : Family) :
    family.suffix.toList.length = other.suffix.toList.length := by
  cases family <;> cases other <;> decide +kernel

theorem suffix_injective : Function.Injective Family.suffix := by
  intro family other same
  cases family <;> cases other <;> first | rfl | exact absurd same (by decide +kernel)

/-- The two families of one tenant, and any two tenants, have different keys. -/
theorem keyName_injective : Function.Injective Cell.keyName := by
  intro left right same
  rcases left with ⟨⟨bare⟩, family⟩
  rcases right with ⟨⟨otherBare⟩, other⟩
  rw [keyName_eq, keyName_eq, String.append_assoc, String.append_assoc,
    String.append_right_inj, ← String.toList_inj, String.toList_append, String.toList_append] at same
  rcases List.append_inj' same (suffix_length family other) with ⟨tenant, suffix⟩
  have text : bare = otherBare := String.toList_inj.mp tenant
  have kind : family = other := suffix_injective (String.toList_inj.mp suffix)
  rw [text, kind]

def secretOf (creds : TenantOauthCreds) : Family → Option String
  | .clientSecret => creds.clientSecret
  | .refreshToken => creds.refreshToken

theorem decryptColumn_ok {fault : Option SecretEncryptionError} {keyName : String}
    {pair : Option Ciphertext} {secret : Option String}
    (opened : SwiyuIssuer.decryptColumn fault keyName pair = .ok secret) :
    pair = secret.map fun s => ⟨keyName, s⟩ := by
  cases pair with
  | none =>
      cases opened
      rfl
  | some pair =>
      rcases Answers.map_ok.mp opened with ⟨s, decrypted, rfl⟩
      rw [decryptToSecretString_ok decrypted]
      rfl

theorem readOauthCredentials_ok {tenantId : TenantId} {faults : ReadFaults} {row : TenantOauthRow}
    {creds : TenantOauthCreds} (read : readOauthCredentials tenantId faults row = .ok creds)
    (family : Family) :
    pairOf row family = (secretOf creds family).map fun s => ⟨family.keyName tenantId, s⟩ := by
  simp only [readOauthCredentials, Answers.bind_ok] at read
  rcases read with ⟨clientSecret, secret, refreshToken, token, made⟩
  cases made
  cases family with
  | clientSecret => exact decryptColumn_ok secret
  | refreshToken => exact decryptColumn_ok token

/-- Where each pair is under the key name of its column and no call fails, a row is read. -/
theorem readOauthCredentials_own {tenantId : TenantId} {row : TenantOauthRow}
    (own : ∀ family pair, pairOf row family = some pair → pair.keyName = family.keyName tenantId) :
    ∃ creds, readOauthCredentials tenantId ⟨none, none, none⟩ row = .ok creds := by
  have column : ∀ family, ∃ secret, SwiyuIssuer.decryptColumn none (family.keyName tenantId)
      (pairOf row family) = .ok secret := by
    intro family
    cases found : pairOf row family with
    | none => exact ⟨none, rfl⟩
    | some pair =>
        refine ⟨some pair.plaintext, ?_⟩
        simp [SwiyuIssuer.decryptColumn, SwiyuIssuer.decryptToSecretString, own family pair found,
          Except.map]
  rcases column .clientSecret with ⟨clientSecret, secret⟩
  rcases column .refreshToken with ⟨refreshToken, token⟩
  simp only [Family.keyName, pairOf] at secret token
  refine ⟨⟨row.clientId, clientSecret, refreshToken⟩, ?_⟩
  rw [readOauthCredentials, secret, token]
  rfl

end Pairs

section Sample

def sampleCrypto : Dev.Crypto where
  expand _ info := info
  gcmEncrypt key _ plaintext := .ok (key ++ plaintext)
  gcmDecrypt key _ ctAndTag := key.isPrefixOf? ctAndTag

theorem sampleCrypto_documented : sampleCrypto.Documented := by
  intro key nonce plaintext ctAndTag made
  cases made
  exact List.isPrefixOf?_eq_some_iff_append_eq.mpr rfl

def sampleEngine : AnySecretEncryptionEngine := .dev ⟨List.replicate 32 7, rfl⟩

def sampleDraw : Draw := ⟨⟨List.replicate 12 1, rfl⟩, answers ""⟩

def sampleTenant : TenantId := ⟨"4iudRYagtsJc2u"⟩

def sampleToken : List UInt8 :=
  frame Dev.format (Text.asBytes (oauth2RefreshTokenKeyName sampleTenant)) Dev.devKeyVersion
    (sampleDraw.nonce.val ++ (Text.asBytes (Dev.hkdfInfoPrefix ++
      oauth2RefreshTokenKeyName sampleTenant ++ "one")))

def sampleTrace : List Event :=
  [.write sampleTenant .insert, .write sampleTenant (.writeOauthRefreshToken "one")]

def sampleTable : Tenants :=
  Function.update (Function.update (fun _ => none) sampleTenant (some ⟨none, none, none⟩))
    sampleTenant (some ⟨none, none, some sampleToken⟩)

theorem sampleRun : Run (Moves sampleCrypto (fun _ _ _ => False) sampleEngine) (fun _ => none)
    sampleTrace sampleTable := by
  refine .cons (.write sampleTenant .insert sampleDraw sampleCrypto_documented rfl)
    (.single (.write sampleTenant _ sampleDraw sampleCrypto_documented ?_))
  decide +kernel

theorem sampleRead : readOauthCredentialsForUpdate sampleCrypto (fun _ => "") sampleEngine sampleDraw
    sampleDraw sampleTenant ⟨none, none, some sampleToken⟩ = some (.ok ⟨none, none, some "one"⟩) := by
  decide +kernel

end Sample

section Keys

variable {crypto : Dev.Crypto}

/-- The key names of a tenant whose id was minted fit into an envelope. -/
theorem keyName_fits {cell : Cell} (minted : cell.tenantId.Generated) :
    (Text.asBytes cell.keyName).length ≤ maxKeyNameLen := by
  have ends : ∀ family : Family, (Text.asBytes family.suffix).length = 21 := by
    intro family
    cases family <;> decide +kernel
  have front : (Text.asBytes "tenant-").length = 7 := by decide +kernel
  rcases minted with ⟨bytes, drawn⟩
  have room : ∀ count ≤ 10, 256 ^ (10 - count) ≤ 58 ^ (14 - count) := by decide +kernel
  have bare : cell.tenantId.bare.toList.length ≤ 14 := by
    rw [drawn]
    apply Base58.length_encode_le
    · rw [bytes.property]
      decide
    · rw [bytes.property]
      exact room
  have sized := Text.length_asBytes_le cell.tenantId.bare.toList
  rw [String.ofList_toList] at sized
  rw [keyName_eq, Text.length_asBytes_append, Text.length_asBytes_append, ends, front, maxKeyNameLen]
  omega

/-- The secrets of a tenant whose id was minted are sealed, opened in the column that they are sealed
for, and in no other. -/
theorem minted_tenants_seal {cell : Cell} {masterKey : Dev.MasterKey} {draw later : Draw}
    {utf8Error : List UInt8 → String} {secret : String} (minted : cell.tenantId.Generated)
    (documented : crypto.Documented)
    (works : ∀ key nonce, ∃ ctAndTag,
      crypto.gcmEncrypt key nonce (Text.asBytes secret) = .ok ctAndTag) :
    ∃ blob, (AnySecretEncryptionEngine.dev masterKey).encrypt crypto draw cell.keyName
        (Text.asBytes secret) = .ok blob ∧
      ∀ other : Cell, decryptToSecretString crypto utf8Error (.dev masterKey) later other.keyName blob
        other.family.column = some (if other = cell then .ok secret
          else .error (.encryption (.keyNameMismatch cell.keyName other.keyName))) := by
  rcases works (Dev.deriveKey crypto masterKey cell.keyName) draw.nonce with ⟨ctAndTag, made⟩
  rcases encodeWith_ok Dev.format Dev.devKeyVersion (draw.nonce.val ++ ctAndTag)
    (keyName_fits minted) with ⟨blob, encoded⟩
  have sealed : (AnySecretEncryptionEngine.dev masterKey).encrypt crypto draw cell.keyName
      (Text.asBytes secret) = .ok blob := by
    simp only [AnySecretEncryptionEngine.encrypt, Dev.encryptSync, made]
    exact encoded
  refine ⟨blob, sealed, ?_⟩
  intro other
  have relies : ∀ any : Draw, (AnySecretEncryptionEngine.dev masterKey).Relies crypto
      (fun _ _ _ => False) any := fun _ => documented
  rcases @decryptToSecretString_seals _ _ _ utf8Error later _ ⟨cell.keyName, secret⟩ other.keyName
    other.family.column (relies later) (encrypt_seals (relies draw) sealed) with
    ⟨fault, inside, answer⟩
  rw [answer, inside rfl]
  by_cases same : other = cell
  · simp [SwiyuIssuer.decryptToSecretString, same]
  · have apart : cell.keyName ≠ other.keyName := fun named => same (keyName_injective named).symm
    simp [SwiyuIssuer.decryptToSecretString, same, apart]

def mintedCell : Cell := ⟨Id.generate ⟨List.replicate 10 66, rfl⟩, .refreshToken⟩

theorem minted_tenants_seal_sample : ∃ blob,
    sampleEngine.encrypt sampleCrypto sampleDraw mintedCell.keyName (Text.asBytes "one") = .ok blob ∧
      decryptToSecretString sampleCrypto (fun _ => "") sampleEngine sampleDraw mintedCell.keyName blob
        mintedCell.family.column = some (.ok "one") := by
  rcases @minted_tenants_seal sampleCrypto mintedCell ⟨List.replicate 32 7, rfl⟩ sampleDraw
    sampleDraw (fun _ => "") "one" ⟨_, rfl⟩ sampleCrypto_documented (fun _ _ => ⟨_, rfl⟩) with
    ⟨blob, sealed, opened⟩
  exact ⟨blob, sealed, (opened mintedCell).trans (congrArg some (if_pos rfl))⟩

end Keys

section Runs

variable {crypto : Dev.Crypto} {issued : Vault.Issued} {engine : AnySecretEncryptionEngine}
  {utf8Error : List UInt8 → String} {secretDraw tokenDraw : Draw} {first last : Tenants}
  {trace front back : List Event} {event : Event}

/-- No secret is stored. -/
def Unset (table : Tenants) : Prop :=
  ∀ tenantId row family, table tenantId = some row → row.get family = none

def unset (table : Tenants) : SealedTenants := fun tenantId =>
  (table tenantId).map fun row => ⟨row.clientId, none, none⟩

theorem Unset.seals (empty : Unset first) : SealsTable crypto issued engine first (unset first) := by
  intro tenantId
  rw [unset]
  cases found : first tenantId with
  | none => exact .none
  | some row =>
      refine .some ⟨rfl, ?_⟩
      intro family
      rw [empty tenantId row family found]
      cases family <;> exact .none

theorem unset_pairs (table : Tenants) (cell : Cell) : pairAt (unset table) cell = none := by
  rw [pairAt, unset]
  cases table cell.tenantId with
  | none => rfl
  | some row => cases cell.family <;> rfl

/-- What is read of a column was written to this column, whatever was copied where in between. -/
theorem secrets_come_from_their_writes {tenantId : TenantId} {row : StoredRow}
    {creds : TenantOauthCreds} {family : Family} {secret : String} (empty : Unset first)
    (run : Run (Moves crypto issued engine) first trace last) (here : last tenantId = some row)
    (secretRelies : engine.Relies crypto issued secretDraw)
    (tokenRelies : engine.Relies crypto issued tokenDraw)
    (read : readOauthCredentialsForUpdate crypto utf8Error engine secretDraw tokenDraw tenantId row =
      some (.ok creds)) (returned : secretOf creds family = some secret) :
    ∃ event ∈ trace, Writes event ⟨tenantId, family⟩ secret := by
  rcases moves_mirror.run run empty.seals with ⟨sealed, mirrored, holds⟩
  rcases holds.row here with ⟨pairs, entry, seals⟩
  rcases @read_seals _ _ _ utf8Error _ _ tenantId _ _ seals secretRelies tokenRelies with
    ⟨faults, _, answer⟩
  have pair : pairAt sealed ⟨tenantId, family⟩ =
      some ⟨Cell.keyName ⟨tenantId, family⟩, secret⟩ := by
    have column := readOauthCredentials_ok (Option.some.inj (answer.symm.trans read)) family
    rw [returned] at column
    rw [pairAt, entry]
    exact column
  let Known (pair : Ciphertext) : Prop := ∃ event ∈ trace, ∃ cell,
    Writes event cell pair.plaintext ∧ pair.keyName = cell.keyName
  have known : Known ⟨Cell.keyName ⟨tenantId, family⟩, secret⟩ := by
    apply known_run mirrored ?_ ?_ _ _ pair
    · intro cell early found
      rw [unset_pairs] at found
      cases found
    · intro event member cell text wrote
      exact ⟨event, member, cell, wrote, rfl⟩
  rcases known with ⟨event, member, cell, wrote, same⟩
  rw [keyName_injective same]
  exact ⟨event, member, wrote⟩

theorem secrets_come_from_their_writes_sample :
    ∃ event ∈ sampleTrace, Writes event ⟨sampleTenant, .refreshToken⟩ "one" :=
  secrets_come_from_their_writes (fun _ _ _ found => by cases found) sampleRun
    (Function.update_self _ _ _) sampleCrypto_documented sampleCrypto_documented sampleRead rfl

theorem written_row {table after : Tenants} {cell : Cell} {secret : String}
    (wrote : Writes event cell secret) (taken : Moves crypto issued engine table event after) :
    ∃ row, after cell.tenantId = some row := by
  cases taken with
  | copy source target read found => cases wrote
  | write tenantId write draw relies written =>
      rename_i entry
      cases wrote with
      | clientSecret clientId =>
          rcases writeRow_clientCredentials written with ⟨_, row, _, _, rfl⟩
          exact ⟨_, Function.update_self ..⟩
      | refreshToken =>
          rcases writeRow_refreshToken written with ⟨_, row, _, _, rfl⟩
          exact ⟨_, Function.update_self ..⟩

theorem written_pair {table after : SealedTenants} {cell : Cell} {secret : String}
    {pairs : TenantOauthRow} (wrote : Writes event cell secret)
    (taken : SealedMoves table event after) (left : after cell.tenantId = some pairs) :
    pairAt after cell = some ⟨cell.keyName, secret⟩ := by
  cases taken with
  | copy source target read found => cases wrote
  | write tenantId write =>
      cases wrote with
      | clientSecret clientId =>
          rw [Function.update_self] at left
          rw [pairAt_update_self, left]
          rcases Option.map_eq_some_iff.mp left with ⟨row, _, rfl⟩
          rfl
      | refreshToken =>
          rw [Function.update_self] at left
          rw [pairAt_update_self, left]
          rcases Option.map_eq_some_iff.mp left with ⟨row, _, rfl⟩
          rfl

/-- A secret that was written, and whose column was left alone since, is what reads return; and the
engine that asks nobody returns it, unless a column was copied. -/
theorem written_secrets_read_back {cell : Cell} {row : StoredRow} {secret : String}
    (empty : Unset first) (wrote : Writes event cell secret)
    (run : Run (Moves crypto issued engine) first (front ++ event :: back) last)
    (alone : ∀ later ∈ back, ¬ Touches cell later) (here : last cell.tenantId = some row)
    (secretRelies : engine.Relies crypto issued secretDraw)
    (tokenRelies : engine.Relies crypto issued tokenDraw) :
    (∀ creds, readOauthCredentialsForUpdate crypto utf8Error engine secretDraw tokenDraw
        cell.tenantId row = some (.ok creds) → secretOf creds cell.family = some secret) ∧
      (engine.inProcess = true → (∀ each ∈ front ++ event :: back, each.isCopy = false) →
        ∃ creds, readOauthCredentialsForUpdate crypto utf8Error engine secretDraw tokenDraw
          cell.tenantId row = some (.ok creds)) := by
  rcases run.split with ⟨middle, early, rest⟩
  cases rest with
  | cons taken late =>
      rcases moves_mirror.run early empty.seals with ⟨sealedMiddle, mirroredEarly, holdsMiddle⟩
      rcases moves_mirror _ _ _ _ holdsMiddle taken with ⟨sealedAfter, step, holdsAfter⟩
      rcases moves_mirror.run late holdsAfter with ⟨sealed, mirroredLate, holds⟩
      rcases holds.row here with ⟨pairs, entry, seals⟩
      rcases @read_seals _ _ _ utf8Error _ _ cell.tenantId _ _ seals secretRelies tokenRelies with
        ⟨faults, inside, answer⟩
      have column : ∀ family, pairAt sealed ⟨cell.tenantId, family⟩ = pairOf pairs family := by
        intro family
        rw [pairAt, entry]
        rfl
      constructor
      · intro creds read
        rcases written_row wrote taken with ⟨written, found⟩
        rcases holdsAfter.row found with ⟨writtenPairs, left, _⟩
        have kept := kept_run mirroredLate alone
        rw [written_pair wrote step left] at kept
        have returned := readOauthCredentials_ok (Option.some.inj (answer.symm.trans read)) cell.family
        rw [← column, kept] at returned
        rcases Option.map_eq_some_iff.mp returned.symm with ⟨found, is, same⟩
        cases same
        exact is
      · intro inProcess uncopied
        have own := own_run (mirroredEarly.append (.cons step mirroredLate)) (fun _ _ found => by
          rw [unset_pairs] at found
          cases found) uncopied
        have named : ∀ family pair, pairOf pairs family = some pair →
            pair.keyName = family.keyName cell.tenantId := by
          intro family pair found
          exact own ⟨cell.tenantId, family⟩ pair ((column family).trans found)
        rcases readOauthCredentials_own named with ⟨creds, read⟩
        exact ⟨creds, by rw [answer, inside inProcess, read]⟩

theorem written_secrets_read_back_sample : ∃ creds,
    readOauthCredentialsForUpdate sampleCrypto (fun _ => "") sampleEngine sampleDraw sampleDraw
      sampleTenant ⟨none, none, some sampleToken⟩ = some (.ok creds) :=
  (@written_secrets_read_back _ _ _ (fun _ => "") sampleDraw sampleDraw _ _ [_] [] _
    ⟨sampleTenant, .refreshToken⟩ _ _ (fun _ _ _ found => by cases found)
    (.refreshToken sampleTenant "one") sampleRun (by simp) (Function.update_self _ _ _)
    sampleCrypto_documented sampleCrypto_documented).2 rfl (by decide)

end Runs

end SwiyuIssuer.Secrets
