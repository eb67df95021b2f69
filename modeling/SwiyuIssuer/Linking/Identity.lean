import SwiyuIssuer.Linking.Safety
import SwiyuIssuer.Management.TokenValidator
import Mathlib.Data.List.Sort

/-! What the three paths that a user identity takes make of its two texts: `accept` and `resolve`,
which trim them, and the act-as-user branch of `TenantContext`, which does not. -/

namespace SwiyuIssuer.Linking

open Library Library.Answers Persistence Management

def maxIdentityFieldLength : Nat := 2048

def tooLong (name : String) (maxLen length : Nat) : ApiError :=
  .invalidInput (name ++ " must be at most " ++ toString maxLen ++ " bytes (got " ++
    toString length ++ ")")

def normaliseRequired (name raw : String) (maxLen : Nat) : Except ApiError String :=
  let trimmed := Text.trim raw
  if trimmed = "" then .error (.invalidInput (name ++ " must not be blank"))
  else if trimmed.utf8ByteSize > maxLen then .error (tooLong name maxLen trimmed.utf8ByteSize)
  else .ok trimmed

def normaliseOptional (name : String) (raw : Option String) (maxLen : Nat) :
    Except ApiError (Option String) :=
  match raw with
  | none => .ok none
  | some value =>
      let trimmed := Text.trim value
      if trimmed = "" then .ok none
      else if trimmed.utf8ByteSize > maxLen then .error (tooLong name maxLen trimmed.utf8ByteSize)
      else .ok (some trimmed)

/-- The two lines that `accept` and `resolve` share. -/
def normaliseIdentity (raw : UserIdentity) : Except ApiError UserIdentity := do
  let iss ← normaliseRequired "iss" raw.iss maxIdentityFieldLength
  let sub ← normaliseRequired "sub" raw.sub maxIdentityFieldLength
  return ⟨iss, sub⟩

structure AcceptInvitationRequest where
  code : String
  iss : String
  sub : String
  idpFirstName : Option String
  idpLastName : Option String

def AcceptInvitationRequest.identity (payload : AcceptInvitationRequest) : UserIdentity :=
  ⟨payload.iss, payload.sub⟩

section Paths

variable (bs58Length : String → Except String Nat) (hash : String → InvitationCodeHash)

def parseInvitationId (raw : String) : Except ApiError InvitationId :=
  (fromBare bs58Length raw).mapError fun error =>
    .invalidInput ("invitation_id path parameter: " ++ error.toString)

/-- The checks of `accept` before its first statement. -/
def acceptRequest (invitationIdStr : String) (payload : AcceptInvitationRequest) (now : DateTime) :
    Except ApiError AcceptRequest := do
  let invitationId ← parseInvitationId bs58Length invitationIdStr
  let identity ← normaliseIdentity payload.identity
  let idpFirstName ← normaliseOptional "idp_first_name" payload.idpFirstName maxIdentityFieldLength
  let idpLastName ← normaliseOptional "idp_last_name" payload.idpLastName maxIdentityFieldLength
  return ⟨invitationId, hash payload.code, ⟨identity, idpFirstName, idpLastName⟩, now⟩

/-- `idAtMost` is the order of the ids in the collation of the database. -/
def resolveLinkedAccounts (idAtMost : UserAccountId → UserAccountId → Bool) (db : Database)
    (ids : List UserAccountId) (identity : UserIdentity) : List UserAccount :=
  ((ids.filterMap db.accounts).filter fun account =>
    account.identity == some identity).insertionSort fun one two =>
      two.createdAt < one.createdAt ∨ two.createdAt = one.createdAt ∧ idAtMost two.id one.id = true

/-- `linked-user-accounts`. Every account has a tenant, so the join drops no row. -/
def resolve (idAtMost : UserAccountId → UserAccountId → Bool) (db : Database)
    (ids : List UserAccountId) (query : UserIdentity) : Except ApiError (List UserAccount) := do
  let identity ← normaliseIdentity query
  return resolveLinkedAccounts idAtMost db ids identity

def getByIdAndIdentity (db : Database) (id : UserAccountId) (identity : UserIdentity) :
    Option UserAccount :=
  (db.accounts id).filter fun account => account.identity == some identity

/-- What the extractors answer with instead of a tenant. -/
inductive AuthError
  | unauthorised
  | serviceUnavailable
  | notFound
  | invalidInput (details : String)
deriving DecidableEq, Repr

/-- `selected` is the answer of `require_x_user_account`: `none` without the header, or with one
that is no account id. -/
def deriveTenantForActingUser (db : Database) (selected : Option UserAccountId)
    (identity : UserIdentity) : Except AuthError TenantId :=
  match selected with
  | none => .error .unauthorised
  | some id =>
      match (getByIdAndIdentity db id identity).filter fun account => account.state == .active with
      | none => .error .unauthorised
      | some account => .ok account.tenantId

/-- The headers of a request that `TenantContext` reads, behind the bearer token. -/
structure TenantHeaders where
  xTenant : Except String TenantId
  xUserAccount : Option UserAccountId

/-- `TenantContext`, on the claims of a token that has passed its other checks. -/
def tenantContext (tenantExists : TenantId → Bool) (db : Database) (payload : Json)
    (headers : TenantHeaders) : Except AuthError TenantId :=
  match classifyPrincipal bs58Length payload with
  | .error .invalid => .error .unauthorised
  | .error .keysUnavailable => .error .serviceUnavailable
  | .ok (.tenant tenantId) =>
      if tenantExists tenantId then .ok tenantId else .error .unauthorised
  | .ok (.firstParty .administrative) =>
      match headers.xTenant with
      | .error details => .error (.invalidInput details)
      | .ok tenantId => if tenantExists tenantId then .ok tenantId else .error .notFound
  | .ok (.firstParty (.actingAsUser identity)) =>
      deriveTenantForActingUser db headers.xUserAccount identity

/-- An act-as-user token whose `user_identity` is the pair. -/
structure ActsAs (payload : Json) (identity : UserIdentity) : Prop where
  typed : payload.get "principal_type" = some (.string principalTypeFirstParty)
  actor : ∃ act name, payload.get "act" = some act ∧ act.get "sub" = some (.string name) ∧ name ≠ ""
  user : ∃ user, payload.get "user_identity" = some user ∧
    user.get "iss" = some (.string identity.iss) ∧ user.get "sub" = some (.string identity.sub)

/-- A request with the token that selects the account is let in. -/
def Admits (tenantExists : TenantId → Bool) (db : Database) (id : UserAccountId) (payload : Json) :
    Prop :=
  ∃ xTenant tenantId, tenantContext bs58Length tenantExists db payload ⟨xTenant, some id⟩ =
    .ok tenantId

def Lists (idAtMost : UserAccountId → UserAccountId → Bool) (db : Database)
    (ids : List UserAccountId) (id : UserAccountId) (query : UserIdentity) : Prop :=
  ∃ accounts, resolve idAtMost db ids query = .ok accounts ∧ ∃ account ∈ accounts, account.id = id

end Paths

def UserIdentity.trim (identity : UserIdentity) : UserIdentity :=
  ⟨Text.trim identity.iss, Text.trim identity.sub⟩

/-- The two pairs differ by more than white space around their texts, or they are one pair that has
none, on an active account. -/
def ToldApart (db : Database) (id : UserAccountId) (linked asserted : UserIdentity) : Prop :=
  UserIdentity.trim asserted ≠ UserIdentity.trim linked ∨
    asserted = linked ∧ UserIdentity.trim linked = linked ∧
      ∃ row, db.accounts id = some row ∧ row.state = .active

theorem UserIdentity.trim_trim (identity : UserIdentity) :
    UserIdentity.trim (UserIdentity.trim identity) = UserIdentity.trim identity := by
  simp [UserIdentity.trim]

theorem normaliseRequired_ok {name raw text : String} {maxLen : Nat} :
    normaliseRequired name raw maxLen = .ok text ↔
      text = Text.trim raw ∧ text ≠ "" ∧ text.utf8ByteSize ≤ maxLen := by
  unfold normaliseRequired
  by_cases blank : Text.trim raw = ""
  · simp only [blank, if_true]
    constructor
    · intro absurd_
      cases absurd_
    · rintro ⟨rfl, some_, _⟩
      exact absurd rfl some_
  · by_cases long : (Text.trim raw).utf8ByteSize > maxLen
    · simp only [blank, if_false, long, if_true]
      constructor
      · intro absurd_
        cases absurd_
      · rintro ⟨rfl, _, short⟩
        omega
    · simp only [blank, if_false, long, Except.ok.injEq]
      constructor
      · rintro rfl
        exact ⟨rfl, blank, by omega⟩
      · rintro ⟨rfl, _⟩
        rfl

/-- What can be stored: neither text is blank, and both fit. -/
structure Storable (identity : UserIdentity) : Prop where
  issPresent : identity.iss ≠ ""
  issFits : identity.iss.utf8ByteSize ≤ maxIdentityFieldLength
  subPresent : identity.sub ≠ ""
  subFits : identity.sub.utf8ByteSize ≤ maxIdentityFieldLength

theorem normaliseIdentity_ok {raw identity : UserIdentity} :
    normaliseIdentity raw = .ok identity ↔
      identity = UserIdentity.trim raw ∧ Storable identity := by
  simp only [normaliseIdentity, bind_ok, normaliseRequired_ok]
  constructor
  · rintro ⟨iss, ⟨rfl, issPresent, issFits⟩, sub, ⟨rfl, subPresent, subFits⟩, answered⟩
    cases answered
    exact ⟨rfl, issPresent, issFits, subPresent, subFits⟩
  · rintro ⟨rfl, storable⟩
    exact ⟨_, ⟨rfl, storable.issPresent, storable.issFits⟩, _,
      ⟨rfl, storable.subPresent, storable.subFits⟩, rfl⟩

variable {bs58Length : String → Except String Nat} {hash : String → InvitationCodeHash}

theorem acceptRequest_identity {invitationIdStr : String} {payload : AcceptInvitationRequest}
    {now : DateTime} {request : AcceptRequest}
    (made : acceptRequest bs58Length hash invitationIdStr payload now = .ok request) :
    request.user.identity = UserIdentity.trim payload.identity ∧
      Storable request.user.identity := by
  simp only [acceptRequest, bind_ok] at made
  rcases made with ⟨_, _, identity, normalised, _, _, _, _, answered⟩
  cases answered
  exact normaliseIdentity_ok.mp normalised

theorem classifyPrincipal_actsAs {payload : Json} {identity : UserIdentity} {principal : Principal}
    (acts : ActsAs payload identity) : classifyPrincipal bs58Length payload = .ok principal ↔
      principal = .firstParty (.actingAsUser identity) ∧ identity.iss ≠ "" ∧ identity.sub ≠ "" := by
  rcases acts with ⟨typed, ⟨act, name, acting, actorNamed, actorPresent⟩,
    ⟨user, used, issNamed, subNamed⟩⟩
  rw [classifyPrincipal_ok]
  constructor
  · intro allowed
    cases allowed with
    | tenant text id tenantTyped =>
        rw [typed] at tenantTyped
        simp [principalTypeFirstParty, principalTypeTenant] at tenantTyped
    | administrative _ noActor =>
        rw [acting] at noActor
        cases noActor
    | actingAsUser _ other _ found _ _ same _ _ iss issPresent sub subPresent =>
        rw [used] at same
        cases same
        rw [issNamed] at iss
        rw [subNamed] at sub
        rcases found with ⟨foundIss, foundSub⟩
        cases iss
        cases sub
        exact ⟨rfl, issPresent, subPresent⟩
  · rintro ⟨rfl, issPresent, subPresent⟩
    exact .actingAsUser act user name identity typed acting used actorNamed actorPresent issNamed
      issPresent subNamed subPresent

section Paths

variable {idAtMost : UserAccountId → UserAccountId → Bool} {tenantExists : TenantId → Bool}
  {db : Database} {ids : List UserAccountId} {id : UserAccountId} {row : UserAccount}

theorem getByIdAndIdentity_some {identity : UserIdentity} {account : UserAccount} :
    getByIdAndIdentity db id identity = some account ↔
      db.accounts id = some account ∧ account.identity = some identity := by
  rw [getByIdAndIdentity, Option.filter_eq_some_iff, beq_iff_eq]

theorem deriveTenantForActingUser_ok {selected : Option UserAccountId} {identity : UserIdentity}
    {tenantId : TenantId} : deriveTenantForActingUser db selected identity = .ok tenantId ↔
      ∃ id account, selected = some id ∧ db.accounts id = some account ∧
        account.identity = some identity ∧ account.state = .active ∧ account.tenantId = tenantId := by
  unfold deriveTenantForActingUser
  constructor
  · intro derived
    split at derived
    · cases derived
    · next id =>
        split at derived
        · cases derived
        · next account found =>
            cases derived
            rcases Option.filter_eq_some_iff.mp found with ⟨linked, active⟩
            rcases getByIdAndIdentity_some.mp linked with ⟨stored, same⟩
            exact ⟨id, account, rfl, stored, same, beq_iff_eq.mp active, rfl⟩
  · rintro ⟨id, account, rfl, stored, same, active, rfl⟩
    have found : (getByIdAndIdentity db id identity).filter
        (fun account => account.state == .active) = some account :=
      Option.filter_eq_some_iff.mpr
        ⟨getByIdAndIdentity_some.mpr ⟨stored, same⟩, beq_iff_eq.mpr active⟩
    simp only [found]

/-- The acting path compares the claim as it is with what is stored. -/
theorem admits_iff {payload : Json} {identity : UserIdentity} (acts : ActsAs payload identity)
    (stored : db.accounts id = some row) :
    Admits bs58Length tenantExists db id payload ↔
      row.state = .active ∧ row.identity = some identity ∧ identity.iss ≠ "" ∧
        identity.sub ≠ "" := by
  constructor
  · rintro ⟨xTenant, tenantId, admitted⟩
    unfold tenantContext at admitted
    split at admitted
    · cases admitted
    · cases admitted
    · next found => cases ((classifyPrincipal_actsAs acts).mp found).1
    · next found => cases ((classifyPrincipal_actsAs acts).mp found).1
    · next found =>
        rcases (classifyPrincipal_actsAs acts).mp found with ⟨same, issPresent, subPresent⟩
        cases same
        rcases deriveTenantForActingUser_ok.mp admitted with
          ⟨_, account, selected, there, linked, active, _⟩
        cases selected
        rw [stored] at there
        cases there
        exact ⟨active, linked, issPresent, subPresent⟩
  · rintro ⟨active, linked, issPresent, subPresent⟩
    refine ⟨.error "", row.tenantId, ?_⟩
    unfold tenantContext
    rw [(classifyPrincipal_actsAs acts).mpr ⟨rfl, issPresent, subPresent⟩]
    exact deriveTenantForActingUser_ok.mpr ⟨id, row, rfl, stored, linked, active, rfl⟩

/-- The resolving path compares the trimmed query with what is stored. -/
theorem lists_iff (stored : db.accounts id = some row) (keyed : row.id = id) (member : id ∈ ids)
    (keys : ∀ other account, db.accounts other = some account → account.id = other)
    (query : UserIdentity) : Lists idAtMost db ids id query ↔
      row.identity = some (UserIdentity.trim query) ∧ Storable (UserIdentity.trim query) := by
  simp only [Lists, resolve, bind_ok, normaliseIdentity_ok]
  constructor
  · rintro ⟨accounts, ⟨identity, ⟨rfl, storable⟩, answered⟩, account, listed, same⟩
    cases answered
    rw [resolveLinkedAccounts, List.mem_insertionSort, List.mem_filter, List.mem_filterMap,
      beq_iff_eq] at listed
    rcases listed with ⟨⟨other, _, found⟩, linked⟩
    have here : other = id := (keys other account found).symm.trans same
    rw [here, stored] at found
    cases found
    exact ⟨linked, storable⟩
  · rintro ⟨linked, storable⟩
    refine ⟨_, ⟨_, ⟨rfl, storable⟩, rfl⟩, row, ?_, keyed⟩
    rw [resolveLinkedAccounts, List.mem_insertionSort, List.mem_filter, List.mem_filterMap,
      beq_iff_eq]
    exact ⟨⟨id, member, stored⟩, linked⟩

/-- Both paths know an account by its pair alone exactly when the pairs are told apart. -/
theorem oneNotion_iff {payload : Json} {linked asserted : UserIdentity}
    (acts : ActsAs payload asserted) (stored : db.accounts id = some row) (keyed : row.id = id)
    (member : id ∈ ids)
    (keys : ∀ other account, db.accounts other = some account → account.id = other)
    (identity : row.identity = some (UserIdentity.trim linked))
    (storable : Storable (UserIdentity.trim linked)) :
    ((Admits bs58Length tenantExists db id payload ↔ asserted = linked) ∧
      (Lists idAtMost db ids id asserted ↔ asserted = linked)) ↔
      ToldApart db id linked asserted := by
  rw [admits_iff acts stored, lists_iff stored keyed member keys, identity]
  simp only [Option.some.injEq]
  constructor
  · rintro ⟨admitted, listed⟩
    by_cases same : UserIdentity.trim asserted = UserIdentity.trim linked
    · have equal : asserted = linked := listed.mp ⟨same.symm, same ▸ storable⟩
      rcases admitted.mpr equal with ⟨active, clean, _⟩
      exact .inr ⟨equal, clean.trans equal, row, stored, active⟩
    · exact .inl same
  · rintro (differ | ⟨rfl, clean, other, found, active⟩)
    · refine ⟨⟨?_, ?_⟩, ⟨?_, ?_⟩⟩
      · rintro ⟨_, same, _⟩
        refine absurd ?_ differ
        rw [← same, UserIdentity.trim_trim]
      · intro same
        exact absurd (congrArg UserIdentity.trim same) differ
      · rintro ⟨same, _⟩
        exact absurd same.symm differ
      · intro same
        exact absurd (congrArg UserIdentity.trim same) differ
    · rw [stored] at found
      cases found
      rw [clean] at storable
      simp [active, clean, storable, storable.issPresent, storable.subPresent]

end Paths

section Runs

variable {first last : State} {trace : List Event} {t : TxId} {acceptance : Acceptance}
  {linked : UserAccount}

theorem accepted_account (initial : first.Initial)
    (run : Run (Steps State.step) first trace last)
    (accepted : last.sessions t = .accepted acceptance linked) :
    ∃ row, last.database.accounts acceptance.account.id = some row ∧
      row.id = acceptance.account.id ∧ acceptance.account.id ∈ last.accountIds ∧
      row.identity = some acceptance.request.user.identity := by
  rcases sound_facts_run ⟨sound_initial initial, facts_initial initial⟩ run with ⟨sound, facts⟩
  have settled := facts.sessions t
  rw [accepted] at settled
  rcases settled.account with ⟨row, stored, identity⟩
  refine ⟨row, stored, facts.accountsKeyed _ row stored, ?_, identity⟩
  by_contra unlisted
  have empty : last.database.accounts acceptance.account.id = none :=
    congrArg Cell.committed (sound.listedAccounts _ unlisted)
  rw [stored] at empty
  cases empty

/-- After an invitation is accepted with one pair, a token or a query with another pair finds the
account exactly when the pairs are equal, if and only if the two are told apart. -/
theorem identity_is_one_notion {bs58Length : String → Except String Nat}
    {hash : String → InvitationCodeHash} {idAtMost : UserAccountId → UserAccountId → Bool}
    {tenantExists : TenantId → Bool} {invitationIdStr : String} {body : AcceptInvitationRequest}
    {payload : Json} {asserted : UserIdentity} (initial : first.Initial)
    (run : Run (Steps State.step) first trace last)
    (accepted : last.sessions t = .accepted acceptance linked)
    (made : acceptRequest bs58Length hash invitationIdStr body acceptance.request.now =
      .ok acceptance.request)
    (acts : ActsAs payload asserted) :
    ((Admits bs58Length tenantExists last.database acceptance.account.id payload ↔
        asserted = body.identity) ∧
      (Lists idAtMost last.database last.accountIds acceptance.account.id asserted ↔
        asserted = body.identity)) ↔
      ToldApart last.database acceptance.account.id body.identity asserted := by
  rcases accepted_account initial run accepted with ⟨row, stored, keyed, member, identity⟩
  rcases acceptRequest_identity made with ⟨trimmed, storable⟩
  have facts := (sound_facts_run ⟨sound_initial initial, facts_initial initial⟩ run).2
  rw [trimmed] at identity storable
  exact oneNotion_iff acts stored keyed member facts.accountsKeyed identity storable

def sampleBody (sub : String) : AcceptInvitationRequest :=
  ⟨"code", "https://idp.test", sub, some "Ada", none⟩

def actingToken (sub : String) : Json :=
  .object [("principal_type", .string principalTypeFirstParty),
    ("act", .object [("sub", .string "bff")]),
    ("user_identity", .object [("iss", .string "https://idp.test"), ("sub", .string sub)])]

theorem actingToken_actsAs (sub : String) : ActsAs (actingToken sub) ⟨"https://idp.test", sub⟩ :=
  ⟨rfl, ⟨_, "bff", rfl, rfl, by decide⟩, ⟨_, rfl, rfl, rfl⟩⟩

def sampleInvitationId : InvitationId := ⟨"6Qn7yK5pQR7sN3"⟩

def sampleRequest : AcceptRequest := ⟨sampleInvitationId, ⟨"code"⟩, sampleUser, 1⟩

def sampleLinking : List Event :=
  [⟨0, .insertAccount sampleAccount⟩,
    ⟨1, .probeAccount ⟨sampleAccount.tenantId, sampleAccount.id, none, 0⟩⟩,
    ⟨1, .expirePendingIfDue⟩, ⟨1, .insertInvitation sampleInvitationId ⟨"code"⟩⟩, ⟨1, .commit⟩,
    ⟨2, .findByCodeHash sampleRequest⟩, ⟨2, .getAccount⟩, ⟨2, .linkIdentity⟩, ⟨2, .markAccepted⟩,
    ⟨2, .getLinked⟩, ⟨2, .commit⟩]

def sampleBs58Length (_ : String) : Except String Nat := .ok Persistence.idBytes

def sampleHash (code : String) : InvitationCodeHash := ⟨code⟩

def sampleIdAtMost (one two : UserAccountId) : Bool := decide (one.bare ≤ two.bare)

theorem sampleRequest_made {sub : String} (trimmed : Text.trim sub = "ada") :
    acceptRequest sampleBs58Length sampleHash sampleInvitationId.bare (sampleBody sub) 1 =
      .ok sampleRequest := by
  have parsed : parseInvitationId sampleBs58Length sampleInvitationId.bare =
      .ok sampleInvitationId := by decide
  have iss : Text.trim "https://idp.test" = "https://idp.test" := by decide
  have identity : normaliseIdentity (sampleBody sub).identity = .ok sampleUser.identity := by
    rw [normaliseIdentity_ok]
    refine ⟨?_, by constructor <;> decide⟩
    simp only [UserIdentity.trim, AcceptInvitationRequest.identity, sampleBody, sampleUser, trimmed,
      iss]
  have firstName : normaliseOptional "idp_first_name" (some "Ada") maxIdentityFieldLength =
      .ok (some "Ada") := by decide
  simp only [acceptRequest, bind_ok]
  exact ⟨sampleInvitationId, parsed, _, identity, _, firstName, none, rfl, rfl⟩

def State.sampleAccepted (state : State) :
    Option (InvitationId × InvitationCodeHash × AssertedUser × DateTime × UserAccountId) :=
  match state.sessions 2 with
  | .accepted acceptance _ =>
      some (acceptance.request.invitationId, acceptance.request.codeHash, acceptance.request.user,
        acceptance.request.now, acceptance.account.id)
  | _ => none

theorem sampleLinked : ∃ last acceptance linked,
    Run (Steps State.step) sampleStart sampleLinking last ∧
    last.sessions 2 = .accepted acceptance linked ∧
    acceptance.request = sampleRequest := by
  have computed : (exec State.step sampleStart sampleLinking).map
      State.sampleAccepted =
        some (some (sampleInvitationId, ⟨"code"⟩, sampleUser, 1, sampleAccount.id)) := by decide
  rcases Option.map_eq_some_iff.mp computed with ⟨last, reached, found⟩
  unfold State.sampleAccepted at found
  split at found
  · next acceptance linked accepted =>
      refine ⟨last, acceptance, linked, Run.of_exec reached, accepted, ?_⟩
      rcases acceptance with ⟨⟨invitationId, codeHash, user, now⟩, _, _⟩
      simp only [Option.some.injEq, Prod.mk.injEq] at found
      rcases found with ⟨rfl, rfl, rfl, rfl, _⟩
      rfl
  · cases found

theorem identity_is_one_notion_sample : ∃ (last : State) (acceptance : Acceptance) (linked : UserAccount),
    last.sessions 2 = .accepted acceptance linked ∧
    (((Admits sampleBs58Length (fun _ => true) last.database acceptance.account.id
          (actingToken "ada") ↔ (⟨"https://idp.test", "ada"⟩ : UserIdentity) =
            (sampleBody "ada").identity) ∧
        (Lists sampleIdAtMost last.database last.accountIds acceptance.account.id
          ⟨"https://idp.test", "ada"⟩ ↔ (⟨"https://idp.test", "ada"⟩ : UserIdentity) =
            (sampleBody "ada").identity)) ↔
      ToldApart last.database acceptance.account.id (sampleBody "ada").identity
        ⟨"https://idp.test", "ada"⟩) := by
  rcases sampleLinked with ⟨last, acceptance, linked, run, accepted, asked⟩
  have made : acceptRequest sampleBs58Length sampleHash sampleInvitationId.bare (sampleBody "ada")
      acceptance.request.now = .ok acceptance.request := by
    rw [asked]
    exact sampleRequest_made (by decide)
  exact ⟨last, acceptance, linked, accepted,
    identity_is_one_notion sampleStart_initial run accepted made (actingToken_actsAs "ada")⟩

/-- Accepted with a space behind the subject, an account locks out the very token that it was
accepted with, and is listed for another subject. -/
theorem spaced_subject_is_locked_out_and_merged :
    sampleStart.Initial ∧ ∃ last acceptance linked,
      Run (Steps State.step) sampleStart sampleLinking last ∧
      last.sessions 2 = .accepted acceptance linked ∧
      acceptRequest sampleBs58Length sampleHash sampleInvitationId.bare (sampleBody "ada ")
        acceptance.request.now = .ok acceptance.request ∧
      ¬ Admits sampleBs58Length (fun _ => true) last.database acceptance.account.id
        (actingToken "ada ") ∧
      Lists sampleIdAtMost last.database last.accountIds acceptance.account.id
        ⟨"https://idp.test", "ada"⟩ := by
  rcases sampleLinked with ⟨last, acceptance, linked, run, accepted, asked⟩
  rcases accepted_account sampleStart_initial run accepted with
    ⟨row, stored, keyed, member, identity⟩
  have facts := (sound_facts_run ⟨sound_initial sampleStart_initial,
    facts_initial sampleStart_initial⟩ run).2
  rw [asked] at identity
  refine ⟨sampleStart_initial, last, acceptance, linked, run, accepted, ?_, ?_, ?_⟩
  · rw [asked]
    exact sampleRequest_made (by decide)
  · rw [admits_iff (actingToken_actsAs "ada ") stored, identity]
    rintro ⟨_, same, _⟩
    exact absurd same (by decide)
  · rw [lists_iff stored keyed member facts.accountsKeyed, identity]
    exact ⟨by decide, by constructor <;> decide⟩

end Runs

end SwiyuIssuer.Linking
