import SwiyuIssuer.Domain.Numbers
import SwiyuIssuer.Domain.UserAccount
import SwiyuIssuer.Library.Text
import SwiyuIssuer.Persistence.OperationTasks

/-! The claim checks of `token_validator`, which decide who a bearer token is. -/

namespace SwiyuIssuer.Management

open Library

inductive TokenError
  | invalid
  | keysUnavailable
deriving DecidableEq, Repr

/-- The two shapes of a `first-party` token. -/
inductive FirstParty
  | administrative
  | actingAsUser (identity : UserIdentity)
deriving DecidableEq, Repr

inductive Principal
  | tenant (id : TenantId)
  | firstParty (shape : FirstParty)
deriving DecidableEq, Repr

def defaultLeewaySecs : Int := 60

def principalTypeTenant : String := "tenant"

def principalTypeFirstParty : String := "first-party"

def audContains (aud : Option Json) (expected : String) : Bool :=
  match aud with
  | some (.string s) => s == expected
  | some (.array items) => items.any fun v => v.asStr == some expected
  | _ => false

def classifyFirstParty (payload : Json) : Except TokenError Principal :=
  match payload.get "act", payload.get "user_identity" with
  | none, none => .ok (.firstParty .administrative)
  | some act, some userIdentity =>
      let actNamed := ((act.get "sub").bind Json.asStr).any fun s => !s.isEmpty
      if !actNamed then .error .invalid
      else
        match (userIdentity.get "iss").bind Json.asStr, (userIdentity.get "sub").bind Json.asStr with
        | some iss, some sub =>
            if !iss.isEmpty && !sub.isEmpty then .ok (.firstParty (.actingAsUser ⟨iss, sub⟩))
            else .error .invalid
        | _, _ => .error .invalid
  | _, _ => .error .invalid

section Claims

variable (bs58Length : String → Except String Nat)

/-- `FromStr` of an id: its text under the prefix. -/
def parseId {label : String} (s : String) : Except DomainError (Id label) :=
  match Text.stripPrefix (label ++ "_") s with
  | some bare => Persistence.fromBare bs58Length bare
  | none => .error (.invalidInput
      ("expected identifier with prefix '" ++ label ++ "_', got: " ++ s))

/-- The end of `validate_claims`. -/
def classifyPrincipal (payload : Json) : Except TokenError Principal :=
  match (payload.get "principal_type").bind Json.asStr with
  | none => .error .invalid
  | some principalType =>
      if principalType = principalTypeTenant then
        match (payload.get "tenant_id").bind Json.asStr with
        | none => .error .invalid
        | some tenantId =>
            match parseId bs58Length tenantId with
            | .ok id => .ok (.tenant id)
            | .error _ => .error .invalid
      else if principalType = principalTypeFirstParty then classifyFirstParty payload
      else .error .invalid

/-- `none` is a panic. -/
def validateClaims (overflowChecks : Bool) (payload : Json) (expectedIss expectedAud : String)
    (nowTs leeway : Int) : Option (Except TokenError Principal) :=
  match (payload.get "iss").bind Json.asStr with
  | none => some (.error .invalid)
  | some iss =>
      if iss ≠ expectedIss then some (.error .invalid)
      else if !audContains (payload.get "aud") expectedAud then some (.error .invalid)
      else
        match (payload.get "exp").bind Json.toI64 with
        | none => some (.error .invalid)
        | some exp => do
            let latest ← settleI64 overflowChecks (exp + leeway)
            if nowTs > latest then return .error .invalid
            match (payload.get "nbf").bind Json.toI64 with
            | some nbf =>
                let earliest ← settleI64 overflowChecks (nowTs + leeway)
                if earliest < nbf then return .error .invalid
                return classifyPrincipal bs58Length payload
            | none => return classifyPrincipal bs58Length payload

/-- Who a token is, by what it carries. -/
inductive AllowedPrincipal (payload : Json) : Principal → Prop
  | tenant (text : String) (id : TenantId)
      (typed : payload.get "principal_type" = some (.string principalTypeTenant))
      (named : payload.get "tenant_id" = some (.string text))
      (parsed : parseId bs58Length text = .ok id) : AllowedPrincipal payload (.tenant id)
  | administrative (typed : payload.get "principal_type" = some (.string principalTypeFirstParty))
      (noActor : payload.get "act" = none) (noUser : payload.get "user_identity" = none) :
      AllowedPrincipal payload (.firstParty .administrative)
  | actingAsUser (act user : Json) (actor : String) (identity : UserIdentity)
      (typed : payload.get "principal_type" = some (.string principalTypeFirstParty))
      (acting : payload.get "act" = some act) (used : payload.get "user_identity" = some user)
      (actorNamed : act.get "sub" = some (.string actor)) (actorPresent : actor ≠ "")
      (issNamed : user.get "iss" = some (.string identity.iss)) (issPresent : identity.iss ≠ "")
      (subNamed : user.get "sub" = some (.string identity.sub)) (subPresent : identity.sub ≠ "") :
      AllowedPrincipal payload (.firstParty (.actingAsUser identity))

/-- `aud` is the audience, or a list that has it. -/
inductive Addressed (expected : String) : Option Json → Prop
  | alone : Addressed expected (some (.string expected))
  | listed (items : List Json) (member : .string expected ∈ items) :
      Addressed expected (some (.array items))

def bound (claim : Option Json) : Option Rat := claim.bind Json.exactValue

/-- `nbf` is absent, or a number that is not after the clock and its leeway. -/
def Started (nowTs leeway : Int) (nbf : Option Json) : Prop :=
  nbf = none ∨ ∃ start, bound nbf = some start ∧ start ≤ nowTs + leeway

/-- `exp` is a number, and the clock is not after it and its leeway. -/
def Unexpired (nowTs leeway : Int) (exp : Option Json) : Prop :=
  ∃ expiry, bound exp = some expiry ∧ (nowTs : Rat) ≤ expiry + leeway

structure Named (payload : Json) (expectedIss expectedAud : String) : Prop where
  iss : payload.get "iss" = some (.string expectedIss)
  aud : Addressed expectedAud (payload.get "aud")

/-- What a token of the principal must carry, in exact arithmetic. -/
structure Acceptable (payload : Json) (expectedIss expectedAud : String) (nowTs leeway : Int)
    (principal : Principal) : Prop where
  named : Named payload expectedIss expectedAud
  exp : Unexpired nowTs leeway (payload.get "exp")
  nbf : Started nowTs leeway (payload.get "nbf")
  principal : AllowedPrincipal bs58Length payload principal

/-- The checks decide exactly, in a build with overflow checks and in one without. -/
def ValidatesExactly (payload : Json) (expectedIss expectedAud : String) (nowTs leeway : Int) :
    Prop :=
  ∀ overflowChecks, ∃ answer,
    validateClaims bs58Length overflowChecks payload expectedIss expectedAud nowTs leeway =
      some answer ∧
    ∀ principal, answer = .ok principal ↔
      Acceptable bs58Length payload expectedIss expectedAud nowTs leeway principal

/-- What must be true of the two times of a token that passes the checks of issuer and audience. -/
structure TimesInRange (payload : Json) (nowTs leeway : Int) : Prop where
  expiryFits : ∀ exp, (payload.get "exp").bind Json.toI64 = some exp → inI64 (exp + leeway) = true
  expiryRead : (payload.get "exp").bind Json.toI64 = none → ∀ principal,
    Unexpired nowTs leeway (payload.get "exp") → Started nowTs leeway (payload.get "nbf") →
      ¬ AllowedPrincipal bs58Length payload principal
  startFits : ∀ exp nbf, (payload.get "exp").bind Json.toI64 = some exp → nowTs ≤ exp + leeway →
    (payload.get "nbf").bind Json.toI64 = some nbf → inI64 (nowTs + leeway) = true
  startRead : ∀ exp principal, (payload.get "exp").bind Json.toI64 = some exp →
    nowTs ≤ exp + leeway → (payload.get "nbf").bind Json.toI64 = none →
      AllowedPrincipal bs58Length payload principal → Started nowTs leeway (payload.get "nbf")

end Claims

theorem present_iff {text : String} : (!text.isEmpty) = true ↔ text ≠ "" := by
  rw [Bool.not_eq_true', ← Bool.not_eq_true, String.isEmpty_iff]

theorem audContains_iff {aud : Option Json} {expected : String} :
    audContains aud expected = true ↔ Addressed expected aud := by
  unfold audContains
  split
  · next text =>
      rw [beq_iff_eq]
      constructor
      · rintro rfl
        exact .alone
      · rintro ⟨⟩
        rfl
  · next items =>
      rw [List.any_eq_true]
      constructor
      · rintro ⟨item, member, same⟩
        have named := Json.asStr_some.mp (beq_iff_eq.mp same)
        exact .listed items (named ▸ member)
      · rintro (_ | ⟨_, member⟩)
        exact ⟨_, member, beq_iff_eq.mpr rfl⟩
  · next other list =>
      constructor
      · intro absurd_
        cases absurd_
      · rintro (_ | ⟨items, _⟩)
        · exact absurd rfl (other _)
        · exact absurd rfl (list items)

theorem actingAsUser_ok {actor iss sub : Option String} {principal : Principal} :
    (if !(actor.any fun s => !s.isEmpty) then Except.error TokenError.invalid
      else match iss, sub with
        | some iss, some sub =>
            if !iss.isEmpty && !sub.isEmpty then .ok (.firstParty (.actingAsUser ⟨iss, sub⟩))
            else .error .invalid
        | _, _ => .error .invalid) = Except.ok principal ↔
      ∃ name issText subText, actor = some name ∧ name ≠ "" ∧ iss = some issText ∧ issText ≠ "" ∧
        sub = some subText ∧ subText ≠ "" ∧
        principal = .firstParty (.actingAsUser ⟨issText, subText⟩) := by
  constructor
  · intro answered
    split at answered
    · cases answered
    · next named =>
        rw [Bool.not_eq_true', Bool.not_eq_false] at named
        obtain ⟨name, found, present⟩ : ∃ name, actor = some name ∧ (!name.isEmpty) = true := by
          cases actor with
          | none => cases named
          | some name => exact ⟨name, rfl, named⟩
        split at answered
        · next issText subText =>
            split at answered
            · next both =>
                cases answered
                rcases (Bool.and_eq_true _ _).mp both with ⟨issPresent, subPresent⟩
                exact ⟨name, issText, subText, found, present_iff.mp present, rfl,
                  present_iff.mp issPresent, rfl, present_iff.mp subPresent, rfl⟩
            · cases answered
        · cases answered
  · rintro ⟨name, issText, subText, rfl, named, rfl, issPresent, rfl, subPresent, rfl⟩
    simp [named, issPresent, subPresent]

theorem classifyFirstParty_ok {payload : Json} {principal : Principal} :
    classifyFirstParty payload = .ok principal ↔
      (payload.get "act" = none ∧ payload.get "user_identity" = none ∧
        principal = .firstParty .administrative) ∨
      ∃ act user name iss sub, payload.get "act" = some act ∧
        payload.get "user_identity" = some user ∧ act.get "sub" = some (.string name) ∧ name ≠ "" ∧
        user.get "iss" = some (.string iss) ∧ iss ≠ "" ∧ user.get "sub" = some (.string sub) ∧
        sub ≠ "" ∧ principal = .firstParty (.actingAsUser ⟨iss, sub⟩) := by
  unfold classifyFirstParty
  cases payload.get "act" with
  | none => cases payload.get "user_identity" <;> simp [eq_comm]
  | some act =>
      cases payload.get "user_identity" with
      | none => simp
      | some user =>
          dsimp only
          rw [actingAsUser_ok]
          simp [← Json.bind_asStr]

variable {bs58Length : String → Except String Nat} {payload : Json}

theorem classifyPrincipal_ok {principal : Principal} :
    classifyPrincipal bs58Length payload = .ok principal ↔
      AllowedPrincipal bs58Length payload principal := by
  unfold classifyPrincipal
  constructor
  · intro answered
    split at answered
    · cases answered
    · next principalType read =>
        have typed := Json.bind_asStr.mp read
        split at answered
        · next tenant =>
            split at answered
            · cases answered
            · next text named =>
                split at answered
                · next id parsed =>
                    cases answered
                    exact .tenant text id (tenant ▸ typed) (Json.bind_asStr.mp named) parsed
                · cases answered
        · split at answered
          · next firstParty =>
              rcases classifyFirstParty_ok.mp answered with ⟨noActor, noUser, rfl⟩ |
                ⟨act, user, name, iss, sub, acting, used, actorNamed, actorPresent, issNamed,
                  issPresent, subNamed, subPresent, rfl⟩
              · exact .administrative (firstParty ▸ typed) noActor noUser
              · exact .actingAsUser act user name ⟨iss, sub⟩ (firstParty ▸ typed) acting used
                  actorNamed actorPresent issNamed issPresent subNamed subPresent
          · cases answered
  · intro allowed
    cases allowed with
    | tenant text id typed named parsed =>
        simp [Json.bind_asStr.mpr typed, Json.bind_asStr.mpr named, parsed]
    | administrative typed noActor noUser =>
        rw [Json.bind_asStr.mpr typed]
        exact classifyFirstParty_ok.mpr (.inl ⟨noActor, noUser, rfl⟩)
    | actingAsUser act user actor identity typed acting used actorNamed actorPresent issNamed
        issPresent subNamed subPresent =>
        rw [Json.bind_asStr.mpr typed]
        exact classifyFirstParty_ok.mpr (.inr ⟨act, user, actor, identity.iss, identity.sub, acting,
          used, actorNamed, actorPresent, issNamed, issPresent, subNamed, subPresent, rfl⟩)

theorem bound_of_toI64 {claim : Option Json} {read : Int}
    (integer : claim.bind Json.toI64 = some read) : bound claim = some (read : Rat) := by
  rcases Option.bind_eq_some_iff.mp integer with ⟨value, present, read⟩
  rw [bound, present, Option.bind_some, Json.exactValue_of_toI64 read]

theorem unexpired_iff {nowTs leeway exp : Int} {claim : Option Json}
    (integer : claim.bind Json.toI64 = some exp) :
    Unexpired nowTs leeway claim ↔ nowTs ≤ exp + leeway := by
  rw [Unexpired, bound_of_toI64 integer]
  constructor
  · rintro ⟨expiry, same, fresh⟩
    cases same
    exact_mod_cast fresh
  · intro fresh
    exact ⟨_, rfl, by exact_mod_cast fresh⟩

theorem started_iff {nowTs leeway nbf : Int} {claim : Option Json}
    (integer : claim.bind Json.toI64 = some nbf) :
    Started nowTs leeway claim ↔ nbf ≤ nowTs + leeway := by
  rw [Started, bound_of_toI64 integer]
  constructor
  · rintro (absent | ⟨start, same, begun⟩)
    · rw [absent] at integer
      cases integer
    · cases same
      exact_mod_cast begun
  · intro begun
    exact .inr ⟨_, rfl, by exact_mod_cast begun⟩

section Exactness

variable {expectedIss expectedAud : String} {nowTs leeway : Int}

theorem validateClaims_unnamed (overflowChecks : Bool)
    (unnamed : ¬ Named payload expectedIss expectedAud) :
    validateClaims bs58Length overflowChecks payload expectedIss expectedAud nowTs leeway =
      some (.error .invalid) := by
  unfold validateClaims
  split
  · rfl
  · next iss found =>
      split
      · rfl
      · next same =>
          have same : iss = expectedIss := not_not.mp same
          split
          · rfl
          · next addressed =>
              rw [Bool.not_eq_true', Bool.not_eq_false] at addressed
              exact absurd ⟨same ▸ Json.bind_asStr.mp found, audContains_iff.mp addressed⟩ unnamed

theorem validateClaims_named (overflowChecks : Bool)
    (named : Named payload expectedIss expectedAud) :
    validateClaims bs58Length overflowChecks payload expectedIss expectedAud nowTs leeway =
      match (payload.get "exp").bind Json.toI64 with
      | none => some (.error .invalid)
      | some exp => do
          let latest ← settleI64 overflowChecks (exp + leeway)
          if nowTs > latest then return .error .invalid
          match (payload.get "nbf").bind Json.toI64 with
          | some nbf =>
              let earliest ← settleI64 overflowChecks (nowTs + leeway)
              if earliest < nbf then return .error .invalid
              return classifyPrincipal bs58Length payload
          | none => return classifyPrincipal bs58Length payload := by
  unfold validateClaims
  rw [Json.bind_asStr.mpr named.iss]
  dsimp only
  rw [if_neg (not_not.mpr rfl), audContains_iff.mpr named.aud]
  rfl

theorem validatesExactly_refused
    (refuses : ∀ overflowChecks, validateClaims bs58Length overflowChecks payload expectedIss
      expectedAud nowTs leeway = some (.error .invalid)) :
    ValidatesExactly bs58Length payload expectedIss expectedAud nowTs leeway ↔
      ∀ principal, ¬ Acceptable bs58Length payload expectedIss expectedAud nowTs leeway principal := by
  constructor
  · intro exactly_ principal acceptable
    rcases exactly_ true with ⟨answer, answered, decides⟩
    rw [refuses] at answered
    cases answered
    cases (decides principal).mpr acceptable
  · intro unacceptable overflowChecks
    refine ⟨.error .invalid, refuses overflowChecks, fun principal => ⟨?_, ?_⟩⟩
    · intro absurd_
      cases absurd_
    · intro acceptable
      exact absurd acceptable (unacceptable principal)

theorem validatesExactly_classified (named : Named payload expectedIss expectedAud)
    (unexpired : Unexpired nowTs leeway (payload.get "exp"))
    (classifies : ∀ overflowChecks, validateClaims bs58Length overflowChecks payload expectedIss
      expectedAud nowTs leeway = some (classifyPrincipal bs58Length payload)) :
    ValidatesExactly bs58Length payload expectedIss expectedAud nowTs leeway ↔
      ∀ principal, AllowedPrincipal bs58Length payload principal →
        Started nowTs leeway (payload.get "nbf") := by
  constructor
  · intro exactly_ principal allowed
    rcases exactly_ true with ⟨answer, answered, decides⟩
    rw [classifies] at answered
    cases answered
    exact ((decides principal).mp (classifyPrincipal_ok.mpr allowed)).nbf
  · intro started overflowChecks
    refine ⟨_, classifies overflowChecks, fun principal => ?_⟩
    rw [classifyPrincipal_ok]
    constructor
    · exact fun allowed => ⟨named, unexpired, started principal allowed, allowed⟩
    · exact fun acceptable => acceptable.principal

theorem not_validatesExactly (panics : validateClaims bs58Length true payload expectedIss
      expectedAud nowTs leeway = none) :
    ¬ ValidatesExactly bs58Length payload expectedIss expectedAud nowTs leeway := by
  intro exactly_
  rcases exactly_ true with ⟨answer, answered, _⟩
  rw [panics] at answered
  cases answered

theorem timesInRange_expired {exp : Int} (read : (payload.get "exp").bind Json.toI64 = some exp)
    (fits : inI64 (exp + leeway) = true) (expired : exp + leeway < nowTs) :
    TimesInRange bs58Length payload nowTs leeway := by
  have late : ∀ other, (payload.get "exp").bind Json.toI64 = some other →
      ¬ nowTs ≤ other + leeway := by
    intro other same
    rw [read] at same
    cases same
    omega
  constructor
  · intro other same
    rw [read] at same
    cases same
    exact fits
  · intro unread
    rw [read] at unread
    cases unread
  · exact fun other nbf same fresh => absurd fresh (late other same)
  · exact fun other principal same fresh => absurd fresh (late other same)

theorem timesInRange_fresh {exp : Int} (read : (payload.get "exp").bind Json.toI64 = some exp)
    (fits : inI64 (exp + leeway) = true) (fresh : nowTs ≤ exp + leeway) :
    TimesInRange bs58Length payload nowTs leeway ↔
      (∀ nbf, (payload.get "nbf").bind Json.toI64 = some nbf → inI64 (nowTs + leeway) = true) ∧
      ((payload.get "nbf").bind Json.toI64 = none → ∀ principal,
        AllowedPrincipal bs58Length payload principal →
          Started nowTs leeway (payload.get "nbf")) := by
  constructor
  · intro inRange
    exact ⟨fun nbf => inRange.startFits exp nbf read fresh,
      fun unread principal => inRange.startRead exp principal read fresh unread⟩
  · rintro ⟨startFits, startRead⟩
    constructor
    · intro other same
      rw [read] at same
      cases same
      exact fits
    · intro unread
      rw [read] at unread
      cases unread
    · exact fun other nbf _ _ => startFits nbf
    · exact fun other principal _ _ unread => startRead unread principal

theorem validatesExactly_fresh {exp : Int} (named : Named payload expectedIss expectedAud)
    (read : (payload.get "exp").bind Json.toI64 = some exp) (fits : inI64 (exp + leeway) = true)
    (fresh : nowTs ≤ exp + leeway) :
    ValidatesExactly bs58Length payload expectedIss expectedAud nowTs leeway ↔
      (∀ nbf, (payload.get "nbf").bind Json.toI64 = some nbf → inI64 (nowTs + leeway) = true) ∧
      ((payload.get "nbf").bind Json.toI64 = none → ∀ principal,
        AllowedPrincipal bs58Length payload principal →
          Started nowTs leeway (payload.get "nbf")) := by
  have steps := fun overflowChecks =>
    @validateClaims_named bs58Length payload expectedIss expectedAud nowTs leeway overflowChecks named
  have unexpired := (unexpired_iff read).mpr fresh
  have notLate : ¬ exp + leeway < nowTs := by omega
  cases begin_ : (payload.get "nbf").bind Json.toI64 with
  | none =>
      rw [validatesExactly_classified named unexpired (fun overflowChecks => by
        rw [steps, read]; simp [settleI64_inside fits, notLate, begin_])]
      simp
  | some nbf =>
      cases starts : inI64 (nowTs + leeway) with
      | false =>
          constructor
          · intro exactly_
            refine absurd exactly_ (not_validatesExactly ?_)
            rw [steps, read]
            simp [settleI64_inside fits, notLate, begin_, settleI64_outside starts]
          · rintro ⟨startFits, _⟩
            cases startFits nbf rfl
      | true =>
          by_cases early : nowTs + leeway < nbf
          · rw [validatesExactly_refused (fun overflowChecks => by
              rw [steps, read]
              simp [settleI64_inside fits, begin_, settleI64_inside starts, early])]
            simp only [implies_true, reduceCtorEq, false_implies, and_self, iff_true]
            intro principal acceptable
            have begun := (started_iff begin_).mp acceptable.nbf
            omega
          · rw [validatesExactly_classified named unexpired (fun overflowChecks => by
              rw [steps, read]
              simp [settleI64_inside fits, notLate, begin_, settleI64_inside starts, early])]
            have begun := (started_iff begin_).mpr (show nbf ≤ nowTs + leeway by omega)
            simp [begun]

/-- Token validation is exact, and never panics, exactly when the two times of a token for this
realm and server are in range. -/
theorem access_token_validation_is_exact (bs58Length : String → Except String Nat) (payload : Json)
    (expectedIss expectedAud : String) (nowTs leeway : Int) :
    ValidatesExactly bs58Length payload expectedIss expectedAud nowTs leeway ↔
      (Named payload expectedIss expectedAud → TimesInRange bs58Length payload nowTs leeway) := by
  by_cases named : Named payload expectedIss expectedAud
  · rw [forall_prop_of_true named]
    have steps := fun overflowChecks =>
      @validateClaims_named bs58Length payload expectedIss expectedAud nowTs leeway overflowChecks
        named
    cases read : (payload.get "exp").bind Json.toI64 with
    | none =>
        rw [validatesExactly_refused (fun overflowChecks => by rw [steps, read])]
        constructor
        · intro unacceptable
          constructor
          · simp [read]
          · exact fun _ principal unexpired started allowed =>
              unacceptable principal ⟨named, unexpired, started, allowed⟩
          · simp [read]
          · simp [read]
        · intro inRange principal acceptable
          exact inRange.expiryRead read principal acceptable.exp acceptable.nbf acceptable.principal
    | some exp =>
        cases fits : inI64 (exp + leeway) with
        | false =>
            constructor
            · intro exactly_
              refine absurd exactly_ (not_validatesExactly ?_)
              rw [steps, read]
              simp [settleI64_outside fits]
            · intro inRange
              rw [inRange.expiryFits exp read] at fits
              cases fits
        | true =>
            by_cases expired : exp + leeway < nowTs
            · rw [validatesExactly_refused (fun overflowChecks => by
                rw [steps, read]; simp [settleI64_inside fits, expired])]
              constructor
              · exact fun _ => timesInRange_expired read fits expired
              · intro _ principal acceptable
                have fresh := (unexpired_iff read).mp acceptable.exp
                omega
            · have fresh : nowTs ≤ exp + leeway := by omega
              rw [timesInRange_fresh read fits fresh, validatesExactly_fresh named read fits fresh]
  · rw [validatesExactly_refused (fun overflowChecks => validateClaims_unnamed overflowChecks named)]
    constructor
    · exact fun _ present => absurd present named
    · exact fun _ principal acceptable => named acceptable.named

def sampleToken (exp : String) (more : List (String × Json)) : Json :=
  .object ([("iss", .string "https://kc.example/realms/swiyu-issuer"),
    ("aud", .string "swiyu-issuer-mgmtapi"), ("principal_type", .string "first-party"),
    ("exp", .number exp)] ++ more)

/-- The largest `exp` panics or reads as expired, and an `nbf` above `i64::MAX` is not looked at. -/
theorem token_times_overflow_or_are_skipped :
    let validate := fun overflowChecks token => validateClaims (fun _ => .ok 10) overflowChecks
      token "https://kc.example/realms/swiyu-issuer" "swiyu-issuer-mgmtapi" 1700000000
      defaultLeewaySecs
    validate true (sampleToken "9223372036854775807" []) = none ∧
    validate false (sampleToken "9223372036854775807" []) = some (.error .invalid) ∧
    (∀ overflowChecks, validate overflowChecks
      (sampleToken "1700000300" [("nbf", .number "9223372036854775808")]) =
        some (.ok (.firstParty .administrative))) ∧
    ¬ ValidatesExactly (fun _ => .ok 10) (sampleToken "9223372036854775807" [])
      "https://kc.example/realms/swiyu-issuer" "swiyu-issuer-mgmtapi" 1700000000
      defaultLeewaySecs ∧
    ¬ ValidatesExactly (fun _ => .ok 10)
      (sampleToken "1700000300" [("nbf", .number "9223372036854775808")])
      "https://kc.example/realms/swiyu-issuer" "swiyu-issuer-mgmtapi" 1700000000
      defaultLeewaySecs := by
  have panics : validateClaims (fun _ => .ok 10) true (sampleToken "9223372036854775807" [])
      "https://kc.example/realms/swiyu-issuer" "swiyu-issuer-mgmtapi" 1700000000
      defaultLeewaySecs = none := by decide
  have accepts : ∀ overflowChecks, validateClaims (fun _ => .ok 10) overflowChecks
      (sampleToken "1700000300" [("nbf", .number "9223372036854775808")])
      "https://kc.example/realms/swiyu-issuer" "swiyu-issuer-mgmtapi" 1700000000
      defaultLeewaySecs = some (.ok (.firstParty .administrative)) := by decide
  refine ⟨panics, by decide, accepts, not_validatesExactly panics, ?_⟩
  intro exactly_
  rcases exactly_ true with ⟨answer, answered, decides⟩
  rw [accepts] at answered
  cases answered
  rcases ((decides _).mp rfl).nbf with absent | ⟨start, written, begun⟩
  · cases absent
  · have read : decimalValue "9223372036854775808".toList = some 9223372036854775808 := by decide
    have value : bound (some (Json.number "9223372036854775808")) =
        some ((9223372036854775808 : Nat) : Rat) := unsignedValue_of_decimalValue read
    have same : some ((9223372036854775808 : Nat) : Rat) = some start := value.symm.trans written
    cases same
    have early : (9223372036854775808 : Int) ≤ 1700000000 + defaultLeewaySecs := by
      exact_mod_cast begun
    exact absurd early (by decide)

end Exactness

end SwiyuIssuer.Management
