import SwiyuIssuer.Persistence.Issuers
import SwiyuIssuer.Worker.DidLog

/-! The steps of the `rotate_keys` saga. -/

namespace SwiyuIssuer.Worker

open Library Persistence

def rotateTexts : SagaTexts where
  alreadyCode := "already_rotated"
  alreadyText := "registry's tail entry already advertises the new Authorized key — " ++
    "saga should not have reached build_rotation_didlog a second time"

def allRoles : List KeyRole := [.authorized, .authentication, .assertion]

/-- The first role that the input does not rotate and for which the issuer has no key. -/
def missingRole (issuer : Issuer) (roles : List KeyRole) : Option KeyRole :=
  allRoles.find? fun role => !roles.contains role && (issuer.keyIdForRole role).isNone

def outcomeForEngineError (errorCode : String) (e : SigningEngineError) : StepOutcome :=
  match e with
  | .backend _ => .retry errorCode e.toString
  | .unsupportedAlgorithm | .invalidInputLength _ _ | .keyNotFound _ =>
      .terminal errorCode e.toString

/-- The three local variables of the generating loop. -/
abbrev Keys := KeyRole → Option KeyPairId

/-- `for role in &input.roles`: `generated` is what the engine answers for a role. -/
def generateFor (generated : KeyRole → Except SigningEngineError KeyPairId) (keys : Keys) :
    List KeyRole → Except SigningEngineError Keys
  | [] => .ok keys
  | role :: roles =>
      match generated role with
      | .error e => .error e
      | .ok id => generateFor generated (Function.update keys role (some id)) roles

theorem generateFor_ok {generated : KeyRole → Except SigningEngineError KeyPairId}
    {roles : List KeyRole} {keys after : Keys} (done : generateFor generated keys roles = .ok after)
    (role : KeyRole) :
    (role ∈ roles → ∃ id, generated role = .ok id ∧ after role = some id) ∧
      (role ∉ roles → after role = keys role) := by
  induction roles generalizing keys with
  | nil =>
      cases done
      simp
  | cons first roles ih =>
      unfold generateFor at done
      cases answer : generated first with
      | error e =>
          rw [answer] at done
          cases done
      | ok id =>
          rw [answer] at done
          rcases ih done with ⟨rotated, kept⟩
          constructor
          · intro present
            by_cases later : role ∈ roles
            · exact rotated later
            · rcases List.mem_cons.mp present with rfl | inTail
              · refine ⟨id, answer, ?_⟩
                rw [kept later, Function.update_self]
              · exact absurd inTail later
          · intro absent
            rw [List.mem_cons, not_or] at absent
            rw [kept absent.2, Function.update_of_ne absent.1]

/-- After the check and the loop every role has a key: the three `expect`s hold. -/
theorem keys_populated {issuer : Issuer} {roles : List KeyRole}
    {generated : KeyRole → Except SigningEngineError KeyPairId} {keys : Keys}
    (checked : missingRole issuer roles = none)
    (done : generateFor generated issuer.keyIdForRole roles = .ok keys) (role : KeyRole) :
    (keys role).isSome = true := by
  rcases generateFor_ok done role with ⟨rotated, kept⟩
  by_cases present : role ∈ roles
  · rcases rotated present with ⟨id, _, set⟩
    rw [set]
    rfl
  · have listed : role ∈ allRoles := by cases role <;> simp [allRoles]
    have held := List.find?_eq_none.mp checked role listed
    rw [kept present]
    simpa [present, Option.isSome_iff_ne_none] using held

def tripleOf (keys : Keys) (all : ∀ role, (keys role).isSome = true) : KeyTriple where
  authorized := (keys .authorized).get (all .authorized)
  authentication := (keys .authentication).get (all .authentication)
  assertion := (keys .assertion).get (all .assertion)

theorem forRole_tripleOf {keys : Keys} (all : ∀ role, (keys role).isSome = true)
    (role : KeyRole) : keys role = some ((tripleOf keys all).forRole role) := by
  cases role <;> simp [tripleOf, KeyTriple.forRole]

def executeGenerateNewKeys (issuer : Issuer) (input : RotateKeysInput) (state : RotateKeysStateData)
    (generated : KeyRole → Except SigningEngineError KeyPairId) : StepOutcome :=
  if state.newKeyTriple.isSome then .done {}
  else match checked : missingRole issuer input.roles with
    | some role => .terminal "missing_issuer_field"
        ("issuer is missing current key for non-rotated role " ++ role.debug)
    | none =>
        match loop : generateFor generated issuer.keyIdForRole input.roles with
        | .error e => outcomeForEngineError "generate_keypair_failed" e
        | .ok keys => .done { stateDataPatch :=
            [("new_key_triple", (tripleOf keys (keys_populated checked loop)).toJson)] }

/-- The triple is frozen once; each rotated role has the generated key, each other role the key the
issuer row has at that moment. -/
theorem executeGenerateNewKeys_done {issuer : Issuer} {input : RotateKeysInput}
    {state : RotateKeysStateData} {generated : KeyRole → Except SigningEngineError KeyPairId}
    {result : StepResult}
    (done : executeGenerateNewKeys issuer input state generated = .done result) :
    (state.newKeyTriple.isSome = true ∧ result.stateDataPatch = []) ∨
      (state.newKeyTriple = none ∧ ∃ triple : KeyTriple,
        result.stateDataPatch = [("new_key_triple", triple.toJson)] ∧
        ∀ role, (role ∈ input.roles → generated role = .ok (triple.forRole role)) ∧
          (role ∉ input.roles → issuer.keyIdForRole role = some (triple.forRole role))) := by
  unfold executeGenerateNewKeys at done
  split at done
  · next frozen =>
      cases done
      exact .inl ⟨frozen, rfl⟩
  · next unfrozen =>
      right
      refine ⟨by simpa using unfrozen, ?_⟩
      split at done
      · cases done
      · next checked =>
          split at done
          · next e _ => cases e <;> cases done
          · next keys loop =>
              cases done
              refine ⟨tripleOf keys (keys_populated checked loop), rfl, ?_⟩
              intro role
              rcases generateFor_ok loop role with ⟨rotated, kept⟩
              have frozen := forRole_tripleOf (keys_populated checked loop) role
              constructor
              · intro present
                rcases rotated present with ⟨id, answer, set⟩
                rw [frozen] at set
                cases set
                exact answer
              · intro absent
                rw [← kept absent]
                exact frozen

def missingTriple : StepOutcome :=
  .terminal "missing_state" "state_data missing new_key_triple"

section Steps

variable (core : SwiyuCore) (engine : Engine)

def executeBuildRotationDidlog (issuer : Issuer) (state : RotateKeysStateData)
    (fetched : Except RegistryError (List LogEntry)) (faults : EngineFaults) (now : DateTime) :
    StepOutcome :=
  match state.newKeyTriple with
  | none => missingTriple
  | some triple => executeBuildDidlog core rotateTexts "build_rotation_didlog_failed" issuer
      fetched fun log => buildRotationEntry core engine faults issuer triple log now

/-- `publish_didlog` of the rotation saga up to the `PUT`. -/
def prepareRotationPublish (issuer : Issuer) (state : RotateKeysStateData)
    (fetched : Except RegistryError (List LogEntry)) (faults : EngineFaults) (now : DateTime) :
    Except StepOutcome (List LogEntry × LogEntry) :=
  if state.didlogPublished then .error (.done {})
  else match state.newKeyTriple with
    | none => .error missingTriple
    | some triple => preparePublish core rotateTexts issuer fetched fun log =>
        buildRotationEntry core engine faults issuer triple log now

end Steps

def retryOnDb (errorCode operation message : String) : StepOutcome :=
  .retry errorCode (operation ++ ": " ++ message)

/-- `outcome_for_persistence_error` of `swap_keys` and of `mark_deactivated`. -/
def outcomeForPersistenceError (errorCode operation : String) : PersistenceError → StepOutcome
  | .db message => retryOnDb errorCode operation message
  | .notFound => .terminal errorCode (operation ++ ": not found")
  | .dataIntegrity details => .terminal errorCode (operation ++ ": data integrity: " ++ details)
  | .uniqueViolation what => .terminal errorCode (operation ++ ": unique violation: " ++ what)
  | .encryption e => .terminal errorCode (operation ++ ": secret encryption: " ++ e.toString)

structure SwapCalls where
  pool : Option String := none
  update : DbAnswer := .ok
  reread : Option String := none

def executeSwapKeys (row : Issuer) (tenantId : TenantId) (issuerId : IssuerId)
    (state : RotateKeysStateData) (calls : SwapCalls) : Issuer × StepOutcome :=
  match state.newKeyTriple with
  | none => (row, missingTriple)
  | some triple =>
      match calls.pool with
      | some message => (row, retryOnDb "swap_keys_failed" "acquire connection" message)
      | none =>
          match swapKeyTriple row tenantId issuerId triple.authorized triple.authentication
              triple.assertion calls.update calls.reread with
          | (after, .ok _) => (after, .done {})
          | (after, .error e) =>
              (after, outcomeForPersistenceError "swap_keys_failed" "swap_key_triple" e)

def KeyTriple.install (triple : KeyTriple) (row : Issuer) : Issuer :=
  withKeys row triple.authorized triple.authentication triple.assertion

theorem executeSwapKeys_cases {row after : Issuer} {tenantId : TenantId} {issuerId : IssuerId}
    {state : RotateKeysStateData} {calls : SwapCalls} {outcome : StepOutcome}
    (executed : executeSwapKeys row tenantId issuerId state calls = (after, outcome)) :
    (after = row ∨ ∃ triple, state.newKeyTriple = some triple ∧ row.state = some .active ∧
      after = triple.install row) ∧
    (∀ result, outcome = .done result → result.stateDataPatch = [] ∧
      ∃ triple, state.newKeyTriple = some triple ∧ row.state = some .active ∧
        after = triple.install row) := by
  unfold executeSwapKeys at executed
  split at executed
  · cases executed
    exact ⟨.inl rfl, fun _ absurd => by cases absurd⟩
  · next triple frozen =>
      split at executed
      · cases executed
        exact ⟨.inl rfl, fun _ absurd => by cases absurd⟩
      · split at executed
        · next called =>
            cases executed
            rcases swapKeyTriple_cases called with ⟨changed, swapped⟩
            refine ⟨changed.imp_right fun installed => ⟨triple, frozen, installed⟩, ?_⟩
            rintro _ ⟨⟩
            exact ⟨rfl, triple, frozen, swapped _ rfl⟩
        · next e called =>
            cases executed
            rcases swapKeyTriple_cases called with ⟨changed, _⟩
            refine ⟨changed.imp_right fun installed => ⟨triple, frozen, installed⟩, ?_⟩
            intro result absurd
            cases e <;> cases absurd

end SwiyuIssuer.Worker
