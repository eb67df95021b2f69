import SwiyuIssuer.Catalogue.Store
import SwiyuIssuer.Library.StampedCache

/-! The cache of compiled claim schemas under the requests that create offers, while the type is
patched and retired. -/

namespace SwiyuIssuer.Catalogue.Validators

open Library Library.StampedCache Persistence

/-- `jsonschema`: a schema compiles or does not, and a validator lists what it finds wrong. -/
structure Compiler (V : Type) where
  validatorFor : Json → Except String V
  iterErrors : V → Json → List String

/-- What the creation of an offer does with its claims. -/
inductive Verdict
  | internal (message : String)
  | claimsValidationFailed (errors : List String)
  | valid
deriving DecidableEq, Repr

def Compiler.judge {V : Type} (compiler : Compiler V) (claims : Json) : Except String V → Verdict
  | .error message => .internal ("failed to compile JSON Schema: " ++ message)
  | .ok validator =>
      match compiler.iterErrors validator claims with
      | [] => .valid
      | errors => .claimsValidationFailed errors

inductive Request
  | idle
  | typeRead (row : CredentialType) (claims : Json)
  | missed (row : CredentialType) (claims : Json)
  | judged (row : CredentialType) (claims : Json) (verdict : Verdict)

def Request.row? : Request → Option CredentialType
  | idle => none
  | typeRead row _ | missed row _ | judged row _ _ => some row

inductive Change
  | structured (update : StructuredUpdate)
  | blob (blob : Blob)
  | retire

/-- The next version of the row; `now` is `NOW()` in the first two and the clock of the handler in
`retire`. -/
def Change.apply (now : DateTime) (row : CredentialType) : Change → CredentialType
  | structured update => CredentialTypes.StructuredUpdate.apply update now row
  | blob written => CredentialTypes.Blob.apply written now row
  | retire => CredentialTypes.asRetired now row

theorem Change.apply_row (change : Change) (now : DateTime) (row : CredentialType) :
    (change.apply now row).id = row.id ∧ (change.apply now row).updatedAt = now := by
  cases change with
  | structured update => exact ⟨rfl, rfl⟩
  | blob written => cases written <;> exact ⟨rfl, rfl⟩
  | retire => exact ⟨rfl, rfl⟩

abbrev RequestId := Nat

/-- `versions` holds every version that a row has had, the present one first. -/
structure State (V : Type) where
  versions : CredentialTypeId → List CredentialType
  cache : Cache CredentialTypeId DateTime V
  requests : RequestId → Request

inductive Action
  | insert (request : NewType) (id : CredentialTypeId) (now : DateTime)
  | update (tenantId : TenantId) (id : CredentialTypeId) (change : Change) (now : DateTime)
  | readType (t : RequestId) (tenantId : TenantId) (id : CredentialTypeId) (claims : Json)
  | lookUp (t : RequestId)
  | compile (t : RequestId)

namespace State

variable {V : Type}

def current (state : State V) (tenantId : TenantId) (id : CredentialTypeId) :
    Option CredentialType :=
  (state.versions id).head?.filter fun row => row.tenantId == tenantId

def goto (state : State V) (t : RequestId) (request : Request) : State V :=
  { state with requests := Function.update state.requests t request }

def push (state : State V) (id : CredentialTypeId) (row : CredentialType) : State V :=
  { state with versions := Function.update state.versions id (row :: state.versions id) }

variable (compiler : Compiler V)

/-- The part of `get_or_compile` under the read lock. -/
def lookUpStep (state : State V) (t : RequestId) : Option (State V) :=
  match state.requests t with
  | .typeRead row claims =>
      match lookup state.cache row.id row.updatedAt with
      | some validator => some (state.goto t (.judged row claims (compiler.judge claims (.ok validator))))
      | none => some (state.goto t (.missed row claims))
  | _ => none

/-- The part of `get_or_compile` under the write lock. -/
def compileStep (state : State V) (t : RequestId) : Option (State V) :=
  match state.requests t with
  | .missed row claims =>
      match lookup state.cache row.id row.updatedAt with
      | some validator => some (state.goto t (.judged row claims (compiler.judge claims (.ok validator))))
      | none =>
          let compiled := compiler.validatorFor row.claimSchema
          let judged := state.goto t (.judged row claims (compiler.judge claims compiled))
          match compiled with
          | .ok validator =>
              some { judged with cache := store state.cache row.id row.updatedAt validator }
          | .error _ => some judged
  | _ => none

/-- `find_by_id_for_tenant`, without the retired rows. -/
def readTypeStep (state : State V) (t : RequestId) (tenantId : TenantId) (id : CredentialTypeId)
    (claims : Json) : Option (State V) :=
  match state.requests t, (state.current tenantId id).filter fun row => row.retiredAt.isNone with
  | .idle, some row => some (state.goto t (.typeRead row claims))
  | _, _ => none

def next (state : State V) : Action → Option (State V)
  | .insert request id now =>
      if state.versions id = [] then some (state.push id (request.create id now)) else none
  | .update tenantId id change now =>
      match state.current tenantId id with
      | some row => some (state.push id (change.apply now row))
      | none => some state
  | .readType t tenantId id claims => state.readTypeStep t tenantId id claims
  | .lookUp t => state.lookUpStep compiler t
  | .compile t => state.compileStep compiler t

structure Initial (state : State V) : Prop where
  versions : ∀ id, state.versions id = []
  cache : ∀ id, state.cache id = none
  requests : ∀ t, state.requests t = .idle

/-- A version with this key and stamp, whose schema compiles to this validator. -/
def Origin (state : State V) (id : CredentialTypeId) (stamp : DateTime) (validator : V) : Prop :=
  ∃ version ∈ state.versions id, version.updatedAt = stamp ∧
    compiler.validatorFor version.claimSchema = .ok validator

structure Sound (state : State V) : Prop where
  keyed : ∀ id, ∀ version ∈ state.versions id, version.id = id
  cached : Computed (state.Origin compiler) state.cache
  read : ∀ t row, (state.requests t).row? = some row → row ∈ state.versions row.id

/-- Versions with different schemas have different stamps, and every verdict is that of the schema
that its request read. -/
structure NeverStale (state : State V) : Prop where
  stamped : ∀ id, ∀ one ∈ state.versions id, ∀ two ∈ state.versions id,
    one.updatedAt = two.updatedAt → one.claimSchema = two.claimSchema
  verdicts : ∀ t row claims verdict, state.requests t = .judged row claims verdict →
    verdict = compiler.judge claims (compiler.validatorFor row.claimSchema)

/-- An update gives the row a stamp that no version with another schema has had. -/
def Restamps (state : State V) : Action → Prop
  | .update tenantId id change now => ∀ row, state.current tenantId id = some row →
      ∀ version ∈ state.versions id, version.updatedAt = now →
        version.claimSchema = (change.apply now row).claimSchema
  | _ => True

variable {compiler} {state after : State V} {action : Action}

theorem current_some {tenantId : TenantId} {id : CredentialTypeId} {row : CredentialType}
    (found : state.current tenantId id = some row) : row ∈ state.versions id :=
  List.mem_of_head? (Option.filter_eq_some_iff.mp found).1

/-- A request that is about to take a validator for its row. -/
def Awaits (state : State V) (t : RequestId) (row : CredentialType) (claims : Json) : Prop :=
  state.requests t = .typeRead row claims ∨ state.requests t = .missed row claims

inductive Move (compiler : Compiler V) (state : State V) : Action → State V → Prop
  | inserted {id : CredentialTypeId} (request : NewType) (now : DateTime)
      (absent : state.versions id = []) :
      Move compiler state (.insert request id now) (state.push id (request.create id now))
  | updated {tenantId : TenantId} {id : CredentialTypeId} {row : CredentialType} (change : Change)
      (now : DateTime) (found : state.current tenantId id = some row) :
      Move compiler state (.update tenantId id change now) (state.push id (change.apply now row))
  | notFound {tenantId : TenantId} {id : CredentialTypeId} (change : Change) (now : DateTime)
      (missing : state.current tenantId id = none) :
      Move compiler state (.update tenantId id change now) state
  | read {t : RequestId} {tenantId : TenantId} {id : CredentialTypeId} {row : CredentialType}
      (claims : Json) (found : state.current tenantId id = some row) :
      Move compiler state (.readType t tenantId id claims) (state.goto t (.typeRead row claims))
  | missed {t : RequestId} {row : CredentialType} {claims : Json} (awaits : state.Awaits t row claims) :
      Move compiler state (.lookUp t) (state.goto t (.missed row claims))
  | hit {t : RequestId} {row : CredentialType} {claims : Json} {validator : V} {action : Action}
      (taken : action = .lookUp t ∨ action = .compile t) (awaits : state.Awaits t row claims)
      (held : lookup state.cache row.id row.updatedAt = some validator) :
      Move compiler state action (state.goto t (.judged row claims (compiler.judge claims (.ok validator))))
  | failed {t : RequestId} {row : CredentialType} {claims : Json} {message : String}
      (awaits : state.Awaits t row claims)
      (broken : compiler.validatorFor row.claimSchema = .error message) :
      Move compiler state (.compile t)
        (state.goto t (.judged row claims (compiler.judge claims (.error message))))
  | compiled {t : RequestId} {row : CredentialType} {claims : Json} {validator : V}
      (awaits : state.Awaits t row claims)
      (built : compiler.validatorFor row.claimSchema = .ok validator) :
      Move compiler state (.compile t)
        { state.goto t (.judged row claims (compiler.judge claims (.ok validator))) with
          cache := store state.cache row.id row.updatedAt validator }

theorem lookUpStep_move {t : RequestId} (taken : state.lookUpStep compiler t = some after) :
    Move compiler state (.lookUp t) after := by
  rw [lookUpStep] at taken
  split at taken
  · next row claims at_ =>
      split at taken
      · next validator held =>
          cases taken
          exact .hit (.inl rfl) (.inl at_) held
      · cases taken
        exact .missed (.inl at_)
  · cases taken

theorem compileStep_move {t : RequestId} (taken : state.compileStep compiler t = some after) :
    Move compiler state (.compile t) after := by
  rw [compileStep] at taken
  split at taken
  · next row claims at_ =>
      split at taken
      · next validator held =>
          cases taken
          exact .hit (.inr rfl) (.inr at_) held
      · dsimp only at taken
        split at taken
        · next validator built =>
            cases taken
            rw [built]
            exact .compiled (.inr at_) built
        · next message broken =>
            cases taken
            rw [broken]
            exact .failed (.inr at_) broken
  · cases taken

theorem next_move (taken : state.next compiler action = some after) :
    Move compiler state action after := by
  cases action with
  | insert request id now =>
      rw [next] at taken
      split at taken
      · next absent =>
          cases taken
          exact .inserted request now absent
      · cases taken
  | update tenantId id change now =>
      rw [next] at taken
      split at taken
      · next row found =>
          cases taken
          exact .updated change now found
      · next missing =>
          cases taken
          exact .notFound change now missing
  | readType t tenantId id claims =>
      rw [next, readTypeStep] at taken
      split at taken
      · next row at_ found =>
          cases taken
          exact .read claims (Option.filter_eq_some_iff.mp found).1
      · cases taken
  | lookUp t => exact lookUpStep_move taken
  | compile t => exact compileStep_move taken

theorem Initial.sound (initial : state.Initial) : state.Sound compiler where
  keyed id version listed := by simp [initial.versions id] at listed
  cached id entry found := by simp [initial.cache id] at found
  read t row at_ := by simp [initial.requests t, Request.row?] at at_

theorem Initial.neverStale (initial : state.Initial) : state.NeverStale compiler where
  stamped id one listed := by simp [initial.versions id] at listed
  verdicts t row claims verdict at_ := by simp [initial.requests t] at at_

theorem Awaits.row {t : RequestId} {row : CredentialType} {claims : Json}
    (awaits : state.Awaits t row claims) : (state.requests t).row? = some row := by
  rcases awaits with at_ | at_ <;> rw [at_] <;> rfl

theorem push_versions {id other : CredentialTypeId} {row version : CredentialType} :
    version ∈ (state.push id row).versions other ↔
      (other = id ∧ version = row) ∨ version ∈ state.versions other := by
  rw [push]
  by_cases same : other = id
  · subst same
    simp
  · simp [same]

theorem goto_requests {t other : RequestId} {request found : Request}
    (at_ : (state.goto t request).requests other = found) :
    (other = t ∧ request = found) ∨ (other ≠ t ∧ state.requests other = found) :=
  update_cases at_

theorem Sound.goto (sound : state.Sound compiler) {t : RequestId} {request : Request}
    (from_ : ∀ row, request.row? = some row → row ∈ state.versions row.id) :
    (state.goto t request).Sound compiler where
  keyed := sound.keyed
  cached := sound.cached
  read other row at_ := by
    obtain ⟨found, here⟩ : ∃ found, (state.goto t request).requests other = found := ⟨_, rfl⟩
    rw [here] at at_
    rcases goto_requests here with ⟨-, rfl⟩ | ⟨-, rfl⟩
    · exact from_ row at_
    · exact sound.read other row at_

theorem Sound.push (sound : state.Sound compiler) {id : CredentialTypeId} {row : CredentialType}
    (named : row.id = id) : (state.push id row).Sound compiler where
  keyed other version listed := by
    rcases push_versions.mp listed with ⟨rfl, rfl⟩ | old
    · exact named
    · exact sound.keyed other version old
  cached := sound.cached.mono fun other stamp validator origin => by
    obtain ⟨version, listed, made⟩ := origin
    exact ⟨version, push_versions.mpr (.inr listed), made⟩
  read t seen at_ := push_versions.mpr (.inr (sound.read t seen at_))

theorem Sound.step (sound : state.Sound compiler) (move : Move compiler state action after) :
    after.Sound compiler := by
  cases move with
  | inserted request now absent => exact sound.push rfl
  | updated change now found =>
      exact sound.push ((change.apply_row now _).1.trans (sound.keyed _ _ (current_some found)))
  | notFound change now missing => exact sound
  | read claims found =>
      apply sound.goto
      intro row same
      cases same
      exact (sound.keyed _ _ (current_some found)).symm ▸ current_some found
  | missed awaits | hit taken awaits held | failed awaits broken =>
      apply sound.goto
      intro row same
      cases same
      exact sound.read _ _ awaits.row
  | @compiled t row claims validator awaits built =>
      have listed := sound.read _ _ awaits.row
      have moved : (state.goto t (.judged row claims (compiler.judge claims (.ok validator)))).Sound
          compiler := by
        apply sound.goto
        intro row same
        cases same
        exact listed
      exact ⟨moved.keyed, moved.cached.store ⟨_, listed, rfl, built⟩, moved.read⟩

theorem hit_compiles (sound : state.Sound compiler) (fresh : state.NeverStale compiler)
    {row : CredentialType} {validator : V} (listed : row ∈ state.versions row.id)
    (held : lookup state.cache row.id row.updatedAt = some validator) :
    compiler.validatorFor row.claimSchema = .ok validator := by
  obtain ⟨version, present, stamp, compiled⟩ := sound.cached.lookup held
  rw [← fresh.stamped row.id version present row listed stamp]
  exact compiled

theorem NeverStale.goto (fresh : state.NeverStale compiler) {t : RequestId} {request : Request}
    (right : ∀ row claims verdict, request = .judged row claims verdict →
      verdict = compiler.judge claims (compiler.validatorFor row.claimSchema)) :
    (state.goto t request).NeverStale compiler where
  stamped := fresh.stamped
  verdicts other row claims verdict at_ := by
    rcases goto_requests at_ with ⟨-, same⟩ | ⟨-, same⟩
    · exact right row claims verdict same
    · exact fresh.verdicts other row claims verdict same

/-- A new version keeps the stamps apart exactly when it does not take one of another schema. -/
theorem push_neverStale_iff (fresh : state.NeverStale compiler) {id : CredentialTypeId}
    {row : CredentialType} : (state.push id row).NeverStale compiler ↔
      ∀ version ∈ state.versions id, version.updatedAt = row.updatedAt →
        version.claimSchema = row.claimSchema := by
  constructor
  · intro kept version listed same
    exact kept.stamped id version (push_versions.mpr (.inr listed)) row
      (push_versions.mpr (.inl ⟨rfl, rfl⟩)) same
  · intro apart
    refine ⟨?_, fresh.verdicts⟩
    intro other one first two second same
    rcases push_versions.mp first with ⟨rfl, rfl⟩ | oldFirst
    · rcases push_versions.mp second with ⟨-, rfl⟩ | oldSecond
      · rfl
      · exact (apart two oldSecond same.symm).symm
    · rcases push_versions.mp second with ⟨rfl, rfl⟩ | oldSecond
      · exact apart one oldFirst same
      · exact fresh.stamped other one oldFirst two oldSecond same

theorem neverStale_step (sound : state.Sound compiler) (fresh : state.NeverStale compiler)
    (move : Move compiler state action after) :
    after.NeverStale compiler ↔ state.Restamps action := by
  cases move with
  | inserted request now absent =>
      rw [push_neverStale_iff fresh, absent]
      simp [Restamps]
  | @updated tenantId id row change now found =>
      rw [push_neverStale_iff fresh, (change.apply_row now row).2, Restamps]
      simp [found]
  | notFound change now missing => simp [Restamps, missing, fresh]
  | read claims found =>
      refine iff_of_true (fresh.goto ?_) trivial
      intro row claims verdict same
      cases same
  | missed awaits =>
      refine iff_of_true (fresh.goto ?_) trivial
      intro row claims verdict same
      cases same
  | @hit t row claims validator action taken awaits held =>
      have compiles := hit_compiles sound fresh (sound.read _ _ awaits.row) held
      have kept : (state.goto t (.judged row claims
          (compiler.judge claims (.ok validator)))).NeverStale compiler := by
        apply fresh.goto
        intro row claims verdict same
        cases same
        rw [compiles]
      rcases taken with rfl | rfl <;> exact iff_of_true kept trivial
  | failed awaits broken =>
      refine iff_of_true (fresh.goto ?_) trivial
      intro row claims verdict same
      cases same
      rw [broken]
  | @compiled t row claims validator awaits built =>
      have kept : (state.goto t (.judged row claims
          (compiler.judge claims (.ok validator)))).NeverStale compiler := by
        apply fresh.goto
        intro row claims verdict same
        cases same
        rw [built]
      exact iff_of_true ⟨kept.stamped, kept.verdicts⟩ trivial

end State

/-- Verdicts stay those of the schemas that were read, along every run, exactly when no update takes
over the stamp of a version with another schema. -/
theorem validators_are_never_stale_iff {V : Type} {compiler : Compiler V} {first last : State V}
    {trace : List Action} (initial : first.Initial)
    (run : Run (Steps (State.next compiler)) first trace last) :
    (∀ front back state, trace = front ++ back →
        Run (Steps (State.next compiler)) first front state → state.NeverStale compiler) ↔
      Run (Guarded State.Restamps (Steps (State.next compiler))) first trace last := by
  apply Run.always_iff_guarded (State.Sound compiler) (State.NeverStale compiler)
  · intro state action after sound taken
    exact sound.step (State.next_move taken)
  · intro state action after sound fresh taken
    exact State.neverStale_step sound fresh (State.next_move taken)
  · exact initial.sound
  · exact initial.neverStale
  · exact run

section Sample

/-- The schemas `true` and `false`. -/
def booleanSchemas : Compiler Bool where
  validatorFor
    | .bool accepts => .ok accepts
    | _ => .error "not a boolean schema"
  iterErrors accepts _ := if accepts then [] else ["False schema does not allow the claims"]

def emptyState : State Bool := ⟨fun _ => [], fun _ => none, fun _ => .idle⟩

theorem emptyState_initial : emptyState.Initial := ⟨fun _ => rfl, fun _ => rfl, fun _ => rfl⟩

def sampleTenant : TenantId := ⟨"t"⟩

def sampleId : CredentialTypeId := ⟨"7Ct"⟩

def sampleType : NewType :=
  ⟨sampleTenant, "urn:residence", .array [], none, .bool false, none, .object [], 1, .none⟩

def putSchema (accepts : Bool) (now : DateTime) : Action :=
  .update sampleTenant sampleId (.blob (.schema (.bool accepts))) now

def createOffer (t : RequestId) : List Action :=
  [.readType t sampleTenant sampleId (.object []), .lookUp t]

theorem validators_are_never_stale_iff_sample : ∃ last,
    Run (Steps (State.next booleanSchemas)) emptyState
      ([.insert sampleType sampleId 1, putSchema true 5] ++ createOffer 0 ++ [.compile 0] ++
        [putSchema false 6] ++ createOffer 1 ++ [.compile 1]) last ∧
      last.NeverStale booleanSchemas := by
  obtain ⟨last, guarded⟩ : ∃ last, Run (Guarded State.Restamps (Steps (State.next booleanSchemas)))
      emptyState ([.insert sampleType sampleId 1, putSchema true 5] ++ createOffer 0 ++
        [.compile 0] ++ [putSchema false 6] ++ createOffer 1 ++ [.compile 1]) last := by
    refine ⟨_, .cons ⟨trivial, rfl⟩ (.cons ⟨?first, rfl⟩ (.cons ⟨trivial, rfl⟩ (.cons ⟨trivial, rfl⟩
      (.cons ⟨trivial, rfl⟩ (.cons ⟨?second, rfl⟩ (.cons ⟨trivial, rfl⟩ (.cons ⟨trivial, rfl⟩
        (.cons ⟨trivial, rfl⟩ (.nil _)))))))))⟩
    case first =>
      intro row found version listed same
      rw [List.mem_singleton.mp listed] at same
      exact absurd same (by decide)
    case second =>
      intro row found version listed same
      rcases List.mem_cons.mp listed with rfl | listed
      · exact absurd same (by decide)
      · rw [List.mem_singleton.mp listed] at same
        exact absurd same (by decide)
  refine ⟨last, guarded.forget, ?_⟩
  exact (validators_are_never_stale_iff emptyState_initial guarded.forget).mpr guarded _ [] last
    (List.append_nil _).symm guarded.forget

/-- Two writes of a schema in the same microsecond: the claims of a later offer are checked against
the schema that is no longer there. -/
theorem equal_stamps_serve_the_old_schema : ∃ last,
    Run (Steps (State.next booleanSchemas)) emptyState
      ([.insert sampleType sampleId 1, putSchema true 5] ++ createOffer 0 ++ [.compile 0] ++
        [putSchema false 5] ++ createOffer 1) last ∧
      ¬ last.NeverStale booleanSchemas := by
  refine ⟨_, Run.of_exec rfl, ?_⟩
  intro fresh
  have verdict := fresh.verdicts 1 _ _ _ rfl
  revert verdict
  decide

end Sample

end SwiyuIssuer.Catalogue.Validators
