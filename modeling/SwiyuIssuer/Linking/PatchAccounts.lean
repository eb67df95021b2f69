import SwiyuIssuer.Library.Patch
import SwiyuIssuer.Linking.Identity

/-! Two requests that patch one user account at the same time. -/

namespace SwiyuIssuer.Linking.PatchAccounts

open Library Library.Patch Persistence

def maxFieldLength : Nat := 255

inductive Field
  | firstName
  | lastName
  | homeOrganization
deriving DecidableEq, Repr

def columns (values : Provisioning) : Columns Field String
  | .firstName => values.firstName
  | .lastName => values.lastName
  | .homeOrganization => values.homeOrganization

structure PatchUserAccountRequest where
  provisioningFirstName : Option String
  provisioningLastName : Option String
  provisioningHomeOrganization : Option String
deriving DecidableEq, Repr

/-- The fields that a request names, trimmed; a blank one counts as missing. -/
def normalise (payload : PatchUserAccountRequest) : Except ApiError Provisioning := do
  let first ← normaliseOptional "provisioning_first_name" payload.provisioningFirstName
    maxFieldLength
  let last ← normaliseOptional "provisioning_last_name" payload.provisioningLastName maxFieldLength
  let home ← normaliseOptional "provisioning_home_organization"
    payload.provisioningHomeOrganization maxFieldLength
  return ⟨first, last, home⟩

/-- A provided value wins; otherwise the stored one is kept. -/
def mergeProvisioning (patch stored : Provisioning) : Provisioning :=
  ⟨patch.firstName.or stored.firstName, patch.lastName.or stored.lastName,
    patch.homeOrganization.or stored.homeOrganization⟩

theorem columns_mergeProvisioning (patch stored : Provisioning) :
    columns (mergeProvisioning patch stored) = merge (columns patch) (columns stored) := by
  funext field
  cases field with
  | firstName => rfl
  | lastName => rfl
  | homeOrganization => rfl

structure UserAccountResponse where
  id : String
  tenantId : String
  tenantDisplayName : Option String
  provisioning : Provisioning
  state : String
  identity : Option UserIdentity
  idpFirstName : Option String
  idpLastName : Option String
  linkedAt : Option DateTime
  createdAt : DateTime
deriving DecidableEq, Repr

def userAccountToResponse (account : UserAccount) (tenantDisplayName : Option String) :
    UserAccountResponse where
  id := account.id.bare
  tenantId := account.tenantId.bare
  tenantDisplayName := tenantDisplayName
  provisioning := account.provisioning
  state := account.state.asStr
  identity := account.identity
  idpFirstName := account.idpFirstName
  idpLastName := account.idpLastName
  linkedAt := account.linkedAt
  createdAt := account.createdAt

inductive Party
  | one
  | two
deriving DecidableEq, Repr

def Party.other : Party → Party
  | one => two
  | two => one

structure Ask where
  tenantId : TenantId
  payload : PatchUserAccountRequest

/-- Where a request stands between two statements, with the patch that it was normalised to. -/
inductive Request
  | idle
  | validated (patch : Provisioning)
  | read (patch : Provisioning) (account : UserAccount)
  | written (patch : Provisioning) (updated : UserAccount)
  | answered (patch : Provisioning) (response : UserAccountResponse)
  | failed (error : ApiError)
  | failedAfter (patch : Provisioning) (error : ApiError)
deriving DecidableEq, Repr

def Request.patch : Request → Option Provisioning
  | .validated patch | .read patch _ | .written patch _ | .answered patch _ | .failedAfter patch _ =>
      some patch
  | .idle | .failed _ => none

/-- The patch of a request whose `UPDATE` has been made. -/
def Request.applied : Request → Option Provisioning
  | .written patch _ | .answered patch _ | .failedAfter patch _ => some patch
  | .idle | .validated _ | .read _ _ | .failed _ => none

/-- The patch of a request whose `UPDATE` has been made, and what it has to show. -/
def Request.shown : Request → Option (Provisioning × Provisioning)
  | .written patch updated => some (patch, updated.provisioning)
  | .answered patch response => some (patch, response.provisioning)
  | .idle | .validated _ | .read _ _ | .failed _ | .failedAfter _ _ => none

structure World where
  accounts : Table Party UserAccountId (Option UserAccount)
  requests : Party → Request

/-- The statements of the handler, the last of which reads the name of the tenant, and a pool or a
statement that fails before the `UPDATE` is made. -/
inductive Event
  | validate (t : Party)
  | get (t : Party)
  | update (t : Party)
  | findDisplayName (t : Party) (answer : Except PersistenceError (Option String))
  | fault (t : Party) (error : ApiError)

namespace World

section Steps

variable (id : UserAccountId) (asks : Party → Ask) (world : World)

def goto (t : Party) (request : Request) : World :=
  { world with requests := Function.update world.requests t request }

def validateStep (t : Party) : Option World :=
  match world.requests t with
  | .idle =>
      match normalise (asks t).payload with
      | .ok patch => some (world.goto t (.validated patch))
      | .error error => some (world.goto t (.failed error))
  | _ => none

def getStep (t : Party) : Option World :=
  match world.requests t with
  | .validated patch =>
      match UserAccounts.get world.accounts t (asks t).tenantId id with
      | some account => some (world.goto t (.read patch account))
      | none => some (world.goto t (.failed .notFound))
  | _ => none

def updateStep (t : Party) : Option World :=
  match world.requests t with
  | .read patch account =>
      let merged := mergeProvisioning patch account.provisioning
      match UserAccounts.updateProvisioning world.accounts t (asks t).tenantId id merged with
      | some (.ok accounts) =>
          some ({ world with accounts := accounts }.goto t
            (.written patch (UserAccounts.withProvisioning merged account)))
      | some (.error error) => some (world.goto t (.failed (.ofPersistence error)))
      | none => none
  | _ => none

def findDisplayNameStep (t : Party) (answer : Except PersistenceError (Option String)) :
    Option World :=
  match world.requests t with
  | .written patch updated =>
      match answer with
      | .ok tenantDisplayName =>
          some (world.goto t (.answered patch (userAccountToResponse updated tenantDisplayName)))
      | .error error => some (world.goto t (.failedAfter patch (.ofPersistence error)))
  | _ => none

def faultStep (t : Party) (error : ApiError) : Option World :=
  match world.requests t with
  | .validated _ | .read _ _ => some (world.goto t (.failed error))
  | _ => none

def next : Event → Option World
  | .validate t => world.validateStep asks t
  | .get t => world.getStep id asks t
  | .update t => world.updateStep id asks t
  | .findDisplayName t answer => world.findDisplayNameStep t answer
  | .fault t error => world.faultStep t error

end Steps

/-- The account is there, no transaction has it, and both requests have just come. -/
structure Initial (id : UserAccountId) (account : UserAccount) (world : World) : Prop where
  account : world.accounts id = .clean (some account)
  requests : ∀ t, world.requests t = .idle

def contribution (request : Request) : Columns Field String :=
  match request.applied with
  | some patch => columns patch
  | none => fun _ => none

/-- The account with every patch whose `UPDATE` has been made. -/
def wanted (account : UserAccount) (world : World) : Columns Field String :=
  merge (contribution (world.requests .one))
    (merge (contribution (world.requests .two)) (columns account.provisioning))

def Composes (id : UserAccountId) (account : UserAccount) (world : World) : Prop :=
  ∃ row, (world.accounts id).committed = some row ∧ columns row.provisioning = wanted account world

/-- An `UPDATE` finds the columns that its request does not name as its `SELECT` has read them. -/
def Fresh (id : UserAccountId) (world : World) : Event → Prop
  | .update t => ∀ patch seen row, world.requests t = .read patch seen →
      (world.accounts id).committed = some row → ∀ field, columns patch field = none →
        columns seen.provisioning field = columns row.provisioning field
  | _ => True

/-- What the row and the two requests are, at any point: the row is right until both `UPDATE`s have
been made, and a request has read the first version or one with the other's patch. -/
structure Sound (id : UserAccountId) (asks : Party → Ask) (account : UserAccount) (world : World) :
    Prop where
  row : ∃ row, world.accounts id = .clean (some row) ∧ row.tenantId = account.tenantId ∧
    ((∃ t, (world.requests t).applied = none) → columns row.provisioning = wanted account world)
  patched : ∀ t patch, (world.requests t).patch = some patch → normalise (asks t).payload = .ok patch
  read : ∀ t patch seen, world.requests t = .read patch seen →
    (asks t).tenantId = account.tenantId ∧
      (columns seen.provisioning = columns account.provisioning ∨
        columns seen.provisioning =
          merge (contribution (world.requests t.other)) (columns account.provisioning))
  shown : ∀ t patch values, (world.requests t).shown = some (patch, values) →
    ∀ field value, columns patch field = some value → columns values field = some value

variable {id : UserAccountId} {asks : Party → Ask} {account : UserAccount} {world after : World}

theorem contribution_none {request : Request} (unwritten : request.applied = none) :
    contribution request = fun _ => none := by
  rw [contribution, unwritten]

theorem contribution_some {request : Request} {patch : Provisioning}
    (written : request.applied = some patch) : contribution request = columns patch := by
  rw [contribution, written]

theorem contribution_congr {one two : Request} (same : one.applied = two.applied) :
    contribution one = contribution two := by
  rw [contribution, contribution, same]

theorem wanted_congr {account : UserAccount} {world after : World}
    (same : ∀ t, (after.requests t).applied = (world.requests t).applied) :
    wanted account after = wanted account world := by
  rw [wanted, wanted, contribution_congr (same .one), contribution_congr (same .two)]

@[simp] theorem goto_self (world : World) (t : Party) (request : Request) :
    (world.goto t request).requests t = request := by
  simp [goto]

theorem goto_of_ne {t u : Party} (different : u ≠ t) (request : Request) :
    (world.goto t request).requests u = world.requests u := by
  simp [goto, different]

theorem goto_applied {t : Party} {request : Request}
    (same : request.applied = (world.requests t).applied) (u : Party) :
    ((world.goto t request).requests u).applied = (world.requests u).applied := by
  by_cases here : u = t
  · subst here
    rw [goto_self, same]
  · rw [goto_of_ne here]

theorem Initial.sound (initial : world.Initial id account) : world.Sound id asks account where
  row := by
    refine ⟨account, initial.account, rfl, fun _ => ?_⟩
    rw [wanted, initial.requests, initial.requests]
    rfl
  patched t patch found := by simp [initial.requests, Request.patch] at found
  read t patch seen at_ := by simp [initial.requests] at at_
  shown t patch values found := by simp [initial.requests, Request.shown] at found

theorem Initial.composes (initial : world.Initial id account) : world.Composes id account := by
  refine ⟨account, by rw [initial.account]; rfl, ?_⟩
  rw [wanted, initial.requests, initial.requests]
  rfl

theorem Sound.goto (sound : world.Sound id asks account) {t : Party} {request : Request}
    (same : request.applied = (world.requests t).applied)
    (patched : ∀ patch, request.patch = some patch → normalise (asks t).payload = .ok patch)
    (read : ∀ patch seen, request = .read patch seen →
      (asks t).tenantId = account.tenantId ∧
        (columns seen.provisioning = columns account.provisioning ∨
          columns seen.provisioning =
            merge (contribution (world.requests t.other)) (columns account.provisioning)))
    (shown : ∀ patch values, request.shown = some (patch, values) →
      ∀ field value, columns patch field = some value → columns values field = some value) :
    (world.goto t request).Sound id asks account where
  row := by
    obtain ⟨row, clean, tenant, right⟩ := sound.row
    refine ⟨row, clean, tenant, ?_⟩
    rintro ⟨u, unwritten⟩
    rw [wanted_congr (goto_applied same)]
    exact right ⟨u, (goto_applied same u).symm.trans unwritten⟩
  patched u patch found := by
    by_cases here : u = t
    · subst here
      rw [goto_self] at found
      exact patched patch found
    · rw [goto_of_ne here] at found
      exact sound.patched u patch found
  read u patch seen at_ := by
    rw [contribution_congr (goto_applied same u.other)]
    by_cases here : u = t
    · subst here
      rw [goto_self] at at_
      exact read patch seen at_
    · rw [goto_of_ne here] at at_
      exact sound.read u patch seen at_
  shown u patch values found := by
    by_cases here : u = t
    · subst here
      rw [goto_self] at found
      exact shown patch values found
    · rw [goto_of_ne here] at found
      exact sound.shown u patch values found

theorem other_ne (t : Party) : t.other ≠ t := by
  cases t with
  | one => decide
  | two => decide

theorem other_other (t : Party) : t.other.other = t := by
  cases t with
  | one => rfl
  | two => rfl

theorem eq_other {t u : Party} (different : u ≠ t) : u = t.other := by
  cases t with
  | one => cases u with
    | one => exact absurd rfl different
    | two => rfl
  | two => cases u with
    | one => rfl
    | two => exact absurd rfl different

theorem wanted_before {t : Party} (unwritten : contribution (world.requests t) = fun _ => none) :
    wanted account world =
      merge (contribution (world.requests t.other)) (columns account.provisioning) := by
  cases t with
  | one => rw [wanted, unwritten, merge_none, Party.other]
  | two => rw [wanted, unwritten, merge_none, Party.other]

theorem wanted_alone {t : Party} (alone : contribution (world.requests t.other) = fun _ => none) :
    wanted account world =
      merge (contribution (world.requests t)) (columns account.provisioning) := by
  rw [wanted_before alone, other_other]

/-- The world after the `UPDATE` of a request that has read `seen`. -/
def updated (id : UserAccountId) (world : World) (t : Party) (patch : Provisioning)
    (seen row : UserAccount) : World :=
  { world with
    accounts := Function.update world.accounts id (.clean (some
      (UserAccounts.withProvisioning (mergeProvisioning patch seen.provisioning) row))) }.goto t
    (.written patch (UserAccounts.withProvisioning (mergeProvisioning patch seen.provisioning) seen))

theorem updateStep_eq (sound : world.Sound id asks account) {t : Party} {patch : Provisioning}
    {seen row : UserAccount} (at_ : world.requests t = .read patch seen)
    (clean : world.accounts id = .clean (some row)) (tenant : row.tenantId = account.tenantId) :
    world.updateStep id asks t = some (updated id world t patch seen row) := by
  have scope := (sound.read t patch seen at_).1
  have found : UserAccounts.get world.accounts t (asks t).tenantId id = some row := by
    rw [UserAccounts.get, clean, Cell.read_clean]
    simp [scope, tenant]
  have unlocked : (world.accounts id).writer = none := by rw [clean]; rfl
  rw [updateStep, at_]
  simp only [UserAccounts.updateProvisioning_eq found unlocked, clean]
  rfl

theorem columns_withProvisioning (values : Provisioning) (account : UserAccount) :
    columns (UserAccounts.withProvisioning values account).provisioning = columns values := rfl

theorem Sound.update (sound : world.Sound id asks account) {t : Party} {patch : Provisioning}
    {seen row : UserAccount} (at_ : world.requests t = .read patch seen)
    (tenant : row.tenantId = account.tenantId) :
    (updated id world t patch seen row).Sound id asks account := by
  have unwritten : contribution (world.requests t) = fun _ => none := by
    rw [at_]
    rfl
  have others : ∀ u, u ≠ t → (updated id world t patch seen row).requests u = world.requests u :=
    fun u different => Function.update_of_ne different _ _
  have own : (updated id world t patch seen row).requests t = .written patch _ :=
    Function.update_self _ _ _
  have own_applied : contribution ((updated id world t patch seen row).requests t) = columns patch := by
    rw [own]
    rfl
  refine ⟨⟨_, Function.update_self _ _ _, tenant, ?_⟩, ?_, ?_, ?_⟩
  · rintro ⟨u, pending⟩
    have different : u ≠ t := by
      rintro rfl
      rw [own] at pending
      cases pending
    rw [others u different] at pending
    have idle := contribution_none pending
    have first : columns seen.provisioning = columns account.provisioning := by
      rcases (sound.read t patch seen at_).2 with first | later
      · exact first
      · rw [later, ← eq_other different, idle, merge_none]
    rw [columns_withProvisioning, columns_mergeProvisioning, first]
    rw [wanted_alone (by rw [others _ (other_ne t), ← eq_other different, idle]), own_applied]
  · intro u other found
    by_cases here : u = t
    · subst here
      rw [own] at found
      exact sound.patched u other (by rw [at_]; exact found)
    · rw [others u here] at found
      exact sound.patched u other found
  · intro u other earlier read
    have different : u ≠ t := by
      rintro rfl
      rw [own] at read
      cases read
    rw [others u different] at read
    obtain ⟨scope, versions⟩ := sound.read u other earlier read
    refine ⟨scope, .inl ?_⟩
    rcases versions with first | later
    · exact first
    · rw [later, eq_other different, other_other, unwritten, merge_none]
  · intro u other values found field value named
    by_cases here : u = t
    · subst here
      rw [own] at found
      cases found
      rw [columns_withProvisioning, columns_mergeProvisioning]
      exact merge_named named _
    · rw [others u here] at found
      exact sound.shown u other values found field value named

theorem Sound.get (sound : world.Sound id asks account) {t : Party} {patch : Provisioning}
    {seen : UserAccount} (at_ : world.requests t = .validated patch)
    (found : UserAccounts.get world.accounts t (asks t).tenantId id = some seen) :
    (world.goto t (.read patch seen)).Sound id asks account := by
  have unwritten : (world.requests t).applied = none := by rw [at_]; rfl
  obtain ⟨row, clean, tenant, right⟩ := sound.row
  obtain ⟨visible, scope⟩ := UserAccounts.get_some found
  rw [clean, Cell.read_clean] at visible
  cases visible
  apply sound.goto
  · exact unwritten.symm
  · intro other same
    exact sound.patched t other (by rw [at_]; exact same)
  · rintro other earlier same
    cases same
    refine ⟨scope.symm.trans tenant, .inr ?_⟩
    rw [right ⟨t, unwritten⟩, wanted_before (contribution_none unwritten)]
  · intro other values shown
    cases shown

theorem Sound.findDisplayName (sound : world.Sound id asks account) {t : Party}
    {patch : Provisioning} {row : UserAccount} (at_ : world.requests t = .written patch row)
    (tenantDisplayName : Option String) :
    (world.goto t (.answered patch (userAccountToResponse row tenantDisplayName))).Sound id asks
      account := by
  apply sound.goto
  · rw [at_]
    rfl
  · intro other same
    exact sound.patched t other (by rw [at_]; exact same)
  · intro other earlier same
    cases same
  · intro other values shown
    exact sound.shown t other values (by rw [at_]; exact shown)

theorem Sound.validate (sound : world.Sound id asks account) {t : Party} {patch : Provisioning}
    (unwritten : (world.requests t).applied = none)
    (valid : normalise (asks t).payload = .ok patch) :
    (world.goto t (.validated patch)).Sound id asks account := by
  apply sound.goto
  · rw [unwritten]
    rfl
  · intro other found
    cases found
    exact valid
  · intro other seen read
    cases read
  · intro other values shown
    cases shown

theorem Sound.fail (sound : world.Sound id asks account) {t : Party}
    (unwritten : (world.requests t).applied = none) (error : ApiError) :
    (world.goto t (.failed error)).Sound id asks account := by
  apply sound.goto
  · rw [unwritten]
    rfl
  · intro patch found
    cases found
  · intro patch seen read
    cases read
  · intro patch values shown
    cases shown

theorem Sound.failAfter (sound : world.Sound id asks account) {t : Party} {patch : Provisioning}
    {row : UserAccount} (at_ : world.requests t = .written patch row) (error : ApiError) :
    (world.goto t (.failedAfter patch error)).Sound id asks account := by
  apply sound.goto
  · rw [at_]
    rfl
  · intro other same
    exact sound.patched t other (by rw [at_]; exact same)
  · intro other seen read
    cases read
  · intro other values shown
    cases shown

/-- What an event does: all but an `UPDATE` leave the table and what is wanted of it. -/
theorem Sound.step (sound : world.Sound id asks account) {event : Event}
    (taken : next id asks world event = some after) :
    after.Sound id asks account ∧
      ((after.accounts = world.accounts ∧ wanted account after = wanted account world ∧
          Fresh id world event) ∨
        ∃ t patch seen row, event = .update t ∧ world.requests t = .read patch seen ∧
          world.accounts id = .clean (some row) ∧ after = updated id world t patch seen row) := by
  have quiet : ∀ t request, request.applied = (world.requests t).applied →
      wanted account (world.goto t request) = wanted account world :=
    fun t request same => wanted_congr (goto_applied same)
  cases event with
  | validate t =>
      simp only [next, validateStep] at taken
      split at taken
      · next at_ =>
          have unwritten : (world.requests t).applied = none := by rw [at_]; rfl
          split at taken
          · next patch valid =>
              cases taken
              exact ⟨sound.validate unwritten valid, .inl ⟨rfl, quiet t _ unwritten.symm, trivial⟩⟩
          · next error invalid =>
              cases taken
              exact ⟨sound.fail unwritten error, .inl ⟨rfl, quiet t _ unwritten.symm, trivial⟩⟩
      · cases taken
  | get t =>
      simp only [next, getStep] at taken
      split at taken
      · next patch at_ =>
          have unwritten : (world.requests t).applied = none := by rw [at_]; rfl
          split at taken
          · next seen found =>
              cases taken
              exact ⟨sound.get at_ found, .inl ⟨rfl, quiet t _ unwritten.symm, trivial⟩⟩
          · cases taken
            exact ⟨sound.fail unwritten _, .inl ⟨rfl, quiet t _ unwritten.symm, trivial⟩⟩
      · cases taken
  | update t =>
      obtain ⟨row, clean, tenant, _⟩ := sound.row
      cases at_ : world.requests t with
      | read patch seen =>
          have made := (updateStep_eq sound at_ clean tenant).symm.trans taken
          cases made
          exact ⟨sound.update at_ tenant, .inr ⟨t, patch, seen, row, rfl, at_, clean, rfl⟩⟩
      | _ => simp [next, updateStep, at_] at taken
  | findDisplayName t answer =>
      simp only [next, findDisplayNameStep] at taken
      split at taken
      · next patch row at_ =>
          have written : (world.requests t).applied = some patch := by rw [at_]; rfl
          split at taken
          · next tenantDisplayName =>
              cases taken
              exact ⟨sound.findDisplayName at_ tenantDisplayName,
                .inl ⟨rfl, quiet t _ written.symm, trivial⟩⟩
          · next error =>
              cases taken
              exact ⟨sound.failAfter at_ _, .inl ⟨rfl, quiet t _ written.symm, trivial⟩⟩
      · cases taken
  | fault t error =>
      have unwritten : (world.requests t).applied = none := by
        cases at_ : world.requests t with
        | validated _ => rfl
        | read _ _ => rfl
        | _ => simp [next, faultStep, at_] at taken
      have failed : after = world.goto t (.failed error) := by
        simp only [next, faultStep] at taken
        split at taken
        · exact (Option.some.inj taken).symm
        · exact (Option.some.inj taken).symm
        · cases taken
      rw [failed]
      exact ⟨sound.fail unwritten error, .inl ⟨rfl, quiet t _ unwritten.symm, trivial⟩⟩

/-- The two requests name different fields. -/
def NameApart (asks : Party → Ask) : Prop :=
  ∀ one two, normalise (asks .one).payload = .ok one → normalise (asks .two).payload = .ok two →
    Apart (columns one) (columns two)

theorem Sound.apart (sound : world.Sound id asks account) (apart : NameApart asks) {t : Party}
    {patch : Provisioning} (own : normalise (asks t).payload = .ok patch) :
    Apart (columns patch) (contribution (world.requests t.other)) := by
  cases written : (world.requests t.other).applied with
  | none =>
      rw [contribution_none written]
      intro field
      exact .inr rfl
  | some other =>
      have named : normalise (asks t.other).payload = .ok other := by
        apply sound.patched
        cases at_ : world.requests t.other with
        | written _ _ => rw [at_] at written; exact written
        | answered _ _ => rw [at_] at written; exact written
        | failedAfter _ _ => rw [at_] at written; exact written
        | _ => rw [at_] at written; cases written
      rw [contribution_some written]
      cases t with
      | one => exact apart patch other own named
      | two => exact (apart other patch named own).symm

theorem wanted_updated (sound : world.Sound id asks account) (apart : NameApart asks) {t : Party}
    {patch : Provisioning} {seen row : UserAccount} (at_ : world.requests t = .read patch seen) :
    wanted account (updated id world t patch seen row) =
      merge (columns patch) (wanted account world) := by
  have unwritten : contribution (world.requests t) = fun _ => none := by
    rw [at_]
    rfl
  have own : normalise (asks t).payload = .ok patch := sound.patched t patch (by rw [at_]; rfl)
  have apart_ := sound.apart apart own
  have here : contribution ((updated id world t patch seen row).requests t) = columns patch := by
    rw [updated, goto_self]
    rfl
  have there : (updated id world t patch seen row).requests t.other = world.requests t.other :=
    goto_of_ne (other_ne t) _
  rw [wanted_before unwritten]
  cases t with
  | one =>
      rw [Party.other] at there ⊢
      rw [wanted, here, there]
  | two =>
      rw [Party.other] at there apart_ ⊢
      rw [wanted, here, there, merge_comm apart_]

/-- Only an `UPDATE` that is not fresh takes a value back. -/
theorem Sound.composes_iff (sound : world.Sound id asks account) (apart : NameApart asks)
    {event : Event} (taken : next id asks world event = some after) :
    Composes id account after ↔ Composes id account world ∧ Fresh id world event := by
  obtain ⟨_, ⟨accounts, same, fresh⟩ | ⟨t, patch, seen, row, rfl, at_, clean, rfl⟩⟩ := sound.step taken
  · simp only [Composes, accounts, same, fresh, and_true]
  · have committed : (world.accounts id).committed = some row := by rw [clean]; rfl
    have right : columns row.provisioning = wanted account world := by
      obtain ⟨stored, clean', _, right⟩ := sound.row
      rw [clean] at clean'
      cases clean'
      exact right ⟨t, by rw [at_]; rfl⟩
    have composes : Composes id account world := ⟨row, committed, right⟩
    have written : Composes id account (updated id world t patch seen row) ↔
        merge (columns patch) (columns seen.provisioning) =
          merge (columns patch) (columns row.provisioning) := by
      have stored : ((updated id world t patch seen row).accounts id).committed = some
          (UserAccounts.withProvisioning (mergeProvisioning patch seen.provisioning) row) := by
        simp [updated, World.goto]
      simp only [Composes, stored, Option.some.injEq, exists_eq_left', columns_withProvisioning,
        columns_mergeProvisioning, wanted_updated sound apart at_, right]
    rw [written, merge_eq_merge_iff, Fresh]
    constructor
    · intro same
      refine ⟨composes, ?_⟩
      intro patch' seen' row' at' committed'
      rw [at_] at at'
      rw [committed] at committed'
      cases at'
      cases committed'
      exact same
    · intro fresh
      exact fresh.2 patch seen row at_ committed

/-- Two patches that were answered: the row has every value that one of them names, each response
shows those that it names, and the other columns are as they were. -/
def BothKept (id : UserAccountId) (account : UserAccount) (world : World)
    (patches : Party → Provisioning) (responses : Party → UserAccountResponse) : Prop :=
  ∃ row, (world.accounts id).committed = some row ∧
    (∀ t field value, columns (patches t) field = some value →
      columns row.provisioning field = some value ∧
        columns (responses t).provisioning field = columns row.provisioning field) ∧
    ∀ field, (∀ t, columns (patches t) field = none) →
      columns row.provisioning field = columns account.provisioning field

theorem wanted_answered {patches : Party → Provisioning} {responses : Party → UserAccountResponse}
    (answered : ∀ t, world.requests t = .answered (patches t) (responses t)) :
    wanted account world =
      merge (columns (patches .one)) (merge (columns (patches .two)) (columns account.provisioning)) := by
  rw [wanted, answered, answered]
  rfl

theorem Sound.bothKept_iff (sound : world.Sound id asks account) (apart : NameApart asks)
    {patches : Party → Provisioning} {responses : Party → UserAccountResponse}
    (answered : ∀ t, world.requests t = .answered (patches t) (responses t)) :
    BothKept id account world patches responses ↔ Composes id account world := by
  have own : ∀ t, normalise (asks t).payload = .ok (patches t) := by
    intro t
    exact sound.patched t _ (by rw [answered]; rfl)
  have disjoint := apart _ _ (own .one) (own .two)
  have shown : ∀ t field value, columns (patches t) field = some value →
      columns (responses t).provisioning field = some value := by
    intro t
    exact sound.shown t _ _ (by rw [answered]; rfl)
  constructor
  · intro kept
    obtain ⟨row, committed, named, rest⟩ := kept
    refine ⟨row, committed, ?_⟩
    rw [wanted_answered answered, eq_merge_merge_iff disjoint]
    refine ⟨fun field value at_ => (named .one field value at_).1,
      fun field value at_ => (named .two field value at_).1, ?_⟩
    intro field left right
    apply rest
    intro t
    cases t with
    | one => exact left
    | two => exact right
  · intro composes
    obtain ⟨row, committed, same⟩ := composes
    rw [wanted_answered answered, eq_merge_merge_iff disjoint] at same
    obtain ⟨first, second, rest⟩ := same
    have stored : ∀ t field value, columns (patches t) field = some value →
        columns row.provisioning field = some value := by
      intro t
      cases t with
      | one => exact first
      | two => exact second
    refine ⟨row, committed, ?_, fun field left => rest field (left .one) (left .two)⟩
    intro t field value at_
    exact ⟨stored t field value at_, (shown t field value at_).trans (stored t field value at_).symm⟩

end World

open World

variable {id : UserAccountId} {asks : Party → Ask} {account : UserAccount} {first last : World}
  {trace : List Event}

/-- Both patches are kept exactly when each `UPDATE` finds the columns that its request leaves as
its `SELECT` has read them. -/
theorem disjoint_patches_compose_iff {patches : Party → Provisioning}
    {responses : Party → UserAccountResponse} (apart : NameApart asks)
    (initial : first.Initial id account) (run : Run (Steps (next id asks)) first trace last)
    (answered : ∀ t, last.requests t = .answered (patches t) (responses t)) :
    BothKept id account last patches responses ↔
      Run (Guarded (Fresh id) (Steps (next id asks))) first trace last := by
  have sound : last.Sound id asks account :=
    run.invariant (fun world => world.Sound id asks account)
      (fun _ _ _ sound taken => (sound.step taken).1) initial.sound
  rw [sound.bothKept_iff apart answered]
  apply run.holds_iff_guarded (fun world => world.Sound id asks account) (Composes id account)
  · intro state event after now taken
    exact (now.step taken).1
  · intro state event after now taken
    exact now.composes_iff apart taken
  · exact initial.sound
  · exact initial.composes

section Sample

def sampleAccount : UserAccount where
  id := ⟨"a"⟩
  tenantId := ⟨"t"⟩
  provisioningFirstName := some "Ada"
  provisioningLastName := some "B"
  provisioningHomeOrganization := some "ETH"
  state := .active
  identity := none
  idpFirstName := none
  idpLastName := none
  linkedAt := none
  createdAt := 0

def sampleAsks : Party → Ask
  | .one => ⟨⟨"t"⟩, ⟨some "Eve", none, some " "⟩⟩
  | .two => ⟨⟨"t"⟩, ⟨none, some "Wu", none⟩⟩

def sampleWorld : World := ⟨fun _ => .clean (some sampleAccount), fun _ => .idle⟩

theorem sampleAsks_apart : NameApart sampleAsks := by
  intro one two first second
  cases (show normalise (sampleAsks .one).payload = .ok ⟨some "Eve", none, none⟩ by
    decide +kernel).symm.trans first
  cases (show normalise (sampleAsks .two).payload = .ok ⟨none, some "Wu", none⟩ by
    decide +kernel).symm.trans second
  intro field
  cases field with
  | firstName => exact .inr rfl
  | lastName => exact .inl rfl
  | homeOrganization => exact .inl rfl

theorem sampleWorld_initial : sampleWorld.Initial ⟨"a"⟩ sampleAccount := ⟨rfl, fun _ => rfl⟩

/-- The second `SELECT` is made after the first `UPDATE`. -/
def inTurn : List Event :=
  [.validate .one, .validate .two, .get .one, .update .one, .get .two, .update .two,
    .findDisplayName .two (.ok none), .findDisplayName .one (.ok none)]

/-- Both `SELECT`s are made before both `UPDATE`s. -/
def crossed : List Event :=
  [.validate .one, .validate .two, .get .one, .get .two, .update .one, .update .two,
    .findDisplayName .one (.ok none), .findDisplayName .two (.ok none)]

def samplePatches : Party → Provisioning
  | .one => ⟨some "Eve", none, none⟩
  | .two => ⟨none, some "Wu", none⟩

def inTurnShown : Party → Provisioning
  | .one => ⟨some "Eve", some "B", some "ETH"⟩
  | .two => ⟨some "Eve", some "Wu", some "ETH"⟩

def crossedShown : Party → Provisioning
  | .one => ⟨some "Eve", some "B", some "ETH"⟩
  | .two => ⟨some "Ada", some "Wu", some "ETH"⟩

def sampleResponse (values : Provisioning) : UserAccountResponse :=
  userAccountToResponse (UserAccounts.withProvisioning values sampleAccount) none

def outcome (world : World) : Request × Request × Option Provisioning :=
  (world.requests .one, world.requests .two,
    (world.accounts ⟨"a"⟩).committed.map UserAccount.provisioning)

theorem sample_run (trace : List Event) (shown : Party → Provisioning)
    (computed : (exec (next ⟨"a"⟩ sampleAsks) sampleWorld trace).map outcome =
      some (.answered (samplePatches .one) (sampleResponse (shown .one)),
        .answered (samplePatches .two) (sampleResponse (shown .two)), some (shown .two))) :
    ∃ last row, Run (Steps (next ⟨"a"⟩ sampleAsks)) sampleWorld trace last ∧
      (∀ t, last.requests t = .answered (samplePatches t) (sampleResponse (shown t))) ∧
      (last.accounts ⟨"a"⟩).committed = some row ∧ row.provisioning = shown .two := by
  obtain ⟨last, reached, seen⟩ := Option.map_eq_some_iff.mp computed
  simp only [outcome, Prod.mk.injEq, Option.map_eq_some_iff] at seen
  obtain ⟨first, second, row, committed, values⟩ := seen
  refine ⟨last, row, Run.of_exec reached, ?_, committed, values⟩
  intro t
  cases t with
  | one => exact first
  | two => exact second

theorem disjoint_patches_compose_iff_sample : ∃ last,
    Run (Steps (next ⟨"a"⟩ sampleAsks)) sampleWorld inTurn last ∧
      (∀ t, last.requests t = .answered (samplePatches t) (sampleResponse (inTurnShown t))) ∧
      Run (Guarded (Fresh ⟨"a"⟩) (Steps (next ⟨"a"⟩ sampleAsks))) sampleWorld inTurn last := by
  obtain ⟨last, row, run, answered, committed, values⟩ :=
    sample_run inTurn inTurnShown (by decide +kernel)
  refine ⟨last, run, answered, ?_⟩
  apply (disjoint_patches_compose_iff sampleAsks_apart sampleWorld_initial run answered).mp
  refine ⟨row, committed, ?_, ?_⟩
  · rw [values]
    intro t field value named
    cases t with
    | one => cases field with
      | firstName => cases named; exact ⟨rfl, rfl⟩
      | lastName => cases named
      | homeOrganization => cases named
    | two => cases field with
      | firstName => cases named
      | lastName => cases named; exact ⟨rfl, rfl⟩
      | homeOrganization => cases named
  · rw [values]
    intro field left
    cases field with
    | firstName => exact absurd (left .one) (by decide)
    | lastName => exact absurd (left .two) (by decide)
    | homeOrganization => rfl

/-- The first name of the one request is gone from the row, and both were answered. -/
theorem crossed_update_is_lost : sampleWorld.Initial ⟨"a"⟩ sampleAccount ∧ NameApart sampleAsks ∧
    ∃ last, Run (Steps (next ⟨"a"⟩ sampleAsks)) sampleWorld crossed last ∧
      (∀ t, last.requests t = .answered (samplePatches t) (sampleResponse (crossedShown t))) ∧
      ((last.accounts ⟨"a"⟩).committed.bind fun row => row.provisioningFirstName) = some "Ada" ∧
      ¬ BothKept ⟨"a"⟩ sampleAccount last samplePatches (sampleResponse ∘ crossedShown) := by
  obtain ⟨last, row, run, answered, committed, values⟩ :=
    sample_run crossed crossedShown (by decide +kernel)
  have stale : row.provisioningFirstName = some "Ada" := congrArg Provisioning.firstName values
  refine ⟨sampleWorld_initial, sampleAsks_apart, last, run, answered, ?_, ?_⟩
  · rw [committed, Option.bind_some, stale]
  · intro kept
    obtain ⟨stored, here, named, _⟩ := kept
    cases committed.symm.trans here
    have wanted : row.provisioningFirstName = some "Eve" := (named .one .firstName "Eve" rfl).1
    exact absurd (stale.symm.trans wanted) (by decide)

end Sample

end SwiyuIssuer.Linking.PatchAccounts
