import SwiyuIssuer.Oauth.Seeding

/-! What the plans of the seeding runs can be, and everything one step can do. -/

namespace SwiyuIssuer.Oauth

open Library Persistence

/-- The client's id and secret that a request gives a tenant. -/
def SeedRequest.clientPair : SeedRequest → Option (String × String)
  | importOauthRefreshToken .. => none
  | setOauthCredentials clientId clientSecret _ => some (clientId, clientSecret)
  | bootstrapDevFromEnv args _ =>
      match args.clientId, args.clientSecret with
      | some clientId, some clientSecret => some (clientId, clientSecret)
      | _, _ => none

def applyAll (tenantId : TenantId) (writes : List SeedWrite) (version : Option TenantOauthRow) :
    Option TenantOauthRow :=
  writes.foldl (fun version write => write.apply tenantId version) version

section Plans

variable {tenantId : TenantId} {writes : List SeedWrite} {version : Option TenantOauthRow}
  {found : Option TenantOauthRow} {request : SeedRequest}

theorem applyAll_concat (write : SeedWrite) : applyAll tenantId (writes ++ [write]) version =
    write.apply tenantId (applyAll tenantId writes version) := by
  simp [applyAll]

theorem applyAll_metadata (only : ∀ write ∈ writes, write = .updateMetadata) :
    applyAll tenantId writes version = version := by
  induction writes with
  | nil => rfl
  | cons write writes ih =>
      rw [only write List.mem_cons_self]
      exact ih fun other member => only other (List.mem_cons_of_mem _ member)

/-- No statement deletes the row. -/
theorem applyAll_isSome (present : version.isSome = true) :
    (applyAll tenantId writes version).isSome = true := by
  induction writes generalizing version with
  | nil => exact present
  | cons write writes ih =>
      apply ih
      cases write <;> simp [SeedWrite.apply, present]

/-- A plan may create the row or touch its other columns, and then sets the pair of its request at most
once and the token at most once. -/
inductive Shaped (request : SeedRequest) : List SeedWrite → Prop
  | of (head clients tokens : List SeedWrite)
      (first : head = [] ∨ head = [.insert] ∨ head = [.updateMetadata])
      (second : clients = [] ∨ ∃ clientId clientSecret,
        clients = [.writeOauthClientCredentials clientId clientSecret] ∧
          request.clientPair = some (clientId, clientSecret))
      (third : tokens = [] ∨ ∃ refreshToken, tokens = [.writeOauthRefreshToken refreshToken]) :
      Shaped request (head ++ (clients ++ tokens))

theorem clientWrites_cases (args : BootstrapDevTenantArgs) (force : Bool) :
    args.clientWrites = [] ∨ ∃ clientId clientSecret,
      args.clientWrites = [.writeOauthClientCredentials clientId clientSecret] ∧
        (SeedRequest.bootstrapDevFromEnv args force).clientPair = some (clientId, clientSecret) := by
  unfold BootstrapDevTenantArgs.clientWrites
  split
  · next clientId clientSecret id secret =>
      exact .inr ⟨clientId, clientSecret, rfl, by simp [SeedRequest.clientPair, id, secret]⟩
  · exact .inl rfl

theorem refreshTokenWrites_cases (args : BootstrapDevTenantArgs) : args.refreshTokenWrites = [] ∨
    ∃ refreshToken, args.refreshTokenWrites = [.writeOauthRefreshToken refreshToken] := by
  unfold BootstrapDevTenantArgs.refreshTokenWrites
  split
  · next refreshToken given => exact .inr ⟨refreshToken, rfl⟩
  · exact .inl rfl

theorem plan_shaped (planned : request.plan tenantId found = .ok (some writes)) :
    Shaped request writes := by
  cases request with
  | importOauthRefreshToken token onlyIfEmpty =>
      simp only [SeedRequest.plan] at planned
      split at planned
      · cases planned
      · split at planned
        · cases planned
        · cases planned
          exact .of [] [] _ (.inl rfl) (.inl rfl) (.inr ⟨token, rfl⟩)
  | setOauthCredentials clientId clientSecret onlyIfEmpty =>
      simp only [SeedRequest.plan] at planned
      split at planned
      · cases planned
      · split at planned
        · cases planned
        · cases planned
          exact .of [] _ [] (.inl rfl) (.inr ⟨clientId, clientSecret, rfl, rfl⟩) (.inl rfl)
  | bootstrapDevFromEnv args force =>
      have clients := clientWrites_cases args force
      have tokens := refreshTokenWrites_cases args
      simp only [SeedRequest.plan] at planned
      cases planned
      unfold BootstrapDevTenantArgs.writes
      split
      · exact .of [.insert] _ _ (.inr (.inl rfl)) clients tokens
      · split
        · exact .of [.updateMetadata] _ _ (.inr (.inr rfl)) clients tokens
        · apply Shaped.of [] _ _ (.inl rfl)
          · split
            · exact clients
            · exact .inl rfl
          · split
            · exact tokens
            · exact .inl rfl

theorem Shaped.clientPair_eq (shaped : Shaped request writes) {clientId clientSecret : String}
    (member : .writeOauthClientCredentials clientId clientSecret ∈ writes) :
    request.clientPair = some (clientId, clientSecret) := by
  rcases shaped with ⟨head, clients, tokens, first, second, third⟩
  have elsewhere : .writeOauthClientCredentials clientId clientSecret ∉ head ∧
      .writeOauthClientCredentials clientId clientSecret ∉ tokens := by
    constructor
    · rcases first with rfl | rfl | rfl <;> simp
    · rcases third with rfl | ⟨refreshToken, rfl⟩ <;> simp
  have inClients : .writeOauthClientCredentials clientId clientSecret ∈ clients := by
    simpa [elsewhere] using member
  rcases second with rfl | ⟨givenId, givenSecret, rfl, gives⟩
  · cases inClients
  · rw [List.mem_singleton, SeedWrite.writeOauthClientCredentials.injEq] at inClients
    rw [gives, inClients.1, inClients.2]

end Plans

def SeedingEvent.run : SeedingEvent → Option RunId
  | begin c _ _ | find c _ | write c _ | commit c _ | kill c => some c
  | refresh _ => none

/-- The commit is made, whether or not its answer comes back. -/
def SeedingEvent.installs : SeedingEvent → Bool
  | commit _ .ok | commit _ (.lost _) => true
  | _ => false

def SeedPhase.isOver : SeedPhase → Bool
  | ended .. | killed _ => true
  | _ => false

inductive SeedMove (deployment : Deployment) (state : SeedingState) (c : RunId)
    (event : SeedingEvent) : SeedingState → Prop
  | opened (request : SeedRequest) (quiet : event.installs = false)
      (at_ : state.runs c = .idle) (idle : state.provider.phase c = .idle) :
      SeedMove deployment state c event (state.goto c (.begun request) state.tenant)
  | found (request : SeedRequest) (writes : List SeedWrite) (quiet : event.installs = false)
      (at_ : state.runs c = .begun request)
      (planned : request.plan deployment.tenantId (state.tenant.read c) = .ok (some writes)) :
      SeedMove deployment state c event
        (state.goto c (.writing request (state.tenant.read c) writes) state.tenant)
  | wrote (request : SeedRequest) (found : Option TenantOauthRow) (write : SeedWrite)
      (todo : List SeedWrite) (quiet : event.installs = false)
      (at_ : state.runs c = .writing request found (write :: todo))
      (free : state.tenant.free c = true)
      (inserts : write = .insert → state.tenant.read c = none) :
      SeedMove deployment state c event (state.goto c (.writing request found todo)
        (state.tenant.update c (write.apply deployment.tenantId)))
  | passed (request : SeedRequest) (found : Option TenantOauthRow) (todo : List SeedWrite)
      (quiet : event.installs = false)
      (at_ : state.runs c = .writing request found (.updateMetadata :: todo)) :
      SeedMove deployment state c event (state.goto c (.writing request found todo) state.tenant)
  | left (phase : SeedPhase) (quiet : event.installs = false) (over_ : phase.isOver = true)
      (same : (state.runs c).request = none ∨ phase.request = (state.runs c).request) :
      SeedMove deployment state c event (state.finish c phase)
  | committed (request : SeedRequest) (found : Option TenantOauthRow)
      (answer : Except SeedError SeedReturn) (installs : event.installs = true)
      (at_ : state.runs c = .writing request found []) :
      SeedMove deployment state c event
        (state.goto c (.ended request answer) (state.tenant.commit c))

section Moves

variable {deployment : Deployment} {state after : SeedingState} {c : RunId} {event : SeedingEvent}

theorem fail_move {request : SeedRequest} (error : SeedError) (quiet : event.installs = false)
    (at_ : (state.runs c).request = none ∨ (state.runs c).request = some request) :
    SeedMove deployment state c event (state.fail c request error) := by
  refine .left (.ended request (.error error)) quiet rfl ?_
  rcases at_ with none_ | same
  · exact .inl none_
  · exact .inr same.symm

theorem writeTenant_move {request : SeedRequest} {found : Option TenantOauthRow}
    {write : SeedWrite} {todo : List SeedWrite} (quiet : event.installs = false)
    (at_ : state.runs c = .writing request found (write :: todo))
    (taken : writeTenant deployment state c request found write todo = some after) :
    SeedMove deployment state c event after := by
  have asked : (state.runs c).request = some request := by rw [at_]; rfl
  have written : ∀ inserts : write = .insert → state.tenant.read c = none,
      (if state.tenant.free c then some (state.goto c (.writing request found todo)
        (state.tenant.update c (write.apply deployment.tenantId))) else none) = some after →
      SeedMove deployment state c event after := by
    intro inserts taken
    split at taken
    · next free =>
        cases taken
        exact .wrote request found write todo quiet at_ free inserts
    · cases taken
  unfold writeTenant at taken
  dsimp only at taken
  split at taken
  · cases taken
    exact fail_move _ quiet (.inr asked)
  · next missing => exact written (fun _ => missing) taken
  · cases taken
    exact .passed request found todo quiet at_
  · cases taken
    exact fail_move _ quiet (.inr asked)
  · next row different present => exact written (fun inserts => (different inserts).elim) taken

theorem seed_move (own : event.run = some c)
    (taken : seedingNext deployment state event = some after) :
    SeedMove deployment state c event after := by
  cases event with
  | refresh => cases own
  | begin d request fault =>
      cases own
      simp only [seedingNext] at taken
      split at taken
      · next at_ idle =>
          cases taken
          cases fault with
          | some details => exact fail_move _ rfl (.inl (by rw [at_]; rfl))
          | none => exact .opened request rfl at_ idle
      · cases taken
  | find d fault =>
      cases own
      simp only [seedingNext] at taken
      split at taken
      · next request at_ =>
          have asked : (state.runs c).request = some request := by rw [at_]; rfl
          cases taken
          unfold findTenant
          split
          · exact fail_move _ rfl (.inr asked)
          · split
            · exact fail_move _ rfl (.inr asked)
            · exact .left _ rfl rfl (.inr asked.symm)
            · next writes planned => exact .found request writes rfl at_ planned
      · cases taken
  | write d fault =>
      cases own
      simp only [seedingNext] at taken
      split at taken
      · next request found write todo at_ =>
          split at taken
          · cases taken
            exact fail_move _ rfl (.inr (by rw [at_]; rfl))
          · exact writeTenant_move rfl at_ taken
      · cases taken
  | commit d answer =>
      cases own
      simp only [seedingNext] at taken
      split at taken
      · next request found at_ =>
          cases taken
          cases answer with
          | ok => exact .committed request found _ rfl at_
          | lost details => exact .committed request found _ rfl at_
          | failed details => exact fail_move _ rfl (.inr (by rw [at_]; rfl))
      · cases taken
  | kill d =>
      cases own
      simp only [seedingNext] at taken
      split at taken
      · next request at_ =>
          cases taken
          exact .left _ rfl rfl (.inr (by rw [at_]; rfl))
      · next request found todo at_ =>
          cases taken
          exact .left _ rfl rfl (.inr (by rw [at_]; rfl))
      · cases taken

theorem tenantMove_move {tenant cell : Cell CallerId (Option TenantOauthRow)}
    (move : TenantMove c tenant cell) : Cell.Move c tenant cell := by
  cases move with
  | aside => exact .aside
  | dropped => exact .rollback
  | locked free => exact .write id free
  | rotated row ciphertext free read => exact .write _ free
  | committed => exact .commit

theorem request_kept (move : SeedMove deployment state c event after) (d : RunId)
    (request : SeedRequest) (asked : (state.runs d).request = some request) :
    (after.runs d).request = some request := by
  by_cases same : d = c
  · subst same
    cases move with
    | opened other quiet at_ =>
        rw [at_] at asked
        cases asked
    | found other writes quiet at_ | wrote other found write todo quiet at_
    | passed other found todo quiet at_ | committed other found answer installs at_ =>
        rw [at_] at asked
        simpa [SeedingState.goto, SeedPhase.request] using asked
    | left phase quiet over_ kept =>
        rcases kept with none_ | kept
        · rw [none_] at asked
          cases asked
        · simp only [SeedingState.finish, SeedingState.goto, Function.update_self]
          exact kept.trans asked
  · have others : after.runs d = state.runs d := by
      cases move <;> exact Function.update_of_ne same ..
    rw [others]
    exact asked

theorem quiet_committed (quiet : event.installs = false)
    (move : SeedMove deployment state c event after) :
    after.tenant.committed = state.tenant.committed := by
  cases move with
  | opened | found | wrote | passed => rfl
  | left => exact Cell.committed_rollback ..
  | committed request found answer installs =>
      rw [quiet] at installs
      cases installs

/-- A step of a refresh is one of a caller that is no run, or a restart of a replica. -/
theorem refresh_moved {step : Event}
    (taken : seedingNext deployment state (.refresh step) = some after) :
    after.runs = state.runs ∧
      ((∃ c, state.runs c = .idle ∧ Moved c state.provider after.provider) ∨
        (after.tenant = state.tenant ∧ after.provider.phase = state.provider.phase)) := by
  simp only [seedingNext] at taken
  split at taken
  · next c caller =>
      split at taken
      · next idle =>
          rcases Option.map_eq_some_iff.mp taken with ⟨provider, moved, rfl⟩
          exact ⟨rfl, .inl ⟨c, idle, caller_moved caller moved⟩⟩
      · cases taken
  · split at taken
    · rcases Option.map_eq_some_iff.mp taken with ⟨provider, moved, rfl⟩
      cases moved
      exact ⟨rfl, .inr ⟨rfl, rfl⟩⟩
    · cases taken

end Moves

end SwiyuIssuer.Oauth
