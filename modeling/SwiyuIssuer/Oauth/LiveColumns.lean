import SwiyuIssuer.Oauth.Chain
import SwiyuIssuer.Oauth.SeedMoves

/-! What the runs that seed a tenant leave of the credentials that it has. -/

namespace SwiyuIssuer.Oauth

open Library Persistence

/-- What is set in `row` is the same in `now`. -/
structure KeepsLive (row now : TenantOauthRow) : Prop where
  clientId : row.clientId ≠ none → now.clientId = row.clientId
  clientSecret : row.clientSecret ≠ none → now.clientSecret = row.clientSecret
  refreshToken : row.refreshToken ≠ none → now.refreshToken = row.refreshToken

def LeavesLive (before after : Option TenantOauthRow) : Prop :=
  ∀ row, before = some row → ∃ now, after = some now ∧ KeepsLive row now

/-- A step of a run that is to write only what is empty leaves alone the columns that are set, such as a
refresh token that a refresh has stored. -/
def SeedsOnly (before : SeedingState) (event : SeedingEvent) (after : SeedingState) : Prop :=
  ∀ c request, event.run = some c → (before.runs c).request = some request →
    request.onlyIfEmpty = true → LeavesLive before.tenant.committed after.tenant.committed

/-- The columns that the statement sets are NULL in the row, or hold what it writes. -/
def SeedWrite.fits (tenantId : TenantId) (row : TenantOauthRow) : SeedWrite → Bool
  | insert | updateMetadata => true
  | writeOauthClientCredentials clientId clientSecret =>
      row.clientId.all (· == clientId) &&
        row.clientSecret.all (· == ⟨oauth2ClientSecretKeyName tenantId, clientSecret⟩)
  | writeOauthRefreshToken refreshToken =>
      row.refreshToken.all (· == ⟨oauth2RefreshTokenKeyName tenantId, refreshToken⟩)

def SeedRequest.writes (tenantId : TenantId) (found : Option TenantOauthRow)
    (request : SeedRequest) : List SeedWrite :=
  match request.plan tenantId found with
  | .ok (some writes) => writes
  | _ => []

/-- At the commit of a run, the columns that its `SELECT` has found NULL and that it has written are
still NULL in the row, or hold the very value that it has written. -/
def stillEmpty (deployment : Deployment) (state : SeedingState) : SeedingEvent → Bool
  | .commit _ (.failed _) => true
  | .commit c _ =>
      match state.runs c with
      | .writing request found [] =>
          !request.onlyIfEmpty || state.tenant.committed.all fun row =>
            (request.writes deployment.tenantId found).all fun write =>
              write.fits deployment.tenantId row
      | _ => true
  | _ => true

/-- The client's id and secret are both NULL, both those of the tenant at the start, or both from one
run. -/
inductive PairOfOneRun (deployment : Deployment) (first state : SeedingState)
    (row : TenantOauthRow) : Prop
  | empty (clientId : row.clientId = none) (clientSecret : row.clientSecret = none)
  | old (former : TenantOauthRow) (there : first.tenant.committed = some former)
      (clientId : row.clientId = former.clientId) (clientSecret : row.clientSecret = former.clientSecret)
      (set_ : row.clientId ≠ none ∧ row.clientSecret ≠ none)
  | seeded (c : RunId) (request : SeedRequest) (clientId clientSecret : String)
      (asked : (state.runs c).request = some request)
      (gives : request.clientPair = some (clientId, clientSecret))
      (id : row.clientId = some clientId)
      (secret : row.clientSecret =
        some ⟨oauth2ClientSecretKeyName deployment.tenantId, clientSecret⟩)

/-- The run has the writes `done` pending, if there is a row; an `INSERT` only if there was none. -/
def HasDone (deployment : Deployment) (state : SeedingState) (c : RunId) (done : List SeedWrite) :
    Prop :=
  (state.tenant.pending c = none ∧ ∀ write ∈ done, write = .updateMetadata) ∨
    (state.tenant.pending c = some (applyAll deployment.tenantId done state.tenant.committed) ∧
      (.insert ∈ done → state.tenant.committed = none))

/-- What a run has pending follows from where it stands. -/
def SeedStands (deployment : Deployment) (state : SeedingState) (c : RunId) : Prop :=
  match state.runs c with
  | .idle => state.provider.phase c = .idle → state.tenant.pending c = none
  | .writing request found todo => ∃ done,
      request.plan deployment.tenantId found = .ok (some (done ++ todo)) ∧
        HasDone deployment state c done
  | _ => state.tenant.pending c = none

section Writes

variable {tenantId : TenantId} {request : SeedRequest} {writes : List SeedWrite}
  {row : TenantOauthRow}

theorem leavesLive_some {now : TenantOauthRow} :
    LeavesLive (some row) (some now) ↔ KeepsLive row now := by
  constructor
  · intro leaves
    rcases leaves row rfl with ⟨found, same, kept⟩
    cases same
    exact kept
  · intro kept old same
    cases same
    exact ⟨now, rfl, kept⟩

theorem leavesLive_refl (version : Option TenantOauthRow) : LeavesLive version version := by
  intro row there
  exact ⟨row, there, fun _ => rfl, fun _ => rfl, fun _ => rfl⟩

theorem column_kept {α : Type} [BEq α] [LawfulBEq α] {column : Option α} {value : α} :
    (column ≠ none → some value = column) ↔ column.all (fun held => held == value) = true := by
  cases column with
  | none => simp
  | some held =>
      rw [Option.all_some, beq_iff_eq, Option.some.injEq, eq_comm]
      exact ⟨fun kept => kept (Option.some_ne_none held), fun same _ => same⟩

theorem keepsLive_iff {now : TenantOauthRow} : KeepsLive row now ↔
    (row.clientId ≠ none → now.clientId = row.clientId) ∧
    (row.clientSecret ≠ none → now.clientSecret = row.clientSecret) ∧
    (row.refreshToken ≠ none → now.refreshToken = row.refreshToken) :=
  ⟨fun kept => ⟨kept.clientId, kept.clientSecret, kept.refreshToken⟩,
    fun kept => ⟨kept.1, kept.2.1, kept.2.2⟩⟩

theorem leavesLive_token {before after : Option TenantOauthRow} (leaves : LeavesLive before after)
    {token : String} (stored : refreshTokenOf before = some token) :
    refreshTokenOf after = some token := by
  cases before with
  | none => cases stored
  | some row =>
      rcases leaves row rfl with ⟨now, rfl, kept⟩
      have held : row.refreshToken ≠ none := by
        intro none_
        simp [refreshTokenOf, none_] at stored
      simpa [refreshTokenOf, kept.refreshToken held] using stored

/-- A request that is to write only what is empty plans no write that the row it has found resists. -/
theorem plan_fits (empty : request.onlyIfEmpty = true)
    (both : row.clientId = none ↔ row.clientSecret = none)
    (planned : request.plan tenantId (some row) = .ok (some writes)) :
    writes.all (fun write => write.fits tenantId row) = true := by
  cases request with
  | importOauthRefreshToken token onlyIfEmpty =>
      cases empty
      simp only [SeedRequest.plan, Bool.true_and] at planned
      split at planned
      · cases planned
      · next unset =>
          cases planned
          simp [SeedWrite.fits, Option.not_isSome_iff_eq_none.mp unset]
  | setOauthCredentials clientId clientSecret onlyIfEmpty =>
      cases empty
      simp only [SeedRequest.plan, Bool.true_and] at planned
      split at planned
      · cases planned
      · next unset =>
          cases planned
          have none_ : row.clientId = none := by
            by_contra set_
            have secret := mt both.mpr set_
            simp [Option.isSome_iff_ne_none, set_, secret] at unset
          simp [SeedWrite.fits, none_, both.mp none_]
  | bootstrapDevFromEnv args force =>
      cases force with
      | true => cases empty
      | false =>
          cases planned
          simp only [BootstrapDevTenantArgs.writes, Bool.false_eq_true, if_false, List.all_append,
            Bool.and_eq_true]
          constructor
          · split
            · next unset =>
                rw [Option.isNone_iff_eq_none, Option.isNone_iff_eq_none] at unset
                rcases clientWrites_cases args false with none_ | ⟨clientId, clientSecret, given, _⟩
                · simp [none_]
                · simp [given, SeedWrite.fits, unset.1, unset.2]
            · rfl
          · split
            · next unset =>
                rcases refreshTokenWrites_cases args with none_ | ⟨refreshToken, given⟩
                · simp [none_]
                · simp [given, SeedWrite.fits, Option.isNone_iff_eq_none.mp unset]
            · rfl

/-- The writes of a plan leave what is set exactly when they fit the row. -/
theorem leavesLive_iff (shaped : Shaped request writes) (inserts : .insert ∉ writes) :
    LeavesLive (some row) (applyAll tenantId writes (some row)) ↔
      writes.all (fun write => write.fits tenantId row) = true := by
  rcases shaped with ⟨head, clients, tokens, first, second, third⟩
  have metadata : applyAll tenantId (head ++ (clients ++ tokens)) (some row) =
        applyAll tenantId (clients ++ tokens) (some row) ∧
      (head ++ (clients ++ tokens)).all (fun write => write.fits tenantId row) =
        (clients ++ tokens).all (fun write => write.fits tenantId row) := by
    rcases first with rfl | rfl | rfl
    · exact ⟨rfl, rfl⟩
    · simp at inserts
    · exact ⟨rfl, rfl⟩
  rw [metadata.1, metadata.2]
  rcases second with rfl | ⟨clientId, clientSecret, rfl, _⟩ <;>
    rcases third with rfl | ⟨refreshToken, rfl⟩ <;>
      simp [applyAll, SeedWrite.apply, SeedWrite.fits, leavesLive_some, keepsLive_iff, ← column_kept,
        and_assoc]

end Writes

section Moves

variable {deployment : Deployment} {state after : SeedingState} {c : RunId} {event : SeedingEvent}

theorem hasDone_frame {d : RunId} {done : List SeedWrite}
    (move : Cell.Move c state.tenant after.tenant) (other : d ≠ c)
    (holds : HasDone deployment state d done) : HasDone deployment after d done := by
  have kept := move.others other
  rcases holds with ⟨none_, only⟩ | ⟨held, fresh⟩
  · exact .inl ⟨kept.1.trans none_, only⟩
  · rcases kept.2 with same | none_
    · exact .inr (by rw [same, kept.1]; exact ⟨held, fresh⟩)
    · rw [kept.1, held] at none_
      cases none_

theorem stands_frame {d : RunId} (runs : after.runs d = state.runs d)
    (phase : after.provider.phase d = state.provider.phase d)
    (move : Cell.Move c state.tenant after.tenant) (other : d ≠ c)
    (stands : SeedStands deployment state d) : SeedStands deployment after d := by
  unfold SeedStands at stands ⊢
  rw [runs, phase, (move.others other).1]
  cases at_ : state.runs d with
  | writing request found todo =>
      rw [at_] at stands
      rcases stands with ⟨done, planned, holds⟩
      exact ⟨done, planned, hasDone_frame move other holds⟩
  | idle | begun | ended | killed =>
      rw [at_] at stands
      exact stands

theorem stands_goto {phase : SeedPhase} {tenant : Cell CallerId (Option TenantOauthRow)}
    (stands : ∀ d, SeedStands deployment state d) (move : Cell.Move c state.tenant tenant)
    (own : SeedStands deployment (state.goto c phase tenant) c) :
    ∀ d, SeedStands deployment (state.goto c phase tenant) d := by
  intro d
  by_cases same : d = c
  · subst same
    exact own
  · exact stands_frame (Function.update_of_ne same ..) rfl move same (stands d)

theorem read_done {done : List SeedWrite} (holds : HasDone deployment state c done) :
    state.tenant.read c = applyAll deployment.tenantId done state.tenant.committed := by
  rcases holds with ⟨none_, only⟩ | ⟨held, _⟩
  · rw [Cell.read_unpending none_, applyAll_metadata only]
  · exact Cell.read_pending held

theorem stands_step (stands : ∀ d, SeedStands deployment state d)
    (move : SeedMove deployment state c event after) : ∀ d, SeedStands deployment after d := by
  have mine := stands c
  unfold SeedStands at mine
  cases move with
  | opened request quiet at_ idle =>
      apply stands_goto stands .aside
      rw [at_] at mine
      simp only [SeedStands, SeedingState.goto, Function.update_self]
      exact mine idle
  | found request writes quiet at_ planned =>
      apply stands_goto stands .aside
      rw [at_] at mine
      simp only [SeedStands, SeedingState.goto, Function.update_self]
      exact ⟨[], planned, .inl ⟨mine, by simp⟩⟩
  | wrote request found write todo quiet at_ free inserts =>
      apply stands_goto stands (.write _ free)
      rw [at_] at mine
      rcases mine with ⟨done, planned, holds⟩
      have read := read_done holds
      simp only [SeedStands, SeedingState.goto, Function.update_self]
      refine ⟨done ++ [write], by simpa using planned, .inr ⟨?_, ?_⟩⟩
      · show (state.tenant.update c _).pending c = _
        rw [Cell.pending_update_self, read, ← applyAll_concat]
        rfl
      · intro member
        show state.tenant.committed = none
        rcases List.mem_append.mp member with before | now
        · rcases holds with ⟨_, only⟩ | ⟨_, fresh⟩
          · cases only _ before
          · exact fresh before
        · have missing := inserts (List.mem_singleton.mp now).symm
          rw [read] at missing
          by_contra present
          have still : (applyAll deployment.tenantId done state.tenant.committed).isSome = true :=
            applyAll_isSome (Option.isSome_iff_ne_none.mpr present)
          rw [missing] at still
          cases still
  | passed request found todo quiet at_ =>
      apply stands_goto stands .aside
      rw [at_] at mine
      rcases mine with ⟨done, planned, holds⟩
      simp only [SeedStands, SeedingState.goto, Function.update_self]
      refine ⟨done ++ [.updateMetadata], by simpa using planned, ?_⟩
      rcases holds with ⟨none_, only⟩ | ⟨held, fresh⟩
      · refine .inl ⟨none_, ?_⟩
        intro write member
        rcases List.mem_append.mp member with before | now
        · exact only write before
        · exact List.mem_singleton.mp now
      · refine .inr ⟨?_, ?_⟩
        · rw [applyAll_concat]
          exact held
        · intro member
          apply fresh
          simpa using member
  | left phase quiet over_ same =>
      apply stands_goto stands .rollback
      have nothing : (state.tenant.rollback c).pending c = none := Cell.pending_rollback_self ..
      cases phase with
      | ended | killed =>
          simp only [SeedStands, SeedingState.goto, Function.update_self]
          exact nothing
      | _ => cases over_
  | committed request found answer installs at_ =>
      apply stands_goto stands .commit
      simp only [SeedStands, SeedingState.goto, Function.update_self]
      exact Cell.pending_commit_self ..

theorem stands_refresh (stands : ∀ d, SeedStands deployment state d) {step : Event}
    (taken : seedingNext deployment state (.refresh step) = some after) :
    ∀ d, SeedStands deployment after d := by
  rcases refresh_moved taken with ⟨runs, ⟨c, idle, moved⟩ | ⟨tenant, phase⟩⟩
  · intro d
    by_cases same : d = c
    · subst same
      have mine := stands d
      unfold SeedStands at mine ⊢
      rw [idle] at mine
      rw [runs, idle]
      intro calm
      rcases moved.idle calm with ⟨before, dropped⟩
      show after.provider.tenant.pending d = none
      rw [dropped]
      exact Cell.pending_rollback_self ..
    · exact stands_frame (congrFun runs d) (moved.others d same) (tenantMove_move moved.tenant) same
        (stands d)
  · intro d
    have mine := stands d
    unfold SeedStands HasDone at mine ⊢
    rw [runs, tenant, phase]
    exact mine

theorem stands_next (stands : ∀ d, SeedStands deployment state d)
    (taken : seedingNext deployment state event = some after) :
    ∀ d, SeedStands deployment after d := by
  cases own : event.run with
  | none =>
      cases event with
      | refresh step => exact stands_refresh stands taken
      | _ => cases own
  | some c => exact stands_step stands (seed_move own taken)

theorem stillEmpty_quiet (quiet : event.installs = false) : stillEmpty deployment state event = true := by
  cases event with
  | commit c answer =>
      cases answer with
      | failed => rfl
      | _ => cases quiet
  | _ => rfl

theorem stillEmpty_installs {request : SeedRequest} {found : Option TenantOauthRow}
    (own : event.run = some c) (installs : event.installs = true)
    (at_ : state.runs c = .writing request found []) :
    stillEmpty deployment state event = (!request.onlyIfEmpty ||
      state.tenant.committed.all fun row => (request.writes deployment.tenantId found).all fun write =>
        write.fits deployment.tenantId row) := by
  cases event with
  | commit d answer =>
      cases own
      cases answer with
      | failed => cases installs
      | ok | lost => simp only [stillEmpty, at_]
  | _ => cases installs

/-- What a run has committed leaves what was set exactly when what it has written fits. -/
theorem commit_leaves_iff (stands : SeedStands deployment state c) {request : SeedRequest}
    {found : Option TenantOauthRow} (at_ : state.runs c = .writing request found []) :
    LeavesLive state.tenant.committed (state.tenant.commit c).committed ↔
      state.tenant.committed.all (fun row =>
        (request.writes deployment.tenantId found).all fun write =>
          write.fits deployment.tenantId row) = true := by
  unfold SeedStands at stands
  rw [at_] at stands
  rcases stands with ⟨done, planned, holds⟩
  rw [List.append_nil] at planned
  have writes : request.writes deployment.tenantId found = done := by
    rw [SeedRequest.writes, planned]
  rw [writes]
  rcases holds with ⟨none_, only⟩ | ⟨held, fresh⟩
  · rw [Cell.commit_unheld (Cell.pending_none.mp none_)]
    refine iff_of_true (leavesLive_refl _) ?_
    cases state.tenant.committed with
    | none => rfl
    | some row =>
        rw [Option.all_some, List.all_eq_true]
        intro write member
        rw [only write member]
        rfl
  · rw [Cell.commit_held (Cell.pending_some.mp held), Cell.committed_clean]
    cases there : state.tenant.committed with
    | none => exact iff_of_true (fun row absurd_ => nomatch absurd_) rfl
    | some row =>
        rw [Option.all_some]
        apply leavesLive_iff (plan_shaped planned)
        intro member
        rw [fresh member] at there
        cases there

/-- A step of a run leaves what is set exactly when it is under the condition. -/
theorem seedsOnly_iff (stands : ∀ d, SeedStands deployment state d)
    (taken : seedingNext deployment state event = some after) :
    SeedsOnly state event after ↔ stillEmpty deployment state event = true := by
  cases own : event.run with
  | none =>
      cases event with
      | refresh step =>
          refine iff_of_true ?_ rfl
          intro c request mine
          cases mine
      | _ => cases own
  | some c =>
      have move := seed_move own taken
      by_cases quiet : event.installs = false
      · refine iff_of_true ?_ (stillEmpty_quiet quiet)
        intro d request _ _ _
        rw [quiet_committed quiet move]
        exact leavesLive_refl _
      · cases move with
        | committed request found answer installs at_ =>
            have leaves := commit_leaves_iff (stands c) at_
            rw [stillEmpty_installs own installs at_, Bool.or_eq_true, ← leaves]
            constructor
            · intro only
              cases empty : request.onlyIfEmpty with
              | false => exact .inl rfl
              | true => exact .inr (only c request own (by rw [at_]; rfl) empty)
            · intro either d asked mine theirs empty
              cases Option.some.inj (own.symm.trans mine)
              rw [at_] at theirs
              cases Option.some.inj theirs
              rw [empty] at either
              rcases either with absurd_ | kept
              · cases absurd_
              · exact kept
        | opened _ calm | found _ _ calm | wrote _ _ _ _ calm | passed _ _ _ calm | left _ calm =>
            exact absurd calm quiet

/-- Every version of the row, committed or not, has its pair from one run. -/
def Paired (deployment : Deployment) (first state : SeedingState) : Prop :=
  Cell.Every (fun version => ∀ row, version = some row → PairOfOneRun deployment first state row)
    state.tenant

theorem PairOfOneRun.mono {first : SeedingState} {row : TenantOauthRow}
    (pair : PairOfOneRun deployment first state row)
    (kept : ∀ d request, (state.runs d).request = some request →
      (after.runs d).request = some request) : PairOfOneRun deployment first after row := by
  cases pair with
  | empty clientId clientSecret => exact .empty clientId clientSecret
  | old former there clientId clientSecret set_ => exact .old former there clientId clientSecret set_
  | seeded d request clientId clientSecret asked gives id secret =>
      exact .seeded d request clientId clientSecret (kept d request asked) gives id secret

theorem PairOfOneRun.same {first : SeedingState} {row now : TenantOauthRow}
    (pair : PairOfOneRun deployment first state row) (clientId : now.clientId = row.clientId)
    (clientSecret : now.clientSecret = row.clientSecret) :
    PairOfOneRun deployment first state now := by
  cases pair with
  | empty id secret => exact .empty (clientId.trans id) (clientSecret.trans secret)
  | old former there id secret set_ =>
      exact .old former there (clientId.trans id) (clientSecret.trans secret)
        (clientId ▸ clientSecret ▸ set_)
  | seeded d request givenId givenSecret asked gives id secret =>
      exact .seeded d request givenId givenSecret asked gives (clientId.trans id)
        (clientSecret.trans secret)

theorem paired_step {first : SeedingState} (stands : SeedStands deployment state c)
    (paired : Paired deployment first state) (move : SeedMove deployment state c event after) :
    Paired deployment first after := by
  have later : Cell.Every (fun version => ∀ row, version = some row →
      PairOfOneRun deployment first after row) state.tenant := by
    apply paired.mono
    intro version pair row there
    exact (pair row there).mono (request_kept move)
  cases move with
  | opened | found | passed => exact later
  | left => exact later.rollback c
  | committed => exact later.commit c
  | wrote request found write todo quiet at_ free inserts =>
      apply later.update free
      intro now there
      have asked : ((state.goto c (.writing request found todo)
          (state.tenant.update c (write.apply deployment.tenantId))).runs c).request = some request := by
        simp [SeedingState.goto, SeedPhase.request]
      cases write with
      | insert =>
          cases there
          exact .empty rfl rfl
      | updateMetadata => exact later.read c now there
      | writeOauthRefreshToken refreshToken =>
          rcases Option.map_eq_some_iff.mp there with ⟨row, read, rfl⟩
          exact (later.read c row read).same rfl rfl
      | writeOauthClientCredentials clientId clientSecret =>
          rcases Option.map_eq_some_iff.mp there with ⟨row, read, rfl⟩
          unfold SeedStands at stands
          rw [at_] at stands
          rcases stands with ⟨done, planned, _⟩
          exact .seeded c request clientId clientSecret asked
            ((plan_shaped planned).clientPair_eq (by simp)) rfl rfl

theorem paired_refresh {first : SeedingState} (paired : Paired deployment first state) {step : Event}
    (taken : seedingNext deployment state (.refresh step) = some after) :
    Paired deployment first after := by
  rcases refresh_moved taken with ⟨runs, moved⟩
  have later : Cell.Every (fun version => ∀ row, version = some row →
      PairOfOneRun deployment first after row) state.tenant := by
    apply paired.mono
    intro version pair row there
    apply (pair row there).mono
    intro d request asked
    rw [runs]
    exact asked
  rcases moved with ⟨c, _, moved⟩ | ⟨tenant, _⟩
  · unfold Paired
    have move := moved.tenant
    show Cell.Every _ after.provider.tenant
    generalize after.provider.tenant = cell at move ⊢
    cases move with
    | aside => exact later
    | dropped => exact later.rollback c
    | committed => exact later.commit c
    | locked free => exact later.update free (later.read c)
    | rotated row ciphertext free read =>
        apply later.update free
        intro now there
        cases there
        exact (later.read c row read).same rfl rfl
  · unfold Paired
    rw [tenant]
    exact later

theorem PairOfOneRun.both {first : SeedingState} {row : TenantOauthRow}
    (pair : PairOfOneRun deployment first state row) :
    row.clientId = none ↔ row.clientSecret = none := by
  cases pair with
  | empty clientId clientSecret => exact iff_of_true clientId clientSecret
  | old former there clientId clientSecret set_ => exact iff_of_false set_.1 set_.2
  | seeded c request clientId clientSecret asked gives id secret => simp [id, secret]

/-- A run that commits over the row that its `SELECT` has found writes only what is empty. -/
theorem unraced_stillEmpty {first : SeedingState} (paired : Paired deployment first state)
    {request : SeedRequest} {found : Option TenantOauthRow} (own : event.run = some c)
    (at_ : state.runs c = .writing request found []) (unraced : state.tenant.committed = found) :
    stillEmpty deployment state event = true := by
  by_cases quiet : event.installs = false
  · exact stillEmpty_quiet quiet
  · rw [stillEmpty_installs own (by simpa using quiet) at_]
    cases empty : request.onlyIfEmpty with
    | false => rfl
    | true =>
        cases found with
        | none =>
            rw [unraced]
            rfl
        | some row =>
            have both := (paired.committed row unraced).both
            rw [unraced, Option.all_some, SeedRequest.writes]
            split
            · next writes planned => exact plan_fits empty both planned
            · rfl

end Moves

section Runs

variable {deployment : Deployment} {first last : SeedingState} {trace : List SeedingEvent}

theorem stands_initial (initial : first.Initial) (c : RunId) : SeedStands deployment first c := by
  unfold SeedStands
  rw [initial.idle c]
  intro _
  exact Cell.pending_none.mpr (by simp [SeedingState.tenant, initial.provider.unlocked])

theorem paired_initial (initial : first.Initial) : Paired deployment first first := by
  constructor
  · intro row there
    by_cases empty : row.clientId = none
    · exact .empty empty ((initial.paired row there).mp empty)
    · exact .old row there rfl rfl ⟨empty, fun secret => empty ((initial.paired row there).mpr secret)⟩
  · intro c version held
    rw [Cell.pending_some, SeedingState.tenant, initial.provider.unlocked] at held
    cases held

theorem seeding_known (initial : first.Initial)
    (run : Run (Steps (seedingNext deployment)) first trace last) :
    (∀ c, SeedStands deployment last c) ∧ Paired deployment first last := by
  apply run.invariant_under (fun state => ∀ c, SeedStands deployment state c)
    (fun state => Paired deployment first state)
  · intro state event after stands taken
    exact stands_next stands taken
  · intro state event after stands paired taken
    cases own : event.run with
    | none =>
        cases event with
        | refresh step => exact paired_refresh paired taken
        | _ => cases own
    | some c => exact paired_step (stands c) paired (seed_move own taken)
  · exact stands_initial initial
  · exact paired_initial initial

/-- The runs that are to write only what is empty leave what is set, exactly when each of them commits
over columns that are still as empty as its `SELECT` has found them; and the client's id and secret
always come together. -/
theorem seeding_leaves_live_iff (initial : first.Initial)
    (run : Run (Steps (seedingNext deployment)) first trace last) :
    ((∀ front event back before after, trace = front ++ event :: back →
        Run (Steps (seedingNext deployment)) first front before →
        Steps (seedingNext deployment) before event after → SeedsOnly before event after) ↔
      Run (Guarded (fun state event => stillEmpty deployment state event = true)
        (Steps (seedingNext deployment))) first trace last) ∧
    ∀ row, last.tenant.committed = some row → PairOfOneRun deployment first last row := by
  constructor
  · apply Run.each_iff_guarded (fun state => ∀ c, SeedStands deployment state c)
    · intro state event after stands taken
      exact stands_next stands taken
    · intro state event after stands taken
      exact seedsOnly_iff stands taken
    · exact stands_initial initial
    · exact run
  · exact (seeding_known initial run).2.committed

end Runs

section Sample

def seedingStart : SeedingState where
  provider := { sampleState with
    tenant := Cell.clean
      (some ⟨some "client", some ⟨"tenant-t-oauth2_client_secret", "secret"⟩, none⟩)
    history := [] }
  runs _ := .idle

theorem seedingStart_initial : seedingStart.Initial where
  provider := ⟨rfl, fun _ => rfl, fun _ => rfl, fun _ => rfl, fun _ => rfl, rfl⟩
  idle _ := rfl
  paired := by
    rintro row same
    cases same
    decide

def sampleRefresh (c : CallerId) (body : String) : List SeedingEvent :=
  (sampleGrant c body ++ [Event.commit c .ok]).map SeedingEvent.refresh

def sampleImport (c : RunId) (token : String) : List SeedingEvent :=
  [.begin c (.importOauthRefreshToken token true) none, .find c none]

/-- A token is imported, a refresh rotates it, and another import finds one. -/
def sampleSeeding : List SeedingEvent :=
  sampleImport 10 "first" ++ [.write 10 none, .commit 10 .ok] ++ sampleRefresh 0 "one" ++
    sampleImport 11 "late"

/-- The same, but the second import has already looked when the first one writes. -/
def sampleRace : List SeedingEvent :=
  sampleImport 11 "late" ++ sampleImport 10 "first" ++ [.write 10 none, .commit 10 .ok] ++
    sampleRefresh 0 "one" ++ [.write 11 none]

theorem seeding_leaves_live_iff_sample : ∃ last,
    Run (Guarded (fun state event => stillEmpty sampleDeployment state event = true)
      (Steps (seedingNext sampleDeployment))) seedingStart sampleSeeding last ∧
    (∀ front event back before after, sampleSeeding = front ++ event :: back →
      Run (Steps (seedingNext sampleDeployment)) seedingStart front before →
      Steps (seedingNext sampleDeployment) before event after → SeedsOnly before event after) ∧
    (∀ row, last.tenant.committed = some row →
      PairOfOneRun sampleDeployment seedingStart last row) ∧
    refreshTokenOf last.tenant.committed = some "refresh-1" := by
  have computed : (exec (checked (stillEmpty sampleDeployment) (seedingNext sampleDeployment))
      seedingStart sampleSeeding).map (fun state => refreshTokenOf state.tenant.committed) =
        some (some "refresh-1") := by decide
  rcases Option.map_eq_some_iff.mp computed with ⟨last, reached, stored⟩
  have guarded := Run.of_checked reached
  have leaves := seeding_leaves_live_iff seedingStart_initial guarded.forget
  exact ⟨last, guarded, leaves.1.mpr guarded, leaves.2, stored⟩

/-- The token of a refresh is replaced by one that an import was to store only if there was none. -/
theorem seeding_replaces_rotated_token : seedingStart.Initial ∧ ∃ before after,
    Run (Steps (seedingNext sampleDeployment)) seedingStart sampleRace before ∧
    (before.runs 11).request = some (.importOauthRefreshToken "late" true) ∧
    refreshTokenOf before.tenant.committed = some "refresh-1" ∧
    Steps (seedingNext sampleDeployment) before (.commit 11 .ok) after ∧
    refreshTokenOf after.tenant.committed = some "late" ∧
    ¬SeedsOnly before (.commit 11 .ok) after := by
  refine ⟨seedingStart_initial, ?_⟩
  have raced : (exec (seedingNext sampleDeployment) seedingStart sampleRace).map (fun state =>
      ((state.runs 11).request, refreshTokenOf state.tenant.committed)) =
        some (some (.importOauthRefreshToken "late" true), some "refresh-1") := by decide
  have replaced : (exec (seedingNext sampleDeployment) seedingStart
      (sampleRace ++ [.commit 11 .ok])).map
        (fun state => refreshTokenOf state.tenant.committed) = some (some "late") := by decide
  rcases Option.map_eq_some_iff.mp raced with ⟨before, reached, seen⟩
  rcases Prod.mk.inj seen with ⟨asked, rotated⟩
  rcases Run.continue_exec reached replaced with ⟨after, ran, stored⟩
  rcases Option.bind_eq_some_iff.mp ran with ⟨last, taken, same⟩
  cases same
  refine ⟨before, after, Run.of_exec reached, asked, rotated, taken, stored, ?_⟩
  intro only
  have kept := leavesLive_token (only 11 _ rfl asked rfl) rotated
  rw [stored] at kept
  exact absurd kept (by decide)

end Sample

end SwiyuIssuer.Oauth
