import SwiyuIssuer.Oauth.Effects

/-! The chain of refresh tokens along every run. -/

namespace SwiyuIssuer.Oauth

open Library Persistence

/-- What stands where a call is: the version of the row that it has under the row lock, and the
newest token. -/
def Stands (pending : Option (Option TenantOauthRow)) (newest : Option String) : Phase → Prop
  | .ready creds | .sent creds =>
      (∃ row, pending = some (some row)) ∧ newest = some creds.refreshToken
  | .received response =>
      (∃ row, pending = some (some row)) ∧ newest = some response.refreshToken
  | .sealed response ciphertext =>
      (∃ row, pending = some (some row)) ∧ newest = some response.refreshToken ∧
        ciphertext.plaintext = response.refreshToken
  | .updated response =>
      (∃ row, pending = some (some row) ∧
        refreshTokenOf (some row) = some response.refreshToken) ∧
      newest = some response.refreshToken
  | .finished .panicked => False
  | _ => pending = none

theorem stands_outside {phase : Phase} (outside : phase.inTransaction = false)
    {pending : Option (Option TenantOauthRow)} {newest : Option String} :
    Stands pending newest phase ↔ pending = none ∧ phase ≠ .finished .panicked := by
  cases phase with
  | finished ended => cases ended <;> simp [Stands]
  | idle | queued | locked | opening | begun | committed => simp [Stands]
  | ready | sent | received | sealed | updated => cases outside

theorem stands_inside {phase : Phase} (inside : phase.inTransaction = true)
    {pending : Option (Option TenantOauthRow)} {newest : Option String}
    (stands : Stands pending newest phase) : ∃ row, pending = some (some row) := by
  cases phase with
  | ready | sent | received | sealed => exact stands.1
  | updated response =>
      rcases stands.1 with ⟨row, held, _⟩
      exact ⟨row, held⟩
  | idle | queued | locked | opening | begun | committed | finished => cases inside

theorem unsaved_of_outside {phase : Phase} (apart : phase.inTransaction = false) :
    phase.unsaved = none := by
  cases phase <;> first | rfl | cases apart

theorem inside_of_unsaved {phase : Phase} {response : TokenResponse}
    (holding : phase.unsaved = some response) : phase.inTransaction = true := by
  cases phase <;> first | rfl | cases holding

/-- The refresh that is between its `SELECT` and its commit has the row lock; the row has the
newest token, unless that refresh has received one that it has not committed. -/
structure Chain (ledger : Ledger) : Prop where
  stands : ∀ c, Stands (ledger.tenant.pending c) ledger.history.getLast? (ledger.phase c)
  settled : (∀ c, (ledger.phase c).unsaved = none) → ledger.stored = ledger.history.getLast?
  known : ∀ c n, ledger.response c = some n → n < ledger.history.length
  recorded : ∀ c n, ledger.response c = some n → (ledger.phase c).unsaved = none →
    ∃ m, n ≤ m ∧ m < ledger.history.length ∧ ledger.stored = ledger.history[m]?

namespace Chain

variable {ledger : Ledger}

theorem alone (chain : Chain ledger) {c d : CallerId}
    (first : (ledger.phase c).inTransaction = true)
    (second : (ledger.phase d).inTransaction = true) : c = d := by
  rcases stands_inside first (chain.stands c) with ⟨row, held⟩
  rcases stands_inside second (chain.stands d) with ⟨other, also⟩
  by_contra different
  rw [Cell.pending_unique also different] at held
  cases held

theorem outside (chain : Chain ledger) {c : CallerId}
    (apart : (ledger.phase c).inTransaction = false) :
    ledger.tenant.pending c = none ∧ ∀ newest, Stands none newest (ledger.phase c) := by
  rcases (stands_outside apart).mp (chain.stands c) with ⟨unheld, calm⟩
  exact ⟨unheld, fun _ => (stands_outside apart).mpr ⟨rfl, calm⟩⟩

/-- With no refresh but `c` in its transaction, and `c` without a new token. -/
theorem settled_beside (chain : Chain ledger) {c : CallerId}
    (nothing : (ledger.phase c).unsaved = none)
    (alone : ∀ d, (ledger.phase d).inTransaction = true → d = c) :
    ledger.stored = ledger.history.getLast? := by
  apply chain.settled
  intro d
  cases holding : (ledger.phase d).unsaved with
  | none => rfl
  | some response =>
      rw [alone d (inside_of_unsaved holding), nothing] at holding
      cases holding

theorem advance (chain : Chain ledger) {c : CallerId} {phase : Phase}
    {tenant : Cell CallerId (Option TenantOauthRow)}
    (visible : tenant.committed = ledger.tenant.committed)
    (others : ∀ d, d ≠ c → tenant.pending d = ledger.tenant.pending d)
    (stands : Stands (tenant.pending c) ledger.history.getLast? phase)
    (same : phase.unsaved = none ↔ (ledger.phase c).unsaved = none) :
    Chain (ledger.goto c phase tenant) := by
  have unsaved : ∀ d, ((ledger.goto c phase tenant).phase d).unsaved = none ↔
      (ledger.phase d).unsaved = none := by
    intro d
    by_cases own : d = c
    · simp [Ledger.goto, own, same]
    · simp [Ledger.goto, own]
  have stored : (ledger.goto c phase tenant).stored = ledger.stored := by
    simp only [Ledger.stored, Ledger.goto, visible]
  constructor
  · intro d
    by_cases own : d = c
    · subst own
      simpa [Ledger.goto] using stands
    · simpa [Ledger.goto, own, others d own] using chain.stands d
  · intro none_
    rw [stored]
    exact chain.settled fun d => (unsaved d).mp (none_ d)
  · exact chain.known
  · intro d n answered none_
    rw [stored]
    exact chain.recorded d n answered ((unsaved d).mp none_)

theorem receive (chain : Chain ledger) {c : CallerId} {creds : ValidatedCreds}
    (sent : ledger.phase c = .sent creds) (response : TokenResponse) :
    Chain (ledger.receive c response) := by
  have inside : (ledger.phase c).inTransaction = true := by rw [sent]; rfl
  constructor
  · intro d
    by_cases own : d = c
    · subst own
      simpa [Stands, Ledger.receive] using stands_inside inside (chain.stands d)
    · have outside : (ledger.phase d).inTransaction = false := by
        rw [Bool.eq_false_iff]
        intro second
        exact own (chain.alone second inside)
      rcases chain.outside outside with ⟨unheld, beside⟩
      simpa [Ledger.receive, own, unheld] using beside (some response.refreshToken)
  · intro none_
    have absurd := none_ c
    simp [Ledger.receive, Phase.unsaved] at absurd
  · intro d n answered
    by_cases own : d = c
    · simp only [Ledger.receive, own, Function.update_self, Option.some.injEq] at answered
      simp [Ledger.receive, ← answered]
    · simp only [Ledger.receive, Function.update_of_ne own] at answered
      have before := chain.known d n answered
      simp only [Ledger.receive, List.length_append, List.length_singleton]
      omega
  · intro d n answered none_
    by_cases own : d = c
    · simp [Ledger.receive, own, Phase.unsaved] at none_
    · simp only [Ledger.receive, Function.update_of_ne own] at answered none_
      rcases chain.recorded d n answered none_ with ⟨m, later, inRange, stored⟩
      refine ⟨m, later, ?_, ?_⟩
      · simp only [Ledger.receive, List.length_append]
        omega
      · calc (ledger.receive c response).stored = ledger.history[m]? := stored
          _ = (ledger.receive c response).history[m]? :=
            (List.getElem?_append_left inRange).symm

theorem install (chain : Chain ledger) {c : CallerId} {row : Option TenantOauthRow} {phase : Phase}
    (alone : ∀ d, (ledger.phase d).inTransaction = true → d = c)
    (newest : refreshTokenOf row = ledger.history.getLast?)
    (outside : phase.inTransaction = false) (calm : phase ≠ .finished .panicked) :
    Chain (ledger.goto c phase (Cell.clean row)) := by
  have stored : (ledger.goto c phase (Cell.clean row)).stored = ledger.history.getLast? := newest
  constructor
  · intro d
    by_cases own : d = c
    · simpa [Ledger.goto, own] using (stands_outside outside).mpr ⟨rfl, calm⟩
    · have apart : (ledger.phase d).inTransaction = false := by
        rw [Bool.eq_false_iff]
        exact fun second => own (alone d second)
      simpa [Ledger.goto, own] using (chain.outside apart).2 ledger.history.getLast?
  · intro none_
    exact stored
  · exact chain.known
  · intro d n answered none_
    have inRange := chain.known d n answered
    refine ⟨ledger.history.length - 1, by omega, ?_, ?_⟩
    · show ledger.history.length - 1 < ledger.history.length
      omega
    · rw [stored, List.getLast?_eq_getElem?]
      rfl

theorem operate (chain : Chain ledger) {row : Option TenantOauthRow} {tokens : List String}
    (unlocked : ledger.tenant.writer = none)
    (learned : tokens = [] ∧ refreshTokenOf row = ledger.stored ∨
      ∃ token, tokens = [token] ∧ refreshTokenOf row = some token) :
    Chain (ledger.operate row tokens) := by
  have unheld : ∀ d, ledger.tenant.pending d = none := by
    intro d
    simp [Cell.pending, unlocked]
  have outside : ∀ d, (ledger.phase d).inTransaction = false := by
    intro d
    rw [Bool.eq_false_iff]
    intro inside
    rcases stands_inside inside (chain.stands d) with ⟨found, held⟩
    rw [unheld] at held
    cases held
  have nothing : ∀ d, (ledger.phase d).unsaved = none := by
    intro d
    cases holding : (ledger.phase d).unsaved with
    | none => rfl
    | some response =>
        have inside := inside_of_unsaved holding
        rw [outside] at inside
        cases inside
  have stands : ∀ d newest, Stands none newest (ledger.phase d) :=
    fun d => (chain.outside (outside d)).2
  rcases learned with ⟨rfl, same⟩ | ⟨token, rfl, fresh⟩
  · have stored : refreshTokenOf row = ledger.history.getLast? :=
      same.trans (chain.settled nothing)
    rw [Ledger.operate, List.append_nil]
    constructor
    · exact fun d => stands d _
    · exact fun _ => stored
    · exact chain.known
    · intro d n answered none_
      rcases chain.recorded d n answered none_ with ⟨m, later, inRange, found⟩
      exact ⟨m, later, inRange, same.trans found⟩
  · constructor
    · exact fun d => stands d _
    · intro none_
      simpa [Ledger.stored, Ledger.operate] using fresh
    · intro d n answered
      have before := chain.known d n answered
      simp only [Ledger.operate, List.length_append]
      omega
    · intro d n answered none_
      have before := chain.known d n answered
      refine ⟨ledger.history.length, by omega, by simp [Ledger.operate], ?_⟩
      simpa [Ledger.stored, Ledger.operate] using fresh

theorem step (chain : Chain ledger) {after : Ledger} (effect : Effect ledger after) :
    Chain after := by
  have alone {c : CallerId} (inside : (ledger.phase c).inTransaction = true) :
      ∀ d, (ledger.phase d).inTransaction = true → d = c :=
    fun d second => chain.alone second inside
  cases effect with
  | aside => exact chain
  | walked c phase apart still calm =>
      have nothing : (ledger.phase c).unsaved = none := unsaved_of_outside apart
      apply chain.advance rfl (fun _ _ => rfl)
      · rw [(chain.outside apart).1]
        exact (stands_outside still).mpr ⟨rfl, calm⟩
      · exact iff_of_true (unsaved_of_outside still) nothing
  | left c ended nothing calm =>
      apply chain.advance (Cell.committed_rollback ..) (fun d own => Cell.pending_rollback_ne own)
      · rw [Cell.pending_rollback_self]
        exact (stands_outside rfl).mpr ⟨rfl, by simpa using calm⟩
      · exact iff_of_true rfl nothing
  | selected c row creds apart free found token =>
      have nothing : (ledger.phase c).unsaved = none := unsaved_of_outside apart
      have committed : ledger.tenant.committed = some row := by
        rw [← Cell.read_unpending (chain.outside apart).1]
        exact found
      have settled : ledger.stored = ledger.history.getLast? := by
        apply chain.settled_beside nothing
        intro d inside
        by_contra different
        rcases stands_inside inside (chain.stands d) with ⟨other, held⟩
        exact different (Cell.free_holder free (Cell.pending_some.mp held))
      apply chain.advance (Cell.committed_update ..)
        (fun d own => Cell.pending_update_ne id free own)
      · refine ⟨⟨row, by simp [found]⟩, ?_⟩
        rw [← settled, ← token, Ledger.stored, committed]
      · exact iff_of_true rfl nothing
  | sent c creds ready =>
      have stands := chain.stands c
      rw [ready] at stands
      exact chain.advance rfl (fun _ _ => rfl) stands (by simp [ready, Phase.unsaved])
  | received c creds response sent => exact chain.receive sent response
  | encrypted c response keyName received =>
      have stands := chain.stands c
      rw [received] at stands
      exact chain.advance rfl (fun _ _ => rfl) ⟨stands.1, stands.2, rfl⟩
        (by simp [received, Phase.unsaved])
  | updated c response ciphertext row sealed_ held token =>
      have stands := chain.stands c
      rw [sealed_] at stands
      rcases stands with ⟨⟨seen, held⟩, newest, plaintext⟩
      apply chain.advance (Cell.committed_update ..)
        (fun d own => Cell.pending_update_ne _ (Cell.free_pending held) own)
      · refine ⟨⟨row, by simp, ?_⟩, newest⟩
        simp [refreshTokenOf, token, plaintext]
      · simp [sealed_, Phase.unsaved]
  | vanished c response ciphertext after sealed_ missing =>
      have stands := chain.stands c
      rw [sealed_] at stands
      rcases stands.1 with ⟨row, held⟩
      rw [Cell.read_pending held] at missing
      cases missing
  | committed c response phase updated still calm =>
      have stands := chain.stands c
      rw [updated] at stands
      rcases stands with ⟨⟨row, held, token⟩, newest⟩
      rw [Cell.commit_held (Cell.pending_some.mp held)]
      exact chain.install (alone (by rw [updated]; rfl)) (token.trans newest.symm) still calm
  | severed c apart =>
      rw [Cell.rollback_unheld (Cell.pending_none.mp (chain.outside apart).1)]
      exact chain
  | operated row tokens unlocked learned => exact chain.operate unlocked learned

end Chain

theorem chain_initial {state : State} (initial : state.Initial) : Chain state.ledger where
  stands := by
    intro c
    simp [initial.idle, Stands, State.ledger, Cell.pending, initial.unlocked]
  settled := by
    intro _
    show state.stored = state.history.getLast?
    rw [initial.known]
    cases state.stored <;> rfl
  known := by
    intro c n answered
    simp [State.ledger, initial.unanswered] at answered
  recorded := by
    intro c n answered
    simp [State.ledger, initial.unanswered] at answered

/-- The refresh-token chain is not lost. -/
structure Kept (state : State) : Prop where
  /-- Refreshes are serialised from the `SELECT` to the commit, across replicas. -/
  serialized : ∀ c d, (state.phase c).inTransaction = true →
    (state.phase d).inTransaction = true → c = d
  /-- A grant presents the newest token that the tenant has been given. -/
  presented : ∀ c creds, state.phase c = .sent creds →
    state.history.getLast? = some creds.refreshToken
  /-- After the call has ended, the row has the token of its response, or one that came later. -/
  recorded : ∀ c ended n, state.phase c = .finished ended → state.response c = some n →
    ∃ m, n ≤ m ∧ m < state.history.length ∧ state.stored = state.history[m]?
  /-- Unless a refresh is about to commit a new token, the row has the newest one. -/
  settled : (∀ c, (state.phase c).unsaved = none) → state.stored = state.history.getLast?
  calm : ∀ c, state.phase c ≠ .finished .panicked

theorem Chain.kept {state : State} (chain : Chain state.ledger) : Kept state where
  serialized := fun _ _ => chain.alone
  presented := by
    intro c creds sent
    have stands := chain.stands c
    rw [State.ledger_phase, sent] at stands
    exact stands.2
  recorded := by
    intro c ended n gone answered
    exact chain.recorded c n answered (by simp [gone, Phase.unsaved])
  settled := chain.settled
  calm := by
    intro c panicked
    have stands := chain.stands c
    rw [State.ledger_phase, panicked] at stands
    exact stands

section Runs

variable {deployment : Deployment} {state after : State} {trace : List Event}

/-- Along every run whose steps are careful, the chain of refresh tokens is kept. -/
theorem refresh_chain_kept (initial : state.Initial)
    (run : Run (Guarded (fun state event => careful deployment state event = true)
      (Steps (next deployment))) state trace after) : Kept after := by
  have chain : Chain after.ledger := by
    apply run.invariant (fun state => Chain state.ledger)
    · intro before event later chain taken
      exact chain.step (careful_effect taken)
    · exact chain_initial initial
  exact chain.kept

end Runs

section Sample

/-- Two replicas, with the callers of even and odd numbers. -/
def sampleDeployment : Deployment where
  tenantId := ⟨"t"⟩
  safetyMargin := seconds 30
  codec := {
    parse := fun body =>
      if body = "one" then some (.object [("access_token", .string "access-1"),
        ("refresh_token", .string "refresh-1"), ("expires_in", .number "3600")])
      else if body = "endless" then some (.object [("access_token", .string "access-2"),
        ("refresh_token", .string "refresh-2"), ("expires_in", .number "9223372036854775807")])
      else none
    word := fun _ _ => "expected value at line 1 column 1" }
  home c := c % 2

def sampleState : State where
  tenant := Cell.clean (some ⟨some "client", some ⟨"tenant-t-oauth2_client_secret", "secret"⟩,
    some ⟨"tenant-t-oauth2_refresh_token", "refresh-0"⟩⟩)
  cached _ := none
  refreshLock _ := none
  phase _ := .idle
  history := ["refresh-0"]
  response _ := none

theorem sampleState_initial : sampleState.Initial :=
  ⟨rfl, fun _ => rfl, fun _ => rfl, fun _ => rfl, fun _ => rfl, rfl⟩

def sampleGrant (c : CallerId) (body : String) : List Event :=
  [.get c 0, .lock c, .recheck c 0, .begin c none, .select c {}, .send c,
    .receive c (.received 200 (.ok body)), .encrypt c none, .update c none]

/-- A refresh on one replica, with a caller of the other one that opens its transaction during it
and is done with its own grant up to the request when the first call ends. -/
def sampleTrace : List Event :=
  [.get 1 0, .lock 1, .recheck 1 0, .begin 1 none] ++ sampleGrant 0 "one" ++
    [.commit 0 .ok, .select 1 {}, .settle 0 0, .send 1]

theorem refresh_chain_kept_sample :
    ∃ after, exec (checked (careful sampleDeployment) (next sampleDeployment)) sampleState
        sampleTrace = some after ∧ Kept after ∧
      after.history = ["refresh-0", "refresh-1"] ∧ after.stored = some "refresh-1" := by
  have computed : (exec (checked (careful sampleDeployment) (next sampleDeployment)) sampleState
      sampleTrace).map (fun state => (state.history, state.stored)) =
        some (["refresh-0", "refresh-1"], some "refresh-1") := by decide
  rcases Option.map_eq_some_iff.mp computed with ⟨after, taken, seen⟩
  rcases Prod.mk.inj seen with ⟨history, stored⟩
  exact ⟨after, taken, refresh_chain_kept sampleState_initial (Run.of_checked taken), history,
    stored⟩

def lostTrace : List Event := sampleGrant 0 "one" ++ [.commit 0 (.failed "connection closed")]

def endlessTrace : List Event := sampleGrant 0 "endless" ++ [.commit 0 .ok, .settle 0 0]

theorem not_kept_of_stale {state : State} {c : CallerId} {ended : Ended} {token : String}
    (gone : state.phase c = .finished ended) (answered : state.response c = some 1)
    (history : state.history = ["refresh-0", token]) (fresh : token ≠ "refresh-0")
    (stored : state.stored = some "refresh-0") : ¬Kept state := by
  intro kept
  rcases kept.recorded c ended 1 gone answered with ⟨m, later, inRange, found⟩
  rw [history] at inRange
  have last : m = 1 := by
    simp only [List.length_cons, List.length_nil] at inRange
    omega
  rw [stored, history, last] at found
  exact fresh (Option.some.inj found).symm

/-- A commit that fails after the grant leaves the token that the grant has used up, and a success
response may make the call panic. -/
theorem refresh_chain_lost :
    sampleState.Initial ∧
    (∃ after, Run (Steps (next sampleDeployment)) sampleState lostTrace after ∧
      after.history = ["refresh-0", "refresh-1"] ∧ after.response 0 = some 1 ∧
      after.stored = some "refresh-0" ∧ ¬Kept after) ∧
    ∃ after, Run (Steps (next sampleDeployment)) sampleState endlessTrace after ∧
      after.phase 0 = .finished .panicked ∧ ¬Kept after := by
  refine ⟨sampleState_initial, ?_, ?_⟩
  · have computed : (exec (next sampleDeployment) sampleState lostTrace).map
        (fun state => (state.history, state.response 0, state.stored,
          match state.phase 0 with
          | .finished _ => true
          | _ => false)) =
          some (["refresh-0", "refresh-1"], some 1, some "refresh-0", true) := by decide
    rcases Option.map_eq_some_iff.mp computed with ⟨after, taken, seen⟩
    simp only [Prod.mk.injEq] at seen
    rcases seen with ⟨history, answered, stored, gone⟩
    refine ⟨after, Run.of_exec taken, history, answered, stored, ?_⟩
    split at gone
    · next ended ended_ => exact not_kept_of_stale ended_ answered history (by decide) stored
    · cases gone
  · have computed : (exec (next sampleDeployment) sampleState endlessTrace).map
        (fun state =>
          match state.phase 0 with
          | .finished .panicked => true
          | _ => false) = some true := by decide
    rcases Option.map_eq_some_iff.mp computed with ⟨after, taken, seen⟩
    split at seen
    · next panicked => exact ⟨after, Run.of_exec taken, panicked, fun kept => kept.calm 0 panicked⟩
    · cases seen

end Sample

end SwiyuIssuer.Oauth
