import SwiyuIssuer.Library.SingleFlight
import SwiyuIssuer.Oauth.Chain

/-! The callers of one replica's provider: the single-flight lock, and the token in memory. -/

namespace SwiyuIssuer.Oauth

open Library Persistence SingleFlight

namespace Phase

/-- Behind the second look at the cache, until the call ends. -/
def refreshing : Phase → Bool
  | opening | begun | ready _ | sent _ | received _ | sealed _ _ | updated _ | committed _ => true
  | _ => false

/-- With the guard of `refresh_lock`. -/
def guarded : Phase → Bool
  | locked => true
  | phase => phase.refreshing

def answer : Phase → Option String
  | finished (.returned (.ok access)) => some access
  | _ => none

theorem guarded_of_refreshing {phase : Phase} (refreshing : phase.refreshing = true) :
    phase.guarded = true := by
  cases phase with
  | locked => rfl
  | _ => exact refreshing

theorem answer_some {phase : Phase} {access : String} (answered : phase.answer = some access) :
    phase = .finished (.returned (.ok access)) := by
  unfold answer at answered
  split at answered
  · cases answered
    rfl
  · cases answered

theorem answer_of_guarded {phase : Phase} (guarded : phase.guarded = true) :
    phase.answer = none := by
  cases phase with
  | finished ended => cases guarded
  | _ => rfl

end Phase

/-- The part of a state that the single flight is about. -/
structure View where
  cached : ReplicaId → Option CachedToken
  refreshLock : ReplicaId → Option CallerId
  phase : CallerId → Phase

def State.view (state : State) : View where
  cached := state.cached
  refreshLock := state.refreshLock
  phase := state.phase

namespace View

def goto (view : View) (c : CallerId) (phase : Phase) : View :=
  { view with phase := Function.update view.phase c phase }

def finish (deployment : Deployment) (view : View) (c : CallerId) (ended : Ended) : View :=
  { view with
    refreshLock :=
      if view.refreshLock (deployment.home c) = some c then
        Function.update view.refreshLock (deployment.home c) none
      else view.refreshLock
    phase := Function.update view.phase c (.finished ended) }

def remember (view : View) (r : ReplicaId) (token : Option CachedToken) : View :=
  { view with cached := Function.update view.cached r token }

def take (view : View) (r : ReplicaId) (c : CallerId) : View :=
  { view with refreshLock := Function.update view.refreshLock r (some c) }

end View

/-- What a step does to the lock, to the cache and to the calls. -/
inductive Turn (deployment : Deployment) (view : View) : Event → View → Prop
  | aside (event : Event) : Turn deployment view event view
  | hit (c : CallerId) (now : DateTime) (token : CachedToken) : view.phase c = .idle →
      view.cached (deployment.home c) = some token →
      isFresh deployment.safetyMargin token.expiresAt now = true →
      Turn deployment view (.get c now)
        (view.finish deployment c (.returned (.ok token.access)))
  | queued (c : CallerId) (now : DateTime) : view.phase c = .idle →
      Turn deployment view (.get c now) (view.goto c .queued)
  | invalidated (c : CallerId) : view.phase c = .idle →
      Turn deployment view (.invalidate c)
        ((view.remember (deployment.home c) none).goto c .queued)
  | locked (c : CallerId) : view.phase c = .queued →
      view.refreshLock (deployment.home c) = none →
      Turn deployment view (.lock c) ((view.take (deployment.home c) c).goto c .locked)
  | served (c : CallerId) (now : DateTime) (token : CachedToken) : view.phase c = .locked →
      view.cached (deployment.home c) = some token →
      isFresh deployment.safetyMargin token.expiresAt now = true →
      Turn deployment view (.recheck c now)
        (view.finish deployment c (.returned (.ok token.access)))
  | entered (c : CallerId) (now : DateTime) : view.phase c = .locked →
      (∀ token, view.cached (deployment.home c) = some token →
        isFresh deployment.safetyMargin token.expiresAt now = false) →
      Turn deployment view (.recheck c now) (view.goto c .opening)
  | worked (event : Event) (c : CallerId) (phase : Phase) :
      (view.phase c).refreshing = true → phase.refreshing = true →
      Turn deployment view event (view.goto c phase)
  | left (event : Event) (c : CallerId) (ended : Ended) :
      view.phase c = .queued ∨ (view.phase c).guarded = true →
      (Phase.finished ended).answer = none →
      Turn deployment view event (view.finish deployment c ended)
  | settled (c : CallerId) (now : DateTime) (response : TokenResponse) (token : CachedToken) :
      view.phase c = .committed response → token.access = response.accessToken →
      Turn deployment view (.settle c now)
        ((view.finish deployment c (.returned (.ok token.access))).remember (deployment.home c)
          (some token))
  | restarted (r : ReplicaId) : Turn deployment view (.restart r) (view.remember r none)

section Turns

variable {deployment : Deployment} {state after : State}

theorem cachedAccess_some {c : CallerId} {now : DateTime} {access : String}
    (found : state.cachedAccess deployment c now = some access) :
    ∃ token, state.cached (deployment.home c) = some token ∧
      isFresh deployment.safetyMargin token.expiresAt now = true ∧ token.access = access := by
  unfold State.cachedAccess at found
  split at found
  · next token cached =>
      split at found
      · next fresh => exact ⟨token, cached, fresh, Option.some.inj found⟩
      · cases found
  · cases found

theorem cachedAccess_none {c : CallerId} {now : DateTime}
    (missed : state.cachedAccess deployment c now = none) (token : CachedToken)
    (cached : state.cached (deployment.home c) = some token) :
    isFresh deployment.safetyMargin token.expiresAt now = false := by
  unfold State.cachedAccess at missed
  rw [cached] at missed
  dsimp only at missed
  split at missed
  · cases missed
  · next stale => exact Bool.not_eq_true _ ▸ stale

theorem failed_turn {event : Event} {c : CallerId} (error : TokenProviderError)
    (refreshing : (state.phase c).refreshing = true) :
    Turn deployment state.view event (state.fail deployment c error).view :=
  .left event c _ (.inr (Phase.guarded_of_refreshing refreshing)) rfl

theorem select_turn {event : Event} {c : CallerId} {faults : ReadFaults}
    (begun : state.phase c = .begun) (selected : select deployment state c faults = some after) :
    Turn deployment state.view event after.view := by
  have refreshing : (state.phase c).refreshing = true := by rw [begun]; rfl
  unfold select at selected
  split at selected
  · cases selected
    exact failed_turn _ refreshing
  · split at selected
    · split at selected
      · cases selected
        exact failed_turn _ refreshing
      · split at selected
        · next creds _ =>
            cases selected
            exact .worked event c (.ready creds) refreshing rfl
        · cases selected
          exact failed_turn _ refreshing
    · cases selected

theorem receive_turn {event : Event} {c : CallerId} {answer : HttpAnswer}
    (refreshing : (state.phase c).refreshing = true) :
    Turn deployment state.view event (receive deployment state c answer).view := by
  have learned : ∀ token, (state.learn c token).view = state.view := by
    intro token
    cases token <;> rfl
  unfold receive
  split
  · next response granted =>
      rw [carriedToken_of_grant granted]
      exact .worked event c (.received response) refreshing rfl
  · next error _ =>
      rw [← learned (carriedToken deployment.codec answer)]
      apply failed_turn
      have phase := congrFun (congrArg View.phase (learned (carriedToken deployment.codec answer))) c
      exact (congrArg Phase.refreshing phase).trans refreshing

theorem update_turn {event : Event} {c : CallerId} {response : TokenResponse}
    {ciphertext : Ciphertext} {fault : Option String}
    (refreshing : (state.phase c).refreshing = true)
    (updated : update deployment state c response ciphertext fault = some after) :
    Turn deployment state.view event after.view := by
  unfold update at updated
  split at updated
  · cases updated
    exact failed_turn _ refreshing
  · split at updated
    · split at updated
      · cases updated
        exact failed_turn _ refreshing
      · cases updated
        exact .worked event c (.updated response) refreshing rfl
    · cases updated

theorem commit_turn {event : Event} {c : CallerId} {response : TokenResponse} {answer : DbAnswer}
    (refreshing : (state.phase c).refreshing = true)
    (committed : commit deployment state c response answer = some after) :
    Turn deployment state.view event after.view := by
  cases answer with
  | failed details =>
      cases committed
      exact failed_turn _ refreshing
  | ok =>
      simp only [commit] at committed
      split at committed
      · cases committed
        exact .worked event c (.committed response) refreshing rfl
      · cases committed
  | lost details =>
      simp only [commit] at committed
      split at committed
      · cases committed
        exact .left event c _ (.inr (Phase.guarded_of_refreshing refreshing)) rfl
      · cases committed

theorem settle_turn {c : CallerId} {response : TokenResponse} {now : DateTime}
    (committed : state.phase c = .committed response) :
    Turn deployment state.view (.settle c now) (settle deployment state c response now).view := by
  unfold settle
  split
  · exact .left _ c .panicked (.inr (congrArg Phase.guarded committed)) rfl
  · next expiresAt _ =>
      exact .settled c now response ⟨response.accessToken, expiresAt⟩ committed rfl

theorem operated_view {change : Option TenantOauthRow → Option TenantOauthRow}
    {history : List String} (operated : state.operate change history = some after) :
    after.view = state.view := by
  unfold State.operate at operated
  split at operated
  · cases operated
  · cases operated
    rfl

theorem turn_of_next {event : Event} (taken : Steps (next deployment) state event after) :
    Turn deployment state.view event after.view := by
  unfold Steps at taken
  cases event with
  | get c now =>
      simp only [next] at taken
      split at taken
      · next access idle found =>
          cases taken
          rcases cachedAccess_some found with ⟨token, cached, fresh, rfl⟩
          exact .hit c now token idle cached fresh
      · next idle _ =>
          cases taken
          exact .queued c now idle
      · cases taken
  | invalidate c =>
      simp only [next] at taken
      split at taken
      · next idle =>
          cases taken
          exact .invalidated c idle
      · cases taken
  | lock c =>
      simp only [next] at taken
      split at taken
      · next queued unlocked =>
          cases taken
          exact .locked c queued unlocked
      · cases taken
  | recheck c now =>
      simp only [next] at taken
      split at taken
      · next access locked found =>
          cases taken
          rcases cachedAccess_some found with ⟨token, cached, fresh, rfl⟩
          exact .served c now token locked cached fresh
      · next locked missed =>
          cases taken
          exact .entered c now locked (cachedAccess_none missed)
      · cases taken
  | begin c fault =>
      simp only [next] at taken
      split at taken
      · next opening =>
          cases taken
          have refreshing : (state.phase c).refreshing = true := by rw [opening]; rfl
          cases fault with
          | some details => exact failed_turn _ refreshing
          | none => exact .worked _ c .begun refreshing rfl
      · cases taken
  | select c faults =>
      simp only [next] at taken
      split at taken
      · next begun => exact select_turn begun taken
      · cases taken
  | send c =>
      simp only [next] at taken
      split at taken
      · next creds ready =>
          cases taken
          exact .worked _ c (.sent creds) (congrArg Phase.refreshing ready) rfl
      · cases taken
  | receive c answer =>
      simp only [next] at taken
      split at taken
      · next creds sent =>
          cases taken
          exact receive_turn (congrArg Phase.refreshing sent)
      · cases taken
  | encrypt c fault =>
      simp only [next] at taken
      split at taken
      · next response received =>
          cases taken
          have refreshing : (state.phase c).refreshing = true := congrArg Phase.refreshing received
          cases fault with
          | some error => exact failed_turn _ refreshing
          | none => exact .worked _ c _ refreshing rfl
      · cases taken
  | update c fault =>
      simp only [next] at taken
      split at taken
      · next response ciphertext sealed => exact update_turn (congrArg Phase.refreshing sealed) taken
      · cases taken
  | commit c answer =>
      simp only [next] at taken
      split at taken
      · next response updated => exact commit_turn (congrArg Phase.refreshing updated) taken
      · cases taken
  | settle c now =>
      simp only [next] at taken
      split at taken
      · next response committed =>
          cases taken
          exact settle_turn committed
      · cases taken
  | cancel c =>
      simp only [next] at taken
      split at taken
      · cases taken
      · cases taken
      · next waiting started =>
          cases taken
          refine .left _ c .cancelled ?_ rfl
          show state.phase c = .queued ∨ _
          cases at_ : state.phase c with
          | idle => exact absurd at_ waiting
          | finished ended => exact absurd at_ (started ended)
          | queued => exact .inl rfl
          | _ => exact .inr (congrArg Phase.guarded at_)
  | sever c =>
      cases taken
      exact .aside _
  | restart r =>
      cases taken
      exact .restarted r
  | insertTenant =>
      simp only [next] at taken
      split at taken
      · rw [operated_view taken]
        exact .aside _
      · cases taken
  | setCredentials clientId clientSecret =>
      simp only [next] at taken
      split at taken
      · cases taken
      · rw [operated_view taken]
        exact .aside _
  | importRefreshToken token =>
      simp only [next] at taken
      split at taken
      · cases taken
      · rw [operated_view taken]
        exact .aside _

end Turns

/-- A caller holds the lock of its replica just while it has the guard. -/
def Locked (deployment : Deployment) (view : View) : Prop :=
  ∀ r c, view.refreshLock r = some c ↔ deployment.home c = r ∧ (view.phase c).guarded = true

section Locking

variable {deployment : Deployment} {view : View}

theorem Locked.goto {c : CallerId} {phase : Phase} (locked : Locked deployment view)
    (same : phase.guarded = (view.phase c).guarded) : Locked deployment (view.goto c phase) := by
  intro r d
  rw [View.goto]
  dsimp only
  by_cases own : d = c
  · subst own
    rw [Function.update_self, same]
    exact locked r d
  · rw [Function.update_of_ne own]
    exact locked r d

theorem Locked.take {c : CallerId} (locked : Locked deployment view)
    (free : view.refreshLock (deployment.home c) = none) :
    Locked deployment ((view.take (deployment.home c) c).goto c .locked) := by
  intro r d
  rw [View.goto, View.take]
  dsimp only
  by_cases own : d = c
  · subst own
    rw [Function.update_self]
    constructor
    · intro held
      rcases update_some_cases held with ⟨rfl, _⟩ | ⟨other, held⟩
      · exact ⟨rfl, rfl⟩
      · exact ⟨((locked r d).mp held).1, rfl⟩
    · rintro ⟨rfl, _⟩
      rw [Function.update_self]
  · rw [Function.update_of_ne own]
    by_cases here : r = deployment.home c
    · subst here
      rw [Function.update_self, ← locked, free]
      constructor
      · intro taken
        exact absurd (Option.some.inj taken).symm own
      · intro taken
        cases taken
    · rw [Function.update_of_ne here]
      exact locked r d

theorem Locked.finish {c : CallerId} {ended : Ended} (locked : Locked deployment view) :
    Locked deployment (view.finish deployment c ended) := by
  intro r d
  rw [View.finish]
  dsimp only
  by_cases own : d = c
  · subst own
    rw [Function.update_self]
    constructor
    · intro held
      exfalso
      split at held
      · rcases update_cases held with ⟨_, gone⟩ | ⟨other, held⟩
        · cases gone
        · exact other ((locked r d).mp held).1.symm
      · next unheld =>
          have home := ((locked r d).mp held).1
          rw [home] at unheld
          exact unheld held
    · rintro ⟨_, guarded⟩
      cases guarded
  · rw [Function.update_of_ne own]
    split
    · next held =>
        by_cases here : r = deployment.home c
        · subst here
          rw [Function.update_self, ← locked, held]
          constructor
          · intro taken
            cases taken
          · intro taken
            exact absurd (Option.some.inj taken).symm own
        · rw [Function.update_of_ne here]
          exact locked r d
    · exact locked r d

theorem Turn.keeps_locked {event : Event} {after : View} (turn : Turn deployment view event after)
    (locked : Locked deployment view) : Locked deployment after := by
  cases turn with
  | aside => exact locked
  | hit | served | left => exact locked.finish
  | queued c now idle => exact locked.goto (by rw [idle]; rfl)
  | invalidated c idle =>
      have same : Phase.queued.guarded = (view.phase c).guarded := by rw [idle]; rfl
      exact locked.goto same
  | locked c queued free => exact locked.take free
  | entered c now at_ missed => exact locked.goto (by rw [at_]; rfl)
  | worked _ c phase refreshing still =>
      refine locked.goto ?_
      rw [Phase.guarded_of_refreshing refreshing, Phase.guarded_of_refreshing still]
  | settled c now response token committed same => exact locked.finish
  | restarted r => exact locked

theorem Locked.alone {c d : CallerId} (locked : Locked deployment view)
    (same : deployment.home d = deployment.home c) (left : (view.phase c).guarded = true)
    (right : (view.phase d).guarded = true) : d = c := by
  have mine := (locked _ c).mpr ⟨rfl, left⟩
  have other := (locked _ d).mpr ⟨same, right⟩
  rw [mine] at other
  exact (Option.some.inj other).symm

end Locking

/-- The gate of replica `r`, with the answers of its own callers. -/
structure Matches (deployment : Deployment) (r : ReplicaId) (view : View)
    (gate : Gate CallerId CachedToken) : Prop where
  locked : Locked deployment view
  cached : gate.cached = view.cached r
  filling : ∀ c, gate.filling = some c ↔
    deployment.home c = r ∧ (view.phase c).refreshing = true
  answers : ∀ c, deployment.home c = r →
    (gate.answers c).map CachedToken.access = (view.phase c).answer

/-- The step behind an action at the gate of replica `r`. -/
def Means (deployment : Deployment) (r : ReplicaId) :
    Action CallerId CachedToken → View → Event → Prop
  | .clear, _, event => event = .restart r ∨ ∃ c, deployment.home c = r ∧ event = .invalidate c
  | .enter c good, _, event => deployment.home c = r ∧ ∃ now, event = .recheck c now ∧
      good = fun token => isFresh deployment.safetyMargin token.expiresAt now
  | .fill c token, view, event => deployment.home c = r ∧ ∃ now, event = .settle c now ∧
      ∃ response, view.phase c = .committed response ∧ token.access = response.accessToken
  | .leave _, _, _ | .take _ _, _, _ => True

section Refinement

variable {deployment : Deployment} {r : ReplicaId} {view after : View}
  {gate : Gate CallerId CachedToken}

theorem Matches.same (matching : Matches deployment r view gate) (locked : Locked deployment after)
    (cached : after.cached r = view.cached r)
    (phases : ∀ c, deployment.home c = r → (after.phase c).refreshing = (view.phase c).refreshing ∧
      (after.phase c).answer = (view.phase c).answer) : Matches deployment r after gate where
  locked := locked
  cached := matching.cached.trans cached.symm
  filling c := by
    rw [matching.filling]
    constructor
    · rintro ⟨home, refreshing⟩
      exact ⟨home, (phases c home).1.trans refreshing⟩
    · rintro ⟨home, refreshing⟩
      exact ⟨home, (phases c home).1.symm.trans refreshing⟩
  answers c home := (matching.answers c home).trans (phases c home).2.symm

theorem Matches.moved {c : CallerId} {phase : Phase} (matching : Matches deployment r view gate)
    (locked : Locked deployment after) (cached : after.cached r = view.cached r)
    (moved : after.phase = Function.update view.phase c phase)
    (unseen : deployment.home c = r → phase.refreshing = (view.phase c).refreshing ∧
      phase.answer = (view.phase c).answer) : Matches deployment r after gate := by
  refine matching.same locked cached ?_
  intro d home
  rw [moved]
  by_cases own : d = c
  · subst own
    rw [Function.update_self]
    exact unseen home
  · rw [Function.update_of_ne own]
    exact ⟨rfl, rfl⟩

theorem Matches.cleared (matching : Matches deployment r view gate) :
    Matches deployment r (view.remember r none) { gate with cached := none } where
  locked := matching.locked
  cached := (Function.update_self r none view.cached).symm
  filling := matching.filling
  answers := matching.answers

theorem Matches.answered {c : CallerId} {token : CachedToken}
    (matching : Matches deployment r view gate) (locked : Locked deployment after)
    (cached : after.cached r = view.cached r)
    (moved : after.phase =
      Function.update view.phase c (.finished (.returned (.ok token.access))))
    (idle : (view.phase c).refreshing = false) :
    Matches deployment r after
      { gate with answers := Function.update gate.answers c (some token) } where
  locked := locked
  cached := matching.cached.trans cached.symm
  filling d := by
    rw [matching.filling, moved]
    by_cases own : d = c
    · subst own
      rw [Function.update_self, idle]
      rfl
    · rw [Function.update_of_ne own]
  answers d home := by
    rw [moved]
    dsimp only
    by_cases own : d = c
    · subst own
      rw [Function.update_self, Function.update_self]
      rfl
    · rw [Function.update_of_ne own, Function.update_of_ne own]
      exact matching.answers d home

theorem Matches.entered {c : CallerId} (matching : Matches deployment r view gate)
    (home : deployment.home c = r) (at_ : view.phase c = .locked)
    (locked : Locked deployment (view.goto c .opening)) :
    gate.filling = none ∧
      Matches deployment r (view.goto c .opening) { gate with filling := some c } := by
  have guarded : (view.phase c).guarded = true := by rw [at_]; rfl
  have only : ∀ d, deployment.home d = r → (view.phase d).guarded = true → d = c := by
    intro d there busy
    exact matching.locked.alone (there.trans home.symm) guarded busy
  constructor
  · cases filling : gate.filling with
    | none => rfl
    | some d =>
        rcases (matching.filling d).mp filling with ⟨there, refreshing⟩
        have same := only d there (Phase.guarded_of_refreshing refreshing)
        rw [same, at_] at refreshing
        cases refreshing
  · refine ⟨locked, matching.cached, ?_, ?_⟩
    · intro d
      rw [View.goto]
      dsimp only
      by_cases own : d = c
      · subst own
        rw [Function.update_self]
        exact ⟨fun _ => ⟨home, rfl⟩, fun _ => rfl⟩
      · rw [Function.update_of_ne own]
        constructor
        · intro entered
          exact absurd (Option.some.inj entered).symm own
        · rintro ⟨there, refreshing⟩
          exact absurd (only d there (Phase.guarded_of_refreshing refreshing)) own
    · intro d there
      rw [View.goto]
      dsimp only
      by_cases own : d = c
      · subst own
        rw [Function.update_self, matching.answers d there, at_]
        rfl
      · rw [Function.update_of_ne own]
        exact matching.answers d there

theorem Matches.ended {c : CallerId} {ended : Ended} {cached : Option CachedToken}
    {answers : CallerId → Option CachedToken} (matching : Matches deployment r view gate)
    (home : deployment.home c = r) (refreshing : (view.phase c).refreshing = true)
    (locked : Locked deployment after) (found : after.cached r = cached)
    (moved : after.phase = Function.update view.phase c (.finished ended))
    (own : (answers c).map CachedToken.access = (Phase.finished ended).answer)
    (others : ∀ d, d ≠ c → answers d = gate.answers d) :
    Matches deployment r after ⟨cached, none, answers⟩ where
  locked := locked
  cached := found.symm
  filling d := by
    rw [moved]
    constructor
    · intro filling
      cases filling
    · rintro ⟨there, busy⟩
      by_cases same : d = c
      · subst same
        rw [Function.update_self] at busy
        cases busy
      · rw [Function.update_of_ne same] at busy
        exact absurd (matching.locked.alone (there.trans home.symm)
          (Phase.guarded_of_refreshing refreshing) (Phase.guarded_of_refreshing busy)) same
  answers d there := by
    rw [moved]
    dsimp only
    by_cases same : d = c
    · subst same
      rw [Function.update_self]
      exact own
    · rw [Function.update_of_ne same, others d same]
      exact matching.answers d there

/-- The callers of a replica go through the gate. -/
theorem turns_simulate (deployment : Deployment) (r : ReplicaId) :
    Simulates (Turn deployment) Step (Matches deployment r) (Means deployment r) := by
  intro view event after gate matching turn
  have locked := turn.keeps_locked matching.locked
  have stutter : Matches deployment r after gate → ∃ actions seen, Run Step gate actions seen ∧
      Matches deployment r after seen ∧ ∀ action ∈ actions, Means deployment r action view event :=
    fun still => ⟨[], gate, .nil gate, still, by simp⟩
  have single : ∀ action seen, Step gate action seen → Matches deployment r after seen →
      Means deployment r action view event → ∃ actions seen, Run Step gate actions seen ∧
        Matches deployment r after seen ∧ ∀ action ∈ actions, Means deployment r action view event := by
    intro action seen taken still meant
    refine ⟨[action], seen, .single taken, still, ?_⟩
    intro other listed
    rw [List.mem_singleton.mp listed]
    exact meant
  cases turn with
  | aside => exact stutter matching
  | hit c now token idle cached fresh =>
      by_cases home : deployment.home c = r
      · subst home
        refine single (.take c token) _ (.take gate c token (matching.cached.trans cached)) ?_ trivial
        exact matching.answered locked rfl rfl (by rw [idle]; rfl)
      · exact stutter (matching.moved locked rfl rfl fun same => absurd same home)
  | queued c now idle =>
      refine stutter (matching.moved locked rfl rfl fun _ => ?_)
      rw [idle]
      exact ⟨rfl, rfl⟩
  | invalidated c idle =>
      by_cases home : deployment.home c = r
      · subst home
        refine single .clear _ (.clear gate) ?_ (.inr ⟨c, rfl, rfl⟩)
        refine matching.cleared.moved locked rfl rfl fun _ => ?_
        show Phase.queued.refreshing = (view.phase c).refreshing ∧
          Phase.queued.answer = (view.phase c).answer
        rw [idle]
        exact ⟨rfl, rfl⟩
      · refine stutter (matching.moved locked ?_ rfl fun same => absurd same home)
        exact Function.update_of_ne (Ne.symm home) _ _
  | locked c queued free =>
      refine stutter (matching.moved locked rfl rfl fun _ => ?_)
      rw [queued]
      exact ⟨rfl, rfl⟩
  | served c now token at_ cached fresh =>
      by_cases home : deployment.home c = r
      · subst home
        refine single (.take c token) _ (.take gate c token (matching.cached.trans cached)) ?_ trivial
        exact matching.answered locked rfl rfl (by rw [at_]; rfl)
      · exact stutter (matching.moved locked rfl rfl fun same => absurd same home)
  | entered c now at_ missed =>
      by_cases home : deployment.home c = r
      · rcases matching.entered home at_ locked with ⟨free, still⟩
        refine single (.enter c fun token => isFresh deployment.safetyMargin token.expiresAt now) _
          (.enter gate c _ free ?_) still ⟨home, now, rfl, rfl⟩
        intro token cached
        rw [matching.cached, ← home] at cached
        exact missed token cached
      · exact stutter (matching.moved locked rfl rfl fun same => absurd same home)
  | worked _ c phase refreshing still =>
      refine stutter (matching.moved locked rfl rfl fun _ => ?_)
      rw [refreshing, still, Phase.answer_of_guarded (Phase.guarded_of_refreshing refreshing),
        Phase.answer_of_guarded (Phase.guarded_of_refreshing still)]
      exact ⟨rfl, rfl⟩
  | left _ c ended busy unanswered =>
      have before : (view.phase c).answer = none := by
        rcases busy with queued | guarded
        · rw [queued]
          rfl
        · exact Phase.answer_of_guarded guarded
      by_cases inside : deployment.home c = r ∧ (view.phase c).refreshing = true
      · rcases inside with ⟨home, refreshing⟩
        have filling := (matching.filling c).mpr ⟨home, refreshing⟩
        refine single (.leave c) _ (.leave gate c filling) ?_ trivial
        refine matching.ended home refreshing locked matching.cached.symm rfl ?_ fun _ _ => rfl
        exact (matching.answers c home).trans (before.trans unanswered.symm)
      · refine stutter (matching.moved locked rfl rfl fun home => ⟨?_, ?_⟩)
        · cases refreshing : (view.phase c).refreshing with
          | false => rfl
          | true => exact absurd ⟨home, refreshing⟩ inside
        · exact unanswered.trans before.symm
  | settled c now response token committed same =>
      have refreshing : (view.phase c).refreshing = true := by rw [committed]; rfl
      by_cases home : deployment.home c = r
      · subst home
        have filling := (matching.filling c).mpr ⟨rfl, refreshing⟩
        refine single (.fill c token) _ (.fill gate c token filling) ?_
          ⟨rfl, now, rfl, response, committed, same⟩
        refine matching.ended rfl refreshing locked (Function.update_self _ _ _) rfl ?_ ?_
        · rw [Function.update_self]
          rfl
        · intro d other
          exact Function.update_of_ne other _ _
      · refine stutter (matching.moved locked ?_ rfl fun same => absurd same home)
        exact Function.update_of_ne (Ne.symm home) _ _
  | restarted there =>
      by_cases here : there = r
      · subst here
        exact single .clear _ (.clear gate) matching.cleared (.inl rfl)
      · refine stutter (matching.same locked ?_ fun _ _ => ⟨rfl, rfl⟩)
        exact Function.update_of_ne (Ne.symm here) _ _

end Refinement

section Callers

variable {deployment : Deployment} {r : ReplicaId} {first middle last : State}
  {front back : List Event}

theorem callers_simulate (deployment : Deployment) (r : ReplicaId) :
    Simulates (Steps (next deployment)) Step (fun state => Matches deployment r state.view)
      (fun action state => Means deployment r action state.view) :=
  fun _ _ _ _ matching taken => turns_simulate deployment r _ _ _ _ matching (turn_of_next taken)

theorem matches_initial (initial : first.Initial) :
    Matches deployment r first.view ⟨none, none, fun _ => none⟩ := by
  have idle : ∀ c, first.view.phase c = .idle := initial.idle
  have free : ∀ r, first.view.refreshLock r = none := initial.untaken
  refine ⟨?_, (initial.cold r).symm, ?_, ?_⟩
  · intro there c
    rw [idle, free]
    constructor
    · intro held
      cases held
    · rintro ⟨_, guarded⟩
      cases guarded
  · intro c
    rw [idle]
    constructor
    · intro filling
      cases filling
    · rintro ⟨_, refreshing⟩
      cases refreshing
  · intro c _
    rw [idle]
    rfl

theorem reached_matches (initial : first.Initial)
    (run : Run (Steps (next deployment)) first front middle) :
    ∃ gate, Matches deployment r middle.view gate := by
  rcases (callers_simulate deployment r).run run (matches_initial initial) with
    ⟨_, gate, _, matching, _⟩
  exact ⟨gate, matching⟩

theorem quiet_of_unlocked (initial : first.Initial)
    (run : Run (Steps (next deployment)) first front middle) (free : middle.refreshLock r = none)
    (c : CallerId) (home : deployment.home c = r) : (middle.phase c).refreshing = false := by
  rcases reached_matches (r := r) initial run with ⟨_, matching⟩
  cases refreshing : (middle.phase c).refreshing with
  | false => rfl
  | true =>
      have held := (matching.locked r c).mpr ⟨home, Phase.guarded_of_refreshing refreshing⟩
      exact absurd (free.symm.trans held) (by simp)

/-- Behind a cached token with nobody refreshing, a caller refreshes only after the token was given
up, or was found to expire within the margin. -/
theorem refreshing_needs_miss {token : CachedToken} {d : CallerId}
    {gate : Gate CallerId CachedToken} (early : Matches deployment r middle.view gate)
    (cached : middle.cached r = some token)
    (quiet : ∀ c, deployment.home c = r → (middle.phase c).refreshing = false)
    (run : Run (Steps (next deployment)) middle back last) (home : deployment.home d = r)
    (refreshing : (last.phase d).refreshing = true) :
    .restart r ∈ back ∨ (∃ c, deployment.home c = r ∧ .invalidate c ∈ back) ∨
      ∃ c now, deployment.home c = r ∧ .recheck c now ∈ back ∧
        isFresh deployment.safetyMargin token.expiresAt now = false := by
  rcases (callers_simulate deployment r).run run early with ⟨actions, seen, taken, late, meant⟩
  have full : gate.cached = some token := early.cached.trans cached
  have unfilled : gate.filling = none := by
    cases filling : gate.filling with
    | none => rfl
    | some c =>
        rcases (early.filling c).mp filling with ⟨there, busy⟩
        exact absurd (busy.symm.trans (quiet c there)) (by decide)
  have filling := (late.filling d).mpr ⟨home, refreshing⟩
  rcases enter_needs_miss taken full unfilled filling with cleared | ⟨c, good, entered, missed⟩
  · rcases (meant _ cleared).mem with ⟨_, event, inside, rfl | ⟨c, there, rfl⟩⟩
    · exact .inl inside
    · exact .inr (.inl ⟨c, there, inside⟩)
  · rcases (meant _ entered).mem with ⟨_, event, inside, there, now, rfl, rfl⟩
    exact .inr (.inr ⟨c, now, there, inside, missed⟩)

/-- On a replica that has a token and nobody refreshing, one caller refreshes at a time, and only
after the token was given up, or was found to expire within the margin. -/
theorem refreshed_on_miss {token : CachedToken} {d : CallerId} (initial : first.Initial)
    (before : Run (Steps (next deployment)) first front middle)
    (cached : middle.cached r = some token)
    (quiet : ∀ c, deployment.home c = r → (middle.phase c).refreshing = false)
    (run : Run (Steps (next deployment)) middle back last) (home : deployment.home d = r)
    (refreshing : (last.phase d).refreshing = true) :
    (∀ c, deployment.home c = r → (last.phase c).refreshing = true → c = d) ∧
      (.restart r ∈ back ∨ (∃ c, deployment.home c = r ∧ .invalidate c ∈ back) ∨
        ∃ c now, deployment.home c = r ∧ .recheck c now ∈ back ∧
          isFresh deployment.safetyMargin token.expiresAt now = false) := by
  rcases reached_matches (r := r) initial before with ⟨gate, early⟩
  refine ⟨?_, refreshing_needs_miss early cached quiet run home refreshing⟩
  intro c there busy
  rcases reached_matches (r := r) initial (before.append run) with ⟨_, late⟩
  exact late.locked.alone (there.trans home.symm) (Phase.guarded_of_refreshing refreshing)
    (Phase.guarded_of_refreshing busy)

theorem invalidate_clears {c : CallerId} {begun : State}
    (invalidated : Steps (next deployment) middle (.invalidate c) begun) :
    begun.cached (deployment.home c) = none ∧ (begun.phase c).answer = none := by
  unfold Steps at invalidated
  simp only [next] at invalidated
  split at invalidated
  · cases invalidated
    constructor
    · exact Function.update_self _ _ _
    · exact congrArg Phase.answer (Function.update_self c Phase.queued middle.phase)
  · cases invalidated

/-- A token is cached, and a caller that finds it within the margin refreshes. -/
def warmTrace : List Event := sampleGrant 0 "one" ++ [.commit 0 .ok, .settle 0 0]

def expiringTrace : List Event :=
  [.get 2 (seconds 3580), .lock 2, .recheck 2 (seconds 3580), .begin 2 none]

theorem refreshed_on_miss_sample : ∃ middle last,
    exec (next sampleDeployment) sampleState warmTrace = some middle ∧
    exec (next sampleDeployment) middle expiringTrace = some last ∧
    middle.cached 0 = some ⟨"access-1", seconds 3600⟩ ∧
    (∀ c, sampleDeployment.home c = 0 → (last.phase c).refreshing = true → c = 2) ∧
    (.restart 0 ∈ expiringTrace ∨
      (∃ c, sampleDeployment.home c = 0 ∧ .invalidate c ∈ expiringTrace) ∨
      ∃ c now, sampleDeployment.home c = 0 ∧ .recheck c now ∈ expiringTrace ∧
        isFresh sampleDeployment.safetyMargin (seconds 3600) now = false) := by
  have warm : (exec (next sampleDeployment) sampleState warmTrace).map
      (fun state => (state.cached 0, state.refreshLock 0)) =
        some (some ⟨"access-1", seconds 3600⟩, none) := by decide
  rcases Option.map_eq_some_iff.mp warm with ⟨middle, reached, seen⟩
  rcases Prod.mk.inj seen with ⟨cached, free⟩
  have refreshing : (exec (next sampleDeployment) sampleState (warmTrace ++ expiringTrace)).map
      (fun state => (state.phase 2).refreshing) = some true := by decide
  rcases Run.continue_exec reached refreshing with ⟨last, taken, busy⟩
  have quiet := quiet_of_unlocked sampleState_initial (Run.of_exec reached) free
  rcases refreshed_on_miss (d := 2) sampleState_initial (Run.of_exec reached) cached quiet
    (Run.of_exec taken) rfl busy with ⟨alone, missed⟩
  exact ⟨middle, last, reached, taken, cached, alone, missed⟩

/-- `invalidate` answers with a token of a grant that ended after the call began. -/
theorem invalidate_gets_new {begun : State} {c : CallerId} {access : String}
    (initial : first.Initial) (before : Run (Steps (next deployment)) first front middle)
    (invalidated : Steps (next deployment) middle (.invalidate c) begun)
    (run : Run (Steps (next deployment)) begun back last)
    (answered : last.phase c = .finished (.returned (.ok access))) :
    Passes (Steps (next deployment)) (fun state event => ∃ d now response,
      deployment.home d = deployment.home c ∧ event = .settle d now ∧
        state.phase d = .committed response ∧ response.accessToken = access) begun back := by
  rcases reached_matches initial (before.append (.single invalidated)) with ⟨gate, early⟩
  rcases (callers_simulate deployment (deployment.home c)).run run early with
    ⟨actions, seen, taken, late, meant⟩
  rcases invalidate_clears invalidated with ⟨cleared, unanswered⟩
  have ended : (seen.answers c).map CachedToken.access = some access := by
    rw [late.answers c rfl]
    exact congrArg Phase.answer answered
  rcases Option.map_eq_some_iff.mp ended with ⟨token, given, rfl⟩
  have open_ : gate.answers c = none := by
    rw [← Option.map_eq_none_iff, early.answers c rfl]
    exact unanswered
  rcases answered_since taken (early.cached.trans cleared) open_ given with ⟨d, filled⟩
  rcases meant _ filled with ⟨front, there, event, back, split, upTo, home, now, rfl, response,
    committed, same⟩
  exact ⟨front, there, .settle d now, back, split, upTo, d, now, response, home, rfl, committed,
    same.symm⟩

/-- A caller gives the token up, and is served with the one that another caller's grant brings. -/
def renewedTrace : List Event :=
  sampleGrant 2 "one" ++ [.commit 2 .ok, .settle 2 0, .lock 0, .recheck 0 0]

theorem invalidate_gets_new_sample : ∃ begun last,
    next sampleDeployment sampleState (.invalidate 0) = some begun ∧
    exec (next sampleDeployment) begun renewedTrace = some last ∧
    Passes (Steps (next sampleDeployment)) (fun state event => ∃ d now response,
      sampleDeployment.home d = sampleDeployment.home 0 ∧ event = .settle d now ∧
        state.phase d = .committed response ∧ response.accessToken = "access-1")
      begun renewedTrace := by
  have invalidated : exec (next sampleDeployment) sampleState [.invalidate 0] =
      some { sampleState.goto 0 .queued with
        cached := Function.update sampleState.cached 0 none } := rfl
  have renewed : (exec (next sampleDeployment) sampleState ([.invalidate 0] ++ renewedTrace)).map
      (fun state => (state.phase 0).answer) = some (some "access-1") := by decide
  rcases Run.continue_exec invalidated renewed with ⟨last, taken, answered⟩
  exact ⟨_, last, rfl, taken, invalidate_gets_new sampleState_initial (.nil sampleState) rfl
    (Run.of_exec taken) (Phase.answer_some answered)⟩

end Callers

end SwiyuIssuer.Oauth
