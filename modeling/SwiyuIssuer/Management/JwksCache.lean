import SwiyuIssuer.Library.Cooldown
import SwiyuIssuer.Library.Run
import SwiyuIssuer.Library.Update
import SwiyuIssuer.Management.TokenValidator

/-! `JwksCache` under the requests that look a `kid` up at once, while the realm rotates its keys. -/

namespace SwiyuIssuer.Management.Jwks

open Library

inductive JwksError
  | unavailable
  | unknownKid
deriving DecidableEq, Repr

def JwksError.toTokenError : JwksError → TokenError
  | unavailable => .keysUnavailable
  | unknownKid => .invalid

structure JwksCache where
  keys : JsonMap
  fetchedAt : Option Nat
  lastAttempt : Option Nat

def kidOf (key : Json) : Option String := (key.get "kid").bind Json.asStr

/-- The keys of a document that have a `kid`; the last one under a `kid` stays. -/
def collect (keys : List Json) : JsonMap :=
  keys.foldl (fun collected key =>
    match kidOf key with
    | some kid => collected.insert kid key
    | none => collected) []

/-- The key and whether the store is older than `ttl`. -/
def JwksCache.readKid (cache : JwksCache) (ttl now : Nat) (kid : String) : Option (Json × Bool) :=
  (cache.keys.get kid).map fun jwk => (jwk, cache.fetchedAt.all fun fetched => ttl ≤ now - fetched)

/-- Why a caller refreshes: for next time, with the key of a stale hit in hand, or for a `kid` that
the store lacks. -/
inductive Refresh
  | stale (jwk : Json)
  | missing (kid : String)

/-- A caller of `jwk_for_kid`, between two of its locks. `starved` stands for a second read that
missed a `kid` of the realm while another caller's fetch for a missing `kid` held the slot. -/
inductive Lookup
  | idle
  | refreshing (reason : Refresh)
  | fetching (reason : Refresh)
  | lookingAgain (kid : String) (fetched : Bool)
  | notFound (starved : Bool)
  | found (jwk : Json)

def Lookup.starved : Lookup → Bool
  | notFound starved => starved
  | _ => false

/-- Where `refresh_if_due` leads back to. -/
def Refresh.resume (fetched : Bool) : Refresh → Lookup
  | stale jwk => .found jwk
  | missing kid => .lookingAgain kid fetched

structure Report where
  error : TokenError
  afterSuccess : Bool
  starved : Bool
deriving DecidableEq, Repr

abbrev CallerId := Nat

/-- `realm` holds the key ids that the realm signs with; `seeking` the callers whose fetch for a
missing `kid` is in flight. `starts`, `completed` and `reports` are kept newest first. -/
structure State where
  cache : JwksCache
  clock : Nat
  realm : List String
  lookups : CallerId → Lookup
  seeking : List CallerId
  starts : List Nat
  completed : List (Option (List Json))
  reports : List Report

/-- `cancel` is a request that is dropped while its fetch is in flight. -/
inductive Action
  | tick (elapsed : Nat)
  | rotate (realm : List String)
  | readKid (t : CallerId) (kid : String)
  | claim (t : CallerId) (drift : Nat)
  | complete (t : CallerId) (answer : Option (List Json))
  | readAgain (t : CallerId)
  | isEmpty (t : CallerId)
  | cancel (t : CallerId)

namespace State

def goto (state : State) (t : CallerId) (lookup : Lookup) : State :=
  { state with lookups := Function.update state.lookups t lookup }

def latest (state : State) : Option (List Json) := state.completed.findSome? id

variable (ttl cooldown : Nat)

def readKidStep (state : State) (t : CallerId) (kid : String) : Option State :=
  match state.lookups t with
  | .idle | .found _ =>
      match state.cache.readKid ttl state.clock kid with
      | some (jwk, true) => some (state.goto t (.refreshing (.stale jwk)))
      | some (jwk, false) => some (state.goto t (.found jwk))
      | none => some (state.goto t (.refreshing (.missing kid)))
  | _ => none

/-- The part of `refresh_if_due` under the write lock, up to the start of the fetch. -/
def claimStep (state : State) (t : CallerId) (drift : Nat) : Option State :=
  match state.lookups t with
  | .refreshing reason =>
      if Cooldown.due cooldown state.cache.lastAttempt state.clock then
        let now := state.clock + drift
        some { state.goto t (.fetching reason) with
          cache := { state.cache with lastAttempt := some now }
          clock := now
          seeking := match reason with
            | .stale _ => state.seeking
            | .missing _ => t :: state.seeking
          starts := now :: state.starts }
      else some (state.goto t (reason.resume false))
  | _ => none

def completeStep (state : State) (t : CallerId) (answer : Option (List Json)) : Option State :=
  match state.lookups t with
  | .fetching reason =>
      some { state.goto t (reason.resume true) with
        cache := match answer with
          | some keys => { state.cache with keys := collect keys, fetchedAt := some state.clock }
          | none => state.cache
        seeking := state.seeking.erase t
        completed := answer :: state.completed }
  | _ => none

def readAgainStep (state : State) (t : CallerId) : Option State :=
  match state.lookups t with
  | .lookingAgain kid fetched =>
      match state.cache.readKid ttl state.clock kid with
      | some (jwk, _) => some (state.goto t (.found jwk))
      | none => some (state.goto t (.notFound
          (!fetched && state.realm.contains kid && state.seeking.any fun other => other != t)))
  | _ => none

def isEmptyStep (state : State) (t : CallerId) : Option State :=
  match state.lookups t with
  | .notFound starved =>
      let error := if state.cache.keys.isEmpty then JwksError.unavailable else .unknownKid
      some { state.goto t .idle with
        reports := ⟨error.toTokenError, state.latest.isSome, starved⟩ :: state.reports }
  | _ => none

def cancelStep (state : State) (t : CallerId) : Option State :=
  match state.lookups t with
  | .fetching _ => some { state.goto t .idle with seeking := state.seeking.erase t }
  | _ => none

def next (state : State) : Action → Option State
  | .tick elapsed => some { state with clock := state.clock + elapsed }
  | .rotate realm => some { state with realm := realm }
  | .readKid t kid => state.readKidStep ttl t kid
  | .claim t drift => state.claimStep cooldown t drift
  | .complete t answer => state.completeStep t answer
  | .readAgain t => state.readAgainStep ttl t
  | .isEmpty t => state.isEmptyStep t
  | .cancel t => state.cancelStep t

/-- `JwksCache::new`, before the first request. -/
structure Initial (state : State) : Prop where
  cache : state.cache = ⟨[], none, none⟩
  lookups : ∀ t, state.lookups t = .idle
  starts : state.starts = []
  completed : state.completed = []
  reports : state.reports = []

structure Sound (state : State) : Prop where
  stored : state.cache.keys = (state.latest.map collect).getD []
  attempted : state.cache.lastAttempt = state.starts.head?
  past : ∀ start ∈ state.starts, start ≤ state.clock
  spaced : Cooldown.Spaced cooldown state.starts

/-- The store is that of the last success, no interval of the cooldown has two starts, a miss after
the cooldown starts a fetch (or finds that another caller has started one since it looked), and the
errors have their reasons. -/
structure Robust (state : State) : Prop where
  stored : state.cache.keys = (state.latest.map collect).getD []
  spaced : ∀ opens,
    (state.starts.filter fun start => opens ≤ start && start < opens + cooldown).length ≤ 1
  prompt : ∀ t kid drift, state.lookups t = .idle → state.cache.keys.get kid = none →
    Cooldown.Over cooldown state.starts state.clock →
    ∃ after, exec (next ttl cooldown) state [.readKid t kid, .claim t drift] = some after ∧
      after.lookups t = .fetching (.missing kid) ∧
      after.starts = (state.clock + drift) :: state.starts
  promptAmongOthers : ∀ t kid drift trace after, state.cache.keys.get kid = none →
    Cooldown.Over cooldown state.starts state.clock →
    Run (Steps (next ttl cooldown)) state (.readKid t kid :: trace ++ [.claim t drift]) after →
    state.starts.length < after.starts.length
  unavailable : ∀ report ∈ state.reports, report.error = .keysUnavailable →
    report.afterSuccess = false
  invalid : ∀ report ∈ state.reports, report.error = .invalid → report.starved = false

/-- A caller that is about to report an error finds that the document fetched last, if there is one,
lists a key with a `kid`; and where it was starved, that no fetch has succeeded yet. -/
def Calm (state : State) : Action → Prop
  | .isEmpty t =>
      (∀ document ∈ state.latest, ∃ key ∈ document, (kidOf key).isSome) ∧
        ((state.lookups t).starved → state.latest = none)
  | _ => True

instance (state : State) : (action : Action) → Decidable (state.Calm action)
  | .isEmpty _ => inferInstanceAs (Decidable (_ ∧ _))
  | .tick _ | .rotate _ | .readKid _ _ | .claim _ _ | .complete _ _ | .readAgain _ | .cancel _ =>
      isTrue trivial

variable {ttl cooldown} {state after : State} {action : Action}

inductive Move (cooldown : Nat) (state : State) : Action → State → Prop
  | ticked (elapsed : Nat) :
      Move cooldown state (.tick elapsed) { state with clock := state.clock + elapsed }
  | rotated (realm : List String) :
      Move cooldown state (.rotate realm) { state with realm := realm }
  | looked {action : Action} (t : CallerId) (lookup : Lookup)
      (unclaimed : ∀ t drift, action ≠ .claim t drift) (unreported : ∀ t, action ≠ .isEmpty t) :
      Move cooldown state action (state.goto t lookup)
  | turnedAway {t : CallerId} (reason : Refresh) (drift : Nat)
      (early : Cooldown.due cooldown state.cache.lastAttempt state.clock = false) :
      Move cooldown state (.claim t drift) (state.goto t (reason.resume false))
  | claimed {t : CallerId} (reason : Refresh) (drift : Nat) (seeking : List CallerId)
      (asked : Cooldown.due cooldown state.cache.lastAttempt state.clock = true) :
      Move cooldown state (.claim t drift)
        { state.goto t (.fetching reason) with
          cache := { state.cache with lastAttempt := some (state.clock + drift) }
          clock := state.clock + drift
          seeking := seeking
          starts := (state.clock + drift) :: state.starts }
  | fetched {t : CallerId} (reason : Refresh) (keys : List Json) :
      Move cooldown state (.complete t (some keys))
        { state.goto t (reason.resume true) with
          cache := { state.cache with keys := collect keys, fetchedAt := some state.clock }
          seeking := state.seeking.erase t
          completed := some keys :: state.completed }
  | failed {t : CallerId} (reason : Refresh) :
      Move cooldown state (.complete t none)
        { state.goto t (reason.resume true) with
          seeking := state.seeking.erase t
          completed := none :: state.completed }
  | reported {t : CallerId} {starved : Bool} (at_ : state.lookups t = .notFound starved)
      (error : JwksError)
      (chosen : error = if state.cache.keys.isEmpty then .unavailable else .unknownKid) :
      Move cooldown state (.isEmpty t)
        { state.goto t .idle with
          reports := ⟨error.toTokenError, state.latest.isSome, starved⟩ :: state.reports }
  | cancelled (t : CallerId) :
      Move cooldown state (.cancel t) { state.goto t .idle with seeking := state.seeking.erase t }

theorem readKidStep_move {t : CallerId} {kid : String}
    (taken : state.readKidStep ttl t kid = some after) :
    Move cooldown state (.readKid t kid) after := by
  have looked (lookup : Lookup) : Move cooldown state (.readKid t kid) (state.goto t lookup) :=
    .looked t lookup (fun _ _ => Action.noConfusion) (fun _ => Action.noConfusion)
  rw [readKidStep] at taken
  split at taken
  · split at taken <;> cases taken <;> exact looked _
  · split at taken <;> cases taken <;> exact looked _
  · cases taken

theorem claimStep_move {t : CallerId} {drift : Nat}
    (taken : state.claimStep cooldown t drift = some after) :
    Move cooldown state (.claim t drift) after := by
  rw [claimStep] at taken
  split at taken
  · next reason at_ =>
      split at taken
      · next asked =>
          cases taken
          exact .claimed reason drift _ asked
      · next early =>
          cases taken
          exact .turnedAway reason drift (Bool.not_eq_true _ ▸ early)
  · cases taken

theorem completeStep_move {t : CallerId} {answer : Option (List Json)}
    (taken : state.completeStep t answer = some after) :
    Move cooldown state (.complete t answer) after := by
  rw [completeStep.eq_def] at taken
  split at taken
  · next reason at_ =>
      cases taken
      cases answer with
      | some keys => exact .fetched reason keys
      | none => exact .failed reason
  · cases taken

theorem readAgainStep_move {t : CallerId} (taken : state.readAgainStep ttl t = some after) :
    Move cooldown state (.readAgain t) after := by
  have looked (lookup : Lookup) : Move cooldown state (.readAgain t) (state.goto t lookup) :=
    .looked t lookup (fun _ _ => Action.noConfusion) (fun _ => Action.noConfusion)
  rw [readAgainStep] at taken
  split at taken
  · split at taken <;> cases taken <;> exact looked _
  · cases taken

theorem next_move (taken : state.next ttl cooldown action = some after) :
    Move cooldown state action after := by
  cases action with
  | tick elapsed =>
      cases taken
      exact .ticked elapsed
  | rotate realm =>
      cases taken
      exact .rotated realm
  | readKid t kid => exact readKidStep_move taken
  | claim t drift => exact claimStep_move taken
  | complete t answer => exact completeStep_move taken
  | readAgain t => exact readAgainStep_move taken
  | isEmpty t =>
      rw [next, isEmptyStep] at taken
      split at taken
      · next starved at_ =>
          cases taken
          exact .reported at_ _ rfl
      · cases taken
  | cancel t =>
      rw [next, cancelStep] at taken
      split at taken
      · cases taken
        exact .cancelled t
      · cases taken

theorem Initial.sound (initial : state.Initial) : state.Sound cooldown where
  stored := by simp [initial.cache, latest, initial.completed]
  attempted := by simp [initial.cache, initial.starts]
  past := by simp [initial.starts]
  spaced := by simp [initial.starts, Cooldown.Spaced]

theorem Sound.step (sound : state.Sound cooldown) (move : Move cooldown state action after) :
    after.Sound cooldown := by
  cases move with
  | ticked elapsed =>
      refine ⟨sound.stored, sound.attempted, ?_, sound.spaced⟩
      intro start listed
      exact (sound.past start listed).trans (Nat.le_add_right _ _)
  | rotated realm | looked t lookup unclaimed unreported | turnedAway reason drift early
  | reported at_ error chosen | cancelled t => exact ⟨sound.stored, sound.attempted, sound.past, sound.spaced⟩
  | claimed reason drift seeking asked =>
      have cooled := Cooldown.over_of_due sound.spaced sound.past (sound.attempted ▸ asked)
      refine ⟨sound.stored, rfl, ?_, sound.spaced.start cooled (Nat.le_add_right _ _)⟩
      intro start listed
      rcases List.mem_cons.mp listed with rfl | earlier
      · exact le_rfl
      · exact (sound.past start earlier).trans (Nat.le_add_right _ _)
  | fetched reason keys => exact ⟨rfl, sound.attempted, sound.past, sound.spaced⟩
  | failed reason => exact ⟨sound.stored, sound.attempted, sound.past, sound.spaced⟩

theorem starts_step (sound : state.Sound cooldown)
    (cooled : Cooldown.Over cooldown state.starts state.clock)
    (move : Move cooldown state action after) :
    state.starts.length < after.starts.length ∨
      (∀ t drift, action ≠ .claim t drift) ∧ after.starts = state.starts ∧
        Cooldown.Over cooldown after.starts after.clock := by
  cases move with
  | ticked elapsed =>
      exact .inr ⟨fun _ _ => Action.noConfusion, rfl, cooled.later (Nat.le_add_right _ _)⟩
  | rotated realm | fetched reason keys | failed reason | reported at_ error chosen | cancelled t =>
      exact .inr ⟨fun _ _ => Action.noConfusion, rfl, cooled⟩
  | looked t lookup unclaimed unreported => exact .inr ⟨unclaimed, rfl, cooled⟩
  | turnedAway reason drift early =>
      rw [sound.attempted, Cooldown.due_of_over cooled] at early
      cases early
  | claimed reason drift seeking asked => exact .inl (Nat.lt_succ_self _)

theorem starts_le_step (move : Move cooldown state action after) :
    state.starts.length ≤ after.starts.length := by
  cases move with
  | claimed reason drift seeking asked => exact Nat.le_succ _
  | _ => exact le_rfl

/-- Once the cooldown is over, a run cannot get past a claim without a start. -/
theorem claim_starts (sound : state.Sound cooldown)
    (cooled : Cooldown.Over cooldown state.starts state.clock) {t : CallerId} {drift : Nat}
    {trace : List Action}
    (run : Run (Steps (next ttl cooldown)) state (trace ++ [.claim t drift]) after) :
    state.starts.length < after.starts.length := by
  induction trace generalizing state with
  | nil =>
      cases run with
      | cons taken rest =>
          cases rest
          rcases starts_step sound cooled (next_move taken) with more | ⟨unclaimed, -, -⟩
          · exact more
          · exact absurd rfl (unclaimed t drift)
  | cons action trace ih =>
      cases run with
      | @cons _ middle _ _ _ taken rest =>
          have move := next_move taken
          rcases starts_step sound cooled move with more | ⟨-, same, cooled⟩
          · have kept := rest.invariant (fun s => middle.starts.length ≤ s.starts.length)
              (fun _ _ _ before taken => before.trans (starts_le_step (next_move taken))) le_rfl
            exact more.trans_le kept
          · rw [← same]
            exact ih (sound.step move) cooled rest

theorem Sound.prompt (sound : state.Sound cooldown) {t : CallerId} {kid : String} (drift : Nat)
    (idle : state.lookups t = .idle) (absent : state.cache.keys.get kid = none)
    (cooled : Cooldown.Over cooldown state.starts state.clock) :
    ∃ after, exec (next ttl cooldown) state [.readKid t kid, .claim t drift] = some after ∧
      after.lookups t = .fetching (.missing kid) ∧
      after.starts = (state.clock + drift) :: state.starts := by
  have missed : state.next ttl cooldown (.readKid t kid) =
      some (state.goto t (.refreshing (.missing kid))) := by
    simp [next, readKidStep, idle, JwksCache.readKid, absent]
  have asked : Cooldown.due cooldown state.cache.lastAttempt state.clock = true := by
    rw [sound.attempted]
    exact Cooldown.due_of_over cooled
  simp only [exec, missed, Option.bind_some]
  simp [next, claimStep, goto, asked]

theorem collect_eq_nil_iff (keys : List Json) :
    collect keys = [] ↔ ∀ key ∈ keys, kidOf key = none := by
  have grown (keys : List Json) (collected : JsonMap) : keys.foldl (fun collected key =>
      match kidOf key with
      | some kid => collected.insert kid key
      | none => collected) collected = [] ↔ collected = [] ∧ ∀ key ∈ keys, kidOf key = none := by
    induction keys generalizing collected with
    | nil => simp
    | cons key keys ih =>
        rw [List.foldl_cons, ih]
        cases named : kidOf key with
        | none => simp [named]
        | some kid => simp [named, JsonMap.insert]
  rw [collect, grown]
  simp

/-- An unavailable cache has never been filled, and a `kid` is invalid only for want of a key. -/
def Fair (report : Report) : Prop :=
  (report.error = .keysUnavailable → report.afterSuccess = false) ∧
    (report.error = .invalid → report.starved = false)

theorem robust_iff (sound : state.Sound cooldown) :
    state.Robust ttl cooldown ↔ ∀ report ∈ state.reports, Fair report := by
  constructor
  · intro robust report listed
    exact ⟨robust.unavailable report listed, robust.invalid report listed⟩
  · intro fair
    exact {
      stored := sound.stored
      spaced := sound.spaced.at_most_one
      prompt := fun t kid drift idle absent cooled => sound.prompt drift idle absent cooled
      promptAmongOthers := fun t kid drift trace after absent cooled run =>
        claim_starts sound cooled run
      unavailable := fun report listed => (fair report listed).1
      invalid := fun report listed => (fair report listed).2 }

/-- The error of a caller is fair exactly when its step was calm. -/
theorem reported_fair_iff (sound : state.Sound cooldown) {t : CallerId} {starved : Bool}
    (at_ : state.lookups t = .notFound starved) {error : JwksError}
    (chosen : error = if state.cache.keys.isEmpty then .unavailable else .unknownKid) :
    Fair ⟨error.toTokenError, state.latest.isSome, starved⟩ ↔ state.Calm (.isEmpty t) := by
  subst chosen
  cases fetched : state.latest with
  | none =>
      have empty : state.cache.keys = [] := by simp [sound.stored, fetched]
      simp [Fair, Calm, empty, fetched, JwksError.toTokenError]
  | some document =>
      have stored : state.cache.keys = collect document := by simp [sound.stored, fetched]
      by_cases empty : collect document = []
      · have unkeyed := (collect_eq_nil_iff document).mp empty
        have unmet : ¬ ∃ key ∈ document, (kidOf key).isSome := by
          rintro ⟨key, listed, named⟩
          simp [unkeyed key listed] at named
        simp [Fair, Calm, stored, empty, fetched, JwksError.toTokenError, unmet]
      · have keyed : ∃ key ∈ document, (kidOf key).isSome := by
          by_contra unmet
          apply empty
          rw [collect_eq_nil_iff]
          intro key listed
          by_contra named
          exact unmet ⟨key, listed, Option.isSome_iff_ne_none.mpr named⟩
        simp [Fair, Calm, stored, empty, fetched, JwksError.toTokenError, keyed, at_, Lookup.starved]

theorem robust_step_iff (sound : state.Sound cooldown) (robust : state.Robust ttl cooldown)
    (taken : Steps (next ttl cooldown) state action after) :
    after.Robust ttl cooldown ↔ state.Calm action := by
  have move := next_move taken
  rw [robust_iff (sound.step move)]
  have fair := (robust_iff sound).mp robust
  cases move with
  | looked t lookup unclaimed unreported =>
      refine iff_of_true fair ?_
      cases action with
      | isEmpty other => exact absurd rfl (unreported other)
      | _ => exact trivial
  | reported at_ error chosen =>
      rw [← reported_fair_iff sound at_ chosen, List.forall_mem_cons]
      exact and_iff_left fair
  | _ => exact iff_of_true fair trivial

end State

/-- A run is robust throughout exactly when all its steps are calm. -/
theorem cache_is_robust_iff {ttl cooldown : Nat} {first last : State} {trace : List Action}
    (initial : first.Initial) (run : Run (Steps (State.next ttl cooldown)) first trace last) :
    (∀ front back state, trace = front ++ back →
        Run (Steps (State.next ttl cooldown)) first front state → state.Robust ttl cooldown) ↔
      Run (Guarded State.Calm (Steps (State.next ttl cooldown))) first trace last := by
  apply Run.always_iff_guarded (State.Sound cooldown) (State.Robust ttl cooldown)
  · intro state action after sound taken
    exact sound.step (State.next_move taken)
  · intro state action after sound robust taken
    exact State.robust_step_iff sound robust taken
  · exact initial.sound
  · rw [State.robust_iff initial.sound, initial.reports]
    simp
  · exact run

section Sample

def coldStart : State := ⟨⟨[], none, none⟩, 0, ["k1"], fun _ => .idle, [], [], [], []⟩

theorem coldStart_initial : coldStart.Initial := ⟨rfl, fun _ => rfl, rfl, rfl, rfl⟩

def jwk (kid : String) : Json := .object [("kid", .string kid)]

def turnedAway (t : CallerId) (kid : String) : List Action :=
  [.readKid t kid, .claim t 0, .readAgain t, .isEmpty t]

/-- The first caller fetches; a minute later, the realm signs with a second key. -/
def warmed : List Action :=
  [.readKid 0 "k1", .claim 0 0, .complete 0 (some [jwk "k1"]), .readAgain 0, .tick 60,
    .rotate ["k1", "k2"]]

/-- A second caller is turned away on a cold start, and an unknown `kid` on a warm one. -/
theorem cache_is_robust_iff_sample : ∃ last,
    Run (Steps (State.next 600 30)) coldStart
      ([.readKid 5 "k1", .claim 5 0] ++ turnedAway 6 "k1" ++ [.complete 5 none, .tick 30] ++ warmed ++
        [.readKid 1 "k2", .claim 1 0] ++ turnedAway 2 "k9") last ∧
      last.Robust 600 30 := by
  obtain ⟨last, calm⟩ : ∃ last, Run (Guarded State.Calm (Steps (State.next 600 30))) coldStart
      ([.readKid 5 "k1", .claim 5 0] ++ turnedAway 6 "k1" ++ [.complete 5 none, .tick 30] ++
        warmed ++ [.readKid 1 "k2", .claim 1 0] ++ turnedAway 2 "k9") last := by
    obtain ⟨last, computed⟩ := Option.isSome_iff_exists.mp (show (exec
      (checked (fun state action => decide (state.Calm action)) (State.next 600 30)) coldStart
      ([.readKid 5 "k1", .claim 5 0] ++ turnedAway 6 "k1" ++ [.complete 5 none, .tick 30] ++
        warmed ++ [.readKid 1 "k2", .claim 1 0] ++ turnedAway 2 "k9")).isSome = true by
      decide +kernel)
    refine ⟨last, (Run.of_checked computed).mono ?_⟩
    intro state action after taken
    exact ⟨of_decide_eq_true taken.1, taken.2⟩
  refine ⟨last, calm.forget, ?_⟩
  exact (cache_is_robust_iff coldStart_initial calm.forget).mpr calm _ [] last
    (List.append_nil _).symm calm.forget

/-- The realm has the second key, and its document is on the way. -/
theorem refresh_in_flight_rejects_a_current_key : ∃ middle last,
    Run (Steps (State.next 600 30)) coldStart
      (warmed ++ [.readKid 1 "k2", .claim 1 0] ++ turnedAway 2 "k2") middle ∧
      ¬ middle.Robust 600 30 ∧ middle.reports = [⟨.invalid, true, true⟩] ∧
      Run (Steps (State.next 600 30)) middle
        [.complete 1 (some [jwk "k1", jwk "k2"]), .readAgain 1] last ∧
      last.lookups 1 = .found (jwk "k2") := by
  refine ⟨_, _, Run.of_exec rfl, ?_, rfl, Run.of_exec rfl, rfl⟩
  intro robust
  exact absurd (robust.invalid _ List.mem_cons_self rfl) (by decide)

end Sample

end SwiyuIssuer.Management.Jwks
