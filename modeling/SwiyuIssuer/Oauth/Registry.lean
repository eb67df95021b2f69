import SwiyuIssuer.Domain.Ids
import SwiyuIssuer.Library.Run
import SwiyuIssuer.Library.Update
import Mathlib.Data.List.Nodup

/-! `ProviderRegistry`: the providers of one process, and the callers of `provider_for`, one lock at a
time. -/

namespace SwiyuIssuer.Oauth.Registry

open Library

abbrev CallerId := Nat

/-- Which provider an `Arc` points to. -/
abbrev ProviderId := Nat

/-- Where a call of `provider_for` stands: the guard that it waits for or has, and the tenant. -/
inductive Phase
  | idle
  | queuedRead (tenantId : TenantId)
  | reading (tenantId : TenantId)
  | queuedWrite (tenantId : TenantId)
  | writing (tenantId : TenantId)
  | constructing (tenantId : TenantId)
  | inserting (tenantId : TenantId) (any : ProviderId)
  | returned (tenantId : TenantId) (provider : ProviderId)
deriving DecidableEq, Repr

namespace Phase

/-- Between `write().await` and the end of the guard. -/
def exclusive : Phase → Bool
  | writing _ | constructing _ | inserting _ _ => true
  | _ => false

def shared : Phase → Bool
  | reading _ => true
  | _ => false

end Phase

/-- `built` has the providers that were constructed, with the tenant of each. -/
structure State where
  providers : TenantId → Option ProviderId
  phase : CallerId → Phase
  built : List (TenantId × ProviderId)

inductive Event
  | call (c : CallerId) (tenantId : TenantId)
  | read (c : CallerId)
  | lookup (c : CallerId)
  | write (c : CallerId)
  | recheck (c : CallerId)
  | construct (c : CallerId) (any : ProviderId)
  | insert (c : CallerId)
  | cancel (c : CallerId)
deriving DecidableEq, Repr

def State.goto (state : State) (c : CallerId) (phase : Phase) : State :=
  { state with phase := Function.update state.phase c phase }

/-- Guards are granted as an `RwLock` grants them; nothing between a guard and its end is awaited, so a
call is cancelled only where it waits for one. An allocation is not at the place of a living one. -/
inductive Step : State → Event → State → Prop
  | call (state : State) (c : CallerId) (tenantId : TenantId) :
      state.phase c = .idle → Step state (.call c tenantId) (state.goto c (.queuedRead tenantId))
  | read (state : State) (c : CallerId) (tenantId : TenantId) :
      state.phase c = .queuedRead tenantId → (∀ d, (state.phase d).exclusive = false) →
      Step state (.read c) (state.goto c (.reading tenantId))
  | hit (state : State) (c : CallerId) (tenantId : TenantId) (provider : ProviderId) :
      state.phase c = .reading tenantId → state.providers tenantId = some provider →
      Step state (.lookup c) (state.goto c (.returned tenantId provider))
  | miss (state : State) (c : CallerId) (tenantId : TenantId) :
      state.phase c = .reading tenantId → state.providers tenantId = none →
      Step state (.lookup c) (state.goto c (.queuedWrite tenantId))
  | write (state : State) (c : CallerId) (tenantId : TenantId) :
      state.phase c = .queuedWrite tenantId →
      (∀ d, (state.phase d).exclusive = false ∧ (state.phase d).shared = false) →
      Step state (.write c) (state.goto c (.writing tenantId))
  | rehit (state : State) (c : CallerId) (tenantId : TenantId) (provider : ProviderId) :
      state.phase c = .writing tenantId → state.providers tenantId = some provider →
      Step state (.recheck c) (state.goto c (.returned tenantId provider))
  | remiss (state : State) (c : CallerId) (tenantId : TenantId) :
      state.phase c = .writing tenantId → state.providers tenantId = none →
      Step state (.recheck c) (state.goto c (.constructing tenantId))
  | construct (state : State) (c : CallerId) (tenantId : TenantId) (any : ProviderId) :
      state.phase c = .constructing tenantId → (∀ built ∈ state.built, built.2 ≠ any) →
      Step state (.construct c any)
        { state.goto c (.inserting tenantId any) with built := (tenantId, any) :: state.built }
  | insert (state : State) (c : CallerId) (tenantId : TenantId) (any : ProviderId) :
      state.phase c = .inserting tenantId any →
      Step state (.insert c)
        { state.goto c (.returned tenantId any) with
          providers := Function.update state.providers tenantId (some any) }
  | cancelRead (state : State) (c : CallerId) (tenantId : TenantId) :
      state.phase c = .queuedRead tenantId → Step state (.cancel c) (state.goto c .idle)
  | cancelWrite (state : State) (c : CallerId) (tenantId : TenantId) :
      state.phase c = .queuedWrite tenantId → Step state (.cancel c) (state.goto c .idle)

def State.Initial (state : State) : Prop :=
  (∀ tenantId, state.providers tenantId = none) ∧ (∀ c, state.phase c = .idle) ∧ state.built = []

/-- One call has the write guard, and nobody a read guard then; what was built is in the map, or about
to be put there by the call with the guard. -/
structure Sound (state : State) : Prop where
  alone : ∀ c d, (state.phase c).exclusive = true →
    (state.phase d).exclusive = true ∨ (state.phase d).shared = true → d = c
  missing : ∀ c tenantId, state.phase c = .constructing tenantId → state.providers tenantId = none
  pending : ∀ c tenantId any, state.phase c = .inserting tenantId any →
    state.providers tenantId = none ∧ (tenantId, any) ∈ state.built
  registered : ∀ tenantId any, state.providers tenantId = some any → (tenantId, any) ∈ state.built
  used : ∀ tenantId any, (tenantId, any) ∈ state.built →
    state.providers tenantId = some any ∨ ∃ c, state.phase c = .inserting tenantId any
  once : (state.built.map Prod.fst).Nodup
  distinct : (state.built.map Prod.snd).Nodup
  answered : ∀ c tenantId provider, state.phase c = .returned tenantId provider →
    state.providers tenantId = some provider

section Steps

variable {state after : State} {event : Event} {c : CallerId}

theorem State.Initial.sound (initial : state.Initial) : Sound state := by
  rcases initial with ⟨empty, idle, none_⟩
  constructor
  · intro c d held
    rw [idle] at held
    cases held
  · intro c tenantId at_
    rw [idle] at at_
    cases at_
  · intro c tenantId any at_
    rw [idle] at at_
    cases at_
  · intro tenantId any found
    rw [empty] at found
    cases found
  · intro tenantId any member
    rw [none_] at member
    cases member
  · rw [none_]
    exact List.nodup_nil
  · rw [none_]
    exact List.nodup_nil
  · intro c tenantId provider at_
    rw [idle] at at_
    cases at_

theorem Sound.alone_goto (sound : Sound state) {phase : Phase}
    (locks : phase.exclusive = true → ∀ d, d ≠ c →
      (state.phase d).exclusive = false ∧ (state.phase d).shared = false)
    (shares : phase.shared = true → ∀ d, (state.phase d).exclusive = false) (d e : CallerId)
    (held : ((state.goto c phase).phase d).exclusive = true)
    (other : ((state.goto c phase).phase e).exclusive = true ∨
      ((state.goto c phase).phase e).shared = true) : e = d := by
  have second : (e = c ∧ (phase.exclusive = true ∨ phase.shared = true)) ∨
      (e ≠ c ∧ ((state.phase e).exclusive = true ∨ (state.phase e).shared = true)) := by
    rcases other with locked | read
    · rcases view_update_cases Phase.exclusive locked with ⟨same, here⟩ | ⟨apart, there⟩
      · exact .inl ⟨same, .inl here⟩
      · exact .inr ⟨apart, .inl there⟩
    · rcases view_update_cases Phase.shared read with ⟨same, here⟩ | ⟨apart, there⟩
      · exact .inl ⟨same, .inr here⟩
      · exact .inr ⟨apart, .inr there⟩
  rcases view_update_cases Phase.exclusive held with ⟨rfl, here⟩ | ⟨apart, there⟩
  · rcases second with ⟨same, _⟩ | ⟨away, busy⟩
    · exact same
    · rcases locks here e away with ⟨unlocked, unread⟩
      rw [unlocked, unread] at busy
      rcases busy with absurd | absurd <;> cases absurd
  · rcases second with ⟨rfl, locked | read⟩ | ⟨_, busy⟩
    · rw [(locks locked d apart).1] at there
      cases there
    · rw [shares read d] at there
      cases there
    · exact sound.alone d e there busy

theorem Sound.goto (sound : Sound state) {phase : Phase}
    (locks : phase.exclusive = true → ∀ d, d ≠ c →
      (state.phase d).exclusive = false ∧ (state.phase d).shared = false)
    (shares : phase.shared = true → ∀ d, (state.phase d).exclusive = false)
    (left : ∀ tenantId any, state.phase c ≠ .inserting tenantId any)
    (fresh : ∀ tenantId any, phase ≠ .inserting tenantId any)
    (missing : ∀ tenantId, phase = .constructing tenantId → state.providers tenantId = none)
    (answered : ∀ tenantId provider, phase = .returned tenantId provider →
      state.providers tenantId = some provider) : Sound (state.goto c phase) where
  alone := sound.alone_goto locks shares
  missing := by
    intro d tenantId at_
    rcases update_cases at_ with ⟨_, here⟩ | ⟨_, there⟩
    · exact missing tenantId here
    · exact sound.missing d tenantId there
  pending := by
    intro d tenantId any at_
    rcases update_cases at_ with ⟨_, here⟩ | ⟨_, there⟩
    · exact absurd here (fresh tenantId any)
    · exact sound.pending d tenantId any there
  registered := sound.registered
  used := by
    intro tenantId any member
    rcases sound.used tenantId any member with found | ⟨d, inserting⟩
    · exact .inl found
    · have apart : d ≠ c := by
        rintro rfl
        exact left tenantId any inserting
      exact .inr ⟨d, (Function.update_of_ne apart _ _).trans inserting⟩
  once := sound.once
  distinct := sound.distinct
  answered := by
    intro d tenantId provider at_
    rcases update_cases at_ with ⟨_, here⟩ | ⟨_, there⟩
    · exact answered tenantId provider here
    · exact sound.answered d tenantId provider there

theorem Sound.others (sound : Sound state) (held : (state.phase c).exclusive = true) (d : CallerId)
    (apart : d ≠ c) : (state.phase d).exclusive = false ∧ (state.phase d).shared = false := by
  constructor
  · apply Bool.eq_false_iff.mpr
    intro locked
    exact apart (sound.alone c d held (.inl locked))
  · apply Bool.eq_false_iff.mpr
    intro read
    exact apart (sound.alone c d held (.inr read))

theorem Sound.construct (sound : Sound state) {tenantId : TenantId} {any : ProviderId}
    (at_ : state.phase c = .constructing tenantId) (fresh : ∀ built ∈ state.built, built.2 ≠ any) :
    Sound { state.goto c (.inserting tenantId any) with
      built := (tenantId, any) :: state.built } where
  alone := sound.alone_goto (fun _ => sound.others (by rw [at_]; rfl)) (fun absurd => by cases absurd)
  missing := by
    intro d other there
    rcases update_cases there with ⟨_, here⟩ | ⟨_, there⟩
    · cases here
    · exact sound.missing d other there
  pending := by
    intro d other made there
    rcases update_cases there with ⟨_, here⟩ | ⟨_, there⟩
    · cases here
      exact ⟨sound.missing c tenantId at_, List.mem_cons_self⟩
    · rcases sound.pending d other made there with ⟨none_, member⟩
      exact ⟨none_, List.mem_cons_of_mem _ member⟩
  registered := fun other made found => List.mem_cons_of_mem _ (sound.registered other made found)
  used := by
    intro other made member
    rcases List.mem_cons.mp member with same | member
    · cases same
      exact .inr ⟨c, Function.update_self _ _ _⟩
    · rcases sound.used other made member with found | ⟨d, inserting⟩
      · exact .inl found
      · have apart : d ≠ c := by
          rintro rfl
          rw [at_] at inserting
          cases inserting
        exact .inr ⟨d, (Function.update_of_ne apart _ _).trans inserting⟩
  once := by
    rw [List.map_cons, List.nodup_cons]
    refine ⟨?_, sound.once⟩
    intro listed
    rcases List.mem_map.mp listed with ⟨⟨other, made⟩, member, rfl⟩
    rcases sound.used other made member with found | ⟨d, inserting⟩
    · rw [sound.missing c other at_] at found
      cases found
    · have same := sound.alone c d (by rw [at_]; rfl) (.inl (by rw [inserting]; rfl))
      rw [same, at_] at inserting
      cases inserting
  distinct := by
    rw [List.map_cons, List.nodup_cons]
    refine ⟨?_, sound.distinct⟩
    intro listed
    rcases List.mem_map.mp listed with ⟨built, member, same⟩
    exact fresh built member same
  answered := by
    intro d other provider there
    rcases update_cases there with ⟨_, here⟩ | ⟨_, there⟩
    · cases here
    · exact sound.answered d other provider there

theorem Sound.lone (sound : Sound state) {d : CallerId} {phase : Phase}
    (held : (state.phase c).exclusive = true) (at_ : state.phase d = phase)
    (locked : phase.exclusive = true) : d = c :=
  sound.alone c d held (.inl (by rw [at_]; exact locked))

theorem Sound.insert (sound : Sound state) {tenantId : TenantId} {any : ProviderId}
    (at_ : state.phase c = .inserting tenantId any) :
    Sound { state.goto c (.returned tenantId any) with
      providers := Function.update state.providers tenantId (some any) } := by
  have held : (state.phase c).exclusive = true := by
    rw [at_]
    rfl
  rcases sound.pending c tenantId any at_ with ⟨none_, listed⟩
  have kept : ∀ {other : TenantId} {provider : ProviderId}, state.providers other = some provider →
      Function.update state.providers tenantId (some any) other = some provider := by
    intro other provider found
    have apart : other ≠ tenantId := by
      rintro rfl
      rw [none_] at found
      cases found
    exact (Function.update_of_ne apart _ _).trans found
  constructor
  · exact sound.alone_goto (fun absurd => by cases absurd) (fun absurd => by cases absurd)
  · intro d other there
    rcases update_cases there with ⟨_, here⟩ | ⟨apart, there⟩
    · cases here
    · exact absurd (sound.lone held there rfl) apart
  · intro d other made there
    rcases update_cases there with ⟨_, here⟩ | ⟨apart, there⟩
    · cases here
    · exact absurd (sound.lone held there rfl) apart
  · intro other provider found
    rcases update_some_cases found with ⟨rfl, rfl⟩ | ⟨_, found⟩
    · exact listed
    · exact sound.registered other provider found
  · intro other made member
    rcases sound.used other made member with found | ⟨d, inserting⟩
    · exact .inl (kept found)
    · rw [sound.lone held inserting rfl, at_] at inserting
      cases inserting
      exact .inl (Function.update_self _ _ _)
  · exact sound.once
  · exact sound.distinct
  · intro d other provider there
    rcases update_cases there with ⟨_, here⟩ | ⟨_, there⟩
    · cases here
      exact Function.update_self _ _ _
    · exact kept (sound.answered d other provider there)

theorem sound_step (sound : Sound state) (taken : Step state event after) : Sound after := by
  cases taken with
  | call c tenantId at_ =>
      exact sound.goto (by simp [Phase.exclusive]) (by simp [Phase.shared]) (by simp [at_])
        (by simp) (by simp) (by simp)
  | read c tenantId at_ free =>
      exact sound.goto (by simp [Phase.exclusive]) (fun _ => free) (by simp [at_])
        (by simp) (by simp) (by simp)
  | hit c tenantId provider at_ found =>
      refine sound.goto (by simp [Phase.exclusive]) (by simp [Phase.shared]) (by simp [at_])
        (by simp) (by simp) ?_
      intro other made same
      cases same
      exact found
  | miss c tenantId at_ none_ =>
      exact sound.goto (by simp [Phase.exclusive]) (by simp [Phase.shared]) (by simp [at_])
        (by simp) (by simp) (by simp)
  | write c tenantId at_ free =>
      exact sound.goto (fun _ d _ => free d) (by simp [Phase.shared]) (by simp [at_])
        (by simp) (by simp) (by simp)
  | rehit c tenantId provider at_ found =>
      refine sound.goto (by simp [Phase.exclusive]) (by simp [Phase.shared]) (by simp [at_])
        (by simp) (by simp) ?_
      intro other made same
      cases same
      exact found
  | remiss c tenantId at_ none_ =>
      refine sound.goto (fun _ => sound.others (by rw [at_]; rfl)) (by simp [Phase.shared])
        (by simp [at_]) (by simp) ?_ (by simp)
      intro other same
      cases same
      exact none_
  | construct c tenantId any at_ fresh => exact sound.construct at_ fresh
  | insert c tenantId any at_ => exact sound.insert at_
  | cancelRead c tenantId at_ | cancelWrite c tenantId at_ =>
      exact sound.goto (by simp [Phase.exclusive]) (by simp [Phase.shared]) (by simp [at_])
        (by simp) (by simp) (by simp)

end Steps

section Runs

variable {state first last : State} {trace : List Event}

theorem reached_sound (initial : first.Initial) (run : Run Step first trace last) : Sound last :=
  run.invariant Sound (fun _ _ _ sound taken => sound_step sound taken) initial.sound

def Phase.underway : Phase → Bool
  | idle | returned _ _ => false
  | _ => true

def Event.inside : Event → Bool
  | call _ _ | cancel _ => false
  | _ => true

theorem exists_fresh (built : List (TenantId × ProviderId)) : ∃ any, ∀ one ∈ built, one.2 ≠ any := by
  have bounded : ∃ bound, ∀ one ∈ built, one.2 < bound := by
    induction built with
    | nil => exact ⟨0, by simp⟩
    | cons one rest ih =>
        rcases ih with ⟨bound, below⟩
        refine ⟨max bound (one.2 + 1), ?_⟩
        intro other member
        rcases List.mem_cons.mp member with rfl | member
        · exact Nat.lt_of_lt_of_le (Nat.lt_succ_self _) (Nat.le_max_right _ _)
        · exact Nat.lt_of_lt_of_le (below other member) (Nat.le_max_left _ _)
  rcases bounded with ⟨bound, below⟩
  exact ⟨bound, fun one member => Nat.ne_of_lt (below one member)⟩

theorem exclusive_progress {c : CallerId} (held : (state.phase c).exclusive = true) :
    ∃ event after, event.inside = true ∧ Step state event after := by
  cases at_ : state.phase c with
  | writing tenantId =>
      cases found : state.providers tenantId with
      | some provider => exact ⟨.recheck c, _, rfl, .rehit state c tenantId provider at_ found⟩
      | none => exact ⟨.recheck c, _, rfl, .remiss state c tenantId at_ found⟩
  | constructing tenantId =>
      rcases exists_fresh state.built with ⟨any, fresh⟩
      exact ⟨.construct c any, _, rfl, .construct state c tenantId any at_ fresh⟩
  | inserting tenantId any => exact ⟨.insert c, _, rfl, .insert state c tenantId any at_⟩
  | idle | queuedRead | reading | queuedWrite | returned =>
      rw [at_] at held
      cases held

theorem shared_progress {c : CallerId} (held : (state.phase c).shared = true) :
    ∃ event after, event.inside = true ∧ Step state event after := by
  cases at_ : state.phase c with
  | reading tenantId =>
      cases found : state.providers tenantId with
      | some provider => exact ⟨.lookup c, _, rfl, .hit state c tenantId provider at_ found⟩
      | none => exact ⟨.lookup c, _, rfl, .miss state c tenantId at_ found⟩
  | idle | queuedRead | queuedWrite | writing | constructing | inserting | returned =>
      rw [at_] at held
      cases held

/-- Who has a guard gets on, and where nobody has one it is granted. -/
theorem progress {c : CallerId} (underway : (state.phase c).underway = true) :
    ∃ event after, event.inside = true ∧ Step state event after := by
  by_cases exclusive : ∃ d, (state.phase d).exclusive = true
  · rcases exclusive with ⟨d, held⟩
    exact exclusive_progress held
  · by_cases shared : ∃ d, (state.phase d).shared = true
    · rcases shared with ⟨d, held⟩
      exact shared_progress held
    · have unlocked : ∀ d, (state.phase d).exclusive = false :=
        fun d => Bool.eq_false_iff.mpr fun held => exclusive ⟨d, held⟩
      have unread : ∀ d, (state.phase d).shared = false :=
        fun d => Bool.eq_false_iff.mpr fun held => shared ⟨d, held⟩
      cases at_ : state.phase c with
      | queuedRead tenantId => exact ⟨.read c, _, rfl, .read state c tenantId at_ unlocked⟩
      | queuedWrite tenantId =>
          exact ⟨.write c, _, rfl, .write state c tenantId at_ fun d => ⟨unlocked d, unread d⟩⟩
      | idle | returned =>
          rw [at_] at underway
          cases underway
      | reading tenantId => exact absurd ⟨c, by rw [at_]; rfl⟩ shared
      | writing tenantId | constructing tenantId | inserting tenantId any =>
          exact absurd ⟨c, by rw [at_]; rfl⟩ exclusive

theorem Sound.tenant (sound : Sound state) {one other : TenantId} {provider : ProviderId}
    (left : state.providers one = some provider) (right : state.providers other = some provider) :
    one = other := by
  have same : (one, provider) = (other, provider) :=
    List.inj_on_of_nodup_map sound.distinct (sound.registered one provider left)
      (sound.registered other provider right) rfl
  exact congrArg Prod.fst same

/-- Callers of one tenant share a provider, and callers of two have two; a tenant's is built once; and
where a call is on its way, one of them gets on. -/
theorem one_provider_per_tenant (initial : first.Initial) (run : Run Step first trace last) :
    (∀ c d tenantId other provider another, last.phase c = .returned tenantId provider →
      last.phase d = .returned other another → (provider = another ↔ tenantId = other)) ∧
    (last.built.map Prod.fst).Nodup ∧
    ∀ c, (last.phase c).underway = true → ∃ event after, event.inside = true ∧
      Step last event after := by
  have sound := reached_sound initial run
  refine ⟨?_, sound.once, fun c underway => progress underway⟩
  intro c d tenantId other provider another left right
  have here := sound.answered c tenantId provider left
  have there := sound.answered d other another right
  constructor
  · rintro rfl
    exact sound.tenant here there
  · rintro rfl
    exact Option.some.inj (here.symm.trans there)

def noProviders : State := ⟨fun _ => none, fun _ => .idle, []⟩

/-- Two calls for one tenant that both find nothing under their read guards. -/
def raceTrace (tenantId : TenantId) : List Event :=
  [.call 0 tenantId, .call 1 tenantId, .read 0, .read 1, .lookup 0, .lookup 1, .write 0, .recheck 0,
    .construct 0 7, .insert 0, .write 1, .recheck 1]

theorem raceTrace_run (tenantId : TenantId) : ∃ last, Run Step noProviders (raceTrace tenantId) last ∧
    last.phase 0 = .returned tenantId 7 ∧ last.phase 1 = .returned tenantId 7 := by
  refine ⟨_, .cons (.call _ 0 tenantId rfl) (.cons (.call _ 1 tenantId rfl)
    (.cons (.read _ 0 tenantId rfl ?_) (.cons (.read _ 1 tenantId rfl ?_)
    (.cons (.miss _ 0 tenantId rfl rfl) (.cons (.miss _ 1 tenantId rfl rfl)
    (.cons (.write _ 0 tenantId rfl ?_) (.cons (.remiss _ 0 tenantId rfl rfl)
    (.cons (.construct _ 0 tenantId 7 rfl ?_) (.cons (.insert _ 0 tenantId 7 rfl)
    (.cons (.write _ 1 tenantId rfl ?_) (.single (.rehit _ 1 tenantId 7 rfl ?_)))))))))))),
    rfl, rfl⟩
  · intro d
    simp only [State.goto, Function.update_apply]
    split_ifs <;> rfl
  · intro d
    simp only [State.goto, Function.update_apply]
    split_ifs <;> rfl
  · intro d
    simp only [State.goto, Function.update_apply]
    split_ifs <;> exact ⟨rfl, rfl⟩
  · simp [State.goto, noProviders]
  · intro d
    simp only [State.goto, Function.update_apply]
    split_ifs <;> exact ⟨rfl, rfl⟩
  · simp [State.goto]

theorem one_provider_per_tenant_sample : ∃ last,
    Run Step noProviders (raceTrace ⟨"t"⟩) last ∧ (last.built.map Prod.fst).Nodup := by
  rcases raceTrace_run ⟨"t"⟩ with ⟨last, run, _⟩
  exact ⟨last, run, (one_provider_per_tenant ⟨fun _ => rfl, fun _ => rfl, rfl⟩ run).2.1⟩

end Runs

end SwiyuIssuer.Oauth.Registry
