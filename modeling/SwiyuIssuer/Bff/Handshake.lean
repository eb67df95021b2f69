import SwiyuIssuer.Bff.Login
import SwiyuIssuer.Library.Update
import Mathlib.Data.List.Nodup

/-! What the login handshake guarantees over every run, and what it leaves to the browsers and to
the clock. -/

namespace SwiyuIssuer.Bff

open Library

namespace World

/-- Every session was written for the browser that had started the login with its state, in time. -/
def Bound (world : World) : Prop :=
  ∀ completion ∈ world.completions, ∃ login ∈ world.started, login.state = completion.state ∧
    login.browser = completion.browser ∧ completion.at_ ≤ login.at_ + pendingLoginTtl

instance (world : World) : Decidable world.Bound :=
  inferInstanceAs (Decidable (∀ completion ∈ world.completions, ∃ login ∈ world.started,
    login.state = completion.state ∧ login.browser = completion.browser ∧
      completion.at_ ≤ login.at_ + pendingLoginTtl))

/-- A callback that takes a pending login is opened in the browser that was sent to the realm with its
state, within the login's lifetime, and the clock does not pass that lifetime while it waits. -/
def Own (world : World) : Event → Prop
  | .callback _ browser query => ∀ code state login, query.error = none → query.code = some code →
      query.state = some state → world.pending state = some login →
      (∃ start ∈ world.started, start.state = state ∧ start.browser = browser) ∧
        world.clock ≤ login.createdAt + pendingLoginTtl
  | .tick elapsed => ∀ request callback, (world.requests request).callback = some callback →
      world.clock + elapsed ≤ callback.pending.createdAt + pendingLoginTtl
  | _ => True

/-- The request is a callback among the events, opened in the browser with the state. -/
def Presents (events : List Event) (request : RequestId) (browser : Browser) (state : String) : Prop :=
  ∃ query, .callback request browser query ∈ events ∧ query.error = none ∧
    query.code.isSome = true ∧ query.state = some state

/-- What is under way, completed and started comes from the events. -/
structure Traced (events : List Event) (world : World) : Prop where
  held : ∀ request callback, (world.requests request).callback = some callback →
    Presents events request callback.browser callback.state
  completed : ∀ completion ∈ world.completions,
    Presents events completion.request completion.browser completion.state
  started : ∀ login ∈ world.started, ∃ returnTo secrets,
    .login login.browser returnTo secrets ∈ events ∧ secrets.state = login.state

/-- The session that the latest completion in a browser has written. -/
def written (completions : List Completion) (browser : Browser) (before : Option SessionData) :
    Option SessionData :=
  match completions.find? fun completion => completion.browser == browser with
  | some completion => some completion.data
  | none => before

inductive Move (world : World) : Event → World → Prop
  | tick (elapsed : Nat) : Move world (.tick elapsed) { world with clock := world.clock + elapsed }
  | login (browser : Browser) (returnTo : Option String) (secrets : LoginSecrets)
      (fresh : secrets.state ∉ world.started.map Started.state) :
      Move world (.login browser returnTo secrets) { world with
        pending := Function.update world.pending secrets.state (some
          ⟨secrets.nonce, secrets.pkceVerifier, sanitizeReturnTo returnTo, world.clock⟩)
        started := ⟨secrets.state, browser, world.clock⟩ :: world.started }
  | sweep : Move world .sweep world.sweep
  | refuse (request : RequestId) (browser : Browser) (query : CallbackQuery) (code : String)
      (idle : world.requests request = .idle) :
      Move world (.callback request browser query) (world.goto request (.failed code))
  | take (request : RequestId) (browser : Browser) (query : CallbackQuery) (state code : String)
      (pending : PendingLogin) (idle : world.requests request = .idle) (granted : query.error = none)
      (coded : query.code = some code) (presented : query.state = some state)
      (found : world.pending state = some pending) :
      Move world (.callback request browser query) ({ world with
        pending := Function.update world.pending state none }.goto request
          (.taken ⟨browser, state, pending⟩ code))
  | settle (event : Event) (request : RequestId) (callback : Callback) (later : Request)
      (held : (world.requests request).callback = some callback)
      (kept : later.callback = some callback ∨ later.callback = none) :
      Move world event (world.goto request later)
  | write (request : RequestId) (callback : Callback) (data : SessionData)
      (ready : world.requests request = .responding callback data) :
      Move world (.finish request (.ok ())) ((world.complete request callback data).goto request
        (.loggedIn callback.pending.returnTo))

theorem callbackStep_move {world after : World} {request : RequestId} {browser : Browser}
    {query : CallbackQuery} (taken : world.callbackStep request browser query = some after) :
    Move world (.callback request browser query) after := by
  unfold callbackStep at taken
  split at taken
  · next idle =>
      split at taken
      · cases taken
        exact .refuse request browser query "idp" idle
      · next code state granted coded presented =>
          split at taken
          · cases taken
            exact .refuse request browser query "state" idle
          · next pending found =>
              cases taken
              exact .take request browser query state code pending idle granted coded presented found
      · cases taken
        exact .refuse request browser query "state" idle
  · cases taken

theorem completeLoginStep_move {world after : World} {request : RequestId}
    {answer : Except LoginError VerifiedUser}
    (taken : world.completeLoginStep request answer = some after) :
    Move world (.completeLogin request answer) after := by
  unfold completeLoginStep at taken
  split at taken
  · next callback code at_ =>
      have held : (world.requests request).callback = some callback := by rw [at_]; rfl
      cases answer with
      | error error =>
          cases taken
          exact .settle _ request callback _ held (.inr rfl)
      | ok user =>
          cases taken
          exact .settle _ request callback _ held (.inl rfl)
  · cases taken

theorem resolveAccountsStep_move {world after : World} {request : RequestId}
    {answer : Except String Json} {nowUnix : Int}
    (taken : world.resolveAccountsStep request answer nowUnix = some after) :
    Move world (.resolveAccounts request answer nowUnix) after := by
  unfold resolveAccountsStep at taken
  split at taken
  · next callback user at_ =>
      have held : (world.requests request).callback = some callback := by rw [at_]; rfl
      cases answer with
      | error error =>
          cases taken
          exact .settle _ request callback _ held (.inr rfl)
      | ok resolved =>
          dsimp only at taken
          split at taken
          · cases taken
            exact .settle _ request callback _ held (.inr rfl)
          · cases taken
            exact .settle _ request callback _ held (.inl rfl)
  · cases taken

theorem insertStep_move {world after : World} {request : RequestId} {inserted : Except String Unit}
    (taken : world.insertStep request inserted = some after) :
    Move world (.insert request inserted) after := by
  unfold insertStep at taken
  split at taken
  · next callback data at_ =>
      have held : (world.requests request).callback = some callback := by rw [at_]; rfl
      cases inserted with
      | error error =>
          cases taken
          exact .settle _ request callback _ held (.inr rfl)
      | ok answer =>
          cases taken
          exact .settle _ request callback _ held (.inl rfl)
  · cases taken

theorem finishStep_move {world after : World} {request : RequestId} {saved : Except String Unit}
    (taken : world.finishStep request saved = some after) :
    Move world (.finish request saved) after := by
  unfold finishStep at taken
  split at taken
  · next callback data at_ =>
      split at taken
      · cases taken
        exact .write request callback data at_
      · cases taken
        exact .settle _ request callback _ (by rw [at_]; rfl) (.inr rfl)
  · cases taken

theorem next_move {world after : World} {event : Event} (taken : world.next event = some after) :
    Move world event after := by
  cases event with
  | tick elapsed =>
      cases taken
      exact .tick elapsed
  | login browser returnTo secrets =>
      simp only [next, loginStep] at taken
      split at taken
      · cases taken
      · next fresh =>
          cases taken
          exact .login browser returnTo secrets fresh
  | callback request browser query => exact callbackStep_move taken
  | completeLogin request answer => exact completeLoginStep_move taken
  | resolveAccounts request answer nowUnix => exact resolveAccountsStep_move taken
  | insert request inserted => exact insertStep_move taken
  | finish request saved => exact finishStep_move taken
  | drop request =>
      simp only [next, dropStep] at taken
      split at taken
      · next present =>
          cases taken
          rcases Option.isSome_iff_exists.mp present with ⟨callback, held⟩
          exact .settle _ request callback _ held (.inr rfl)
      · cases taken
  | sweep =>
      cases taken
      exact .sweep

/-- A state is pending, or held by one request, or completed; what is known of its login agrees with
the history. -/
structure Sound (world : World) : Prop where
  distinct : (world.started.map Started.state).Nodup
  pending : ∀ state login, world.pending state = some login →
    ∃ start ∈ world.started, start.state = state ∧ start.at_ = login.createdAt
  held : ∀ request callback, (world.requests request).callback = some callback →
    world.pending callback.state = none ∧ ∃ start ∈ world.started,
      start.state = callback.state ∧ start.at_ = callback.pending.createdAt
  single : ∀ one two first second, (world.requests one).callback = some first →
    (world.requests two).callback = some second → first.state = second.state → one = two
  completed : ∀ completion ∈ world.completions,
    world.pending completion.state = none ∧ completion.state ∈ world.started.map Started.state ∧
      (∀ request callback, (world.requests request).callback = some callback →
        callback.state ≠ completion.state) ∧
      ∃ returnTo, world.requests completion.request = .loggedIn returnTo
  once : (world.completions.map Completion.state).Nodup

theorem Initial.sound {world : World} (initial : world.Initial) : world.Sound where
  distinct := by simp [initial.started]
  pending state login found := by simp [initial.pending] at found
  held request callback found := by simp [initial.requests, Request.callback] at found
  single one two first second found := by simp [initial.requests, Request.callback] at found
  completed completion listed := by simp [initial.completions] at listed
  once := by simp [initial.completions]

@[simp] theorem goto_requests (world : World) (request : RequestId) (later : Request) :
    (world.goto request later).requests = Function.update world.requests request later := rfl

theorem goto_callback {world : World} {request other : RequestId} {later : Request}
    {callback : Callback}
    (found : ((world.goto request later).requests other).callback = some callback) :
    (other = request ∧ later.callback = some callback) ∨
      (other ≠ request ∧ (world.requests other).callback = some callback) := by
  rcases update_cases (rfl : (world.goto request later).requests other = _) with
    ⟨same, here⟩ | ⟨different, there⟩
  · exact .inl ⟨same, (congrArg Request.callback here).trans found⟩
  · exact .inr ⟨different, (congrArg Request.callback there).trans found⟩

namespace Sound

variable {world : World}

theorem moved (sound : world.Sound) {request : RequestId} {later : Request}
    (kept : ∀ callback, later.callback = some callback →
      (world.requests request).callback = some callback)
    (open_ : ∀ returnTo, world.requests request ≠ .loggedIn returnTo) :
    (world.goto request later).Sound := by
  have before : ∀ other callback,
      ((world.goto request later).requests other).callback = some callback →
        (world.requests other).callback = some callback := by
    intro other callback found
    rcases goto_callback found with ⟨rfl, now⟩ | ⟨_, earlier⟩
    · exact kept callback now
    · exact earlier
  constructor
  case distinct => exact sound.distinct
  case pending => exact sound.pending
  case held => exact fun other callback found => sound.held other callback (before other callback found)
  case single =>
    intro one two first second atOne atTwo
    exact sound.single one two first second (before one first atOne) (before two second atTwo)
  case completed =>
    intro completion listed
    rcases sound.completed completion listed with ⟨gone, known, unheld, returnTo, done⟩
    refine ⟨gone, known, fun other callback found => unheld other callback (before other callback found),
      returnTo, ?_⟩
    have different : completion.request ≠ request := by
      rintro rfl
      exact open_ returnTo done
    rw [goto_requests, Function.update_of_ne different]
    exact done
  case once => exact sound.once

theorem login (sound : world.Sound) (browser : Browser) (entry : PendingLogin) {state : String}
    (fresh : state ∉ world.started.map Started.state) (now : entry.createdAt = world.clock) :
    Sound { world with
      pending := Function.update world.pending state (some entry)
      started := ⟨state, browser, world.clock⟩ :: world.started } := by
  have other : ∀ start ∈ world.started, start.state ≠ state := by
    rintro start listed rfl
    exact fresh (List.mem_map_of_mem listed)
  constructor
  case distinct => exact List.nodup_cons.mpr ⟨fresh, sound.distinct⟩
  case pending =>
    intro found login present
    rcases update_some_cases present with ⟨rfl, rfl⟩ | ⟨_, earlier⟩
    · exact ⟨_, List.mem_cons_self, rfl, now.symm⟩
    · rcases sound.pending found login earlier with ⟨start, listed, facts⟩
      exact ⟨start, List.mem_cons_of_mem _ listed, facts⟩
  case held =>
    intro request callback found
    rcases sound.held request callback found with ⟨gone, start, listed, named, at_⟩
    have different : callback.state ≠ state := named ▸ other start listed
    exact ⟨(Function.update_of_ne different _ _).trans gone, start, List.mem_cons_of_mem _ listed,
      named, at_⟩
  case single => exact sound.single
  case completed =>
    intro completion listed
    rcases sound.completed completion listed with ⟨gone, known, unheld, done⟩
    have different : completion.state ≠ state := by
      rintro rfl
      exact fresh known
    exact ⟨(Function.update_of_ne different _ _).trans gone, List.mem_cons_of_mem _ known, unheld,
      done⟩
  case once => exact sound.once

theorem sweep (sound : world.Sound) : world.sweep.Sound := by
  have emptied : ∀ state, world.pending state = none → world.sweep.pending state = none := by
    intro state gone
    simp [World.sweep, gone]
  constructor
  case distinct => exact sound.distinct
  case pending =>
    intro state login found
    exact sound.pending state login (Option.filter_eq_some_iff.mp found).1
  case held =>
    intro request callback found
    rcases sound.held request callback found with ⟨gone, started⟩
    exact ⟨emptied callback.state gone, started⟩
  case single => exact sound.single
  case completed =>
    intro completion listed
    rcases sound.completed completion listed with ⟨gone, rest⟩
    exact ⟨emptied completion.state gone, rest⟩
  case once => exact sound.once

theorem take (sound : world.Sound) {request : RequestId} {browser : Browser} {state code : String}
    {entry : PendingLogin} (idle : world.requests request = .idle)
    (found : world.pending state = some entry) :
    Sound ({ world with pending := Function.update world.pending state none }.goto request
      (.taken ⟨browser, state, entry⟩ code)) := by
  have emptied : ∀ other, world.pending other = none →
      Function.update world.pending state none other = none := by
    intro other gone
    by_cases same : other = state
    · rw [same, Function.update_self]
    · rw [Function.update_of_ne same, gone]
  have unheld : ∀ other callback, (world.requests other).callback = some callback →
      callback.state ≠ state := by
    rintro other callback held rfl
    rw [(sound.held other callback held).1] at found
    cases found
  -- the request that has just taken the login is the only one to hold its state
  have cases_ : ∀ other callback, ((world.goto request
      (.taken ⟨browser, state, entry⟩ code)).requests other).callback = some callback →
        (other = request ∧ callback = ⟨browser, state, entry⟩) ∨
          (world.requests other).callback = some callback := by
    intro other callback held
    rcases goto_callback held with ⟨same, now⟩ | ⟨_, earlier⟩
    · exact .inl ⟨same, (Option.some.inj now).symm⟩
    · exact .inr earlier
  constructor
  case distinct => exact sound.distinct
  case pending =>
    intro other login present
    exact sound.pending other login (update_none present).2
  case held =>
    intro other callback held
    rcases cases_ other callback held with ⟨_, rfl⟩ | held
    · exact ⟨Function.update_self .., sound.pending state entry found⟩
    · exact ⟨emptied _ (sound.held other callback held).1, (sound.held other callback held).2⟩
  case single =>
    intro one two first second atOne atTwo same
    rcases cases_ one first atOne with ⟨here, rfl⟩ | heldOne
    · rcases cases_ two second atTwo with ⟨there, _⟩ | heldTwo
      · rw [here, there]
      · exact absurd same.symm (unheld two second heldTwo)
    · rcases cases_ two second atTwo with ⟨_, rfl⟩ | heldTwo
      · exact absurd same (unheld one first heldOne)
      · exact sound.single one two first second heldOne heldTwo same
  case completed =>
    intro completion listed
    rcases sound.completed completion listed with ⟨gone, known, free, returnTo, done⟩
    refine ⟨emptied _ gone, known, ?_, returnTo, ?_⟩
    · intro other callback held
      rcases cases_ other callback held with ⟨_, rfl⟩ | held
      · rintro rfl
        rw [gone] at found
        cases found
      · exact free other callback held
    · have different : completion.request ≠ request := by
        rintro rfl
        rw [idle] at done
        cases done
      rw [goto_requests, Function.update_of_ne different]
      exact done
  case once => exact sound.once

theorem write (sound : world.Sound) {request : RequestId} {callback : Callback} {data : SessionData}
    (ready : world.requests request = .responding callback data) :
    Sound ((world.complete request callback data).goto request
      (.loggedIn callback.pending.returnTo)) := by
  have holding : (world.requests request).callback = some callback := by rw [ready]; rfl
  have before : ∀ other held, (((world.complete request callback data).goto request
      (.loggedIn callback.pending.returnTo)).requests other).callback = some held →
        other ≠ request ∧ (world.requests other).callback = some held := by
    intro other held found
    rcases goto_callback found with ⟨_, now⟩ | earlier
    · cases now
    · exact earlier
  rcases sound.held request callback holding with ⟨gone, start, listed, named, at_⟩
  constructor
  case distinct => exact sound.distinct
  case pending => exact sound.pending
  case held => exact fun other held found => sound.held other held (before other held found).2
  case single =>
    intro one two first second atOne atTwo
    exact sound.single one two first second (before one first atOne).2 (before two second atTwo).2
  case completed =>
    intro completion member
    rcases List.mem_cons.mp member with rfl | earlier
    · refine ⟨gone, named ▸ List.mem_map_of_mem listed, ?_, _, Function.update_self ..⟩
      intro other held found same
      rcases before other held found with ⟨different, found⟩
      exact different (sound.single other request held callback found holding same)
    · rcases sound.completed completion earlier with ⟨gone, known, free, returnTo, done⟩
      refine ⟨gone, known, fun other held found => free other held (before other held found).2,
        returnTo, ?_⟩
      have different : completion.request ≠ request := by
        rintro rfl
        rw [ready] at done
        cases done
      rw [goto_requests, Function.update_of_ne different]
      exact done
  case once =>
    refine List.nodup_cons.mpr ⟨?_, sound.once⟩
    intro earlier
    rcases List.mem_map.mp earlier with ⟨completion, member, same⟩
    exact (sound.completed completion member).2.2.1 request callback holding same.symm

theorem step (sound : world.Sound) {event : Event} {after : World} (move : Move world event after) :
    after.Sound := by
  cases move with
  | tick elapsed =>
      exact ⟨sound.distinct, sound.pending, sound.held, sound.single, sound.completed, sound.once⟩
  | login browser returnTo secrets fresh => exact sound.login browser _ fresh rfl
  | sweep => exact sound.sweep
  | refuse request browser query code idle =>
      apply sound.moved
      · exact fun _ absurd_ => by cases absurd_
      · intro returnTo done
        rw [idle] at done
        cases done
  | take request browser query state code pending idle granted coded presented found =>
      exact sound.take idle found
  | settle _ request callback later held kept =>
      apply sound.moved
      · intro other found
        rcases kept with same | released
        · rw [found] at same
          cases same
          exact held
        · rw [released] at found
          cases found
      · intro returnTo done
        rw [done] at held
        cases held
  | write request callback data ready => exact sound.write ready

end Sound

/-- A login of the history is the only one with its state. -/
theorem Sound.unique {world : World} (sound : world.Sound) {one two : Started}
    (first : one ∈ world.started) (second : two ∈ world.started) (same : one.state = two.state) :
    one = two :=
  List.inj_on_of_nodup_map sound.distinct first second same

/-- Whoever has taken a login is in the browser that started it, and the login is alive. -/
structure InTime (world : World) : Prop where
  bound : world.Bound
  held : ∀ request callback, (world.requests request).callback = some callback →
    (∃ start ∈ world.started, start.state = callback.state ∧ start.browser = callback.browser) ∧
      world.clock ≤ callback.pending.createdAt + pendingLoginTtl

theorem inTime_step {world after : World} {event : Event} (sound : world.Sound)
    (inTime : world.InTime) (own : world.Own event) (move : Move world event after) :
    after.InTime := by
  cases move with
  | tick elapsed =>
      exact ⟨inTime.bound, fun request callback found =>
        ⟨(inTime.held request callback found).1, own request callback found⟩⟩
  | login browser returnTo secrets fresh =>
      constructor
      · intro completion listed
        rcases inTime.bound completion listed with ⟨start, member, facts⟩
        exact ⟨start, List.mem_cons_of_mem _ member, facts⟩
      · intro request callback found
        rcases inTime.held request callback found with ⟨⟨start, member, facts⟩, alive⟩
        exact ⟨⟨start, List.mem_cons_of_mem _ member, facts⟩, alive⟩
  | sweep => exact ⟨inTime.bound, inTime.held⟩
  | refuse request browser query code idle =>
      refine ⟨inTime.bound, ?_⟩
      intro other callback found
      rcases goto_callback found with ⟨_, now⟩ | ⟨_, earlier⟩
      · cases now
      · exact inTime.held other callback earlier
  | take request browser query state code pending idle granted coded presented found =>
      refine ⟨inTime.bound, ?_⟩
      intro other callback held
      rcases goto_callback held with ⟨_, now⟩ | ⟨_, earlier⟩
      · cases now
        exact own code state pending granted coded presented found
      · exact inTime.held other callback earlier
  | settle _ request callback later held kept =>
      refine ⟨inTime.bound, ?_⟩
      intro other found_ found
      rcases goto_callback found with ⟨_, now⟩ | ⟨_, earlier⟩
      · rcases kept with same | released
        · rw [same] at now
          cases now
          exact inTime.held request callback held
        · cases released.symm.trans now
      · exact inTime.held other found_ earlier
  | write request callback data ready =>
      have held : (world.requests request).callback = some callback := by rw [ready]; rfl
      rcases (sound.held request callback held).2 with ⟨start, listed, named, at_⟩
      constructor
      · intro completion member
        rcases List.mem_cons.mp member with rfl | earlier
        · rcases inTime.held request callback held with ⟨⟨login, known, same, owner⟩, alive⟩
          have one := sound.unique known listed (same.trans named.symm)
          rw [one] at owner
          exact ⟨start, listed, named, owner, at_ ▸ alive⟩
        · exact inTime.bound completion earlier
      · intro other found_ found
        rcases goto_callback found with ⟨_, now⟩ | ⟨_, earlier⟩
        · cases now
        · exact inTime.held other found_ earlier

theorem traced_step {world after : World} {event : Event} {events : List Event}
    (traced : world.Traced events) (listed : event ∈ events) (move : Move world event after) :
    after.Traced events := by
  cases move with
  | tick elapsed => exact ⟨traced.held, traced.completed, traced.started⟩
  | login browser returnTo secrets fresh =>
      refine ⟨traced.held, traced.completed, ?_⟩
      intro login member
      rcases List.mem_cons.mp member with rfl | earlier
      · exact ⟨returnTo, secrets, listed, rfl⟩
      · exact traced.started login earlier
  | sweep => exact ⟨traced.held, traced.completed, traced.started⟩
  | refuse request browser query code idle =>
      refine ⟨?_, traced.completed, traced.started⟩
      intro other callback found
      rcases goto_callback found with ⟨_, now⟩ | ⟨_, earlier⟩
      · cases now
      · exact traced.held other callback earlier
  | take request browser query state code pending idle granted coded presented found =>
      refine ⟨?_, traced.completed, traced.started⟩
      intro other callback held
      rcases goto_callback held with ⟨rfl, now⟩ | ⟨_, earlier⟩
      · cases now
        exact ⟨query, listed, granted, by rw [coded]; rfl, presented⟩
      · exact traced.held other callback earlier
  | settle _ request callback later held kept =>
      refine ⟨?_, traced.completed, traced.started⟩
      intro other found_ found
      rcases goto_callback found with ⟨rfl, now⟩ | ⟨_, earlier⟩
      · rcases kept with same | released
        · rw [same] at now
          cases now
          exact traced.held other callback held
        · cases released.symm.trans now
      · exact traced.held other found_ earlier
  | write request callback data ready =>
      refine ⟨?_, ?_, traced.started⟩
      · intro other found_ found
        rcases goto_callback found with ⟨_, now⟩ | ⟨_, earlier⟩
        · cases now
        · exact traced.held other found_ earlier
      · intro completion member
        rcases List.mem_cons.mp member with rfl | earlier
        · exact traced.held request callback (by rw [ready]; rfl)
        · exact traced.completed completion earlier

theorem written_cons_ne {completion : Completion} {completions : List Completion}
    {browser : Browser} {before : Option SessionData} (other : completion.browser ≠ browser) :
    written (completion :: completions) browser before = written completions browser before := by
  have skipped : (completion.browser == browser) = false := by simpa using other
  simp [written, skipped]

/-- Sessions change by completions only. -/
def Kept (first : World) (world : World) : Prop :=
  ∀ browser, world.sessions browser = written world.completions browser (first.sessions browser)

theorem kept_step {first world after : World} {event : Event} (kept : Kept first world)
    (move : Move world event after) : Kept first after := by
  cases move with
  | write request callback data ready =>
      intro browser
      by_cases same : browser = callback.browser
      · subst same
        simp [complete, goto, written]
      · have other : callback.browser ≠ browser := Ne.symm same
        calc Function.update world.sessions callback.browser (some data) browser
            = world.sessions browser := Function.update_of_ne same _ _
          _ = written world.completions browser (first.sessions browser) := kept browser
          _ = _ := (written_cons_ne other).symm
  | _ => exact kept

/-- In every run each login is completed at most once, by a callback that presented its state, and a
session is written by a request that logs in and by no other. Where every callback that takes a login
is opened, in time, in the browser that started it, and waits no longer than the login lives, the
sessions are bound to the browsers that started their logins, in time. -/
theorem handshake_is_bound {first last : World} {trace : List Event} (initial : first.Initial)
    (run : Run (Steps next) first trace last) :
    (Run (Guarded Own (Steps next)) first trace last → last.Bound) ∧
      last.Traced trace ∧
      (∀ completion ∈ last.completions, completion.state ∈ last.started.map Started.state) ∧
      (last.completions.map Completion.state).Nodup ∧
      (∀ browser, last.sessions browser =
        written last.completions browser (first.sessions browser)) ∧
      ∀ completion ∈ last.completions,
        ∃ returnTo, last.requests completion.request = .loggedIn returnTo := by
  have base : ∀ world event after, Sound world → Steps next world event after → Sound after :=
    fun world event after sound taken => sound.step (next_move taken)
  have sound := run.invariant Sound base initial.sound
  have kept := run.invariant (Kept first) (fun world event after held taken =>
    kept_step held (next_move taken)) fun browser => by rw [initial.completions]; rfl
  have none_ : ∀ request callback, (first.requests request).callback ≠ some callback := by
    simp [initial.requests, Request.callback]
  have traced := (run.among fun event member => member).invariant (Traced trace)
    (fun world event after traced taken => traced_step traced taken.1 (next_move taken.2))
    ⟨fun request callback found => absurd found (none_ request callback),
      by simp [initial.completions], by simp [initial.started]⟩
  refine ⟨?_, traced, fun completion listed => (sound.completed completion listed).2.1, sound.once,
    kept, fun completion listed => (sound.completed completion listed).2.2.2⟩
  intro guarded
  have inTime := guarded.invariant_under Sound InTime
    (fun world event after sound taken => base world event after sound taken.2)
    (fun world event after sound inTime taken =>
      inTime_step sound inTime taken.1 (next_move taken.2)) initial.sound
    ⟨by simp [Bound, initial.completions], fun request callback found =>
      absurd found (none_ request callback)⟩
  exact inTime.2.bound

section Sample

def sampleStart : World where
  clock := 0
  pending _ := none
  sessions _ := none
  requests _ := .idle
  started := []
  completions := []

theorem sampleStart_initial : sampleStart.Initial := ⟨fun _ => rfl, fun _ => rfl, rfl, rfl⟩

def sampleResolved : Json := .object [("items", .array [.object [("id", .string "a1"),
  ("tenant_id", .string "t1"), ("state", .string "active")]])]

def sampleCallback (request : RequestId) (browser : Browser) (state : String) : List Event :=
  [.callback request browser ⟨some "code", some state, none, none⟩,
    .completeLogin request (.ok ⟨"https://realm", "user", "access", some "refresh", "id", 300⟩),
    .resolveAccounts request (.ok sampleResolved) 0, .insert request (.ok ()),
    .finish request (.ok ())]

def sampleLogin (browser : Browser) (state : String) : Event :=
  .login browser (some "/issuers") ⟨state, "nonce", "verifier"⟩

theorem handshake_is_bound_sample : ∃ last, Run (Steps next) sampleStart
    (sampleLogin 0 "s" :: .tick pendingLoginTtl :: sampleCallback 0 0 "s") last ∧
      (last.sessions 0).isSome = true ∧ last.Bound := by
  obtain ⟨last, guarded, session⟩ : ∃ last, Run (Guarded Own (Steps next)) sampleStart
      (sampleLogin 0 "s" :: .tick pendingLoginTtl :: sampleCallback 0 0 "s") last ∧
        (last.sessions 0).isSome = true := by
    refine ⟨_, .cons ⟨trivial, rfl⟩ (.cons ⟨?wait, rfl⟩ (.cons ⟨?callback, rfl⟩ (.cons ⟨trivial, rfl⟩
      (.cons ⟨trivial, rfl⟩ (.cons ⟨trivial, rfl⟩ (.cons ⟨trivial, rfl⟩ (.nil _))))))), rfl⟩
    case wait =>
      intro request callback held
      cases held
    case callback =>
      intro code state login granted coded presented found
      cases presented
      cases found
      exact ⟨⟨⟨"s", 0, 0⟩, List.mem_cons_self, rfl, rfl⟩, Nat.le_refl _⟩
  exact ⟨last, guarded.forget, session,
    (handshake_is_bound sampleStart_initial guarded.forget).1 guarded⟩

/-- The run logs browser 0 in with a session that was not bound to it in time. -/
def LogsInUnbound (trace : List Event) : Prop :=
  ∃ last, Run (Steps next) sampleStart trace last ∧ (last.sessions 0).isSome = true ∧ ¬last.Bound

theorem logsInUnbound_of_exec {trace : List Event}
    (computed : (exec next sampleStart trace).map (fun world =>
      ((world.sessions 0).isSome, decide world.Bound)) = some (true, false)) :
    LogsInUnbound trace := by
  rcases Option.map_eq_some_iff.mp computed with ⟨last, reached, facts⟩
  injection facts with session bound
  exact ⟨last, Run.of_exec reached, session, of_decide_eq_false bound⟩

/-- A login that browser 1 has started is completed in browser 0, and a login that no sweep has met
after its lifetime is completed late. -/
theorem foreign_or_late_callbacks_log_in :
    LogsInUnbound (sampleLogin 1 "s" :: sampleCallback 0 0 "s") ∧
      LogsInUnbound ([sampleLogin 0 "s", .tick (599 * 10 ^ 9), .sweep, .tick (59 * 10 ^ 9)] ++
        sampleCallback 0 0 "s") :=
  ⟨logsInUnbound_of_exec (by decide), logsInUnbound_of_exec (by decide)⟩

end Sample

end World

end SwiyuIssuer.Bff
