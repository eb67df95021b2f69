import SwiyuIssuer.Bff.Handshake
import SwiyuIssuer.Library.UrlReference

/-! Where a browser goes after a login: the `return_to` of its request, through the pending login and
the callback into a `Location`, as a URL of the BFF's origin or of another one. -/

namespace SwiyuIssuer.Bff

open Library UrlReference

/-- A path that is passed on has no slash or backslash behind its first one, in what a browser reads
of it, or names the origin itself there. -/
def Stays (parseHost : List Char → Option String) (base : Origin) (raw : Option String) : Prop :=
  ∀ path rest, raw = some path → path.toList = '/' :: rest → rest.head? ≠ some '/' →
    ¬ SecondIsSlash path.toList ∨
      parseAuthority parseHost (authorityOf (trimmed path.toList)) = some base

theorem resolve_sanitizeReturnTo_iff (parseHost : List Char → Option String) (base : Origin)
    (raw : Option String) :
    resolve parseHost base (sanitizeReturnTo raw).toList = some base ↔ Stays parseHost base raw := by
  have home : resolve parseHost base "/".toList = some base := rfl
  cases raw with
  | none => exact iff_of_true home fun path rest given => nomatch given
  | some path =>
      by_cases kept : ∃ rest, path.toList = '/' :: rest ∧ rest.head? ≠ some '/'
      · obtain ⟨rest, spelled, single⟩ := kept
        have same : sanitizeReturnTo (some path) = path := by
          simp only [sanitizeReturnTo]
          split
          · next twice => exact absurd (by rw [(List.cons.inj (spelled.symm.trans twice)).2]; rfl) single
          · rfl
          · next other => exact absurd spelled (other rest)
        rw [same, Stays, spelled, resolve_eq_base_iff]
        constructor
        · intro stays other rest given
          cases given
          exact fun _ _ => spelled ▸ stays
        · intro stays
          exact spelled ▸ stays path rest rfl spelled single
      · have same : sanitizeReturnTo (some path) = "/" := by
          simp only [sanitizeReturnTo]
          split
          · rfl
          · next rest twice spelled =>
              refine absurd ⟨rest, spelled, ?_⟩ kept
              intro second
              obtain ⟨behind, shape⟩ := List.head?_eq_some_iff.mp second
              exact twice behind shape
          · rfl
        rw [same]
        refine iff_of_true home ?_
        intro other rest given spelled single
        cases given
        exact absurd ⟨rest, spelled, single⟩ kept

namespace World

/-- Where the browser of a request is sent, once it is through. -/
def destination : Request → Option String
  | .taken callback _ | .verified callback _ | .resolved callback _ | .responding callback _ =>
      some callback.pending.returnTo
  | .loggedIn returnTo => some returnTo
  | .idle | .failed _ | .serverError | .dropped => none

structure Destined (good : String → Prop) (world : World) : Prop where
  pending : ∀ state login, world.pending state = some login → good login.returnTo
  requests : ∀ request returnTo,
    destination (world.requests request) = some returnTo → good returnTo

variable {good : String → Prop} {world after : World}

theorem Destined.goto (destined : world.Destined good) {request : RequestId} {later : Request}
    (from_ : ∀ returnTo, destination later = some returnTo → good returnTo) :
    (world.goto request later).Destined good where
  pending := destined.pending
  requests other returnTo at_ := by
    by_cases same : other = request
    · subst same
      simp only [World.goto, Function.update_self] at at_
      exact from_ returnTo at_
    · simp only [World.goto, Function.update_of_ne same] at at_
      exact destined.requests other returnTo at_

theorem Destined.goto_nowhere (destined : world.Destined good) {request : RequestId}
    {later : Request} (nowhere : destination later = none) :
    (world.goto request later).Destined good := by
  apply destined.goto
  intro returnTo at_
  rw [nowhere] at at_
  cases at_

/-- A callback that is under way goes to its pending login's destination, or nowhere. -/
theorem Destined.onwards (destined : world.Destined good) {request : RequestId}
    {callback : Callback} {later : Request}
    (held : destination (world.requests request) = some callback.pending.returnTo)
    (leads : destination later = some callback.pending.returnTo ∨ destination later = none) :
    (world.goto request later).Destined good := by
  rcases leads with same | nowhere
  · apply destined.goto
    intro returnTo at_
    cases same.symm.trans at_
    exact destined.requests request _ held
  · exact destined.goto_nowhere nowhere

theorem Destined.callback (destined : world.Destined good) {request : RequestId}
    {browser : Browser} {query : CallbackQuery}
    (taken : world.callbackStep request browser query = some after) : after.Destined good := by
  have without (state : String) : ({ world with
      pending := Function.update world.pending state none } : World).Destined good :=
    ⟨fun other login there => destined.pending other login (update_none there).2,
      destined.requests⟩
  simp only [callbackStep] at taken
  split at taken
  · split at taken
    · cases taken
      exact destined.goto_nowhere rfl
    · split at taken
      · cases taken
        exact destined.goto_nowhere rfl
      · next pending found =>
          cases taken
          apply (without _).goto
          intro returnTo same
          cases same
          exact destined.pending _ pending found
    · cases taken
      exact destined.goto_nowhere rfl
  · cases taken

theorem Destined.resolveAccounts (destined : world.Destined good) {request : RequestId}
    {answer : Except String Json} {nowUnix : Int}
    (taken : world.resolveAccountsStep request answer nowUnix = some after) :
    after.Destined good := by
  simp only [resolveAccountsStep] at taken
  split at taken
  · next callback user at_ =>
      have held : destination (world.requests request) = some callback.pending.returnTo := by
        rw [at_]
        rfl
      cases answer with
      | error error =>
          cases taken
          exact destined.onwards held (.inr rfl)
      | ok resolved =>
          dsimp only at taken
          split at taken
          · cases taken
            exact destined.onwards held (.inr rfl)
          · cases taken
            exact destined.onwards held (.inl rfl)
  · cases taken

theorem Destined.finish (destined : world.Destined good) {request : RequestId}
    {saved : Except String Unit} (taken : world.finishStep request saved = some after) :
    after.Destined good := by
  simp only [finishStep] at taken
  split at taken
  · next callback data at_ =>
      have held : destination (world.requests request) = some callback.pending.returnTo := by
        rw [at_]
        rfl
      split at taken
      · cases taken
        have kept : (world.complete request callback data).Destined good :=
          ⟨destined.pending, destined.requests⟩
        exact kept.onwards held (.inl rfl)
      · cases taken
        exact destined.onwards held (.inr rfl)
  · cases taken

theorem Destined.step (destined : world.Destined good) {event : Event}
    (given : ∀ browser raw secrets, event = .login browser raw secrets → good (sanitizeReturnTo raw))
    (taken : world.next event = some after) : after.Destined good := by
  cases event with
  | tick elapsed =>
      cases taken
      exact ⟨destined.pending, destined.requests⟩
  | login browser raw secrets =>
      simp only [next, loginStep] at taken
      split at taken
      · cases taken
      · cases taken
        refine ⟨?_, destined.requests⟩
        intro state login found
        rcases update_some_cases found with ⟨-, rfl⟩ | ⟨-, old⟩
        · exact given browser raw secrets rfl
        · exact destined.pending state login old
  | callback request browser query => exact destined.callback taken
  | completeLogin request answer =>
      simp only [next, completeLoginStep] at taken
      split at taken
      · next at_ =>
          split at taken
          · cases taken
            exact destined.goto_nowhere rfl
          · cases taken
            exact destined.onwards (by rw [at_]; rfl) (.inl rfl)
      · cases taken
  | resolveAccounts request answer nowUnix => exact destined.resolveAccounts taken
  | insert request inserted =>
      simp only [next, insertStep] at taken
      split at taken
      · next at_ =>
          split at taken
          · cases taken
            exact destined.goto_nowhere rfl
          · cases taken
            exact destined.onwards (by rw [at_]; rfl) (.inl rfl)
      · cases taken
  | finish request saved => exact destined.finish taken
  | drop request =>
      simp only [next, dropStep] at taken
      split at taken
      · cases taken
        exact destined.goto_nowhere rfl
      · cases taken
  | sweep =>
      cases taken
      refine ⟨?_, destined.requests⟩
      intro state login found
      exact destined.pending state login (Option.filter_eq_some_iff.mp found).1

theorem Destined.run {start last : World} {trace : List Event}
    (run : Run (Steps next) start trace last) (destined : start.Destined good)
    (given : ∀ browser raw secrets, Event.login browser raw secrets ∈ trace →
      good (sanitizeReturnTo raw)) : last.Destined good := by
  refine (run.among fun event listed => listed).invariant (Destined good) ?_ destined
  intro world event after destined taken
  apply destined.step _ taken.2
  rintro browser raw secrets rfl
  exact given browser raw secrets taken.1

theorem Initial.destined (initial : world.Initial) : world.Destined good where
  pending state login found := by simp [initial.pending] at found
  requests request returnTo at_ := by simp [initial.requests, destination] at at_

end World

/-- A successful callback redirects to what a login request of the run gave; and the `Location` of
what is given is a URL of the BFF's origin exactly when it stays. -/
theorem return_to_stays_iff {start last : World} {trace : List Event} (initial : start.Initial)
    (run : Run (Steps World.next) start trace last) :
    (∀ request returnTo, last.requests request = .loggedIn returnTo →
      ∃ browser raw secrets, Event.login browser raw secrets ∈ trace ∧
        returnTo = sanitizeReturnTo raw) ∧
    ∀ (parseHost : List Char → Option String) (base : Origin) (raw : Option String) (location : String),
      redirectTo (sanitizeReturnTo raw) = some location →
      (resolve parseHost base location.toList = some base ↔ Stays parseHost base raw) := by
  constructor
  · intro request returnTo done
    have destined := World.Destined.run run (@World.Initial.destined (fun path =>
      ∃ browser raw secrets, Event.login browser raw secrets ∈ trace ∧ path = sanitizeReturnTo raw)
      start initial) (fun browser raw secrets listed => ⟨browser, raw, secrets, listed, rfl⟩)
    exact destined.requests request returnTo (by rw [done]; rfl)
  · intro parseHost base raw location sent
    have same : location = sanitizeReturnTo raw := by
      rw [redirectTo] at sent
      split at sent
      · exact (Option.some.inj sent).symm
      · cases sent
    rw [same]
    exact resolve_sanitizeReturnTo_iff parseHost base raw

section Sample

open World

def bffOrigin : Origin := ⟨"bff.example", none⟩

/-- The host parser, on a domain name in lower case. -/
def parseDomain (text : List Char) : Option String := some (String.ofList text)

def loginWith (returnTo : String) : List Event :=
  .login 0 (some returnTo) ⟨"s", "nonce", "verifier"⟩ :: sampleCallback 0 0 "s"

theorem loggedIn_of_exec {trace : List Event} {returnTo : String}
    (computed : (exec next sampleStart trace).map (fun world => world.requests 0) =
      some (.loggedIn returnTo)) :
    ∃ last, Run (Steps next) sampleStart trace last ∧ last.requests 0 = .loggedIn returnTo := by
  obtain ⟨last, reached, done⟩ := Option.map_eq_some_iff.mp computed
  exact ⟨last, Run.of_exec reached, done⟩

theorem return_to_stays_iff_sample : ∃ last,
    Run (Steps next) sampleStart (loginWith "/a/b?x=1") last ∧
      last.requests 0 = .loggedIn "/a/b?x=1" ∧
      resolve parseDomain bffOrigin "/a/b?x=1".toList = some bffOrigin := by
  obtain ⟨last, run, done⟩ := @loggedIn_of_exec (loginWith "/a/b?x=1") "/a/b?x=1" (by decide)
  have stays : Stays parseDomain bffOrigin (some "/a/b?x=1") := by
    intro path rest given spelled single
    cases given
    exact .inl (by decide)
  exact ⟨last, run, done,
    ((return_to_stays_iff sampleStart_initial run).2 parseDomain bffOrigin _ _ rfl).mpr stays⟩

/-- A backslash, or a tab between two slashes, takes the browser to another host. -/
theorem backslash_and_tab_leave_the_origin :
    (∃ last, Run (Steps next) sampleStart (loginWith "/\\evil.example") last ∧
      last.requests 0 = .loggedIn "/\\evil.example") ∧
    redirectTo "/\\evil.example" = some "/\\evil.example" ∧
    resolve parseDomain bffOrigin "/\\evil.example".toList = some ⟨"evil.example", none⟩ ∧
    redirectTo (sanitizeReturnTo (some "/\t/evil.example")) = some "/\t/evil.example" ∧
    resolve parseDomain bffOrigin "/\t/evil.example".toList = some ⟨"evil.example", none⟩ :=
  ⟨loggedIn_of_exec (by decide), by decide, by decide, by decide, by decide⟩

end Sample

end SwiyuIssuer.Bff
