import SwiyuIssuer.Bff.Rotation

/-! The three routes that decide by themselves whether a session is live: `/api/me`,
`select-account`, and the guard of the others. -/

namespace SwiyuIssuer.Bff

open Library

/-- What the store answers to a request: `none` is no session, or one past its idle timeout. -/
abbrev Loaded := Except String (Option SessionData)

inductive Response (α : Type)
  | ok (body : α)
  | unauthenticated
  | badRequest (message : String)
  | internalError
deriving DecidableEq, Repr

def Response.isOk {α : Type} : Response α → Bool
  | ok _ => true
  | _ => false

structure Identity where
  iss : String
  sub : String
deriving DecidableEq, Repr

structure MeResponse where
  identity : Identity
  selectedAccount : SessionAccount
  accounts : List SessionAccount
deriving DecidableEq, Repr

def getMe : Loaded → Response MeResponse
  | .error _ => .internalError
  | .ok none => .unauthenticated
  | .ok (some data) =>
      match data.selected with
      | none => .unauthenticated
      | some selectedAccount => .ok ⟨⟨data.iss, data.sub⟩, selectedAccount, data.accounts⟩

/-- `absolute_timeout_secs as i64`. -/
def timeout (absoluteTimeoutSecs : UInt64) : Int := absoluteTimeoutSecs.toInt64.toInt

/-- `ok` passes the request on to its handler. -/
def requireSession (absoluteTimeoutSecs : UInt64) (nowUnix : Int) : Loaded → Response Unit
  | .error _ => .internalError
  | .ok none => .unauthenticated
  | .ok (some data) =>
      if data.isLive nowUnix (timeout absoluteTimeoutSecs) && data.selected.isSome then .ok ()
      else .unauthenticated

/-- The handler, whose `session.insert` answers with `inserted`. -/
def selectAccount (accountId : String) (inserted : Except String Unit) :
    Loaded → Response SessionAccount
  | .error _ => .internalError
  | .ok none => .unauthenticated
  | .ok (some data) =>
      if data.accounts.any fun account => account.id == accountId then
        let data := { data with selectedAccountId := accountId }
        match inserted with
        | .error _ => .internalError
        | .ok () =>
            match data.selected with
            | some account => .ok account
            | none => .internalError
      else .badRequest "unknown account"

/-- All routes answer, or none: for each account of the session that is selected. -/
structure Agree (absoluteTimeoutSecs : UInt64) (nowUnix : Int) (content : Option SessionData) :
    Prop where
  me : (getMe (.ok content)).isOk = (requireSession absoluteTimeoutSecs nowUnix (.ok content)).isOk
  select : ∀ data, content = some data → ∀ account ∈ data.accounts,
    (selectAccount account.id (.ok ()) (.ok content)).isOk =
      (requireSession absoluteTimeoutSecs nowUnix (.ok content)).isOk

theorem selectAccount_isOk {data : SessionData} {account : SessionAccount}
    (listed : account ∈ data.accounts) :
    (selectAccount account.id (.ok ()) (.ok (some data))).isOk = true := by
  have present : (data.accounts.any fun other => other.id == account.id) = true :=
    List.any_eq_true.mpr ⟨account, listed, beq_self_eq_true _⟩
  have found : (data.accounts.find? fun other => other.id == account.id).isSome = true :=
    List.find?_isSome.mpr ⟨account, listed, beq_self_eq_true _⟩
  obtain ⟨selected, named⟩ := Option.isSome_iff_exists.mp found
  simp [selectAccount, present, SessionData.selected, named, Response.isOk]

theorem getMe_isOk (data : SessionData) :
    (getMe (.ok (some data))).isOk = data.selected.isSome := by
  cases selected : data.selected with
  | none => simp [getMe, selected, Response.isOk]
  | some account => simp [getMe, selected, Response.isOk]

theorem requireSession_isOk (absoluteTimeoutSecs : UInt64) (nowUnix : Int) (data : SessionData) :
    (requireSession absoluteTimeoutSecs nowUnix (.ok (some data))).isOk =
      (data.isLive nowUnix (timeout absoluteTimeoutSecs) && data.selected.isSome) := by
  rw [requireSession]
  split
  · next live =>
      rw [live]
      rfl
  · next dead => exact (Bool.not_eq_true _ ▸ dead : _ = false).symm

theorem agree_iff (absoluteTimeoutSecs : UInt64) (nowUnix : Int) (content : Option SessionData) :
    Agree absoluteTimeoutSecs nowUnix content ↔ ∀ data, content = some data →
      data.accounts = [] ∨
        data.isLive nowUnix (timeout absoluteTimeoutSecs) = true ∧ data.selected.isSome = true := by
  constructor
  · rintro agree data rfl
    cases listed : data.accounts with
    | nil => exact .inl rfl
    | cons account others =>
        have member : account ∈ data.accounts := listed ▸ List.mem_cons_self
        have passed := agree.select data rfl account member
        rw [selectAccount_isOk member, requireSession_isOk] at passed
        exact .inr (Bool.and_eq_true_iff.mp passed.symm)
  · intro condition
    cases content with
    | none => exact ⟨rfl, fun data same => nomatch same⟩
    | some data =>
        rcases condition data rfl with empty | ⟨live, selected⟩
        · have unselected : data.selected = none := by simp [SessionData.selected, empty]
          refine ⟨?_, ?_⟩
          · simp [getMe_isOk, requireSession_isOk, unselected]
          · intro other same account listed
            cases same
            rw [empty] at listed
            cases listed
        · refine ⟨?_, ?_⟩
          · simp [getMe_isOk, requireSession_isOk, live, selected]
          · intro other same account listed
            cases same
            simp [selectAccount_isOk listed, requireSession_isOk, live, selected]

namespace SharedSession

/-- The parts of a session that a login fixes. -/
def SameLogin (login data : SessionData) : Prop :=
  data.loggedInAtUnix = login.loggedInAtUnix ∧ data.accounts = login.accounts

/-- The stored session and every copy of it are of one login. -/
structure OneLogin (login : SessionData) (world : World) : Prop where
  stored : SameLogin login world.stored
  copied : ∀ request, ∀ data ∈ (world.requests request).copies, SameLogin login data

namespace OneLogin

variable {login : SessionData} {world after : World}

theorem goto (one : OneLogin login world) {request : RequestId} {later : Request}
    (from_ : ∀ data ∈ later.copies, SameLogin login data) :
    OneLogin login (world.goto request later) where
  stored := one.stored
  copied other data found := by
    rcases World.goto_copies found with ⟨-, here⟩ | ⟨-, there⟩
    · exact from_ data here
    · exact one.copied other data there

theorem goto_one (one : OneLogin login world) {request : RequestId} {later : Request}
    {data : SessionData} (copy : later.copies = [data]) (same : SameLogin login data) :
    OneLogin login (world.goto request later) := by
  apply one.goto
  intro other found
  rw [copy, List.mem_singleton] at found
  exact found ▸ same

theorem goto_none (one : OneLogin login world) {request : RequestId} {later : Request}
    (ended : later.copies = []) : OneLogin login (world.goto request later) := by
  apply one.goto
  intro data found
  rw [ended] at found
  cases found

theorem readSession (one : OneLogin login world) {absoluteTimeoutSecs : Int} {request : RequestId}
    (taken : world.readSessionStep absoluteTimeoutSecs request = some after) :
    OneLogin login after := by
  simp only [World.readSessionStep] at taken
  split at taken
  · split at taken
    · split at taken
      · cases taken
        exact one.goto_one rfl one.stored
      · cases taken
        exact one.goto_one rfl one.stored
    · cases taken
      exact one.goto_one rfl one.stored
  · cases taken

theorem refresh (one : OneLogin login world) {request : RequestId} {answer : GrantAnswer}
    (taken : world.refreshStep request answer = some after) : OneLogin login after := by
  simp only [World.refreshStep] at taken
  split at taken
  · next data at_ =>
      have held := one.copied request data (by simp [at_, Request.copies])
      have rejected : OneLogin login ((world.called data).reject request) :=
        ⟨one.stored, one.copied⟩
      have rotated (granted : Tokens) : OneLogin login ((world.called data).rotate granted) :=
        ⟨one.stored, one.copied⟩
      cases answer with
      | unreached =>
          cases taken
          exact one.goto_one rfl held
      | issued granted expiresIn =>
          dsimp only at taken
          split at taken
          · split at taken
            · cases taken
              apply (rotated granted).goto
              intro copy found
              rcases List.mem_pair.mp found with rfl | rfl
              · exact held
              · exact held
            · cases taken
          · cases taken
            exact rejected.goto_one rfl held
      | lost granted =>
          dsimp only at taken
          split at taken
          · split at taken
            · cases taken
              exact (rotated granted).goto_one rfl held
            · cases taken
          · cases taken
            exact rejected.goto_one rfl held
  · cases taken

theorem insertion (one : OneLogin login world) {request : RequestId} {loaded data : SessionData}
    {later : Request} (held : (world.requests request).copies = [loaded, data])
    (copy : later.copies = [loaded] ∨
      later.copies = [((Session.load loaded).insert data).record]) :
    OneLogin login (world.goto request later) := by
  rcases copy with copy | copy
  · exact one.goto_one copy (one.copied request loaded (by simp [held]))
  · exact one.goto_one (copy.trans (by rw [Session.insert_record]))
      (one.copied request data (by simp [held]))

theorem insertRefreshed (one : OneLogin login world) {request : RequestId}
    {inserted : Except String Unit}
    (taken : world.insertRefreshedStep request inserted = some after) : OneLogin login after := by
  simp only [World.insertRefreshedStep] at taken
  split at taken
  · next loaded data at_ =>
      cases inserted with
      | error error =>
          cases taken
          exact one.insertion (by rw [at_]; rfl) (.inl rfl)
      | ok done =>
          cases taken
          exact one.insertion (by rw [at_]; rfl) (.inr rfl)
  · cases taken

theorem insertSelection (one : OneLogin login world) {request : RequestId}
    {inserted : Except String Unit}
    (taken : world.insertSelectionStep request inserted = some after) : OneLogin login after := by
  simp only [World.insertSelectionStep] at taken
  split at taken
  · next loaded data at_ =>
      cases inserted with
      | error error =>
          cases taken
          exact one.insertion (by rw [at_]; rfl) (.inl rfl)
      | ok done =>
          cases taken
          exact one.insertion (by rw [at_]; rfl) (.inr rfl)
  · cases taken

theorem readForSelection (one : OneLogin login world) {request : RequestId} {accountId : String}
    (taken : world.readForSelectionStep request accountId = some after) : OneLogin login after := by
  simp only [World.readForSelectionStep] at taken
  split at taken
  · split at taken
    · cases taken
      apply one.goto
      intro data found
      rcases List.mem_pair.mp found with rfl | rfl
      · exact one.stored
      · exact one.stored
    · cases taken
      exact one.goto_one rfl one.stored
  · cases taken

theorem finish (one : OneLogin login world) {request : RequestId} {saved : Except String Unit}
    (taken : world.finishStep request saved = some after) : OneLogin login after := by
  simp only [World.finishStep] at taken
  split at taken
  · next session answer at_ =>
      split at taken
      · cases saved with
        | error error =>
            cases taken
            exact one.goto_none rfl
        | ok done =>
            cases taken
            have written : OneLogin login (world.save session.record answer) :=
              ⟨one.copied request session.record (by simp [at_, Request.copies]), one.copied⟩
            exact written.goto_none rfl
      · cases taken
        exact one.goto_none rfl
  · cases taken

theorem step (one : OneLogin login world) {absoluteTimeoutSecs : Int} {event : Event}
    (taken : world.next absoluteTimeoutSecs event = some after) : OneLogin login after := by
  cases event with
  | tick elapsed =>
      cases taken
      exact ⟨one.stored, one.copied⟩
  | readSession request => exact one.readSession taken
  | refresh request answer => exact one.refresh taken
  | insertRefreshed request inserted => exact one.insertRefreshed taken
  | exchange request answer =>
      simp only [World.next, World.exchangeStep] at taken
      split at taken
      · next session at_ =>
          have held := one.copied request session.record (by simp [at_, Request.copies])
          split at taken
          · cases taken
            exact one.goto_one rfl held
          · cases taken
            exact one.goto_one rfl held
      · cases taken
  | respond request status =>
      simp only [World.next, World.respondStep] at taken
      split at taken
      · next session accountId at_ =>
          cases taken
          exact one.goto_one rfl (one.copied request session.record (by simp [at_, Request.copies]))
      · cases taken
  | readForSelection request accountId => exact one.readForSelection taken
  | insertSelection request inserted => exact one.insertSelection taken
  | finish request saved => exact one.finish taken
  | drop request =>
      simp only [World.next, World.dropStep] at taken
      split at taken
      · cases taken
        exact one.goto_none rfl
      · cases taken

end OneLogin

/-- The guard is the first step of a request that shares a session with others. -/
theorem readSession_rejects_iff (absoluteTimeoutSecs : UInt64) {world : World} {request : RequestId}
    (idle : world.requests request = .idle) :
    ∃ after, world.next (timeout absoluteTimeoutSecs) (.readSession request) = some after ∧
      (after.requests request = .responding (.load world.stored) .unauthenticated ↔
        (requireSession absoluteTimeoutSecs world.clock (.ok (some world.stored))).isOk = false) := by
  rw [requireSession_isOk]
  cases passes : world.stored.isLive world.clock (timeout absoluteTimeoutSecs) &&
      world.stored.selected.isSome with
  | false =>
      refine ⟨world.goto request (.responding (.load world.stored) .unauthenticated), ?_, by simp⟩
      simp only [World.next, World.readSessionStep, idle, passes]
      rfl
  | true =>
      by_cases expired : world.stored.kcAccessExpiryUnix ≤ world.clock
      · refine ⟨world.goto request (.refreshing world.stored), ?_, by simp⟩
        simp only [World.next, World.readSessionStep, idle, passes, expired, if_true]
      · refine ⟨world.goto request (.exchanging (.load world.stored)), ?_, by simp⟩
        simp only [World.next, World.readSessionStep, idle, passes, expired, if_true, if_false]

/-- `select-account` is the first two steps of such a request, with nothing between them. -/
theorem selectAccount_steps (absoluteTimeoutSecs : Int) {world : World} {request : RequestId}
    {accountId : String} {account : SessionAccount} (idle : world.requests request = .idle)
    (answered : selectAccount accountId (.ok ()) (.ok (some world.stored)) = .ok account) :
    ∃ after session, exec (World.next absoluteTimeoutSecs) world
      [.readForSelection request accountId, .insertSelection request (.ok ())] = some after ∧
      after.requests request = .responding session (.selected account) := by
  rw [selectAccount] at answered
  split at answered
  · next listed =>
      dsimp only at answered
      split at answered
      · next found selected =>
          cases answered
          have read : world.next absoluteTimeoutSecs (.readForSelection request accountId) =
              some (world.goto request (.selecting world.stored
                { world.stored with selectedAccountId := accountId })) := by
            simp only [World.next, World.readForSelectionStep, idle, listed, if_true]
          rw [exec, read, Option.bind_some, exec]
          simp [World.next, World.insertSelectionStep, World.goto, exec, World.selectedAnswer, selected]
      · cases answered
  · cases answered

end SharedSession

open SharedSession in
/-- The routes agree on a stored session exactly when it has no account, or is live with a selection;
and no run of guarded and `select-account` requests changes until when a session is live. -/
theorem routes_agree_iff (absoluteTimeoutSecs : UInt64) {first last : SharedSession.World}
    {trace : List SharedSession.Event} (initial : first.Initial)
    (run : Run (Steps (SharedSession.World.next (timeout absoluteTimeoutSecs))) first trace last) :
    (∀ nowUnix content, Agree absoluteTimeoutSecs nowUnix content ↔
      ∀ data, content = some data → data.accounts = [] ∨
        data.isLive nowUnix (timeout absoluteTimeoutSecs) = true ∧
          data.selected.isSome = true) ∧
    ∀ nowUnix, last.stored.isLive nowUnix (timeout absoluteTimeoutSecs) =
      first.stored.isLive nowUnix (timeout absoluteTimeoutSecs) := by
  refine ⟨fun nowUnix content => agree_iff absoluteTimeoutSecs nowUnix content, ?_⟩
  intro nowUnix
  have one := run.invariant (OneLogin first.stored)
    (fun world event after one taken => one.step taken) ⟨⟨rfl, rfl⟩, fun request data found => by
      simp [initial.requests, Request.copies] at found⟩
  rw [SessionData.isLive, SessionData.isLive, one.stored.1]

section Sample

open SharedSession

theorem routes_agree_iff_sample : ∃ last,
    Run (Steps (SharedSession.World.next (timeout 1000))) sampleLogin
      [.readForSelection 1 "b", .insertSelection 1 (.ok ()), .finish 1 (.ok ())] last ∧
    Agree 1000 500 (some sampleData) ∧
    last.stored.isLive 500 (timeout 1000) = sampleData.isLive 500 (timeout 1000) := by
  obtain ⟨last, run⟩ : ∃ last, Run (Steps (SharedSession.World.next (timeout 1000))) sampleLogin
      [.readForSelection 1 "b", .insertSelection 1 (.ok ()), .finish 1 (.ok ())] last :=
    ⟨_, Run.of_exec rfl⟩
  have routes := routes_agree_iff 1000 sampleLogin_initial run
  refine ⟨last, run, (routes.1 500 (some sampleData)).mpr ?_, routes.2 500⟩
  intro data same
  cases same
  exact .inr (by decide)

/-- At the end of its lifetime, the guard turns a session away that can still be read and given
another selection. -/
theorem expired_session_is_read_and_modified :
    requireSession 1000 1000 (.ok (some sampleData)) = .unauthenticated ∧
    getMe (.ok (some sampleData)) =
      .ok ⟨⟨"https://realm", "user"⟩, ⟨"a", "t", none, "a"⟩, sampleData.accounts⟩ ∧
    selectAccount "b" (.ok ()) (.ok (some sampleData)) = .ok ⟨"b", "t", none, "b"⟩ ∧
    ¬ Agree 1000 1000 (some sampleData) := by
  refine ⟨by decide, by decide, by decide, ?_⟩
  intro agree
  exact absurd agree.me (by decide)

end Sample

end SwiyuIssuer.Bff
