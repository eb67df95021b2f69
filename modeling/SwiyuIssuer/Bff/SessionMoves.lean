import SwiyuIssuer.Bff.SharedSession

/-! What one step does to a shared session, to the requests in it and to the realm. -/

namespace SwiyuIssuer.Bff.SharedSession

open Library

@[simp] theorem Session.insert_record (loaded data : SessionData) :
    ((Session.load loaded).insert data).record = data := by
  unfold Session.insert
  split
  · next same => exact same
  · rfl

theorem Session.unsaved_record {session : Session} {data : SessionData}
    (found : session.unsaved = some data) : session.record = data := by
  unfold Session.unsaved at found
  split at found
  · exact Option.some.inj found
  · cases found

/-- What is to be saved is one of the copies. -/
theorem Request.unsaved_copied {request : Request} {data : SessionData}
    (found : request.unsaved = some data) : data ∈ request.copies := by
  cases request with
  | refreshed loaded data =>
      have same := Session.unsaved_record found
      rw [Session.insert_record] at same
      simp [Request.copies, same]
  | exchanging session | authorized session accountId =>
      simp [Request.copies, Session.unsaved_record found]
  | responding session answer =>
      simp only [Request.unsaved] at found
      split at found
      · cases found
        exact List.mem_singleton_self _
      · cases found
  | _ => cases found

theorem Request.unsaved_responding {session : Session} {answer : Answer}
    (unsaved : session.saves answer = false) :
    (Request.responding session answer).unsaved = none := by
  simp [Request.unsaved, unsaved]

namespace World

/-- What one step can do. -/
inductive Move (world : World) : Event → World → Prop
  | tick (elapsed : Nat) : Move world (.tick elapsed) { world with clock := world.clock + elapsed }
  | settle (event : Event) (request : RequestId) (later : Request)
      (kept : (world.requests request).unsaved = later.unsaved ∧ world.Fresh event ∨
        (world.requests request).unsaved ≠ none ∧ later.unsaved = none ∧ ¬world.Fresh event)
      (copied : ∀ data ∈ later.copies, tokens data = tokens world.stored ∨
        data ∈ (world.requests request).copies) :
      Move world event (world.goto request later)
  | reject (request : RequestId) (answer : GrantAnswer) (data : SessionData)
      (at_ : world.requests request = .refreshing data) (reached : answer ≠ .unreached)
      (stale : data.kcRefreshToken ≠ world.live.refresh) :
      Move world (.refresh request answer) (((world.called data).reject request).goto request
        (.responding (.load data) .unauthenticated))
  | grant (request : RequestId) (granted : Tokens) (expiresIn : Int) (data : SessionData)
      (at_ : world.requests request = .refreshing data)
      (live : data.kcRefreshToken = world.live.refresh) (new : world.IsNew granted) :
      Move world (.refresh request (.issued granted expiresIn))
        (((world.called data).rotate granted).goto request
          (.refreshed data (renewed data granted expiresIn world.clock)))
  | lose (request : RequestId) (granted : Tokens) (data : SessionData)
      (at_ : world.requests request = .refreshing data)
      (live : data.kcRefreshToken = world.live.refresh) (new : world.IsNew granted) :
      Move world (.refresh request (.lost granted)) (((world.called data).rotate granted).goto request
        (.responding (.load data) .unauthenticated))
  | save (request : RequestId) (session : Session) (answer : Answer)
      (at_ : world.requests request = .responding session answer)
      (saves : session.saves answer = true) :
      Move world (.finish request (.ok ()))
        ((world.save session.record answer).goto request (.answered answer))

section Moves

variable {world after : World} {event : Event} {request : RequestId}

/-- A request moves on with nothing to save, before and after. -/
theorem Move.quiet {later : Request} (fresh : world.Fresh event)
    (before : (world.requests request).unsaved = none) (ended : later.unsaved = none)
    (copied : ∀ data ∈ later.copies, tokens data = tokens world.stored ∨
      data ∈ (world.requests request).copies) :
    Move world event (world.goto request later) :=
  .settle event request later (.inl ⟨before.trans ended.symm, fresh⟩) copied

/-- A request gives up what it has to save. -/
theorem Move.release {later : Request}
    (fresh : world.Fresh event ↔ (world.requests request).unsaved = none)
    (ended : later.unsaved = none)
    (copied : ∀ data ∈ later.copies, tokens data = tokens world.stored ∨
      data ∈ (world.requests request).copies) :
    Move world event (world.goto request later) := by
  apply Move.settle event request later _ copied
  by_cases nothing : (world.requests request).unsaved = none
  · exact .inl ⟨nothing.trans ended.symm, fresh.mpr nothing⟩
  · exact .inr ⟨nothing, ended, fun held => nothing (fresh.mp held)⟩

theorem readSessionStep_move {absoluteTimeoutSecs : Int}
    (taken : world.readSessionStep absoluteTimeoutSecs request = some after) :
    Move world (.readSession request) after := by
  unfold readSessionStep at taken
  split at taken
  · next idle =>
      have nothing : (world.requests request).unsaved = none := by rw [idle]; rfl
      have copied : ∀ data ∈ [world.stored], tokens data = tokens world.stored ∨
          data ∈ (world.requests request).copies := by simp
      dsimp only at taken
      split at taken
      · split at taken
        · cases taken
          exact .quiet trivial nothing rfl copied
        · cases taken
          exact .quiet trivial nothing rfl copied
      · cases taken
        exact .quiet trivial nothing rfl copied
  · cases taken

theorem refreshStep_move {answer : GrantAnswer}
    (taken : world.refreshStep request answer = some after) :
    Move world (.refresh request answer) after := by
  unfold refreshStep at taken
  split at taken
  · next data at_ =>
      cases answer with
      | unreached =>
          cases taken
          exact .quiet (fun _ _ => trivial) (by rw [at_]; rfl) rfl (by simp [at_, Request.copies,
            Session.load])
      | issued granted expiresIn =>
          dsimp only at taken
          split at taken
          · next live =>
              split at taken
              · next new =>
                  cases taken
                  exact .grant request granted expiresIn data at_ live new
              · cases taken
          · next stale =>
              cases taken
              exact .reject request _ data at_ (by simp) stale
      | lost granted =>
          dsimp only at taken
          split at taken
          · next live =>
              split at taken
              · next new =>
                  cases taken
                  exact .lose request granted data at_ live new
              · cases taken
          · next stale =>
              cases taken
              exact .reject request _ data at_ (by simp) stale
  · cases taken

theorem insertRefreshedStep_move {inserted : Except String Unit}
    (taken : world.insertRefreshedStep request inserted = some after) :
    Move world (.insertRefreshed request inserted) after := by
  unfold insertRefreshedStep at taken
  split at taken
  · next loaded data at_ =>
      cases inserted with
      | error error =>
          cases taken
          apply Move.release _ rfl
          · simp [at_, Request.copies, Session.load]
          · simp [Fresh]
      | ok answer =>
          cases taken
          refine .settle _ request _ (.inl ⟨?_, fun _ => rfl⟩) ?_
          · rw [at_]
            rfl
          · simp [at_, Request.copies]
  · cases taken

theorem exchangeStep_move {answer : Except String String}
    (taken : world.exchangeStep request answer = some after) :
    Move world (.exchange request answer) after := by
  unfold exchangeStep at taken
  split at taken
  · next session at_ =>
      cases answer with
      | error error =>
          cases taken
          apply Move.release
          · simp [Fresh, Except.isOk, Except.toBool]
          · exact Request.unsaved_responding (by simp [Session.saves, Answer.isServerError])
          · simp [at_, Request.copies]
      | ok bearer =>
          cases taken
          refine .settle _ request _ (.inl ⟨?_, fun _ => rfl⟩) ?_
          · rw [at_]
            rfl
          · simp [at_, Request.copies]
  · cases taken

theorem respondStep_move {status : Nat} (taken : world.respondStep request status = some after) :
    Move world (.respond request status) after := by
  unfold respondStep at taken
  split at taken
  · next session accountId at_ =>
      cases taken
      have copied : ∀ data ∈ (Request.responding session (.handled status)).copies,
          tokens data = tokens world.stored ∨ data ∈ (world.requests request).copies := by
        simp [at_, Request.copies]
      cases failed : isServerError status with
      | true =>
          apply Move.release _ _ copied
          · simp [Fresh, failed]
          · exact Request.unsaved_responding (by simp [Session.saves, Answer.isServerError, failed])
      | false =>
          refine .settle _ request _ (.inl ⟨?_, fun _ => failed⟩) copied
          simp [at_, Request.unsaved, Session.unsaved, Session.saves, Answer.isServerError, failed,
            Answer.isSelection]
  · cases taken

theorem readForSelectionStep_move {accountId : String}
    (taken : world.readForSelectionStep request accountId = some after) :
    Move world (.readForSelection request accountId) after := by
  unfold readForSelectionStep at taken
  split at taken
  · next idle =>
      have nothing : (world.requests request).unsaved = none := by rw [idle]; rfl
      dsimp only at taken
      split at taken
      · cases taken
        exact .quiet trivial nothing rfl (by simp [Request.copies, tokens])
      · cases taken
        exact .quiet trivial nothing rfl (by simp [Request.copies, Session.load])
  · cases taken

theorem unsaved_selectedAnswer (session : Session) (data : SessionData) :
    (Request.responding session (selectedAnswer data)).unsaved = none := by
  unfold selectedAnswer
  split
  · simp [Request.unsaved, Answer.isSelection]
  · exact Request.unsaved_responding (by simp [Session.saves, Answer.isServerError])

theorem insertSelectionStep_move {inserted : Except String Unit}
    (taken : world.insertSelectionStep request inserted = some after) :
    Move world (.insertSelection request inserted) after := by
  unfold insertSelectionStep at taken
  split at taken
  · next loaded data at_ =>
      have nothing : (world.requests request).unsaved = none := by rw [at_]; rfl
      cases inserted with
      | error error =>
          cases taken
          exact .quiet trivial nothing rfl (by simp [at_, Request.copies, Session.load])
      | ok answer =>
          cases taken
          exact .quiet trivial nothing (unsaved_selectedAnswer _ data)
            (by simp [at_, Request.copies])
  · cases taken

theorem finishStep_move {saved : Except String Unit}
    (taken : world.finishStep request saved = some after) :
    Move world (.finish request saved) after := by
  unfold finishStep at taken
  split at taken
  · next session answer at_ =>
      split at taken
      · next saves =>
          cases saved with
          | error error =>
              cases taken
              apply Move.release _ rfl (by simp [Request.copies])
              cases selection : answer.isSelection with
              | true => simp [Fresh, Saves, at_, saves, selection, Request.unsaved]
              | false => simp [Fresh, Saves, at_, saves, selection, Request.unsaved]
          | ok done =>
              cases taken
              exact .save request session answer at_ saves
      · next unsaved =>
          cases taken
          rw [Bool.not_eq_true] at unsaved
          apply Move.quiet _ _ rfl (by simp [Request.copies])
          · intro other given found saves
            cases at_.symm.trans found
            rw [unsaved] at saves
            cases saves
          · rw [at_]
            exact Request.unsaved_responding unsaved
  · cases taken

theorem dropStep_move (taken : world.dropStep request = some after) :
    Move world (.drop request) after := by
  unfold dropStep at taken
  split at taken
  · cases taken
    exact .release Iff.rfl rfl (by simp [Request.copies])
  · cases taken

theorem next_move {absoluteTimeoutSecs : Int}
    (taken : world.next absoluteTimeoutSecs event = some after) : Move world event after := by
  cases event with
  | tick elapsed =>
      cases taken
      exact .tick elapsed
  | readSession request => exact readSessionStep_move taken
  | refresh request answer => exact refreshStep_move taken
  | insertRefreshed request inserted => exact insertRefreshedStep_move taken
  | exchange request answer => exact exchangeStep_move taken
  | respond request status => exact respondStep_move taken
  | readForSelection request accountId => exact readForSelectionStep_move taken
  | insertSelection request inserted => exact insertSelectionStep_move taken
  | finish request saved => exact finishStep_move taken
  | drop request => exact dropStep_move taken

end Moves

end World

end SwiyuIssuer.Bff.SharedSession
