import SwiyuIssuer.Bff.SessionMoves
import Mathlib.Data.List.Nodup

/-! Which interleavings leave a shared session with its latest tokens and its last selection. -/

namespace SwiyuIssuer.Bff.SharedSession

open Library

namespace World

/-- Every copy holds a pair that the realm has issued, and only the request that was handed the live
pair, not yet saved, has a copy with it. -/
structure Sound (world : World) : Prop where
  accesses : (world.issued.map Tokens.access).Nodup
  refreshes : (world.issued.map Tokens.refresh).Nodup
  live : world.live ∈ world.issued
  stored : tokens world.stored ∈ world.issued
  copied : ∀ request, ∀ data ∈ (world.requests request).copies, tokens data ∈ world.issued
  called : ∀ access ∈ world.calls,
    access ∈ world.issued.map Tokens.access ∧ access ≠ world.live.access
  unsaved : ∀ request data, (world.requests request).unsaved = some data →
    tokens data = world.live ∧ world.stored.kcRefreshToken ≠ world.live.refresh ∧
      ∀ other, ∀ copy ∈ (world.requests other).copies,
        copy.kcRefreshToken = world.live.refresh → other = request

theorem Initial.sound {world : World} (initial : world.Initial) : world.Sound where
  accesses := by simp [initial.issued]
  refreshes := by simp [initial.issued]
  live := by simp [initial.issued]
  stored := by simp [initial.issued, initial.live]
  copied request data found := by simp [initial.requests, Request.copies] at found
  called access listed := by simp [initial.calls] at listed
  unsaved request data found := by simp [initial.requests, Request.unsaved] at found

theorem Initial.intact {world : World} (initial : world.Initial) : world.Intact where
  current := by simp [initial.live, tokens]
  once := by simp [initial.calls]
  admitted := initial.rejected
  selection := initial.chosen.symm

@[simp] theorem goto_requests (world : World) (request : RequestId) (later : Request) :
    (world.goto request later).requests = Function.update world.requests request later := rfl

theorem goto_other {world : World} {request other : RequestId} {later : Request}
    (different : other ≠ request) :
    (world.goto request later).requests other = world.requests other :=
  Function.update_of_ne different _ _

theorem goto_self {world : World} {request : RequestId} {later : Request} :
    (world.goto request later).requests request = later := Function.update_self ..

theorem goto_copies {world : World} {request other : RequestId} {later : Request}
    {copy : SessionData} (found : copy ∈ ((world.goto request later).requests other).copies) :
    (other = request ∧ copy ∈ later.copies) ∨
      (other ≠ request ∧ copy ∈ (world.requests other).copies) := by
  by_cases same : other = request
  · subst same
    rw [goto_self] at found
    exact .inl ⟨rfl, found⟩
  · rw [goto_other same] at found
    exact .inr ⟨same, found⟩

theorem goto_unsaved {world : World} {request other : RequestId} {later : Request}
    {data : SessionData} (found : ((world.goto request later).requests other).unsaved = some data) :
    (other = request ∧ later.unsaved = some data) ∨
      (other ≠ request ∧ (world.requests other).unsaved = some data) := by
  by_cases same : other = request
  · subst same
    rw [goto_self] at found
    exact .inl ⟨rfl, found⟩
  · rw [goto_other same] at found
    exact .inr ⟨same, found⟩

namespace Sound

variable {world : World}

/-- Copies with the live refresh token hold the live pair. -/
theorem pair (sound : world.Sound) {data : SessionData} (issued : tokens data ∈ world.issued)
    (same : data.kcRefreshToken = world.live.refresh) : tokens data = world.live :=
  List.inj_on_of_nodup_map sound.refreshes issued sound.live same

theorem uncalled (sound : world.Sound) {data : SessionData} (issued : tokens data ∈ world.issued)
    (same : data.kcRefreshToken = world.live.refresh) : data.kcAccessToken ∉ world.calls := by
  intro listed
  apply (sound.called _ listed).2
  rw [← sound.pair issued same]
  rfl

theorem presented (sound : world.Sound) {request : RequestId} {data : SessionData}
    (at_ : world.requests request = .refreshing data) : tokens data ∈ world.issued :=
  sound.copied request data (by simp [at_, Request.copies])

/-- While a request is about to present the live token, no answer is on its way to the store. -/
theorem all_saved (sound : world.Sound) {request : RequestId} {data : SessionData}
    (at_ : world.requests request = .refreshing data)
    (live : data.kcRefreshToken = world.live.refresh) (other : RequestId) :
    (world.requests other).unsaved = none := by
  cases found : (world.requests other).unsaved with
  | none => rfl
  | some copy =>
      have same := (sound.unsaved other copy found).2.2 request data (by simp [at_, Request.copies])
        live
      subst same
      rw [at_] at found
      cases found

/-- A request that moves on keeps what it has to save or gives it up, and has no other tokens than
the stored ones and its own. -/
theorem settled (sound : world.Sound) {request : RequestId} {later : Request}
    (kept : ∀ data, later.unsaved = some data → (world.requests request).unsaved = some data)
    (copied : ∀ data ∈ later.copies, tokens data = tokens world.stored ∨
      data ∈ (world.requests request).copies) :
    (world.goto request later).Sound where
  accesses := sound.accesses
  refreshes := sound.refreshes
  live := sound.live
  stored := sound.stored
  copied other data found := by
    rcases goto_copies found with ⟨_, now⟩ | ⟨_, earlier⟩
    · rcases copied data now with same | old
      · exact same ▸ sound.stored
      · exact sound.copied request data old
    · exact sound.copied other data earlier
  called := sound.called
  unsaved other data found := by
    have before : (world.requests other).unsaved = some data := by
      rcases goto_unsaved found with ⟨rfl, now⟩ | ⟨_, earlier⟩
      · exact kept data now
      · exact earlier
    obtain ⟨live, stale, only⟩ := sound.unsaved other data before
    refine ⟨live, stale, ?_⟩
    intro third copy present same
    rcases goto_copies present with ⟨rfl, now⟩ | ⟨_, earlier⟩
    · rcases copied copy now with taken | old
      · exact absurd ((congrArg Tokens.refresh taken).symm.trans same) stale
      · exact only third copy old same
    · exact only third copy earlier same

theorem rejected (sound : world.Sound) {request : RequestId} {data : SessionData}
    (at_ : world.requests request = .refreshing data)
    (stale : data.kcRefreshToken ≠ world.live.refresh) :
    ((world.called data).reject request).Sound where
  accesses := sound.accesses
  refreshes := sound.refreshes
  live := sound.live
  stored := sound.stored
  copied := sound.copied
  called access listed := by
    rcases List.mem_cons.mp listed with rfl | earlier
    · have issued := sound.presented at_
      refine ⟨List.mem_map_of_mem issued, ?_⟩
      intro same
      have one := List.inj_on_of_nodup_map sound.accesses issued sound.live same
      exact stale (congrArg Tokens.refresh one)
    · exact sound.called access earlier
  unsaved := sound.unsaved

/-- After a grant no copy holds the live pair, the one of the request that it answers apart. -/
theorem rotated (sound : world.Sound) {request : RequestId} {data : SessionData} {granted : Tokens}
    {later : Request} (at_ : world.requests request = .refreshing data)
    (live : data.kcRefreshToken = world.live.refresh) (new : world.IsNew granted)
    (copied : ∀ copy ∈ later.copies, copy = data ∨ tokens copy = granted)
    (answer : ∀ copy, later.unsaved = some copy → tokens copy = granted) :
    (((world.called data).rotate granted).goto request later).Sound := by
  have issued := sound.presented at_
  -- a pair issued before differs from the new one in both tokens
  have older : ∀ copy : SessionData, tokens copy ∈ world.issued →
      copy.kcRefreshToken ≠ granted.refresh := by
    intro copy listed same
    apply new.2
    rw [← same]
    exact List.mem_map_of_mem listed
  constructor
  case accesses => exact List.nodup_cons.mpr ⟨new.1, sound.accesses⟩
  case refreshes => exact List.nodup_cons.mpr ⟨new.2, sound.refreshes⟩
  case live => exact List.mem_cons_self
  case stored => exact List.mem_cons_of_mem _ sound.stored
  case copied =>
    intro other copy found
    rcases goto_copies found with ⟨_, now⟩ | ⟨_, earlier⟩
    · rcases copied copy now with rfl | same
      · exact List.mem_cons_of_mem _ issued
      · rw [same]
        exact List.mem_cons_self
    · exact List.mem_cons_of_mem _ (sound.copied other copy earlier)
  case called =>
    have known : ∀ access ∈ data.kcAccessToken :: world.calls,
        access ∈ world.issued.map Tokens.access := by
      intro access listed
      rcases List.mem_cons.mp listed with rfl | earlier
      · exact List.mem_map_of_mem issued
      · exact (sound.called access earlier).1
    intro access listed
    refine ⟨List.mem_cons_of_mem _ (known access listed), ?_⟩
    rintro rfl
    exact new.1 (known _ listed)
  case unsaved =>
    intro other copy found
    rcases goto_unsaved found with ⟨rfl, now⟩ | ⟨_, earlier⟩
    · refine ⟨answer copy now, older world.stored sound.stored, ?_⟩
      intro third again present live
      rcases goto_copies present with ⟨same, _⟩ | ⟨_, present⟩
      · exact same
      · exact absurd live (older again (sound.copied third again present))
    · have nothing := sound.all_saved at_ live other
      exact absurd (nothing.symm.trans earlier) (by simp)

theorem saved (sound : world.Sound) {request : RequestId} {session : Session} {answer : Answer}
    (at_ : world.requests request = .responding session answer)
    (alone : ∀ other data, (world.requests other).unsaved = some data → other ≠ request →
      session.record.kcRefreshToken ≠ world.live.refresh) :
    ((world.save session.record answer).goto request (.answered answer)).Sound where
  accesses := sound.accesses
  refreshes := sound.refreshes
  live := sound.live
  stored := sound.copied request session.record (by simp [at_, Request.copies])
  copied other copy found := by
    rcases goto_copies found with ⟨_, now⟩ | ⟨_, earlier⟩
    · cases now
    · exact sound.copied other copy earlier
  called := sound.called
  unsaved other data found := by
    rcases goto_unsaved found with ⟨_, now⟩ | ⟨different, earlier⟩
    · cases now
    · obtain ⟨live, _, only⟩ := sound.unsaved other data earlier
      refine ⟨live, alone other data earlier different, ?_⟩
      intro third copy present same
      rcases goto_copies present with ⟨_, now⟩ | ⟨_, present⟩
      · cases now
      · exact only third copy present same

theorem step (sound : world.Sound) {event : Event} {after : World} (move : Move world event after) :
    after.Sound := by
  cases move with
  | tick elapsed =>
      exact ⟨sound.accesses, sound.refreshes, sound.live, sound.stored, sound.copied, sound.called,
        sound.unsaved⟩
  | settle _ request later kept copied =>
      apply sound.settled _ copied
      intro data found
      rcases kept with ⟨same, _⟩ | ⟨_, gone, _⟩
      · exact same.trans found
      · cases gone.symm.trans found
  | reject request answer data at_ reached stale =>
      apply (sound.rejected at_ stale).settled
      · intro copy found
        cases found
      · intro copy held
        have mine : ((world.called data).reject request).requests request = .refreshing data := at_
        rw [mine]
        exact .inr held
  | grant request granted expiresIn data at_ live new =>
      apply sound.rotated at_ live new
      · intro copy held
        rcases List.mem_pair.mp held with rfl | rfl
        · exact .inl rfl
        · exact .inr rfl
      · intro copy found
        have same := Session.unsaved_record found
        rw [Session.insert_record] at same
        rw [← same]
        rfl
  | lose request granted data at_ live new =>
      apply sound.rotated at_ live new
      · intro copy held
        exact .inl (List.mem_singleton.mp held)
      · intro copy found
        cases found
  | save request session answer at_ saves =>
      apply sound.saved at_
      intro other data found different same
      have held : session.record ∈ (world.requests request).copies := by simp [at_, Request.copies]
      exact different ((sound.unsaved other data found).2.2 request _ held same).symm

end Sound

/-- Only the request that has something to save holds the live refresh token, until it has saved. -/
theorem release_broken {world : World} (sound : world.Sound) {request : RequestId} {later : Request}
    {data : SessionData} (held : (world.requests request).unsaved = some data)
    (ended : later.unsaved = none) : ¬(world.goto request later).Intact := by
  intro intact
  obtain ⟨_, stale, only⟩ := sound.unsaved request data held
  rcases intact.current with same | ⟨other, copy, found, live⟩
  · exact stale same
  · rcases goto_unsaved found with ⟨_, now⟩ | ⟨different, earlier⟩
    · cases ended.symm.trans now
    · exact different (only other copy (Request.unsaved_copied earlier) live)

/-- A pair that nobody was handed leaves the session with a dead refresh token. -/
theorem lose_broken {world : World} (sound : world.Sound) {request : RequestId} {later : Request}
    {data : SessionData} {granted : Tokens} (at_ : world.requests request = .refreshing data)
    (live : data.kcRefreshToken = world.live.refresh) (new : world.IsNew granted)
    (ended : later.unsaved = none) :
    ¬(((world.called data).rotate granted).goto request later).Intact := by
  intro intact
  rcases intact.current with same | ⟨other, copy, found, _⟩
  · apply new.2
    rw [← show world.stored.kcRefreshToken = granted.refresh from same]
    exact List.mem_map_of_mem sound.stored
  · rcases goto_unsaved found with ⟨_, now⟩ | ⟨_, earlier⟩
    · cases ended.symm.trans now
    · cases (sound.all_saved at_ live other).symm.trans earlier

/-- The request that a grant answers has the new pair to save. -/
theorem grant_intact {world : World} (sound : world.Sound) (intact : world.Intact)
    {request : RequestId} {data : SessionData} {granted : Tokens} {expiresIn : Int}
    (at_ : world.requests request = .refreshing data)
    (live : data.kcRefreshToken = world.live.refresh) (new : world.IsNew granted) :
    (((world.called data).rotate granted).goto request
      (.refreshed data (renewed data granted expiresIn world.clock))).Intact := by
  have issued := sound.presented at_
  have changed : data ≠ renewed data granted expiresIn world.clock := by
    intro same
    apply new.2
    rw [← show data.kcRefreshToken = granted.refresh from congrArg SessionData.kcRefreshToken same]
    exact List.mem_map_of_mem issued
  constructor
  case current =>
    refine .inr ⟨request, renewed data granted expiresIn world.clock, ?_, rfl⟩
    rw [goto_self]
    simp [Request.unsaved, Session.insert, Session.load, changed, Session.unsaved]
  case once => exact List.nodup_cons.mpr ⟨sound.uncalled issued live, intact.once⟩
  case admitted => exact intact.admitted
  case selection => exact intact.selection

theorem settle_intact {world : World} (intact : world.Intact) {request : RequestId}
    {later : Request} (kept : (world.requests request).unsaved = later.unsaved) :
    (world.goto request later).Intact := by
  refine ⟨?_, intact.once, intact.admitted, intact.selection⟩
  rcases intact.current with same | ⟨other, data, found, live⟩
  · exact .inl same
  · refine .inr ⟨other, data, ?_, live⟩
    by_cases own : other = request
    · subst own
      rw [goto_self, ← kept, found]
    · rw [goto_other own, found]

theorem save_renewed {world : World} (sound : world.Sound) (intact : world.Intact)
    {request : RequestId} {session : Session} {answer : Answer}
    (at_ : world.requests request = .responding session answer)
    (saves : session.saves answer = true) (renewal : answer.isSelection = false) :
    ((world.save session.record answer).goto request (.answered answer)).Intact ↔
      world.Saves (.ok ()) session answer := by
  have held : (world.requests request).unsaved = some session.record := by
    simp [at_, Request.unsaved, saves, renewal]
  have mine := (sound.unsaved request _ held).1
  simp only [Saves, renewal, Bool.false_eq_true, if_false, true_and]
  constructor
  · intro after
    have same : session.record.selectedAccountId = world.chosen := by
      simpa [save, goto, renewal] using after.selection
    exact same.trans intact.selection.symm
  · intro same
    refine ⟨.inl (congrArg Tokens.refresh mine), intact.once, intact.admitted, ?_⟩
    simpa [save, goto, renewal] using same.trans intact.selection

/-- Saving a selection: stale tokens do no harm while the renewed ones are still to be saved. -/
theorem save_selection {world : World} (sound : world.Sound) (intact : world.Intact)
    {request : RequestId} {session : Session} {answer : Answer}
    (at_ : world.requests request = .responding session answer)
    (selection : answer.isSelection = true) :
    ((world.save session.record answer).goto request (.answered answer)).Intact ↔
      world.Saves (.ok ()) session answer := by
  have nothing : (world.requests request).unsaved = none := by
    simp [at_, Request.unsaved, selection]
  simp only [Saves, selection, if_true, forall_const]
  constructor
  · intro after
    rcases after.current with same | ⟨other, copy, found, _⟩
    · exact .inl same
    · rcases goto_unsaved found with ⟨_, now⟩ | ⟨_, earlier⟩
      · cases now
      · exact .inr ⟨other, copy, earlier⟩
  · intro fresh
    refine ⟨?_, intact.once, intact.admitted, by simp [save, goto, selection]⟩
    rcases fresh with same | ⟨other, copy, earlier⟩
    · exact .inl same
    · have different : other ≠ request := by
        rintro rfl
        cases nothing.symm.trans earlier
      exact .inr ⟨other, copy, (congrArg Request.unsaved (goto_other different)).trans earlier,
        congrArg Tokens.refresh (sound.unsaved other copy earlier).1⟩

/-- A step keeps the session intact exactly when it does not act on a stale copy nor gives up a
renewed one. -/
theorem intact_step {world after : World} {event : Event} (sound : world.Sound)
    (intact : world.Intact) (move : Move world event after) :
    after.Intact ↔ world.Fresh event := by
  cases move with
  | tick elapsed =>
      exact ⟨fun _ => trivial,
        fun _ => ⟨intact.current, intact.once, intact.admitted, intact.selection⟩⟩
  | settle _ request later kept copied =>
      rcases kept with ⟨same, fresh⟩ | ⟨held, gone, stale⟩
      · exact iff_of_true (settle_intact intact same) fresh
      · obtain ⟨data, held⟩ := Option.ne_none_iff_exists'.mp held
        exact iff_of_false (release_broken sound held gone) stale
  | reject request answer data at_ reached stale =>
      apply iff_of_false
      · intro after
        cases after.admitted
      · intro fresh
        have presented := fresh data at_
        cases answer with
        | issued granted expiresIn => exact stale presented
        | lost granted => exact presented
        | unreached => exact reached rfl
  | grant request granted expiresIn data at_ live new =>
      apply iff_of_true (grant_intact sound intact at_ live new)
      intro other found
      cases at_.symm.trans found
      exact live
  | lose request granted data at_ live new =>
      exact iff_of_false (lose_broken sound at_ live new rfl) fun fresh => fresh data at_
  | save request session answer at_ saves =>
      have fresh : world.Fresh (.finish request (.ok ())) ↔ world.Saves (.ok ()) session answer := by
        constructor
        · exact fun fresh => fresh session answer at_ saves
        · intro saved other given found _
          cases at_.symm.trans found
          exact saved
      rw [fresh]
      cases selection : answer.isSelection with
      | true => exact save_selection sound intact at_ selection
      | false => exact save_renewed sound intact at_ saves selection

end World

/-- A session stays intact along a run, however its requests interleave, exactly when no step of the
run acts on a stale copy or gives up a renewed one. -/
theorem session_is_intact_iff {absoluteTimeoutSecs : Int} {first last : World} {trace : List Event}
    (initial : first.Initial) (run : Run (Steps (World.next absoluteTimeoutSecs)) first trace last) :
    (∀ front back world, trace = front ++ back →
        Run (Steps (World.next absoluteTimeoutSecs)) first front world → world.Intact) ↔
      Run (Guarded World.Fresh (Steps (World.next absoluteTimeoutSecs))) first trace last := by
  apply Run.always_iff_guarded World.Sound World.Intact
  · intro world event after sound taken
    exact sound.step (World.next_move taken)
  · intro world event after sound intact taken
    exact World.intact_step sound intact (World.next_move taken)
  · exact initial.sound
  · exact initial.intact
  · exact run

section Sample

def sampleData : SessionData where
  iss := "https://realm"
  sub := "user"
  kcAccessToken := "access-0"
  kcRefreshToken := "refresh-0"
  kcIdToken := "id"
  kcAccessExpiryUnix := 10
  loggedInAtUnix := 0
  accounts := [⟨"a", "t", none, "a"⟩, ⟨"b", "t", none, "b"⟩]
  selectedAccountId := "a"

def sampleLogin : World where
  clock := 0
  stored := sampleData
  live := ⟨"access-0", "refresh-0"⟩
  requests _ := .idle
  issued := [⟨"access-0", "refresh-0"⟩]
  calls := []
  rejected := []
  chosen := "a"

theorem sampleLogin_initial : sampleLogin.Initial := ⟨fun _ => rfl, rfl, rfl, rfl, rfl, rfl⟩

def sampleTimeout : Int := 1000

def sampleRefresh (request : RequestId) : Event :=
  .refresh request (.issued ⟨"access-1", "refresh-1"⟩ 300)

def sampleRest (request : RequestId) : List Event :=
  [.exchange request (.ok "mgmt"), .respond request 200, .finish request (.ok ())]

def sampleTrace : List Event :=
  [.tick 20, .readSession 0, sampleRefresh 0, .insertRefreshed 0 (.ok ()), .exchange 0 (.ok "mgmt"),
    .respond 0 200, .finish 0 (.ok ()), .readForSelection 1 "b", .insertSelection 1 (.ok ()),
    .finish 1 (.ok ())]

theorem session_is_intact_iff_sample :
    ∃ last, Run (Steps (World.next sampleTimeout)) sampleLogin sampleTrace last ∧ last.Intact := by
  obtain ⟨last, guarded⟩ : ∃ last, Run (Guarded World.Fresh (Steps (World.next sampleTimeout)))
      sampleLogin sampleTrace last := by
    refine ⟨_, .cons ⟨trivial, rfl⟩ (.cons ⟨trivial, rfl⟩ (.cons ⟨?refresh, rfl⟩
      (.cons ⟨fun _ => rfl, rfl⟩ (.cons ⟨fun _ => rfl, rfl⟩ (.cons ⟨fun _ => rfl, rfl⟩
        (.cons ⟨?renewal, rfl⟩ (.cons ⟨trivial, rfl⟩ (.cons ⟨trivial, rfl⟩
          (.cons ⟨?selection, rfl⟩ (.nil _))))))))))⟩
    case refresh =>
      intro data presented
      cases presented
      rfl
    case renewal =>
      intro session answer held saves
      cases held
      exact ⟨rfl, rfl⟩
    case selection =>
      intro session answer held saves
      cases held
      exact fun _ => .inl rfl
  refine ⟨last, guarded.forget, ?_⟩
  exact (session_is_intact_iff sampleLogin_initial guarded.forget).mpr guarded _ [] last
    (List.append_nil _).symm guarded.forget

/-- Two requests find the access token expired: the second one presents a spent refresh token and its
user is logged out of a live session. A selection that was read before a refresh takes its tokens
back, and a refresh that was read before a selection takes the selection back. A refresh whose
request ends in a server error is not saved at all. -/
theorem concurrent_requests_corrupt_a_session :
    (∃ last, Run (Steps (World.next sampleTimeout)) sampleLogin
      ([.tick 20, .readSession 0, .readSession 1, sampleRefresh 0, .insertRefreshed 0 (.ok ())] ++
        sampleRest 0 ++ [sampleRefresh 1, .finish 1 (.ok ())]) last ∧
      last.stored.isLive last.clock sampleTimeout = true ∧
        last.requests 1 = .answered .unauthenticated ∧ last.calls = ["access-0", "access-0"]) ∧
    (∃ last, Run (Steps (World.next sampleTimeout)) sampleLogin
      ([.tick 20, .readForSelection 1 "b", .readSession 0, sampleRefresh 0,
        .insertRefreshed 0 (.ok ())] ++ sampleRest 0 ++
          [.insertSelection 1 (.ok ()), .finish 1 (.ok ())]) last ∧
      last.requests 0 = .answered (.handled 200) ∧
        last.requests 1 = .answered (.selected ⟨"b", "t", none, "b"⟩) ∧
        last.stored.kcRefreshToken ≠ last.live.refresh) ∧
    (∃ last, Run (Steps (World.next sampleTimeout)) sampleLogin
      ([.tick 20, .readSession 0, sampleRefresh 0, .readForSelection 1 "b",
        .insertSelection 1 (.ok ()), .finish 1 (.ok ()), .insertRefreshed 0 (.ok ())] ++
          sampleRest 0) last ∧
      last.requests 1 = .answered (.selected ⟨"b", "t", none, "b"⟩) ∧
        last.stored.selectedAccountId = "a") ∧
    ∃ last, Run (Steps (World.next sampleTimeout)) sampleLogin
      [.tick 20, .readSession 0, sampleRefresh 0, .insertRefreshed 0 (.ok ()),
        .exchange 0 (.error "timeout"), .finish 0 (.ok ())] last ∧
      last.requests 0 = .answered .gatewayError ∧
        last.stored.kcRefreshToken ≠ last.live.refresh := by
  refine ⟨⟨_, Run.of_exec rfl, rfl, rfl, rfl⟩, ⟨_, Run.of_exec rfl, rfl, rfl, ?_⟩,
    ⟨_, Run.of_exec rfl, rfl, rfl⟩, ⟨_, Run.of_exec rfl, rfl, ?_⟩⟩
  · exact fun same => absurd same (by decide)
  · exact fun same => absurd same (by decide)

end Sample

end SwiyuIssuer.Bff.SharedSession
