import SwiyuIssuer.Oauth.SingleFlight

/-! How many grants the callers of a provider complete. -/

namespace SwiyuIssuer.Oauth

open Library Persistence

section Grants

variable (deployment : Deployment) (r : ReplicaId)

/-- The token that a step puts into the cache of `r`. With it a grant is completed. -/
def completed (state : State) : Event → Option CachedToken
  | .settle c now =>
      if deployment.home c = r then
        match state.phase c with
        | .committed response =>
            (expiresAt now response.expiresIn).map fun expiry => ⟨response.accessToken, expiry⟩
        | _ => none
      else none
  | _ => none

/-- The grants that the callers of `r` complete in a run, in order. -/
def granted (state : State) : List Event → List CachedToken
  | [] => []
  | event :: trace =>
      (completed deployment r state event).toList ++
        match next deployment state event with
        | some after => granted after trace
        | none => []

/-- The event takes the token of `r` away. -/
def discards : Event → Bool
  | .invalidate c => deployment.home c == r
  | .restart there => there == r
  | _ => false

/-- When a caller of `r` looks at the cache. -/
def looksAt : Event → Option DateTime
  | .get c now | .recheck c now => if deployment.home c = r then some now else none
  | _ => none

/-- Of the tokens that are looked at, `stale` is in the safety margin and the others outlast it. -/
structure Lasting (stale : Option CachedToken) (state : State) (event : Event) : Prop where
  looks : ∀ now token, looksAt deployment r event = some now → state.cached r = some token →
    (isFresh deployment.safetyMargin token.expiresAt now = true ↔ some token ≠ stale)
  renewed : ∀ token, completed deployment r state event = some token → some token ≠ stale

/-- Replica `r` has a token that lasts, and nobody is after another one. -/
structure Supplied (stale : Option CachedToken) (state : State) : Prop where
  cached : ∃ token, state.cached r = some token ∧ some token ≠ stale
  quiet : ∀ c, deployment.home c = r → (state.phase c).refreshing = false

end Grants

section Steps

variable {deployment : Deployment} {r : ReplicaId} {state after : State} {event : Event}
  {stale : Option CachedToken}

theorem settle_step {c : CallerId} {now : DateTime}
    (taken : Steps (next deployment) state (.settle c now) after) :
    ∃ response, state.phase c = .committed response ∧
      after = settle deployment state c response now := by
  unfold Steps at taken
  simp only [next] at taken
  split at taken
  · next response committed =>
      cases taken
      exact ⟨response, committed, rfl⟩
  · cases taken

theorem Turn.cached {view after : View} (turn : Turn deployment view event after)
    (other : ∀ c now, event ≠ .settle c now) : after.cached r = view.cached r ∨
      discards deployment r event = true ∧ after.cached r = none := by
  cases turn with
  | aside | hit | queued | locked | served | entered | worked | left => exact .inl rfl
  | invalidated c =>
      by_cases home : deployment.home c = r
      · subst home
        exact .inr ⟨beq_self_eq_true _, Function.update_self _ _ _⟩
      · exact .inl (Function.update_of_ne (Ne.symm home) _ _)
  | settled c now => exact absurd rfl (other c now)
  | restarted there =>
      by_cases here : there = r
      · subst here
        exact .inr ⟨beq_self_eq_true _, Function.update_self _ _ _⟩
      · exact .inl (Function.update_of_ne (Ne.symm here) _ _)

/-- The cache of `r` is filled by a caller that was refreshing, or kept, or emptied. -/
theorem cached_step (taken : Steps (next deployment) state event after) :
    (∃ c token, completed deployment r state event = some token ∧ deployment.home c = r ∧
      (state.phase c).refreshing = true ∧ after.cached r = some token ∧
      after.phase = Function.update state.phase c (.finished (.returned (.ok token.access)))) ∨
    completed deployment r state event = none ∧ (after.cached r = state.cached r ∨
      discards deployment r event = true ∧ after.cached r = none) := by
  cases event with
  | settle c now =>
      rcases settle_step taken with ⟨response, committed, rfl⟩
      have busy : (state.phase c).refreshing = true := by rw [committed]; rfl
      simp only [completed, committed]
      unfold settle
      cases expiry : expiresAt now response.expiresIn with
      | none =>
          refine .inr ⟨?_, .inl rfl⟩
          split <;> rfl
      | some expiry =>
          by_cases home : deployment.home c = r
          · subst home
            exact .inl ⟨c, _, if_pos rfl, rfl, busy, Function.update_self _ _ _, rfl⟩
          · exact .inr ⟨if_neg home, .inl (Function.update_of_ne (Ne.symm home) _ _)⟩
  | _ =>
      refine .inr ⟨rfl, (turn_of_next taken).cached ?_⟩
      intro c now absurd
      cases absurd

theorem Turn.answer {view after : View} {d : CallerId} {access : String}
    (turn : Turn deployment view event after) (other : ∀ c now, event ≠ .settle c now)
    (answered : (after.phase d).answer = some access) : (view.phase d).answer = some access ∨
      ∃ now token, looksAt deployment (deployment.home d) event = some now ∧
        view.cached (deployment.home d) = some token ∧
        isFresh deployment.safetyMargin token.expiresAt now = true ∧ token.access = access := by
  have moved : ∀ c phase, after.phase = Function.update view.phase c phase →
      (d = c ∧ phase.answer = some access) ∨ (view.phase d).answer = some access := by
    intro c phase same
    rw [same] at answered
    exact (view_update_cases Phase.answer answered).imp_right And.right
  cases turn with
  | aside | restarted => exact .inl answered
  | hit c now token idle cached fresh | served c now token at_ cached fresh =>
      rcases moved c _ rfl with ⟨rfl, given⟩ | before
      · exact .inr ⟨now, token, if_pos rfl, cached, fresh, Option.some.inj given⟩
      · exact .inl before
  | queued c | invalidated c | locked c | entered c =>
      rcases moved c _ rfl with ⟨_, given⟩ | before
      · cases given
      · exact .inl before
  | worked _ c phase _ refreshing =>
      rcases moved c phase rfl with ⟨_, given⟩ | before
      · rw [Phase.answer_of_guarded (Phase.guarded_of_refreshing refreshing)] at given
        cases given
      · exact .inl before
  | left _ c ended _ unanswered =>
      rcases moved c _ rfl with ⟨_, given⟩ | before
      · rw [unanswered] at given
        cases given
      · exact .inl before
  | settled c now => exact absurd rfl (other c now)

theorem Supplied.step (early : ∃ gate, Matches deployment r state.view gate)
    (supplied : Supplied deployment r stale state)
    (lasting : Lasting deployment r stale state event)
    (kept : discards deployment r event = false)
    (taken : Steps (next deployment) state event after) : Supplied deployment r stale after := by
  rcases supplied.cached with ⟨token, cached, usable⟩
  rcases cached_step (r := r) taken with ⟨c, _, _, home, busy, _⟩ | ⟨_, same | ⟨gone, _⟩⟩
  · rw [supplied.quiet c home] at busy
    cases busy
  · refine ⟨⟨token, same.trans cached, usable⟩, ?_⟩
    intro d home
    rcases early with ⟨gate, early⟩
    apply Bool.eq_false_iff.mpr
    intro busy
    rcases refreshing_needs_miss early cached supplied.quiet (.single taken) home
      busy with
      restarted | ⟨c, there, invalidated⟩ | ⟨c, now, there, looked, missed⟩
    · rw [← List.mem_singleton.mp restarted] at kept
      simp [discards] at kept
    · rw [← List.mem_singleton.mp invalidated] at kept
      simp [discards, there] at kept
    · rw [← List.mem_singleton.mp looked] at lasting
      have fresh := (lasting.looks now token (if_pos there) cached).mpr usable
      rw [missed] at fresh
      cases fresh
  · rw [kept] at gone
    cases gone

end Steps

section Runs

variable {deployment : Deployment} {r : ReplicaId} {stale : Option CachedToken}
  {first middle last : State} {front back : List Event}

end Runs

end SwiyuIssuer.Oauth
