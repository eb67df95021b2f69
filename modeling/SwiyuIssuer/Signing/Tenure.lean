import SwiyuIssuer.Saga.OpenTasks
import SwiyuIssuer.Signing.Site

/-! The assertion key of the issuer row and of the published log, while no rotation of it gets
through. -/

namespace SwiyuIssuer.Signing

open Library Persistence Worker Saga

theorem entries_append (log : List Saga.Published) (author : Option TaskId) (entry : LogEntry) :
    (entries (log ++ [⟨author, entry⟩])).getLast? = some entry := by
  simp [entries]

/-- The row and the log have one assertion key, and so does the triple of every rotation that is
not about this key. -/
structure Tenured (ext : Externals) (issuer : Issuer) (key : KeyPairId) (world : World) :
    Prop where
  id : world.issuer.id = issuer.id
  did : world.issuer.did = issuer.did
  row : world.issuer.assertionKeyId = some key
  tail : advertises ext world.log key = true
  frozen : ∀ id task triple, world.tasks id = some task → task.taskType = .rotateKeys →
    Frozen ext task triple → rotatesAssertion task = false → triple.assertion = key
  pending : ∀ task nextStep result (triple : KeyTriple),
    world.worker = .stepped task nextStep (.done result) → task.taskType = .rotateKeys →
    result.stateDataPatch = [("new_key_triple", triple.toJson)] → rotatesAssertion task = false →
    triple.assertion = key

section Steps

variable {ext : Externals} {issuer : Issuer} {key : KeyPairId} {world after : World}
  {task : OperationTask} {calls : StepCalls}

theorem rotatesAssertion_same {row : OperationTask} (same : SameRequest task row) :
    rotatesAssertion row = rotatesAssertion task := by
  simp only [rotatesAssertion, same.taskType, same.input]

/-- The triple of a rotation that is not about the assertion key has the row's one. -/
theorem kept_assertion {triple : KeyTriple} (keeps : Keeps world.issuer task triple)
    (rotates : task.taskType = .rotateKeys) (other : rotatesAssertion task = false)
    (row : world.issuer.assertionKeyId = some key) : triple.assertion = key := by
  rcases keeps with ⟨input, inputRead, roles⟩
  have absent : KeyRole.assertion ∉ input.roles := by
    simpa [rotatesAssertion, rotates, inputRead] using other
  have kept := roles .assertion absent
  rw [Issuer.keyIdForRole, row] at kept
  exact (Option.some.inj kept).symm

/-- A step of a task that is no rotation of the assertion key, or that neither stores an entry nor
swaps. -/
def Harmless (task : OperationTask) (calls : StepCalls) : Prop :=
  rotatesAssertion task = true →
    (task.step = some "publish_didlog" → calls.put.stored = false) ∧ task.step ≠ some "swap_keys"

theorem steady_harmless {site : Site} (steady_ : steady site (.saga (.perform calls)) = true)
    (held : site.world.worker = .acquired task) : Harmless task calls := by
  intro rotates
  simpa [steady, held, rotates, not_or, imp_iff_not_or] using steady_

theorem performed_issuer (tracked : Tracked ext world) (tenured : Tenured ext issuer key world)
    (held : world.worker = .acquired task) (harmless : Harmless task calls)
    {nextStep : Option String} {effect : Effect}
    (performed : Performed ext world task calls nextStep effect) :
    (effect.row.getD world.issuer).id = issuer.id ∧
      (effect.row.getD world.issuer).did = issuer.did ∧
      (effect.row.getD world.issuer).assertionKeyId = some key := by
  have same : (world.issuer.id = issuer.id ∧ world.issuer.did = issuer.did ∧
      world.issuer.assertionKeyId = some key) := ⟨tenured.id, tenured.did, tenured.row⟩
  cases performed with
  | generateNewKeys | buildRotation | buildDeactivation => exact same
  | publishRotation | publishDeactivation =>
      rw [publishEffect_row]
      exact same
  | swapKeys state rotates named stateRead =>
      cases executed : executeSwapKeys world.issuer task.tenantId world.issuer.id state calls.swap with
      | mk row outcome =>
      rcases (executeSwapKeys_cases executed).1 with rfl | ⟨triple, frozen, _, rfl⟩
      · exact same
      · have other : rotatesAssertion task = false := by
          rw [Bool.eq_false_iff]
          intro about
          exact (harmless about).2 named
        have found := (tracked.aggregate task (by rw [held]; rfl)).1
        have kept := tenured.frozen task.id task triple found rotates ⟨state, stateRead, frozen⟩ other
        exact ⟨tenured.id, tenured.did, congrArg some kept⟩
  | markDeactivated =>
      cases executed : executeMarkDeactivated world.issuer task.tenantId world.issuer.id calls.mark with
      | mk row outcome =>
      rcases (executeMarkDeactivated_cases executed).1 with rfl | rfl
      · exact same
      · exact same

theorem advertises_deactivation
    (carries : ∀ prev doc now, (ext.core.newDeactivation prev doc now).didDocState =
      .value (.ok doc))
    (tail : advertises ext world.log key = true) {faults : EngineFaults} {entry : LogEntry}
    {now : DateTime} (built : buildDeactivationEntry ext.core ext.engine faults world.issuer
      (entries world.log) now = .ok entry) :
    advertises ext (world.log ++ [⟨some task.id, entry⟩]) key = true := by
  rcases buildDeactivationEntry_document built with ⟨last, doc, found, state, made⟩
  rcases advertises_iff.mp tail with ⟨known, shown, publicKey, again, also, shape, pair⟩
  rw [found] at again
  cases again
  rw [state] at also
  cases also
  apply advertises_iff.mpr
  refine ⟨entry, doc, publicKey, entries_append .., ?_, shape, pair⟩
  rw [made, carries]

theorem advertises_rotation {triple : KeyTriple} (kept : triple.assertion = key)
    {faults : EngineFaults} {entry : LogEntry} {now : DateTime}
    (built : buildRotationEntry ext.core ext.engine faults world.issuer triple
      (entries world.log) now = .ok entry) :
    advertises ext (world.log ++ [⟨some task.id, entry⟩]) key = true := by
  rcases buildRotationEntry_ok built with ⟨_, _, _, _, _, _, _, _, _, doc, _, assertion, state, _,
    shape, _, pair⟩
  rw [kept] at shape
  exact advertises_iff.mpr ⟨entry, doc, assertion, entries_append .., state, shape, pair⟩

theorem performed_log
    (carries : ∀ prev doc now, (ext.core.newDeactivation prev doc now).didDocState =
      .value (.ok doc))
    (tracked : Tracked ext world) (tenured : Tenured ext issuer key world)
    (held : world.worker = .acquired task) (harmless : Harmless task calls)
    {nextStep : Option String} {effect : Effect}
    (performed : Performed ext world task calls nextStep effect) :
    advertises ext
      (world.log ++ (effect.stored.map fun entry => ⟨some task.id, entry⟩).toList) key = true := by
  have unchanged : advertises ext (world.log ++ []) key = true := by
    rw [List.append_nil]
    exact tenured.tail
  cases performed with
  | generateNewKeys | buildRotation | buildDeactivation | swapKeys | markDeactivated =>
      exact unchanged
  | publishRotation state rotates named stateRead =>
      have published := rotation_publishCase ext world task calls state
      generalize publishEffect _ calls.put = effect at published ⊢
      cases published with
      | kept | already | failed => exact unchanged
      | put entry _ built stored =>
          rcases built with ⟨triple, frozen, _, built⟩
          have other : rotatesAssertion task = false := by
            rw [Bool.eq_false_iff]
            intro about
            rw [(harmless about).1 named] at stored
            cases stored
          have found := (tracked.aggregate task (by rw [held]; rfl)).1
          exact advertises_rotation
            (tenured.frozen task.id task triple found rotates ⟨state, stateRead, frozen⟩ other) built
  | publishDeactivation state =>
      have published := deactivation_publishCase ext world task calls state
      generalize publishEffect _ calls.put = effect at published ⊢
      cases published with
      | kept | already | failed => exact unchanged
      | put entry _ built stored => exact advertises_deactivation carries tenured.tail built.2

/-- The triples of the rows after a step. -/
theorem frozen_step {event : Saga.Event} (tracked : Tracked ext world)
    (tenured : Tenured ext issuer key world) (move : Saga.Move ext world event after) {id : TaskId}
    {row : OperationTask} {triple : KeyTriple} (found : after.tasks id = some row)
    (rotates : row.taskType = .rotateKeys) (frozen : Frozen ext row triple)
    (other : rotatesAssertion row = false) : triple.assertion = key := by
  rcases rows_step tracked move found with ⟨task, old, step⟩ | ⟨_, _, _, _, _, _, rfl⟩
  · have taskType : task.taskType = .rotateKeys := step.fixed.taskType ▸ rotates
    rw [rotatesAssertion_same step.fixed] at other
    have home : world.tasks task.id = some task := by
      rw [tracked.keyed id task old]
      exact old
    rcases frozen.origin tracked home taskType step with before | ⟨nextStep, result, stepped, set⟩
    · exact tenured.frozen id task triple old taskType before other
    · exact tenured.pending task nextStep result triple stepped taskType set other
  · rcases frozen with ⟨state, decoded, kept⟩
    have empty : RotateKeysStateData.decode ext.uuid (.object []) = .ok ⟨none, false⟩ := rfl
    rw [newTask, empty] at decoded
    cases decoded
    cases kept

theorem tenured_step
    (carries : ∀ prev doc now, (ext.core.newDeactivation prev doc now).didDocState =
      .value (.ok doc))
    {event : Saga.Event} (tracked : Tracked ext world) (tenured : Tenured ext issuer key world)
    (harmless : ∀ task calls, event = .perform calls → world.worker = .acquired task →
      Harmless task calls)
    (taken : world.step ext event = some after) : Tenured ext issuer key after := by
  have move := step_move taken
  have frozen : ∀ id row triple, after.tasks id = some row → row.taskType = .rotateKeys →
      Frozen ext row triple → rotatesAssertion row = false → triple.assertion = key :=
    fun _ _ _ found rotates sealed_ other =>
      frozen_step tracked tenured move found rotates sealed_ other
  cases move with
  | perform calls task nextStep effect held concerned performed unused =>
      have kept := harmless task calls rfl held
      rcases performed_issuer tracked tenured held kept performed with ⟨id, did, row⟩
      refine ⟨id, did, row, performed_log carries tracked tenured held kept performed, frozen, ?_⟩
      intro stepped next result triple same rotates patch other
      simp only [World.takes, Phase.stepped.injEq] at same
      rcases same with ⟨rfl, rfl, done⟩
      exact kept_assertion (patch_generates tracked held performed done patch).2 rotates other
        tenured.row
  | acquire | record | release =>
      refine ⟨tenured.id, tenured.did, tenured.row, tenured.tail, frozen, ?_⟩
      intro stepped next result triple same
      cases same
  | checkIssuer | lookup | insert | fail =>
      exact ⟨tenured.id, tenured.did, tenured.row, tenured.tail, frozen, tenured.pending⟩

end Steps

end SwiyuIssuer.Signing
