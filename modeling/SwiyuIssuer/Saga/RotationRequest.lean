import SwiyuIssuer.Saga.Agreement

/-! One rotation from its first step to its end, when no call fails. -/

namespace SwiyuIssuer.Saga

open Library Persistence Worker

/-- A key pair that the engine generates for a role has the role's algorithm and encoding. -/
def Shaped (engine : Engine) (role : KeyRole) (id : KeyPairId) : Prop :=
  (engine.publicKey id).algorithm = KeyAlgorithm.forRole role ∧
    match role with
    | .authorized => (engine.publicKey id).bytes.length = 32
    | .authentication | .assertion => (engine.publicKey id).bytes.length = 65 ∧
        (engine.publicKey id).bytes.head? = some 4

/-- The two coordinates of a SEC1 point. -/
def point (pk : RawPublicKey) : P256PublicKey := ⟨(pk.bytes.drop 1).take 32, pk.bytes.drop 33⟩

theorem authorizedMultikey_works (core : SwiyuCore) {engine : Engine} {id : KeyPairId}
    (shaped : Shaped engine .authorized id) (role : String) :
    authorizedMultikey core engine none role id = .ok (engine.multikey core id) := by
  have accepted : ed25519Bytes role (engine.publicKey id) = .ok (engine.publicKey id).bytes := by
    rw [ed25519Bytes, if_neg]
    rw [not_or, not_not, not_not]
    exact shaped
  show (ed25519Bytes role (engine.publicKey id) >>= _) = _
  rw [accepted]
  rfl

theorem sec1ToP256_works {engine : Engine} {role : KeyRole} {id : KeyPairId}
    (shaped : Shaped engine role id) (curve : role ≠ .authorized) (name : String) :
    sec1ToP256 name (engine.publicKey id) = .ok (point (engine.publicKey id)) := by
  rcases shaped with ⟨algorithm, encoding⟩
  cases role with
  | authorized => exact absurd rfl curve
  | authentication | assertion =>
      have p256 : (engine.publicKey id).algorithm = .ecdsaP256 := algorithm
      have accepted : ¬ ((engine.publicKey id).bytes.length ≠ 65 ∨
          (engine.publicKey id).bytes.head? ≠ some 4) := by
        rw [not_or, not_not, not_not]
        exact encoding
      rw [sec1ToP256, if_neg (not_not.mpr p256), if_neg accepted]
      rfl

/-- Different keys of the right encoding are different points. -/
theorem point_injective {engine : Engine} {role : KeyRole} {left right : KeyPairId}
    (curve : role ≠ .authorized) (shapedLeft : Shaped engine role left)
    (shapedRight : Shaped engine role right)
    (same : point (engine.publicKey left) = point (engine.publicKey right)) :
    (engine.publicKey left).bytes = (engine.publicKey right).bytes := by
  have encodings : (engine.publicKey left).bytes.head? = some 4 ∧
      (engine.publicKey right).bytes.head? = some 4 := by
    cases role with
    | authorized => exact absurd rfl curve
    | authentication | assertion => exact ⟨shapedLeft.2.2, shapedRight.2.2⟩
  rcases encodings with ⟨headLeft, headRight⟩
  simp only [point, P256PublicKey.mk.injEq] at same
  rcases same with ⟨x, y⟩
  cases l : (engine.publicKey left).bytes with
  | nil =>
      rw [l] at headLeft
      cases headLeft
  | cons firstLeft restLeft =>
      cases r : (engine.publicKey right).bytes with
      | nil =>
          rw [r] at headRight
          cases headRight
      | cons firstRight restRight =>
          rw [l] at headLeft x y
          rw [r] at headRight x y
          simp only [List.drop_succ_cons, List.drop_zero] at x y
          cases headLeft
          cases headRight
          rw [← List.take_append_drop 32 restLeft, ← List.take_append_drop 32 restRight, x, y]

/-- With every call working, the builder answers by the test on the tail's first update key. -/
theorem buildRotationEntry_works (core : SwiyuCore) {engine : Engine} {issuer : Issuer}
    {triple : KeyTriple} {log : List LogEntry} (now : DateTime) {outgoing : KeyPairId}
    {last : LogEntry} {doc : DidDoc} (active : issuer.state = some .active)
    (row : issuer.authorizedKeyId = some outgoing) (shapedRow : Shaped engine .authorized outgoing)
    (tail : log.getLast? = some last) (document : last.didDocState = .value (.ok doc))
    (shaped : ∀ role, Shaped engine role (triple.forRole role)) :
    (last.updateKeys.bind List.head? = some (engine.multikey core triple.authorized) →
      buildRotationEntry core engine {} issuer triple log now = .error .already) ∧
    (last.updateKeys.bind List.head? ≠ some (engine.multikey core triple.authorized) →
      ∃ entry, buildRotationEntry core engine {} issuer triple log now = .ok entry) := by
  have allowed : requireActive issuer = .ok () := by rw [requireActive, if_pos active]
  have parsed : predecessorDoc last = .ok doc := by rw [predecessorDoc, document]
  have authorized := authorizedMultikey_works core (shaped .authorized) "authorized"
  have authentication :
      p256Key engine none "authentication" triple.authentication = .ok _ :=
    sec1ToP256_works (shaped .authentication) (by decide) "authentication"
  have assertion : p256Key engine none "assertion" triple.assertion = .ok _ :=
    sec1ToP256_works (shaped .assertion) (by decide) "assertion"
  have signer := authorizedMultikey_works core shapedRow "outgoing-authorized"
  have reached : buildRotationEntry core engine {} issuer triple log now =
      if last.updateKeys.bind List.head? = some (engine.multikey core triple.authorized) then
        .error .already
      else chainEntry core engine {} "outgoing-authorized" log
        (core.newRotation last.versionId issuer.did (engine.multikey core triple.authorized)
          (point (engine.publicKey triple.authentication))
          (point (engine.publicKey triple.assertion)) (core.rfc3339 now)) outgoing
        (core.rfc3339 now) := by
    unfold buildRotationEntry
    rw [allowed, chainedOr_ok.mpr row, chainedOr_ok.mpr tail]
    show (predecessorDoc last >>= _) = _
    rw [parsed]
    show (authorizedMultikey core engine none "authorized" triple.authorized >>= _) = _
    rw [show authorizedMultikey core engine none "authorized" triple.authorized = _ from authorized]
    show (p256Key engine none "authentication" triple.authentication >>= _) = _
    rw [authentication]
    show (p256Key engine none "assertion" triple.assertion >>= _) = _
    rw [assertion]
    rfl
  rw [reached]
  constructor
  · exact fun rotated => if_pos rotated
  · intro unrotated
    rw [if_neg unrotated]
    unfold chainEntry
    rw [signer]
    exact ⟨_, rfl⟩

theorem foldl_firstOccurrences {front roles : List KeyRole} (distinct : (front ++ roles).Nodup) :
    roles.foldl (fun out role => if out.contains role then out else out ++ [role]) front =
      front ++ roles := by
  induction roles generalizing front with
  | nil => simp
  | cons role roles ih =>
      have absent : front.contains role = false := by
        rw [List.nodup_append] at distinct
        rw [← Bool.not_eq_true, List.contains_iff_mem]
        exact fun present => distinct.2.2 role present role List.mem_cons_self rfl
      rw [List.foldl_cons, absent]
      have longer : (front ++ [role] ++ roles).Nodup := by simpa using distinct
      simpa using ih longer

/-- The input that a handler stores is the one that the worker reads. -/
theorem decode_rotate_input {roles : List KeyRole} (asked : roles ≠ []) (distinct : roles.Nodup) :
    RotateKeysInput.decode (RequestKind.rotate ⟨roles⟩).input = .ok ⟨roles⟩ := by
  have raw : (roles.map fun role => Json.string (roleName role)).mapM Json.asString =
      .ok (roles.map roleName) := Answers.mapM_map_ok roles _ _ roleName fun _ => rfl
  have named : (roles.map roleName).mapM roleNamed = .ok roles := by
    have read := Answers.mapM_map_ok roles roleName roleNamed id fun role => by cases role <;> rfl
    simpa using read
  have nonempty : (roles.map roleName).isEmpty = false := by
    cases roles with
    | nil => exact absurd rfl asked
    | cons => rfl
  have concrete : (roles.map roleName).contains "all" = false := by
    rw [← Bool.not_eq_true, List.contains_iff_mem]
    intro member
    rcases List.mem_map.mp member with ⟨role, _, name⟩
    cases role <;> exact absurd name (by decide)
  have wired : wireRoles (.array (roles.map fun role => .string (roleName role))) = .ok roles := by
    show ((roles.map fun role => Json.string (roleName role)).mapM Json.asString >>= _) = _
    rw [raw]
    show (if (roles.map roleName).isEmpty then _ else _) = _
    rw [nonempty, concrete, named]
    exact congrArg Except.ok (foldl_firstOccurrences (show ([] ++ roles).Nodup from distinct))
  show (wireRoles (.array (roles.map fun role => .string (roleName role))) >>= _) = _
  rw [wired]
  rfl

structure Clock where
  acquiredAt : DateTime
  recordedAt : DateTime
  word : UInt64

def dispatchAt (id : TaskId) (calls : StepCalls) (clock : Clock) : List Event :=
  [.acquire id clock.acquiredAt, .perform calls, .record clock.recordedAt clock.word]

/-- Dispatches of one task until it is terminal, one for each clock. -/
def drive (ext : Externals) (id : TaskId) (calls : StepCalls) : List Clock → World → Option World
  | [], world => some world
  | clock :: clocks, world =>
      if (world.tasks id).all fun task => task.state.isTerminal then some world
      else (exec (World.step ext) world (dispatchAt id calls clock)).bind
        (drive ext id calls clocks)

/-- Every call of every step works; the engine's new key pair for a role is `new`. -/
structure Works (issuer : Issuer) (new : KeyRole → KeyPairId) (calls : StepCalls) : Prop where
  pool : calls.loads.poolAcquire = .ok ()
  tenant : ∃ tenant, calls.loads.tenant = .ok (some tenant)
  issuer : calls.loads.issuer = .ok (some issuer)
  fetch : calls.fetch = none
  faults : calls.faults = {}
  put : calls.put = .acknowledged
  generated : ∀ role, calls.generated role = .ok (new role)
  swap : calls.swap = {}

/-- The rotation waits in the queue, where nothing stands before it. -/
structure Waiting (id : TaskId) (input : RotateKeysInput) (world : World) (task : OperationTask) :
    Prop where
  idle : world.worker = .idle
  found : world.tasks id = some task
  keyed : task.id = id
  alone : ∀ other ∈ world.ids, other = id
  live : task.state.isTerminal = false
  undelayed : task.nextAttemptAt = none
  saga : task.taskType = .rotateKeys
  asked : RotateKeysInput.decode task.input = .ok input
  tenant : task.tenantId = world.issuer.tenantId
  issuer : task.resultIssuerId = some world.issuer.id

theorem executeStep_rotation (ext : Externals) (world : World) (task : OperationTask)
    (calls : StepCalls) {input : RotateKeysInput} {state : RotateKeysStateData}
    {arm : Arm RotateKeysStep} {new : KeyRole → KeyPairId} (saga : task.taskType = .rotateKeys)
    (asked : RotateKeysInput.decode task.input = .ok input)
    (decoded : RotateKeysStateData.decode ext.uuid task.stateData = .ok state)
    (named : task.resultIssuerId.isSome = true)
    (known : rotateKeysArm (task.step.getD "generate_new_keys") = some arm)
    (works : Works world.issuer new calls) : ∃ tenant,
    executeStep ext world task calls = some (.ok (arm.nextStep,
      rotateStep ext world task calls input state (tenant, world.issuer) arm.step)) := by
  have runnable : (rotateKeysSaga ext.uuid).Runnable task calls.loads :=
    ⟨⟨input, asked⟩, ⟨state, decoded⟩, ⟨named, ⟨works.pool, works.tenant⟩, _, works.issuer⟩,
      arm, known, fun _ => named⟩
  rcases ((rotateKeysSaga ext.uuid).execute_runnable task calls.loads
    (rotateStep ext world task calls)).mpr runnable with ⟨⟨nextStep, effect⟩, executed⟩
  rcases Saga.execute_ok _ executed with
    ⟨inputRead, stateRead, ⟨tenant, issuer⟩, armRead, sameInput, sameState, loaded, sameArm, _, rfl,
      rfl⟩
  rcases loadTenantAndIssuer_ok.mp loaded with ⟨_, _, _, read⟩
  cases asked.symm.trans sameInput
  cases decoded.symm.trans sameState
  cases known.symm.trans sameArm
  cases works.issuer.symm.trans read
  refine ⟨tenant, ?_⟩
  unfold executeStep
  rw [saga]
  exact congrArg some executed

/-- What one dispatch leaves, when its step reaches its executor. -/
structure Dispatched (id : TaskId) (world after : World) (task : OperationTask)
    (effect : Effect) (write : TaskWrite) : Prop where
  tasks : after.tasks id = some (write.perform task)
  worker : after.worker = .idle
  ids : after.ids = world.ids
  issuer : after.issuer = effect.row.getD world.issuer
  log : after.log = world.log ++ (effect.stored.map fun entry => ⟨some id, entry⟩).toList

theorem dispatch_runs {ext : Externals} {id : TaskId} {input : RotateKeysInput} {world : World}
    {task : OperationTask} {state : RotateKeysStateData} {arm : Arm RotateKeysStep}
    {calls : StepCalls} {new : KeyRole → KeyPairId} (waiting : Waiting id input world task)
    (decoded : RotateKeysStateData.decode ext.uuid task.stateData = .ok state)
    (known : rotateKeysArm (task.step.getD "generate_new_keys") = some arm)
    (works : Works world.issuer new calls) (clock : Clock)
    (unused : arm.step = .generateNewKeys →
      fresh ext world (created calls.generated input.roles) = true) :
    ∃ attempts tenant after write,
      exec (World.step ext) world (dispatchAt id calls clock) = some after ∧
      finish (task.claimed attempts clock.acquiredAt) arm.nextStep
        (rotateStep ext world (task.claimed attempts clock.acquiredAt) calls input state
          (tenant, world.issuer) arm.step).outcome clock.recordedAt clock.word = .ok write ∧
      Dispatched id world after (task.claimed attempts clock.acquiredAt)
        (rotateStep ext world (task.claimed attempts clock.acquiredAt) calls input state
          (tenant, world.issuer) arm.step) write := by
  rcases OperationTask.tryAcquire_runnable waiting.live clock.acquiredAt with ⟨acquired, claims⟩
  have persisted := OperationTask.setAcquired_tryAcquire claims
  rcases OperationTask.tryAcquire_ok claims with ⟨_, attempts, rfl⟩
  have acquirable : task.acquirable clock.acquiredAt = true := by
    simp [OperationTask.acquirable, waiting.live, waiting.undelayed, due]
  have first : world.first task clock.acquiredAt = true := by
    apply List.all_eq_true.mpr
    intro other listed
    rw [waiting.alone other listed, waiting.found]
    simp
  have polled : world.step ext (.acquire id clock.acquiredAt) =
      some (world.setTask id (task.claimed attempts clock.acquiredAt)
        (.acquired (task.claimed attempts clock.acquiredAt))) := by
    simp only [World.step, waiting.idle, waiting.found, acquirable, first, claims, persisted,
      Bool.and_self, if_true]
  generalize polledWorld : world.setTask id (task.claimed attempts clock.acquiredAt)
    (.acquired (task.claimed attempts clock.acquiredAt)) = taken at polled
  have same : taken.issuer = world.issuer ∧ taken.log = world.log ∧ taken.keys = world.keys ∧
      taken.worker = .acquired (task.claimed attempts clock.acquiredAt) ∧ taken.ids = world.ids ∧
      taken.tasks id = some (task.claimed attempts clock.acquiredAt) := by
    rw [← polledWorld]
    exact ⟨rfl, rfl, rfl, rfl, rfl, Function.update_self ..⟩
  rcases same with ⟨issuer, log, keys, worker, ids, tasks⟩
  generalize claimedTask : task.claimed attempts clock.acquiredAt = claimed at worker tasks
  have columns : claimed.id = id ∧ claimed.state = .inProgress ∧ claimed.taskType = .rotateKeys ∧
      claimed.tenantId = world.issuer.tenantId ∧
      claimed.resultIssuerId = some world.issuer.id := by
    rw [← claimedTask]
    exact ⟨waiting.keyed, rfl, waiting.saga, waiting.tenant, waiting.issuer⟩
  have reads : RotateKeysInput.decode claimed.input = .ok input ∧
      RotateKeysStateData.decode ext.uuid claimed.stateData = .ok state ∧
      rotateKeysArm (claimed.step.getD "generate_new_keys") = some arm := by
    rw [← claimedTask]
    exact ⟨waiting.asked, decoded, known⟩
  rcases columns with ⟨keyed, running, saga, tenantId, resultIssuerId⟩
  rcases reads with ⟨asked, decoded, known⟩
  rcases executeStep_rotation ext taken claimed calls saga asked decoded
    (by rw [resultIssuerId]; rfl) known (issuer ▸ works) with ⟨tenant, executed⟩
  refine ⟨attempts, tenant, ?_⟩
  rw [claimedTask]
  have consistent : answersFromRow taken claimed calls.loads = true := by
    simp [answersFromRow, works.issuer, issuer, tenantId, resultIssuerId]
  have effectSame : rotateStep ext taken claimed calls input state (tenant, taken.issuer) arm.step =
      rotateStep ext world claimed calls input state (tenant, world.issuer) arm.step := by
    cases arm.step <;> simp only [rotateStep, log, issuer]
  rw [effectSame] at executed
  have unusedKeys : fresh ext taken (rotateStep ext world claimed calls input state
      (tenant, world.issuer) arm.step).generated = true := by
    cases step : arm.step with
    | generateNewKeys =>
        simp only [rotateStep]
        split
        · rfl
        · simpa only [fresh, keys] using unused step
    | buildRotationDidlog | swapKeys => rfl
    | publishDidlog =>
        simp only [rotateStep, publishEffect]
        split <;> rfl
  generalize rotateStep ext world claimed calls input state (tenant, world.issuer) arm.step =
    effect at executed unusedKeys ⊢
  have performed : taken.step ext (.perform calls) =
      some (taken.takes claimed arm.nextStep effect) := by
    simp only [World.step, worker, consistent, executed, unusedKeys, if_true]
  rcases finish_recorded running arm.nextStep effect.outcome clock.recordedAt clock.word with
    ⟨write, written, _⟩
  have recorded : (taken.takes claimed arm.nextStep effect).step ext
      (.record clock.recordedAt clock.word) =
      some ((taken.takes claimed arm.nextStep effect).setTask claimed.id
        (write.perform claimed) .idle) := by
    have held : (taken.takes claimed arm.nextStep effect).tasks claimed.id = some claimed := by
      rw [keyed]
      exact tasks
    have stepped : (taken.takes claimed arm.nextStep effect).worker =
        .stepped claimed arm.nextStep effect.outcome := rfl
    simp only [World.step, stepped, written, held]
  refine ⟨(taken.takes claimed arm.nextStep effect).setTask claimed.id (write.perform claimed) .idle,
    write, ?_, written, ?_⟩
  · simp only [dispatchAt, exec, polled, performed, recorded, Option.bind_some]
  · refine ⟨?_, rfl, ids, ?_, ?_⟩
    · rw [keyed]
      exact Function.update_self ..
    · show effect.row.getD taken.issuer = _
      rw [issuer]
    · show taken.log ++ _ = _
      rw [log, keyed]

theorem generateFor_works {generated : KeyRole → Except SigningEngineError KeyPairId}
    {new : KeyRole → KeyPairId} (works : ∀ role, generated role = .ok (new role)) (keys : Keys)
    (roles : List KeyRole) : ∃ after, generateFor generated keys roles = .ok after := by
  induction roles generalizing keys with
  | nil => exact ⟨keys, rfl⟩
  | cons role roles ih =>
      unfold generateFor
      rw [works role]
      exact ih _

theorem executeGenerateNewKeys_works {issuer : Issuer} {input : RotateKeysInput}
    {state : RotateKeysStateData} {old : KeyTriple}
    {generated : KeyRole → Except SigningEngineError KeyPairId} {new : KeyRole → KeyPairId}
    (unfrozen : state.newKeyTriple = none)
    (row : ∀ role, issuer.keyIdForRole role = some (old.forRole role))
    (works : ∀ role, generated role = .ok (new role)) :
    ∃ result, executeGenerateNewKeys issuer input state generated = .done result := by
  have complete : missingRole issuer input.roles = none := by
    apply List.find?_eq_none.mpr
    intro role _
    simp [row role]
  unfold executeGenerateNewKeys
  rw [if_neg (by simp [unfrozen])]
  split
  · next role missing =>
      rw [complete] at missing
      cases missing
  · split
    · next error failed =>
        rcases generateFor_works works issuer.keyIdForRole input.roles with ⟨keys, done⟩
        rw [failed] at done
        cases done
    · exact ⟨_, rfl⟩

theorem drive_terminal {ext : Externals} {id : TaskId} {calls : StepCalls} {world : World}
    {task : OperationTask} (found : world.tasks id = some task)
    (ended : task.state.isTerminal = true) (clocks : List Clock) :
    drive ext id calls clocks world = some world := by
  cases clocks with
  | nil => rfl
  | cons clock clocks => simp [drive, found, ended]

theorem drive_live {ext : Externals} {id : TaskId} {calls : StepCalls} {world after : World}
    {task : OperationTask} (found : world.tasks id = some task)
    (live : task.state.isTerminal = false) {clock : Clock} (clocks : List Clock)
    (dispatched : exec (World.step ext) world (dispatchAt id calls clock) = some after) :
    drive ext id calls (clock :: clocks) world = drive ext id calls clocks after := by
  simp [drive, found, live, dispatched]

theorem Dispatched.waiting {id : TaskId} {input : RotateKeysInput} {world after : World}
    {task : OperationTask} {attempts : Nat} {acquiredAt now : DateTime} {effect : Effect}
    {name : String} {patch : JsonMap} (waiting : Waiting id input world task)
    (dispatched : Dispatched id world after (task.claimed attempts acquiredAt) effect
      (.advanceStep (some name) patch now)) (unwritten : effect.row = none) :
    Waiting id input after ((task.claimed attempts acquiredAt).advanceStep (some name)
      (OperationTask.mergeStateData task.stateData patch) now) := by
  have issuer : after.issuer = world.issuer := by
    rw [dispatched.issuer, unwritten]
    rfl
  exact ⟨dispatched.worker, dispatched.tasks, waiting.keyed, dispatched.ids ▸ waiting.alone, rfl,
    rfl, waiting.saga, waiting.asked, issuer ▸ waiting.tenant, issuer ▸ waiting.issuer⟩

def document (entry : LogEntry) : Option DidDoc :=
  match entry.didDocState with
  | .value (.ok doc) => some doc
  | _ => none

/-- The public keys that an entry shows for a role. -/
def advertised (core : SwiyuCore) (entry : LogEntry) :
    KeyRole → Option (List String) × Option P256PublicKey
  | .authorized => (entry.updateKeys, none)
  | .authentication => (none, (document entry).bind (·.key core.authenticationFragment))
  | .assertion => (none, (document entry).bind (·.key assertionFragment))

/-- The task is completed, the log has one new entry, and the entry and the row have new keys for
the requested roles and the previous ones for the others. -/
structure RotatedAsAsked (ext : Externals) (id : TaskId) (roles : List KeyRole)
    (first last : World) : Prop where
  completed : ∃ task, last.tasks id = some task ∧ task.state = .completed
  rotated : ∃ before entry triple, first.log.getLast? = some before ∧
    last.log = first.log ++ [⟨some id, entry⟩] ∧ ShowsTriple ext entry triple ∧
    ∀ role, last.issuer.keyIdForRole role = some (triple.forRole role) ∧
      (role ∈ roles → triple.forRole role ∉ first.keys ∧
        advertised ext.core entry role ≠ advertised ext.core before.entry role) ∧
      (role ∉ roles → last.issuer.keyIdForRole role = first.issuer.keyIdForRole role ∧
        advertised ext.core entry role = advertised ext.core before.entry role)

/-- An active issuer whose three keys are the ones that the tail of its log advertises, a rotation
of `roles` waiting for it, and a registry and an engine that never fail. -/
structure Rotatable (ext : Externals) (id : TaskId) (roles : List KeyRole) (world : World)
    (before : Published) (old : KeyTriple) (new : KeyRole → KeyPairId) (calls : StepCalls) :
    Prop where
  asked : roles ≠ []
  distinct : roles.Nodup
  idle : world.worker = .idle
  queued : ∃ createdAt, world.tasks id =
    some (newTask ⟨world.issuer.tenantId, world.issuer.id, .rotate ⟨roles⟩⟩ id createdAt)
  alone : ∀ other ∈ world.ids, other = id
  active : world.issuer.state = some .active
  addressed : Addressed ext.core world.issuer
  row : ∀ role, world.issuer.keyIdForRole role = some (old.forRole role)
  tail : world.log.getLast? = some before
  shown : ShowsTriple ext before.entry old
  held : ∀ role, old.forRole role ∈ world.keys
  shapedOld : ∀ role, Shaped ext.engine role (old.forRole role)
  shapedNew : ∀ role, Shaped ext.engine role (new role)
  unused : ∀ role, ∀ key ∈ world.keys,
    (ext.engine.publicKey (new role)).bytes ≠ (ext.engine.publicKey key).bytes
  works : Works world.issuer new calls

theorem Rotatable.waiting {ext : Externals} {id : TaskId} {roles : List KeyRole} {world : World}
    {before : Published} {old : KeyTriple} {new : KeyRole → KeyPairId} {calls : StepCalls}
    (rotatable : Rotatable ext id roles world before old new calls) :
    ∃ task, Waiting id ⟨roles⟩ world task ∧ task.step = none ∧
      task.stateData = .object [] := by
  rcases rotatable.queued with ⟨createdAt, found⟩
  exact ⟨_, ⟨rotatable.idle, found, rfl, rotatable.alone, rfl, rfl, rfl,
    decode_rotate_input rotatable.asked rotatable.distinct, rfl, rfl⟩, rfl, rfl⟩

theorem fresh_created {ext : Externals} {world : World} {new : KeyRole → KeyPairId}
    {calls : StepCalls} (works : ∀ role, calls.generated role = .ok (new role))
    (unused : ∀ role, ∀ key ∈ world.keys,
      (ext.engine.publicKey (new role)).bytes ≠ (ext.engine.publicKey key).bytes)
    (roles : List KeyRole) : fresh ext world (created calls.generated roles) = true := by
  apply List.all_eq_true.mpr
  intro id generated
  rcases List.mem_filterMap.mp generated with ⟨role, _, made⟩
  rw [works role] at made
  cases made
  apply List.all_eq_true.mpr
  intro key held
  simpa using unused role key held

/-- The rotation waits at a step, with what the earlier steps have accumulated. -/
def Stands (ext : Externals) (id : TaskId) (roles : List KeyRole) (world : World) (name : String)
    (state : RotateKeysStateData) : Prop :=
  ∃ task map, Waiting id ⟨roles⟩ world task ∧ task.step.getD "generate_new_keys" = name ∧
    task.stateData = .object map ∧ RotateKeysStateData.decode ext.uuid (.object map) = .ok state

section Dispatches

variable {ext : Externals} {id : TaskId} {roles : List KeyRole} {world : World} {name : String}
  {state : RotateKeysStateData} {arm : Arm RotateKeysStep} {calls : StepCalls}
  {new : KeyRole → KeyPairId}

theorem stands_effect (stands : Stands ext id roles world name state)
    (known : rotateKeysArm name = some arm) (works : Works world.issuer new calls) (clock : Clock)
    (unused : arm.step = .generateNewKeys →
      fresh ext world (created calls.generated roles) = true) :
    ∃ task map attempts tenant after write, Waiting id ⟨roles⟩ world task ∧
      task.stateData = .object map ∧
      RotateKeysStateData.decode ext.uuid (.object map) = .ok state ∧
      exec (World.step ext) world (dispatchAt id calls clock) = some after ∧
      finish (task.claimed attempts clock.acquiredAt) arm.nextStep
        (rotateStep ext world (task.claimed attempts clock.acquiredAt) calls ⟨roles⟩ state
          (tenant, world.issuer) arm.step).outcome clock.recordedAt clock.word = .ok write ∧
      Dispatched id world after (task.claimed attempts clock.acquiredAt)
        (rotateStep ext world (task.claimed attempts clock.acquiredAt) calls ⟨roles⟩ state
          (tenant, world.issuer) arm.step) write := by
  rcases stands with ⟨task, map, waiting, rfl, object, decoded⟩
  have read : RotateKeysStateData.decode ext.uuid task.stateData = .ok state := object ▸ decoded
  rcases dispatch_runs waiting read known works clock unused with
    ⟨attempts, tenant, after, write, ran, finished, dispatched⟩
  exact ⟨task, map, attempts, tenant, after, write, waiting, object, decoded, ran, finished,
    dispatched⟩

theorem stands_advance {next : String} {result : StepResult} {state' : RotateKeysStateData}
    (stands : Stands ext id roles world name state) (known : rotateKeysArm name = some arm)
    (follows : arm.nextStep = some next) (works : Works world.issuer new calls) (clock : Clock)
    (unused : arm.step = .generateNewKeys →
      fresh ext world (created calls.generated roles) = true)
    (done : ∀ task tenant,
      (rotateStep ext world task calls ⟨roles⟩ state (tenant, world.issuer) arm.step).outcome =
        .done result ∧
      (rotateStep ext world task calls ⟨roles⟩ state (tenant, world.issuer) arm.step).row = none)
    (merged : ∀ map, RotateKeysStateData.decode ext.uuid (.object map) = .ok state →
      RotateKeysStateData.decode ext.uuid
        (OperationTask.mergeStateData (.object map) result.stateDataPatch) = .ok state') :
    ∃ task tenant after, exec (World.step ext) world (dispatchAt id calls clock) = some after ∧
      Stands ext id roles after next state' ∧ after.issuer = world.issuer ∧
      after.log = world.log ++ ((rotateStep ext world task calls ⟨roles⟩ state
        (tenant, world.issuer) arm.step).stored.map fun entry => ⟨some id, entry⟩).toList := by
  rcases stands_effect stands known works clock unused with
    ⟨task, map, attempts, tenant, after, write, waiting, object, decoded, ran, finished,
      dispatched⟩
  rcases done (task.claimed attempts clock.acquiredAt) tenant with ⟨outcome, unwritten⟩
  rw [outcome, follows] at finished
  cases finished
  refine ⟨_, tenant, after, ran, ?_, ?_, dispatched.log⟩
  · refine ⟨_, _, dispatched.waiting waiting unwritten, rfl, ?_, merged map decoded⟩
    show OperationTask.mergeStateData task.stateData result.stateDataPatch = _
    rw [object]
    rfl
  · rw [dispatched.issuer, unwritten]
    rfl

theorem stands_fail {errorCode errorMessage : String}
    (stands : Stands ext id roles world name state) (known : rotateKeysArm name = some arm)
    (works : Works world.issuer new calls) (clock : Clock)
    (later : arm.step ≠ .generateNewKeys)
    (failed : ∀ task tenant,
      (rotateStep ext world task calls ⟨roles⟩ state (tenant, world.issuer) arm.step).outcome =
        .terminal errorCode errorMessage) :
    ∃ after task, exec (World.step ext) world (dispatchAt id calls clock) = some after ∧
      after.tasks id = some task ∧ task.state = .failed := by
  rcases stands_effect stands known works clock (fun first => absurd first later) with
    ⟨task, map, attempts, tenant, after, write, waiting, object, decoded, ran, finished,
      dispatched⟩
  rw [failed] at finished
  cases finish_ok rfl finished with
  | completed _ done => cases done
  | advanced _ _ done => cases done
  | scheduled _ _ _ retried => cases retried
  | failed code message task' why fails =>
      rcases failThroughAggregate_inProgress (show (task.claimed attempts
        clock.acquiredAt).state = .inProgress from rfl) code message clock.recordedAt with
        ⟨row, again, ended, _⟩
      rw [fails] at again
      cases again
      exact ⟨after, _, ran, dispatched.tasks, ended⟩

theorem stands_complete {result : StepResult} {row : Issuer}
    (stands : Stands ext id roles world name state) (known : rotateKeysArm name = some arm)
    (last : arm.nextStep = none) (works : Works world.issuer new calls) (clock : Clock)
    (later : arm.step ≠ .generateNewKeys)
    (effect : ∀ task tenant, task.tenantId = world.issuer.tenantId →
      rotateStep ext world task calls ⟨roles⟩ state (tenant, world.issuer) arm.step =
        rowEffect (row, .done result)) :
    ∃ after task, exec (World.step ext) world (dispatchAt id calls clock) = some after ∧
      after.tasks id = some task ∧ task.state = .completed ∧ after.issuer = row ∧
      after.log = world.log := by
  rcases stands_effect stands known works clock (fun first => absurd first later) with
    ⟨task, map, attempts, tenant, after, write, waiting, object, decoded, ran, finished,
      dispatched⟩
  have same := effect (task.claimed attempts clock.acquiredAt) tenant waiting.tenant
  rw [same, last] at finished
  rw [same] at dispatched
  cases finished
  refine ⟨after, _, ran, dispatched.tasks, rfl, dispatched.issuer, ?_⟩
  rw [dispatched.log]
  exact List.append_nil _

theorem Stands.drive_live (stands : Stands ext id roles world name state) {after : World}
    {clock : Clock} (clocks : List Clock)
    (dispatched : exec (World.step ext) world (dispatchAt id calls clock) = some after) :
    drive ext id calls (clock :: clocks) world = drive ext id calls clocks after := by
  rcases stands with ⟨task, _, waiting, _⟩
  exact Saga.drive_live waiting.found waiting.live clocks dispatched

end Dispatches

def Externals.shows (ext : Externals) (role : KeyRole) (id : KeyPairId) :
    Option (List String) × Option P256PublicKey :=
  match role with
  | .authorized => (some [ext.engine.multikey ext.core id], none)
  | .authentication | .assertion => (none, some (point (ext.engine.publicKey id)))

theorem advertised_of_shows {ext : Externals} {entry : LogEntry} {triple : KeyTriple}
    (shown : ShowsTriple ext entry triple)
    (shaped : ∀ role, Shaped ext.engine role (triple.forRole role)) (role : KeyRole) :
    advertised ext.core entry role = ext.shows role (triple.forRole role) := by
  rcases shown with ⟨updateKeys, doc, authentication, assertion, state, first, second, firstKey,
    secondKey⟩
  have read : document entry = some doc := by rw [document, state]
  cases role with
  | authorized => exact congrArg (·, none) updateKeys
  | authentication =>
      have same := sec1ToP256_works (shaped .authentication) (by decide) "authentication"
      rw [show (triple.forRole .authentication) = triple.authentication from rfl, first] at same
      cases same
      show (none, (document entry).bind _) = _
      rw [read]
      exact congrArg (none, ·) firstKey
  | assertion =>
      have same := sec1ToP256_works (shaped .assertion) (by decide) "assertion"
      rw [show (triple.forRole .assertion) = triple.assertion from rfl, second] at same
      cases same
      show (none, (document entry).bind _) = _
      rw [read]
      exact congrArg (none, ·) secondKey

theorem shows_injective {ext : Externals} {role : KeyRole} {left right : KeyPairId}
    (shapedLeft : Shaped ext.engine role left) (shapedRight : Shaped ext.engine role right)
    (same : ext.shows role left = ext.shows role right) :
    (ext.engine.publicKey left).bytes = (ext.engine.publicKey right).bytes := by
  cases role with
  | authorized =>
      apply ext.core.multikey_injective
      exact (List.cons.inj (Option.some.inj (Prod.mk.inj same).1)).1
  | authentication | assertion =>
      exact point_injective (by decide) shapedLeft shapedRight
        (Option.some.inj (Prod.mk.inj same).2)

theorem executeBuildDidlog_works {core : SwiyuCore} {texts : SagaTexts} {step : String}
    {issuer : Issuer} (addressed : Addressed core issuer) (log : List LogEntry)
    (build : List LogEntry → Except BuildError LogEntry) :
    executeBuildDidlog core texts step issuer (.ok log) build =
      match build log with
      | .ok _ => .done {}
      | .error error => outcomeForBuildError texts step error := by
  rcases addressed with ⟨path, identifier, parsed, _⟩
  unfold executeBuildDidlog
  rw [parsed]
  show stepOutcome ((build log).mapError (outcomeForBuildError texts step) >>= _) = _
  cases build log <;> rfl

theorem preparePublish_works {core : SwiyuCore} {texts : SagaTexts} {issuer : Issuer}
    (addressed : Addressed core issuer) (log : List LogEntry)
    {build : List LogEntry → Except BuildError LogEntry} {entry : LogEntry}
    (built : build log = .ok entry) :
    preparePublish core texts issuer (.ok log) build = .ok (log, entry) := by
  rcases addressed with ⟨path, identifier, parsed, identified⟩
  unfold preparePublish
  rw [parsed]
  show (requireIdentifier issuer path >>= _) = _
  rw [identified]
  show (settleBuild texts (build log) >>= _) = _
  rw [built]
  rfl

theorem swapKeyTriple_works {row : Issuer} {tenantId : TenantId} {issuerId : IssuerId}
    (own : isRow row tenantId issuerId = true) (active : row.state = some .active)
    (authorized authentication assertion : KeyPairId) :
    ∃ outcome, swapKeyTriple row tenantId issuerId authorized authentication assertion .ok none =
      (withKeys row authorized authentication assertion, .ok outcome) := by
  cases carried : carries row authorized authentication assertion with
  | true =>
      have same := carries_iff.mp carried
      refine ⟨.already, ?_⟩
      rw [← same]
      simp [swapKeyTriple, swapUpdates, swapMatches, own, active, carried]
  | false =>
      refine ⟨.nowSwapped, ?_⟩
      simp [swapKeyTriple, swapUpdates, own, active, carried]

theorem executeSwapKeys_works {row : Issuer} {tenantId : TenantId} {issuerId : IssuerId}
    {state : RotateKeysStateData} {triple : KeyTriple} (own : isRow row tenantId issuerId = true)
    (active : row.state = some .active) (frozen : state.newKeyTriple = some triple) :
    executeSwapKeys row tenantId issuerId state {} = (triple.install row, .done {}) := by
  rcases swapKeyTriple_works own active triple.authorized triple.authentication
    triple.assertion with ⟨outcome, called⟩
  unfold executeSwapKeys
  simp only [frozen, called]
  rfl

section Steps

variable {ext : Externals} {id : TaskId} {roles : List KeyRole} {first : World} {before : Published}
  {old : KeyTriple} {new : KeyRole → KeyPairId} {calls : StepCalls}

/-- The first step freezes the generated keys for the requested roles and the row's for the
others. -/
theorem Rotatable.generate (rotatable : Rotatable ext id roles first before old new calls)
    (clock : Clock) : ∃ triple after,
      exec (World.step ext) first (dispatchAt id calls clock) = some after ∧
      Stands ext id roles after "build_rotation_didlog" ⟨some triple, false⟩ ∧
      after.issuer = first.issuer ∧ after.log = first.log ∧
      ∀ role, (role ∈ roles → triple.forRole role = new role) ∧
        (role ∉ roles → triple.forRole role = old.forRole role) := by
  rcases rotatable.waiting with ⟨task, waiting, unstarted, empty⟩
  have stands : Stands ext id roles first "generate_new_keys" ⟨none, false⟩ :=
    ⟨task, [], waiting, by rw [unstarted]; rfl, empty, rfl⟩
  have unfrozen : (⟨none, false⟩ : RotateKeysStateData).newKeyTriple = none := rfl
  rcases executeGenerateNewKeys_works unfrozen rotatable.row rotatable.works.generated with
    ⟨result, done⟩
  rcases executeGenerateNewKeys_done done with ⟨absurd, _⟩ | ⟨_, triple, patch, frozen⟩
  · cases absurd
  · rcases stands_advance stands rfl rfl rotatable.works clock
      (fun _ => fresh_created rotatable.works.generated rotatable.unused roles)
      (fun _ _ => ⟨done, rfl⟩)
      (fun map decoded => by rw [patch]; exact decode_merge_triple decoded triple) with
      ⟨_, _, after, ran, built, issuer, log⟩
    refine ⟨triple, after, ran, built, issuer, log.trans (List.append_nil _), ?_⟩
    intro role
    constructor
    · intro asked
      have answer := (frozen role).1 asked
      rw [rotatable.works.generated role] at answer
      exact (Except.ok.inj answer).symm
    · intro unasked
      have row := (frozen role).2 unasked
      rw [rotatable.row role] at row
      exact (Option.some.inj row).symm

theorem fetched_works {world : World} (works : Works world.issuer new calls) :
    fetched world.log calls = .ok (entries world.log) := by
  rw [fetched, works.fetch]

variable {world : World} {triple : KeyTriple}

/-- The world of the second and third step, as the builder sees it. -/
structure Prepared (ext : Externals) (roles : List KeyRole) (first world : World)
    (before : Published) (old : KeyTriple) (new : KeyRole → KeyPairId) (triple : KeyTriple) :
    Prop where
  issuer : world.issuer = first.issuer
  log : world.log = first.log
  rotated : ∀ role ∈ roles, triple.forRole role = new role
  kept : ∀ role, role ∉ roles → triple.forRole role = old.forRole role

theorem Rotatable.shaped (rotatable : Rotatable ext id roles first before old new calls)
    (prepared : Prepared ext roles first world before old new triple) (role : KeyRole) :
    Shaped ext.engine role (triple.forRole role) := by
  by_cases asked : role ∈ roles
  · rw [prepared.rotated role asked]
    exact rotatable.shapedNew role
  · rw [prepared.kept role asked]
    exact rotatable.shapedOld role

/-- The builder refuses the triple exactly when the authorized role was not asked for. -/
theorem Rotatable.build (rotatable : Rotatable ext id roles first before old new calls)
    (prepared : Prepared ext roles first world before old new triple) (now : DateTime) :
    (.authorized ∉ roles → buildRotationEntry ext.core ext.engine {} world.issuer triple
      (entries world.log) now = .error .already) ∧
    (.authorized ∈ roles → ∃ entry, buildRotationEntry ext.core ext.engine {} world.issuer triple
      (entries world.log) now = .ok entry) := by
  rw [prepared.issuer, prepared.log]
  rcases rotatable.shown with ⟨updateKeys, doc, _, _, document, _⟩
  have tail : (entries first.log).getLast? = some before.entry := by
    rw [entries, List.getLast?_map, rotatable.tail]
    rfl
  have answers := buildRotationEntry_works ext.core now rotatable.active
    (rotatable.row .authorized) (rotatable.shapedOld .authorized) tail document
    (rotatable.shaped prepared)
  have head : before.entry.updateKeys.bind List.head? =
      some (ext.engine.multikey ext.core old.authorized) := by
    rw [updateKeys]
    rfl
  rw [head] at answers
  constructor
  · intro unasked
    apply answers.1
    rw [show triple.authorized = old.authorized from prepared.kept .authorized unasked]
  · intro asked
    apply answers.2
    intro same
    apply rotatable.unused .authorized _ (rotatable.held .authorized)
    rw [← prepared.rotated .authorized asked]
    exact (ext.core.multikey_injective (Option.some.inj same)).symm

theorem Rotatable.buildStep (rotatable : Rotatable ext id roles first before old new calls)
    (prepared : Prepared ext roles first world before old new triple)
    (stands : Stands ext id roles world "build_rotation_didlog" ⟨some triple, false⟩)
    (clock : Clock) :
    (.authorized ∉ roles → ∃ after task,
      exec (World.step ext) world (dispatchAt id calls clock) = some after ∧
      after.tasks id = some task ∧ task.state = .failed) ∧
    (.authorized ∈ roles → ∃ after,
      exec (World.step ext) world (dispatchAt id calls clock) = some after ∧
      Stands ext id roles after "publish_didlog" ⟨some triple, false⟩ ∧
      Prepared ext roles first after before old new triple) := by
  have works : Works world.issuer new calls := prepared.issuer ▸ rotatable.works
  have addressed : Addressed ext.core world.issuer := prepared.issuer ▸ rotatable.addressed
  have reads : ∀ task tenant, (rotateStep ext world task calls ⟨roles⟩ ⟨some triple, false⟩
      (tenant, world.issuer) .buildRotationDidlog).outcome =
        match buildRotationEntry ext.core ext.engine {} world.issuer triple (entries world.log)
          task.createdAt with
        | .ok _ => .done {}
        | .error error => outcomeForBuildError rotateTexts "build_rotation_didlog_failed" error := by
    intro task tenant
    show executeBuildRotationDidlog ext.core ext.engine world.issuer ⟨some triple, false⟩
      (fetched world.log calls) calls.faults task.createdAt = _
    rw [fetched_works works, works.faults]
    exact executeBuildDidlog_works addressed _ _
  constructor
  · intro unasked
    apply stands_fail stands rfl works clock (by decide)
    intro task tenant
    rw [reads, (rotatable.build prepared task.createdAt).1 unasked]
    rfl
  · intro asked
    have done : ∀ task tenant, (rotateStep ext world task calls ⟨roles⟩ ⟨some triple, false⟩
        (tenant, world.issuer) .buildRotationDidlog).outcome = .done {} ∧
        (rotateStep ext world task calls ⟨roles⟩ ⟨some triple, false⟩
          (tenant, world.issuer) .buildRotationDidlog).row = none := by
      intro task tenant
      rcases (rotatable.build prepared task.createdAt).2 asked with ⟨entry, built⟩
      refine ⟨?_, rfl⟩
      rw [reads, built]
    rcases stands_advance stands rfl rfl works clock (fun absurd => by cases absurd) done
      (fun map decoded => decoded) with ⟨_, _, after, ran, stands', issuer, log⟩
    refine ⟨after, ran, stands', ?_, ?_, prepared.rotated, prepared.kept⟩
    · rw [issuer, prepared.issuer]
    · rw [log, ← prepared.log]
      exact List.append_nil _

theorem Rotatable.publishStep (rotatable : Rotatable ext id roles first before old new calls)
    (prepared : Prepared ext roles first world before old new triple)
    (stands : Stands ext id roles world "publish_didlog" ⟨some triple, false⟩)
    (asked : .authorized ∈ roles) (clock : Clock) : ∃ after entry,
      exec (World.step ext) world (dispatchAt id calls clock) = some after ∧
      Stands ext id roles after "swap_keys" ⟨some triple, true⟩ ∧
      after.issuer = first.issuer ∧ after.log = first.log ++ [⟨some id, entry⟩] ∧
      ShowsTriple ext entry triple := by
  have works : Works world.issuer new calls := prepared.issuer ▸ rotatable.works
  have addressed : Addressed ext.core world.issuer := prepared.issuer ▸ rotatable.addressed
  have puts : ∀ task tenant, ∃ entry, ShowsTriple ext entry triple ∧
      rotateStep ext world task calls ⟨roles⟩ ⟨some triple, false⟩ (tenant, world.issuer)
        .publishDidlog = { outcome := .done didlogPublishedPatch, stored := some entry } := by
    intro task tenant
    rcases (rotatable.build prepared task.createdAt).2 asked with ⟨entry, built⟩
    refine ⟨entry, showsTriple_of_built built, ?_⟩
    show publishEffect (preparePublish ext.core rotateTexts world.issuer (fetched world.log calls)
      fun log => buildRotationEntry ext.core ext.engine calls.faults world.issuer triple log
        task.createdAt) calls.put = _
    rw [fetched_works works, works.faults, works.put]
    rw [preparePublish_works addressed (entries world.log) built]
    rfl
  rcases stands_advance stands rfl rfl works clock (fun absurd => by cases absurd)
    (fun task tenant => by rcases puts task tenant with ⟨_, _, same⟩; rw [same]; exact ⟨rfl, rfl⟩)
    (fun map decoded => decode_merge_published decoded) with
    ⟨task, tenant, after, ran, stands', issuer, log⟩
  rcases puts task tenant with ⟨entry, shown, same⟩
  refine ⟨after, entry, ran, stands', issuer.trans prepared.issuer, ?_, shown⟩
  rw [log, same, prepared.log]
  rfl

theorem Rotatable.swapStep (rotatable : Rotatable ext id roles first before old new calls)
    (issuer : world.issuer = first.issuer)
    (stands : Stands ext id roles world "swap_keys" ⟨some triple, true⟩) (clock : Clock) :
    ∃ after task, exec (World.step ext) world (dispatchAt id calls clock) = some after ∧
      after.tasks id = some task ∧ task.state = .completed ∧
      after.issuer = triple.install first.issuer ∧ after.log = world.log := by
  rw [← issuer]
  have swapped : ∀ task tenant, task.tenantId = world.issuer.tenantId →
      rotateStep ext world task calls ⟨roles⟩ ⟨some triple, true⟩ (tenant, world.issuer) .swapKeys =
        rowEffect (triple.install world.issuer, .done {}) := by
    intro task tenant own
    have active : world.issuer.state = some .active := issuer ▸ rotatable.active
    have owned : isRow world.issuer task.tenantId world.issuer.id = true := by simp [isRow, own]
    show rowEffect (executeSwapKeys world.issuer task.tenantId world.issuer.id ⟨some triple, true⟩
      calls.swap) = _
    rw [rotatable.works.swap]
    exact congrArg rowEffect (executeSwapKeys_works owned active rfl)
  exact stands_complete stands rfl rfl (issuer ▸ rotatable.works) clock (by decide) swapped

end Steps

section Runs

variable {ext : Externals} {id : TaskId} {roles : List KeyRole} {first : World} {before : Published}
  {old : KeyTriple} {new : KeyRole → KeyPairId} {calls : StepCalls}

/-- Without the authorized role the build step takes the unchanged update key at the tail for the
finished rotation, and the task fails. -/
theorem Rotatable.refused (rotatable : Rotatable ext id roles first before old new calls)
    (unasked : .authorized ∉ roles) {clocks : List Clock} (enough : 2 ≤ clocks.length) :
    ∃ last, drive ext id calls clocks first = some last ∧
      ¬ RotatedAsAsked ext id roles first last := by
  match clocks, enough with
  | clock1 :: clock2 :: clocks, _ =>
  rcases rotatable.waiting with ⟨task, waiting, _, _⟩
  rcases rotatable.generate clock1 with ⟨triple, world1, ran1, stands1, issuer1, log1, frozen⟩
  have prepared : Prepared ext roles first world1 before old new triple :=
    ⟨issuer1, log1, fun role => (frozen role).1, fun role => (frozen role).2⟩
  rcases (rotatable.buildStep prepared stands1 clock2).1 unasked with
    ⟨world2, row, ran2, found, failed⟩
  refine ⟨world2, ?_, fun rotated => ?_⟩
  · rw [drive_live waiting.found waiting.live _ ran1, stands1.drive_live _ ran2]
    exact drive_terminal found (by rw [failed]; rfl) clocks
  · rcases rotated.completed with ⟨_, same, completed⟩
    rw [found] at same
    cases same
    rw [failed] at completed
    cases completed

theorem Rotatable.granted (rotatable : Rotatable ext id roles first before old new calls)
    (asked : .authorized ∈ roles) {clocks : List Clock} (enough : 4 ≤ clocks.length) :
    ∃ last, drive ext id calls clocks first = some last ∧
      RotatedAsAsked ext id roles first last := by
  match clocks, enough with
  | clock1 :: clock2 :: clock3 :: clock4 :: clocks, _ =>
  rcases rotatable.waiting with ⟨task, waiting, _, _⟩
  rcases rotatable.generate clock1 with ⟨triple, world1, ran1, stands1, issuer1, log1, frozen⟩
  have prepared : Prepared ext roles first world1 before old new triple :=
    ⟨issuer1, log1, fun role => (frozen role).1, fun role => (frozen role).2⟩
  rcases (rotatable.buildStep prepared stands1 clock2).2 asked with
    ⟨world2, ran2, stands2, prepared2⟩
  rcases rotatable.publishStep prepared2 stands2 asked clock3 with
    ⟨world3, entry, ran3, stands3, issuer3, log3, shown⟩
  rcases rotatable.swapStep issuer3 stands3 clock4 with
    ⟨world4, row, ran4, found, completed, issuer4, log4⟩
  refine ⟨world4, ?_, ⟨row, found, completed⟩, before, entry, triple, rotatable.tail,
    log4.trans log3, shown, ?_⟩
  · rw [drive_live waiting.found waiting.live _ ran1, stands1.drive_live _ ran2,
      stands2.drive_live _ ran3, stands3.drive_live _ ran4]
    exact drive_terminal found (by rw [completed]; rfl) clocks
  · have advertisedNew := advertised_of_shows shown (rotatable.shaped prepared)
    have advertisedOld := advertised_of_shows rotatable.shown rotatable.shapedOld
    intro role
    have installed : world4.issuer.keyIdForRole role = some (triple.forRole role) := by
      rw [issuer4]
      cases role <;> rfl
    refine ⟨installed, ?_, ?_⟩
    · intro requested
      rw [prepared.rotated role requested]
      constructor
      · intro present
        exact rotatable.unused role _ present rfl
      · rw [advertisedNew, advertisedOld, prepared.rotated role requested]
        intro same
        apply rotatable.unused role _ (rotatable.held role)
        exact shows_injective (rotatable.shapedNew role) (rotatable.shapedOld role) same
    · intro unrequested
      rw [installed, rotatable.row role, advertisedNew, advertisedOld,
        prepared.kept role unrequested]
      exact ⟨rfl, rfl⟩

/-- A rotation of some of the roles, driven until its task is terminal, rotates what was asked if and
only if the authorized role is one of them. -/
theorem rotation_needs_the_authorized_role
    (rotatable : Rotatable ext id roles first before old new calls) {clocks : List Clock}
    (enough : 4 ≤ clocks.length) : ∃ last, drive ext id calls clocks first = some last ∧
      (RotatedAsAsked ext id roles first last ↔ .authorized ∈ roles) := by
  by_cases asked : .authorized ∈ roles
  · rcases rotatable.granted asked enough with ⟨last, driven, rotated⟩
    exact ⟨last, driven, iff_of_true rotated asked⟩
  · rcases rotatable.refused asked (Nat.le_trans (by decide) enough) with
      ⟨last, driven, unrotated⟩
    exact ⟨last, driven, iff_of_false unrotated asked⟩

end Runs

section Sample

def sampleOld : KeyTriple := ⟨⟨"e0"⟩, ⟨"p0"⟩, ⟨"p1"⟩⟩

def sampleNew : KeyRole → KeyPairId
  | .authorized => ⟨"e2"⟩
  | .authentication => ⟨"p2"⟩
  | .assertion => ⟨"p3"⟩

theorem sample_addressed : Addressed sampleExternals.core sampleIssuer :=
  ⟨_, "sample", rfl, rfl⟩

theorem sample_keys : ∀ role, sampleOld.forRole role ∈ (sampleWorld []).keys ∧
    ∀ key ∈ (sampleWorld []).keys,
      (letterEngine.publicKey (sampleNew role)).bytes ≠ (letterEngine.publicKey key).bytes := by
  rintro (_ | _ | _) <;> exact ⟨by decide, by decide⟩

theorem sample_rotatable {roles : List KeyRole} (asked : roles ≠ []) (distinct : roles.Nodup) :
    Rotatable sampleExternals ⟨"r"⟩ roles (sampleWorld [sampleTask "r" (.rotate ⟨roles⟩) 0])
      ⟨none, sampleGenesis⟩ sampleOld sampleNew (sampleCalls sampleIssuer) where
  asked := asked
  distinct := distinct
  idle := rfl
  queued := ⟨0, rfl⟩
  alone := by simp [sampleWorld, sampleTask, newTask]
  active := rfl
  addressed := sample_addressed
  row := by rintro (_ | _ | _) <;> rfl
  tail := rfl
  shown := ⟨rfl, _, ⟨List.replicate 32 48, List.replicate 32 48⟩,
    ⟨List.replicate 32 49, List.replicate 32 49⟩, rfl, by decide⟩
  held := fun role => (sample_keys role).1
  shapedOld := by rintro (_ | _ | _) <;> exact ⟨by decide, by decide⟩
  shapedNew := by rintro (_ | _ | _) <;> exact ⟨by decide, by decide⟩
  unused := fun role => (sample_keys role).2
  works := ⟨rfl, ⟨_, rfl⟩, rfl, rfl, rfl, rfl, fun role => by cases role <;> rfl, rfl⟩

theorem rotation_needs_the_authorized_role_sample :
    ∃ last, drive sampleExternals ⟨"r"⟩ (sampleCalls sampleIssuer) (List.replicate 4 ⟨0, 0, 0⟩)
        (sampleWorld [sampleTask "r" (.rotate ⟨allRoles⟩) 0]) = some last ∧
      (RotatedAsAsked sampleExternals ⟨"r"⟩ allRoles
        (sampleWorld [sampleTask "r" (.rotate ⟨allRoles⟩) 0]) last ↔ .authorized ∈ allRoles) :=
  rotation_needs_the_authorized_role (sample_rotatable (by decide) (by decide)) (by decide)

/-- The rotation of the assertion key alone fails. -/
theorem assertion_rotation_fails :
    ∃ last, drive sampleExternals ⟨"r"⟩ (sampleCalls sampleIssuer) (List.replicate 4 ⟨0, 0, 0⟩)
        (sampleWorld [sampleTask "r" (.rotate ⟨[.assertion]⟩) 0]) = some last ∧
      ¬ RotatedAsAsked sampleExternals ⟨"r"⟩ [.assertion]
        (sampleWorld [sampleTask "r" (.rotate ⟨[.assertion]⟩) 0]) last :=
  (sample_rotatable (by decide) (by decide)).refused (by decide) (by decide)

end Sample

end SwiyuIssuer.Saga
