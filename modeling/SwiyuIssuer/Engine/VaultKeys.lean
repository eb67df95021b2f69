import SwiyuIssuer.Engine.Vault
import SwiyuIssuer.Library.Answers

/-! The keys in Vault behind the calls of its engine: why an algorithm that is cached is never the
wrong one. -/

namespace SwiyuIssuer.Engine.Vault

open Library Lifespan

section Responses

variable {client : Client} {id : KeyPairId} {response : Response}

theorem json_error {α : Type} {type : String} {decode : Json → Except JsonError α}
    {error : SigningEngineError} (failed : json client type decode response = .error error) :
    ∃ details, error = .backend details := by
  rw [json] at failed
  rcases Answers.ok_or_error (response.body >>= client.codec.fromStr type decode) with
    ⟨value, read⟩ | ⟨details, read⟩
  · rw [read] at failed
    cases failed
  · rw [read] at failed
    cases failed
    exact ⟨details, rfl⟩

theorem parseVaultAlgorithm_ok {label : String} {algorithm : KeyAlgorithm}
    (read : parseVaultAlgorithm client label = .ok algorithm) : label = algorithm.asStr :=
  KeyAlgorithm.asStr_of_tryFrom (Answers.mapError_ok.mp read)

theorem parseVaultAlgorithm_error {label : String} {error : SigningEngineError}
    (failed : parseVaultAlgorithm client label = .error error) :
    ∃ details, error = .backend details := by
  rw [parseVaultAlgorithm] at failed
  rcases Answers.ok_or_error (KeyAlgorithm.tryFrom label) with ⟨value, read⟩ | ⟨other, read⟩
  · rw [read] at failed
    cases failed
  · rw [read] at failed
    cases failed
    exact ⟨_, rfl⟩

theorem parsePublicKey_error {algorithm : KeyAlgorithm} {text : String} {error : SigningEngineError}
    (failed : parsePublicKey client algorithm text = .error error) :
    ∃ details, error = .backend details := by
  cases algorithm with
  | ed25519 =>
      change parseEd25519PublicKey client text = _ at failed
      rw [parseEd25519PublicKey] at failed
      split at failed
      · cases failed
        exact ⟨_, rfl⟩
      · split at failed
        · cases failed
          exact ⟨_, rfl⟩
        · cases failed
  | ecdsaP256 =>
      change parseEcdsaP256PublicKeyPem client text = _ at failed
      rw [parseEcdsaP256PublicKeyPem] at failed
      rcases Answers.ok_or_error (client.fromPublicKeyPem text) with ⟨value, read⟩ | ⟨other, read⟩
      · rw [read] at failed
        cases failed
      · rw [read] at failed
        cases failed
        exact ⟨_, rfl⟩

/-- What a response to a read makes of it. -/
theorem fetchPublicKey_ok {raw : RawPublicKey} (read : fetchPublicKey client id response = .ok raw) :
    isSuccess response.status = true ∧ ∃ data publicKey,
      json client "KeyReadResponse" keyReadResponse response = .ok data ∧
      data.keys.lookup vaultKeyVersion = some publicKey ∧
      Material client ⟨data.type, publicKey⟩ raw := by
  rw [fetchPublicKey] at read
  split at read
  · cases read
  · next succeeded =>
      rcases Answers.bind_ok.mp read with ⟨data, body, read⟩
      rcases Answers.bind_ok.mp read with ⟨algorithm, label, read⟩
      rcases Answers.bind_ok.mp read with ⟨publicKey, version, read⟩
      rcases Answers.bind_ok.mp read with ⟨bytes, parsed, read⟩
      cases read
      exact ⟨Bool.not_eq_false _ ▸ succeeded, data, publicKey, body, Answers.okOr_ok.mp version,
        parseVaultAlgorithm_ok label, parsed⟩

theorem fetchPublicKey_error {error : SigningEngineError}
    (failed : fetchPublicKey client id response = .error error) :
    (error = .keyNotFound id ∧ response.status = 404) ∨ ∃ details, error = .backend details := by
  rw [fetchPublicKey] at failed
  split at failed
  · cases failed
    by_cases missing : response.status = 404
    · exact .inl ⟨if_pos missing, missing⟩
    · exact .inr ⟨_, if_neg missing⟩
  · right
    rcases Answers.bind_error.mp failed with body | ⟨data, _, failed⟩
    · exact json_error body
    rcases Answers.bind_error.mp failed with label | ⟨algorithm, _, failed⟩
    · exact parseVaultAlgorithm_error label
    rcases Answers.bind_error.mp failed with version | ⟨publicKey, _, failed⟩
    · cases found : data.keys.lookup vaultKeyVersion with
      | none =>
          rw [found] at version
          cases version
          exact ⟨_, rfl⟩
      | some publicKey =>
          rw [found] at version
          cases version
    rcases Answers.bind_error.mp failed with parsed | ⟨bytes, _, failed⟩
    · exact parsePublicKey_error parsed
    · cases failed

theorem parseVaultSignature_ok {algorithm : KeyAlgorithm} {raw : String} {bytes : List UInt8}
    (read : parseVaultSignature client raw algorithm = .ok bytes) : bytes.length = 64 := by
  rw [parseVaultSignature] at read
  split at read
  · cases read
  · split at read
    · cases read
    · split at read
      · cases read
      · next sized =>
          cases read
          exact not_not.mp sized

theorem parseVaultSignature_error {algorithm : KeyAlgorithm} {raw : String}
    {error : SigningEngineError} (failed : parseVaultSignature client raw algorithm = .error error) :
    ∃ details, error = .backend details := by
  rw [parseVaultSignature] at failed
  split at failed
  · cases failed
    exact ⟨_, rfl⟩
  · split at failed
    · cases failed
      exact ⟨_, rfl⟩
    · split at failed
      · cases failed
        exact ⟨_, rfl⟩
      · cases failed

theorem readSignature_ok {algorithm : KeyAlgorithm} {signature : Signature}
    (read : readSignature client id algorithm response = .ok signature) :
    isSuccess response.status = true ∧ signature.algorithm = algorithm ∧
      signature.bytes.length = 64 ∧ ∃ raw, json client "SignResponse" signResponse response = .ok raw ∧
        parseVaultSignature client raw algorithm = .ok signature.bytes := by
  rw [readSignature] at read
  split at read
  · cases read
  · next succeeded =>
      rcases Answers.bind_ok.mp read with ⟨raw, body, read⟩
      rcases Answers.bind_ok.mp read with ⟨bytes, parsed, read⟩
      cases read
      exact ⟨Bool.not_eq_false _ ▸ succeeded, rfl, parseVaultSignature_ok parsed, raw, body, parsed⟩

theorem readSignature_error {algorithm : KeyAlgorithm} {error : SigningEngineError}
    (failed : readSignature client id algorithm response = .error error) :
    (error = .keyNotFound id ∧ response.status = 400 ∧
      contains response.text vaultSignKeyNotFound = true) ∨ ∃ details, error = .backend details := by
  rw [readSignature] at failed
  split at failed
  · cases failed
    by_cases missing : response.status = 400 ∧ contains response.text vaultSignKeyNotFound = true
    · exact .inl ⟨if_pos missing, missing⟩
    · exact .inr ⟨_, if_neg missing⟩
  · right
    rcases Answers.bind_error.mp failed with body | ⟨raw, _, failed⟩
    · exact json_error body
    rcases Answers.bind_error.mp failed with parsed | ⟨bytes, _, failed⟩
    · exact parseVaultSignature_error parsed
    · cases failed

theorem deleteKey_ok (gone : deleteKey client id response = .ok ()) :
    isSuccess response.status = true ∨
      (response.status = 400 ∧ contains response.text vaultDeleteKeyNotFound = true) := by
  rw [deleteKey] at gone
  split at gone
  · next succeeded => exact .inl succeeded
  · split at gone
    · next missing => exact .inr missing
    · cases gone

end Responses

/-- What a response that a call has not read yet says of the keys. -/
def Bears (client : Client) (verifies : Verifies) (lives : KeyPairId → Life RawPublicKey)
    (notes : List (Note KeyPairId RawPublicKey)) (response : Response) : Call → Prop
  | .read id =>
      (∀ raw, fetchPublicKey client id response = .ok raw → .hit id raw ∈ notes) ∧
        (fetchPublicKey client id response = .error (.keyNotFound id) → .miss id ∈ notes)
  | .sign id body =>
      ∃ raw, (lives id).value = some raw ∧
        (∀ input signature, body = buildSignRequest input raw.algorithm →
          readSignature client id raw.algorithm response = .ok signature →
            .hit id raw ∈ notes ∧ verifies raw input signature.bytes) ∧
        (readSignature client id raw.algorithm response = .error (.keyNotFound id) →
          .miss id ∈ notes)
  | .delete id => deleteKey client id response = .ok () → .miss id ∈ notes
  | .create .. | .config _ => True

theorem Bears.mono {client : Client} {verifies : Verifies}
    {lives later : KeyPairId → Life RawPublicKey} {notes more : List (Note KeyPairId RawPublicKey)}
    {response : Response} {call : Call} (bears : Bears client verifies lives notes response call)
    (before : ∀ id, (lives id).Before (later id)) (kept : notes ⊆ more) :
    Bears client verifies later more response call := by
  cases call with
  | create | config => trivial
  | read id => exact ⟨fun raw read => kept (bears.1 raw read), fun missing => kept (bears.2 missing)⟩
  | sign id body =>
      rcases bears with ⟨raw, known, good, missing⟩
      refine ⟨raw, (before id).value known, ?_, fun absent => kept (missing absent)⟩
      intro input signature shape read
      rcases good input signature shape read with ⟨noted, valid⟩
      exact ⟨kept noted, valid⟩
  | delete id => exact fun gone => kept (bears gone)

/-- `id` has, or had, a key of this algorithm. -/
def Known (lives : KeyPairId → Life RawPublicKey) (id : KeyPairId) (algorithm : KeyAlgorithm) :
    Prop :=
  ∃ raw, (lives id).value = some raw ∧ raw.algorithm = algorithm

theorem Known.mono {lives later : KeyPairId → Life RawPublicKey} {id : KeyPairId}
    {algorithm : KeyAlgorithm} (known : Known lives id algorithm)
    (before : ∀ id, (lives id).Before (later id)) : Known later id algorithm := by
  rcases known with ⟨raw, value, suits⟩
  exact ⟨raw, (before id).value value, suits⟩

variable {transit : Transit}

/-- A call that waits has its request on the way, or a response that the ledger bears out. -/
def Waits (client : Client) (verifies : Verifies) (state : State transit) (ledger : KeyLedger)
    (c : CallId) (call : Call) : Prop :=
  (state.sent c = some call ∧ state.response c = none) ∨
    (state.sent c = none ∧ ∃ response, state.response c = some response ∧
      Bears client verifies ledger.lives (ledger.notes c) response call)

/-- The ledger behind a state of Vault, of the caches and of the calls. -/
structure Rel (client : Client) (verifies : Verifies) (state : State transit) (ledger : KeyLedger) :
    Prop where
  truthful : Truthful ledger
  standing : ∀ id raw, ledger.lives id = .alive raw ↔
    ∃ key, transit.key state.server id = some key ∧ Material client key raw
  buried : ∀ id raw, ledger.lives id = .gone raw → transit.key state.server id = none
  drawn : ∀ id, state.used id = false →
    ledger.lives id = .unborn ∧ ∀ c type, state.sent c ≠ some (.create id type)
  pending : ∀ c id type, state.sent c = some (.create id type) → ledger.lives id = .unborn
  once : ∀ c d id left right, state.sent c = some (.create id left) →
    state.sent d = some (.create id right) → c = d
  erasing : ∀ c id, state.sent c = some (.delete id) →
    (state.phase c).request = some (.deleteKeypair id)
  cached : ∀ p id algorithm, state.cache p id = some algorithm → Known ledger.lives id algorithm
  shaped : ∀ c id input algorithm, state.phase c = .signing id input algorithm →
    Known ledger.lives id algorithm ∧ (algorithm = .ecdsaP256 → input.length = 32)
  waits : ∀ c call, (state.phase c).call = some call →
    Waits client verifies state ledger c call
  backed : ∀ c request reply, state.phase c = .returned request reply →
    Backed verifies ledger.lives (ledger.notes c) request reply
  blank : ∀ c, (state.phase c).request = none → ledger.notes c = [] ∧ state.sent c = none
  deleted : ∀ id raw, ledger.lives id = .gone raw →
    ∃ c, (state.phase c).request = some (.deleteKeypair id)

def face (client : Client) (home : CallId → ProcessId) (transit : Transit) : Face where
  State := State transit
  Event := Event
  step := Moves client home
  Initial := State.Initial
  asked state c := (state.phase c).request
  reply state c := (state.phase c).reply

section Calls

variable {client : Client} {home : CallId → ProcessId} {verifies : Verifies}
  {state : State transit} {ledger : KeyLedger} {c : CallId} {request : Request}

theorem Rel.explains (rel : Rel client verifies state ledger) :
    Explains verifies (face client home transit) ledger state where
  backed d asked reply asking given := by
    change (state.phase d).request = some asked at asking
    change (state.phase d).reply = some reply at given
    cases at_ : state.phase d with
    | returned _ _ =>
        rw [at_] at asking given
        cases asking
        cases given
        exact rel.backed d _ _ at_
    | _ =>
        rw [at_] at given
        cases given
  unasked d idle := (rel.blank d idle).1
  deleted := rel.deleted

theorem Rel.recached {cache : ProcessId → KeyPairId → Option KeyAlgorithm}
    (rel : Rel client verifies state ledger)
    (cached : ∀ p id algorithm, cache p id = some algorithm → Known ledger.lives id algorithm) :
    Rel client verifies { state with cache := cache } ledger :=
  { rel with cached := cached }

theorem Rel.cacheSet {p : ProcessId} {id : KeyPairId} {algorithm : Option KeyAlgorithm}
    (rel : Rel client verifies state ledger)
    (known : ∀ own, algorithm = some own → Known ledger.lives id own) :
    Rel client verifies (state.cacheSet p id algorithm) ledger := by
  refine rel.recached ?_
  intro q other own found
  rcases view_update_cases
      (fun entries : KeyPairId → Option KeyAlgorithm => entries other) found with ⟨rfl, found⟩ | ⟨_, old⟩
  · rcases update_cases found with ⟨rfl, set⟩ | ⟨_, old⟩
    · exact known own set
    · exact rel.cached q other own old
  · exact rel.cached q other own old

theorem Rel.settles {phase : Phase} (rel : Rel client verifies state ledger)
    (asked : (state.phase c).request = none ∨ (state.phase c).request = some request)
    (asks : phase.request = some request) (ended : phase.call = none)
    (backed : ∀ reply, phase = .returned request reply →
      Backed verifies ledger.lives (ledger.notes c) request reply) :
    Rel client verifies (state.goto c phase) ledger where
  truthful := rel.truthful
  standing := rel.standing
  buried := rel.buried
  drawn := rel.drawn
  pending := rel.pending
  once := rel.once
  erasing d id sent := by
    change state.sent d = _ at sent
    have asking := rel.erasing d id sent
    change (Function.update state.phase c phase d).request = _
    by_cases own : d = c
    · subst own
      rw [Function.update_self, asks]
      rcases asked with idle | same
      · rw [(rel.blank d idle).2] at sent
        cases sent
      · exact same.symm.trans asking
    · rw [Function.update_of_ne own]
      exact asking
  cached := rel.cached
  shaped d id input algorithm at_ := by
    rcases update_cases at_ with ⟨_, rfl⟩ | ⟨_, at_⟩
    · cases ended
    · exact rel.shaped d id input algorithm at_
  waits d call waiting := by
    rcases view_update_cases Phase.call waiting with ⟨_, there⟩ | ⟨_, waiting⟩
    · rw [ended] at there
      cases there
    · exact rel.waits d call waiting
  backed d other reply at_ := by
    rcases update_cases at_ with ⟨rfl, rfl⟩ | ⟨_, at_⟩
    · cases asks
      exact backed reply rfl
    · exact rel.backed d other reply at_
  blank d idle := by
    rcases view_update_cases Phase.request idle with ⟨_, none_⟩ | ⟨_, idle⟩
    · rw [asks] at none_
      cases none_
    · exact rel.blank d idle
  deleted id raw gone := by
    rcases rel.deleted id raw gone with ⟨d, asking⟩
    refine ⟨d, ?_⟩
    change (Function.update state.phase c phase d).request = _
    by_cases own : d = c
    · subst own
      rw [Function.update_self, asks]
      rcases asked with idle | same
      · rw [idle] at asking
        cases asking
      · exact same.symm.trans asking
    · rw [Function.update_of_ne own]
      exact asking

theorem Rel.sends {phase : Phase} {call : Call} {used : KeyPairId → Bool}
    (rel : Rel client verifies state ledger)
    (asked : (state.phase c).request = none ∨ (state.phase c).request = some request)
    (asks : phase.request = some request) (calls : phase.call = some call)
    (creates : ∀ id type, call = .create id type → state.used id = false ∧ used id = true)
    (drawn : ∀ id, used id = false → state.used id = false)
    (shaped : ∀ id input algorithm, phase = .signing id input algorithm →
      Known ledger.lives id algorithm ∧ (algorithm = .ecdsaP256 → input.length = 32)) :
    Rel client verifies { state.send c phase with used := used } ledger where
  truthful := rel.truthful
  standing := rel.standing
  buried := rel.buried
  drawn id unused := by
    change used id = false at unused
    refine ⟨(rel.drawn id (drawn id unused)).1, ?_⟩
    intro d type sent
    rcases update_cases sent with ⟨_, there⟩ | ⟨_, old⟩
    · rw [calls] at there
      have taken := (creates id type (Option.some.inj there)).2
      rw [unused] at taken
      cases taken
    · exact (rel.drawn id (drawn id unused)).2 d type old
  pending d id type sent := by
    rcases update_cases sent with ⟨_, there⟩ | ⟨_, old⟩
    · rw [calls] at there
      exact (rel.drawn id (creates id type (Option.some.inj there)).1).1
    · exact rel.pending d id type old
  once d e id left right first second := by
    have clash : ∀ {f g type type'}, f = c → g ≠ c → phase.call = some (.create id type) →
        state.sent g = some (.create id type') → False := by
      intro f g type type' _ _ there old
      rw [calls] at there
      exact (rel.drawn id (creates id type (Option.some.inj there)).1).2 g type' old
    rcases update_cases first with ⟨here, there⟩ | ⟨away, old⟩
    · rcases update_cases second with ⟨also, _⟩ | ⟨away, old⟩
      · exact here.trans also.symm
      · exact (clash here away there old).elim
    · rcases update_cases second with ⟨also, there⟩ | ⟨_, older⟩
      · exact (clash also away there old).elim
      · exact rel.once d e id left right old older
  erasing d id sent := by
    change (Function.update state.phase c phase d).request = _
    rcases update_cases sent with ⟨rfl, there⟩ | ⟨away, old⟩
    · rw [Function.update_self]
      cases phase with
      | deleting other =>
          cases there
          rfl
      | _ => cases there
    · rw [Function.update_of_ne away]
      exact rel.erasing d id old
  cached := rel.cached
  shaped d id input algorithm at_ := by
    rcases update_cases at_ with ⟨_, there⟩ | ⟨_, at_⟩
    · exact shaped id input algorithm there
    · exact rel.shaped d id input algorithm at_
  waits d other waiting := by
    rcases view_update_cases Phase.call waiting with ⟨rfl, there⟩ | ⟨away, waiting⟩
    · left
      constructor
      · exact (Function.update_self _ _ _).trans there
      · exact Function.update_self _ _ _
    · rcases rel.waits d other waiting with ⟨sent, unread⟩ | ⟨unsent, response, read, bears⟩
      · exact .inl ⟨(Function.update_of_ne away _ _).trans sent,
          (Function.update_of_ne away _ _).trans unread⟩
      · exact .inr ⟨(Function.update_of_ne away _ _).trans unsent, response,
          (Function.update_of_ne away _ _).trans read, bears⟩
  backed d other reply at_ := by
    rcases update_cases at_ with ⟨_, rfl⟩ | ⟨_, at_⟩
    · cases calls
    · exact rel.backed d other reply at_
  blank d idle := by
    rcases view_update_cases Phase.request idle with ⟨_, none_⟩ | ⟨away, idle⟩
    · rw [asks] at none_
      cases none_
    · rcases rel.blank d idle with ⟨clean, unsent⟩
      exact ⟨clean, (Function.update_of_ne away _ _).trans unsent⟩
  deleted id raw gone := by
    rcases rel.deleted id raw gone with ⟨d, asking⟩
    refine ⟨d, ?_⟩
    change (Function.update state.phase c phase d).request = _
    by_cases own : d = c
    · subst own
      rw [Function.update_self, asks]
      rcases asked with idle | same
      · rw [idle] at asking
        cases asking
      · exact same.symm.trans asking
    · rw [Function.update_of_ne own]
      exact asking

/-- The keys in Vault, against the ledger. -/
structure Stands (client : Client) (server : transit.Server) (lives : KeyPairId → Life RawPublicKey) :
    Prop where
  standing : ∀ id raw, lives id = .alive raw ↔
    ∃ key, transit.key server id = some key ∧ Material client key raw
  buried : ∀ id raw, lives id = .gone raw → transit.key server id = none

theorem Rel.stands (rel : Rel client verifies state ledger) :
    Stands client state.server ledger.lives :=
  ⟨rel.standing, rel.buried⟩

section Serve

variable {server after : transit.Server} {lives : KeyPairId → Life RawPublicKey} {call : Call}
  {response : Response} {id : KeyPairId}

theorem Stands.same (stands : Stands client server lives)
    (same : ∀ id, transit.key after id = transit.key server id) : Stands client after lives := by
  constructor
  · intro id raw
    rw [same]
    exact stands.standing id raw
  · intro id raw gone
    rw [same]
    exact stands.buried id raw gone

theorem Stands.miss (stands : Stands client server lives) (absent : transit.key server id = none) :
    Seen lives (.miss id) := by
  intro raw alive
  rcases (stands.standing id raw).mp alive with ⟨key, there, _⟩
  rw [absent] at there
  cases there

/-- A key in Vault that was known of is the one that stands. -/
theorem Stands.known {key : TransitKey} {raw : RawPublicKey} (stands : Stands client server lives)
    (value : (lives id).value = some raw) (there : transit.key server id = some key) :
    lives id = .alive raw ∧ Material client key raw := by
  cases life : lives id with
  | unborn =>
      rw [life] at value
      cases value
  | gone other =>
      rw [stands.buried id other life] at there
      cases there
  | alive other =>
      rw [life] at value
      cases value
      rcases (stands.standing id raw).mp life with ⟨found, also, material⟩
      rw [there] at also
      cases also
      exact ⟨rfl, material⟩

theorem Material.unique {key : TransitKey} {raw other : RawPublicKey}
    (material : Material client key raw) (also : Material client key other) : other = raw := by
  rcases raw with ⟨algorithm, bytes⟩
  rcases other with ⟨algorithm', bytes'⟩
  rcases material with ⟨label, parsed⟩
  rcases also with ⟨label', parsed'⟩
  cases KeyAlgorithm.asStr_injective (label'.symm.trans label)
  cases parsed.symm.trans parsed'
  rfl

theorem Stands.born {raw : RawPublicKey} {key : TransitKey} (stands : Stands client server lives)
    (apart : ∀ other, other ≠ id → transit.key after other = transit.key server other)
    (there : transit.key after id = some key) (material : Material client key raw)
    (unborn : lives id = .unborn) :
    Stands client after (Function.update lives id (.alive raw)) := by
  constructor
  · intro other standing
    by_cases own : other = id
    · subst own
      rw [Function.update_self]
      constructor
      · intro alive
        cases alive
        exact ⟨key, there, material⟩
      · rintro ⟨found, also, same⟩
        rw [there] at also
        cases also
        rw [material.unique same]
    · rw [Function.update_of_ne own, apart other own]
      exact stands.standing other standing
  · intro other dead gone
    rcases update_cases gone with ⟨_, alive⟩ | ⟨away, gone⟩
    · cases alive
    · rw [apart other away]
      exact stands.buried other dead gone

theorem Stands.died {raw : RawPublicKey} (stands : Stands client server lives)
    (apart : ∀ other, other ≠ id → transit.key after other = transit.key server other)
    (erased : transit.key after id = none) :
    Stands client after (Function.update lives id (.gone raw)) := by
  constructor
  · intro other standing
    by_cases own : other = id
    · subst own
      rw [Function.update_self, erased]
      constructor
      · intro alive
        cases alive
      · rintro ⟨_, found, _⟩
        cases found
    · rw [Function.update_of_ne own, apart other own]
      exact stands.standing other standing
  · intro other dead gone
    rcases update_cases gone with ⟨rfl, _⟩ | ⟨away, gone⟩
    · exact erased
    · rw [apart other away]
      exact stands.buried other dead gone

/-- A key that is no key of an algorithm that the engine has, comes or goes unnoticed. -/
theorem Stands.unseen (id : KeyPairId) (stands : Stands client server lives)
    (apart : ∀ other, other ≠ id → transit.key after other = transit.key server other)
    (dull : ∀ raw key, transit.key after id = some key → ¬ Material client key raw)
    (absent : ∀ raw, lives id ≠ .alive raw) (alive : ∀ raw, lives id ≠ .gone raw) :
    Stands client after lives := by
  constructor
  · intro other standing
    by_cases own : other = id
    · subst own
      constructor
      · intro there
        exact absurd there (absent standing)
      · rintro ⟨key, found, material⟩
        exact absurd material (dull standing key found)
    · rw [apart other own]
      exact stands.standing other standing
  · intro other dead gone
    by_cases own : other = id
    · subst own
      exact absurd gone (alive dead)
    · rw [apart other own]
      exact stands.buried other dead gone

/-- What a request does to the keys, the ledger follows. -/
theorem keys_move (documented : transit.Documented client verifies)
    (stands : Stands client server ledger.lives) (answered : transit.answers server call response after)
    (pending : ∀ id type, call = .create id type → ledger.lives id = .unborn) :
    ∃ actions lives, Run Step ledger actions ⟨lives, ledger.notes⟩ ∧ Stands client after lives ∧
      (∀ id, ledger.lives id = .unborn → (∀ type, call ≠ .create id type) → lives id = .unborn) ∧
      ∀ id raw, lives id = .gone raw → ledger.lives id = .gone raw ∨ call = .delete id := by
  have apart := documented.apart answered
  have still : (∀ id, transit.key after id = transit.key server id) →
      ∃ actions lives, Run Step ledger actions ⟨lives, ledger.notes⟩ ∧ Stands client after lives ∧
        (∀ id, ledger.lives id = .unborn → (∀ type, call ≠ .create id type) → lives id = .unborn) ∧
        ∀ id raw, lives id = .gone raw → ledger.lives id = .gone raw ∨ call = .delete id :=
    fun same => ⟨[], ledger.lives, .nil ledger, stands.same same, fun _ unborn _ => unborn,
      fun _ _ gone => .inl gone⟩
  have everywhere : transit.key after call.id = transit.key server call.id →
      ∀ id, transit.key after id = transit.key server id := by
    intro here id
    by_cases own : id = call.id
    · rw [own]
      exact here
    · exact apart id own
  cases call with
  | read id | sign id body | config id =>
      exact still (everywhere (documented.keeps answered (by simp) (by simp)))
  | create id type =>
      have unborn := pending id type rfl
      rcases documented.creates answered with same | ⟨publicKey, there, absent⟩
      · exact still (everywhere same)
      · by_cases usable : ∃ raw, Material client ⟨type, publicKey⟩ raw
        · rcases usable with ⟨raw, material⟩
          refine ⟨[.birth id raw], _, .single (.birth ledger id raw unborn),
            stands.born apart there material unborn, ?_, ?_⟩
          · intro other fresh elsewhere
            have away : other ≠ id := by
              rintro rfl
              exact elsewhere type rfl
            exact (Function.update_of_ne away _ _).trans fresh
          · intro other dead gone
            rcases update_cases gone with ⟨_, alive⟩ | ⟨_, gone⟩
            · cases alive
            · exact .inl gone
        · refine ⟨[], ledger.lives, .nil ledger, stands.unseen id apart ?_ ?_ ?_,
            fun _ fresh _ => fresh, fun _ _ gone => .inl gone⟩
          · intro raw key found material
            rw [there] at found
            cases found
            exact usable ⟨raw, material⟩
          · intro raw alive
            rw [unborn] at alive
            cases alive
          · intro raw gone
            rw [unborn] at gone
            cases gone
  | delete id =>
      rcases documented.deletes answered with same | erased
      · exact still (everywhere same)
      · cases life : ledger.lives id with
        | alive raw =>
            refine ⟨[.death id], _, .single (.death ledger id raw life), stands.died apart erased,
              ?_, ?_⟩
            · intro other fresh _
              have away : other ≠ id := by
                rintro rfl
                rw [life] at fresh
                cases fresh
              exact (Function.update_of_ne away _ _).trans fresh
            · intro other dead gone
              rcases update_cases gone with ⟨rfl, _⟩ | ⟨_, gone⟩
              · exact .inr rfl
              · exact .inl gone
        | unborn =>
            refine ⟨[], ledger.lives, .nil ledger, stands.unseen id apart ?_ ?_ ?_,
              fun _ fresh _ => fresh, fun _ _ gone => .inl gone⟩
            · intro raw key found
              rw [erased] at found
              cases found
            · intro raw alive
              rw [life] at alive
              cases alive
            · intro raw gone
              rw [life] at gone
              cases gone
        | gone raw =>
            apply still
            apply everywhere
            exact erased.trans (stands.buried id raw life).symm

/-- What Vault answers can be noted when it answers, and bears out what the call makes of it. -/
def Noted (client : Client) (verifies : Verifies) (lives : KeyPairId → Life RawPublicKey)
    (notes : List (Note KeyPairId RawPublicKey)) (response : Response) (call : Call) : Prop :=
  ∃ extra : List (Note KeyPairId RawPublicKey), (∀ note ∈ extra, Seen lives note) ∧
    Bears client verifies lives (extra ++ notes) response call

section Noted

variable {notes : List (Note KeyPairId RawPublicKey)}

theorem read_noted (documented : transit.Documented client verifies)
    (answered : transit.answers server (.read id) response after)
    (stands : Stands client after lives) :
    Noted client verifies lives notes response (.read id) := by
  have kept : transit.key after id = transit.key server id :=
    documented.keeps answered (by simp) (by simp)
  cases fetch : fetchPublicKey client id response with
  | ok raw =>
      rcases fetchPublicKey_ok fetch with ⟨succeeded, data, publicKey, body, version, material⟩
      rcases documented.reads answered succeeded body with ⟨key, there, type, same⟩
      have own : Material client key raw := by
        have found := same publicKey version
        rcases key with ⟨keyType, keyText⟩
        cases type
        cases found
        exact material
      have alive := (stands.standing id raw).mpr ⟨key, kept.trans there, own⟩
      refine ⟨[.hit id raw], List.forall_mem_singleton.mpr alive, ?_, ?_⟩
      · intro other also
        cases fetch.symm.trans also
        exact List.mem_cons_self
      · intro failed
        cases fetch.symm.trans failed
  | error error =>
      rcases fetchPublicKey_error fetch with ⟨rfl, missing⟩ | ⟨details, rfl⟩
      · have absent := stands.miss (kept.trans (documented.unread answered missing))
        refine ⟨[.miss id], List.forall_mem_singleton.mpr absent, ?_, ?_⟩
        · intro raw read
          cases fetch.symm.trans read
        · exact fun _ => List.mem_cons_self
      · refine ⟨[], List.forall_mem_nil _, ?_, ?_⟩
        · intro raw read
          cases fetch.symm.trans read
        · intro missing
          cases fetch.symm.trans missing

/-- A request in the way of the algorithm that is known of is one in the way of the key's type. -/
theorem sign_noted {body : Json} {raw : RawPublicKey}
    (documented : transit.Documented client verifies)
    (answered : transit.answers server (.sign id body) response after)
    (stands : Stands client after lives) (value : (lives id).value = some raw) :
    Noted client verifies lives notes response (.sign id body) := by
  have kept : transit.key after id = transit.key server id :=
    documented.keeps answered (by simp) (by simp)
  cases read : readSignature client id raw.algorithm response with
  | ok signature =>
      rcases readSignature_ok read with ⟨succeeded, _, _, text, data, parsed⟩
      rcases documented.signs answered succeeded data with ⟨key, there, good⟩
      rcases stands.known value (kept.trans there) with ⟨alive, material⟩
      refine ⟨[.hit id raw], List.forall_mem_singleton.mpr alive, raw, value, ?_, ?_⟩
      · intro input other shape also
        cases read.symm.trans also
        exact ⟨List.mem_cons_self, good raw input signature.bytes material shape parsed⟩
      · intro failed
        cases read.symm.trans failed
  | error error =>
      rcases readSignature_error read with ⟨rfl, status, text⟩ | ⟨details, rfl⟩
      · have absent := stands.miss (kept.trans (documented.unsigned answered status text))
        refine ⟨[.miss id], List.forall_mem_singleton.mpr absent, raw, value, ?_, ?_⟩
        · intro input other _ also
          cases read.symm.trans also
        · exact fun _ => List.mem_cons_self
      · refine ⟨[], List.forall_mem_nil _, raw, value, ?_, ?_⟩
        · intro input other _ also
          cases read.symm.trans also
        · intro failed
          cases read.symm.trans failed

theorem delete_noted (documented : transit.Documented client verifies)
    (answered : transit.answers server (.delete id) response after)
    (stands : Stands client after lives) :
    Noted client verifies lives notes response (.delete id) := by
  by_cases gone : deleteKey client id response = .ok ()
  · have absent := stands.miss (documented.erased answered (deleteKey_ok gone))
    exact ⟨[.miss id], List.forall_mem_singleton.mpr absent, fun _ => List.mem_cons_self⟩
  · exact ⟨[], List.forall_mem_nil _, fun done => absurd done gone⟩

theorem call_noted {phase : Phase} (notes : List (Note KeyPairId RawPublicKey)) (documented : transit.Documented client verifies)
    (answered : transit.answers server call response after) (stands : Stands client after lives)
    (waiting : phase.call = some call)
    (shaped : ∀ id input algorithm, phase = .signing id input algorithm →
      Known lives id algorithm) :
    Noted client verifies lives notes response call := by
  cases call with
  | create | config => exact ⟨[], List.forall_mem_nil _, trivial⟩
  | read id => exact read_noted documented answered stands
  | delete id => exact delete_noted documented answered stands
  | sign id body =>
      cases phase with
      | signing other input algorithm =>
          cases waiting
          rcases shaped _ _ _ rfl with ⟨raw, value, _⟩
          exact sign_noted documented answered stands value
      | _ => cases waiting

end Noted

theorem Rel.serve (documented : transit.Documented client verifies)
    (rel : Rel client verifies state ledger) (sent : state.sent c = some call)
    (answered : transit.answers state.server call response after) :
    ∃ actions next, Run Step ledger actions next ∧ Rel client verifies
      { state with
        server := after
        sent := Function.update state.sent c none
        response := Function.update state.response c (some response) } next := by
  rcases keys_move documented rel.stands answered
    (fun id type same => rel.pending c id type (same ▸ sent)) with
    ⟨moves, lives, moved, stands, unborn, deaths⟩
  have before : ∀ id, (ledger.lives id).Before (lives id) := before_run moved
  have noted : ∃ extra : List (Note KeyPairId RawPublicKey), (∀ note ∈ extra, Seen lives note) ∧
      ((state.phase c).call = some call →
        Bears client verifies lives (extra ++ ledger.notes c) response call) := by
    by_cases waiting : (state.phase c).call = some call
    · rcases call_noted (ledger.notes c) documented answered stands waiting
        (fun id input algorithm at_ => (rel.shaped c id input algorithm at_).1.mono before) with
        ⟨extra, seen, bears⟩
      exact ⟨extra, seen, fun _ => bears⟩
    · exact ⟨[], List.forall_mem_nil _, fun waits => absurd waits waiting⟩
  rcases noted with ⟨extra, seen, bears⟩
  rcases looks_run ledger.notes c extra seen with ⟨looks, looked⟩
  refine ⟨moves ++ looks, _, moved.append looked, ?_⟩
  have own : Function.update ledger.notes c (extra ++ ledger.notes c) c = extra ++ ledger.notes c :=
    Function.update_self _ _ _
  have kept : ∀ d, ledger.notes d ⊆ Function.update ledger.notes c (extra ++ ledger.notes c) d := by
    intro d
    by_cases same : d = c
    · subst same
      rw [own]
      exact List.subset_append_right _ _
    · rw [Function.update_of_ne same]
      exact List.Subset.refl _
  constructor
  case truthful => exact truthful_run (moved.append looked) rel.truthful
  case standing => exact stands.standing
  case buried => exact stands.buried
  case drawn =>
    intro id unused
    rcases rel.drawn id unused with ⟨fresh, unsent⟩
    constructor
    · apply unborn id fresh
      rintro type rfl
      exact unsent c type sent
    · intro d type there
      rcases update_cases there with ⟨_, none_⟩ | ⟨_, old⟩
      · cases none_
      · exact unsent d type old
  case pending =>
    intro d id type there
    rcases update_cases there with ⟨_, none_⟩ | ⟨away, old⟩
    · cases none_
    · apply unborn id (rel.pending d id type old)
      rintro other rfl
      exact away (rel.once d c id type other old sent)
  case once =>
    intro d e id left right first second
    rcases update_cases first with ⟨_, none_⟩ | ⟨_, first⟩
    · cases none_
    · rcases update_cases second with ⟨_, none_⟩ | ⟨_, second⟩
      · cases none_
      · exact rel.once d e id left right first second
  case erasing =>
    intro d id there
    rcases update_cases there with ⟨_, none_⟩ | ⟨_, old⟩
    · cases none_
    · exact rel.erasing d id old
  case cached => exact fun p id algorithm found => (rel.cached p id algorithm found).mono before
  case shaped =>
    intro d id input algorithm at_
    rcases rel.shaped d id input algorithm at_ with ⟨known, sized⟩
    exact ⟨known.mono before, sized⟩
  case waits =>
    intro d waited waiting
    by_cases same : d = c
    · subst same
      refine .inr ⟨Function.update_self _ _ _, response, Function.update_self _ _ _, ?_⟩
      rcases rel.waits d waited waiting with ⟨there, _⟩ | ⟨unsent, _⟩
      · cases sent.symm.trans there
        dsimp only
        rw [own]
        exact bears waiting
      · rw [sent] at unsent
        cases unsent
    · rcases rel.waits d waited waiting with ⟨there, unread⟩ | ⟨unsent, read, got, borne⟩
      · exact .inl ⟨(Function.update_of_ne same _ _).trans there,
          (Function.update_of_ne same _ _).trans unread⟩
      · exact .inr ⟨(Function.update_of_ne same _ _).trans unsent, read,
          (Function.update_of_ne same _ _).trans got, borne.mono before (kept d)⟩
  case backed => exact fun d request reply at_ => (rel.backed d request reply at_).mono before (kept d)
  case blank =>
    intro d idle
    rcases rel.blank d idle with ⟨clean, unsent⟩
    have away : d ≠ c := by
      rintro rfl
      rw [sent] at unsent
      cases unsent
    exact ⟨(Function.update_of_ne away _ _).trans clean, (Function.update_of_ne away _ _).trans unsent⟩
  case deleted =>
    intro id raw gone
    rcases deaths id raw gone with old | rfl
    · exact rel.deleted id raw old
    · exact ⟨c, rel.erasing c id sent⟩

end Serve

end Calls

end SwiyuIssuer.Engine.Vault
