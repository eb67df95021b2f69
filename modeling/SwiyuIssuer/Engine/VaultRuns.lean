import SwiyuIssuer.Engine.VaultKeys

/-! The calls of the Vault engine over whole runs: what they answer, and what they send. -/

namespace SwiyuIssuer.Engine.Vault

open Library Lifespan

variable {transit : Transit}

section Calls

variable {client : Client} {home : CallId → ProcessId} {verifies : Verifies}
  {state : State transit} {ledger : KeyLedger} {c : CallId} {request : Request}

theorem createKey_error {response : Response} {error : SigningEngineError}
    (failed : createKey client response = .error error) : ∃ details, error = .backend details := by
  rw [createKey] at failed
  split at failed
  · cases failed
  · cases failed
    exact ⟨_, rfl⟩

theorem allowDeletion_error {id : KeyPairId} {response : Response} {error : SigningEngineError}
    (failed : allowDeletion client id response = .error error) :
    ∃ details, error = .backend details := by
  rw [allowDeletion] at failed
  split at failed
  · cases failed
  · split at failed
    · cases failed
    · cases failed
      exact ⟨_, rfl⟩

theorem deleteKey_error {id : KeyPairId} {response : Response} {error : SigningEngineError}
    (failed : deleteKey client id response = .error error) : ∃ details, error = .backend details := by
  rw [deleteKey] at failed
  split at failed
  · cases failed
  · split at failed
    · cases failed
    · cases failed
      exact ⟨_, rfl⟩

/-- A call returns what the ledger bears out. -/
theorem Rel.returns {reply : Reply} (rel : Rel client verifies state ledger)
    (asked : (state.phase c).request = none ∨ (state.phase c).request = some request)
    (backed : Backed verifies ledger.lives (ledger.notes c) request reply) :
    Rel client verifies (state.return_ c request reply) ledger := by
  refine rel.settles asked rfl rfl ?_
  intro given same
  cases same
  exact backed

/-- A call goes on to a request that creates nothing. -/
theorem Rel.goes {phase : Phase} {call : Call} (rel : Rel client verifies state ledger)
    (asked : (state.phase c).request = none ∨ (state.phase c).request = some request)
    (asks : phase.request = some request) (calls : phase.call = some call)
    (creates : ∀ id type, call ≠ .create id type)
    (shaped : ∀ id input algorithm, phase = .signing id input algorithm →
      Known ledger.lives id algorithm ∧ (algorithm = .ecdsaP256 → input.length = 32)) :
    Rel client verifies (state.send c phase) ledger :=
  rel.sends asked asks calls (fun id type same => absurd same (creates id type))
    (fun _ unused => unused) shaped

theorem Rel.signs {id : KeyPairId} {input : List UInt8} {algorithm : KeyAlgorithm}
    (rel : Rel client verifies state ledger)
    (asked : (state.phase c).request = none ∨ (state.phase c).request = some (.sign id input))
    (known : Known ledger.lives id algorithm) :
    Rel client verifies (signAs state c id input algorithm) ledger := by
  rw [signAs]
  split
  · next wrong =>
      rcases wrong with ⟨prehashed, length⟩
      rcases known with ⟨raw, value, suits⟩
      exact rel.returns asked (.unhashed id input raw value (suits.trans prehashed) length)
  · next right =>
      refine rel.goes asked rfl rfl (by simp) ?_
      intro other given own same
      cases same
      refine ⟨known, ?_⟩
      intro prehashed
      by_contra length
      exact right ⟨prehashed, length⟩

theorem fetch_missed {id : KeyPairId} {purpose : Purpose}
    {lives : KeyPairId → Life RawPublicKey} {notes : List (Note KeyPairId RawPublicKey)}
    (missed : .miss id ∈ notes) :
    Backed verifies lives notes (purpose.request id) (.error (.keyNotFound id)) := by
  cases purpose with
  | created role => exact .vanished role id missed
  | wanted => exact .unread id missed
  | lookup input => exact .unsigned id input missed

theorem Rel.fetched {id : KeyPairId} {purpose : Purpose} {key : RawPublicKey} {p : ProcessId}
    (rel : Rel client verifies state ledger)
    (asked : (state.phase c).request = some (purpose.request id))
    (noted : .hit id key ∈ ledger.notes c) :
    Rel client verifies
      (fetched (state.cacheSet p id (some key.algorithm)) c id key purpose) ledger := by
  have value := rel.truthful c id key noted
  have known : Known ledger.lives id key.algorithm := ⟨key, value, rfl⟩
  have cached : Rel client verifies (state.cacheSet p id (some key.algorithm)) ledger := by
    refine rel.cacheSet ?_
    intro own same
    cases same
    exact known
  cases purpose with
  | created role =>
      rw [Vault.fetched]
      split
      · exact cached.returns (.inr asked) (.backend _ _)
      · next same => exact cached.returns (.inr asked) (.generated role id key noted (not_not.mp same))
  | wanted => exact cached.returns (.inr asked) (.read id key noted)
  | lookup input => exact cached.signs (.inr asked) known

theorem Rel.resume {response : Response} {after : State transit}
    (rel : Rel client verifies state ledger) (got : state.response c = some response)
    (resumed : resume client home state c response (state.phase c) = some after) :
    Rel client verifies after ledger := by
  have bears : ∀ call, (state.phase c).call = some call →
      Bears client verifies ledger.lives (ledger.notes c) response call := by
    intro call waiting
    rcases rel.waits c call waiting with ⟨_, unread⟩ | ⟨_, other, also, bears⟩
    · rw [got] at unread
      cases unread
    · cases got.symm.trans also
      exact bears
  cases at_ : state.phase c with
  | idle | returned | dropped =>
      rw [at_] at resumed
      cases resumed
  | creating role id =>
      have asked : (state.phase c).request = some (.generateKeypair role) := by rw [at_]; rfl
      rw [at_, Vault.resume] at resumed
      split at resumed
      · next failed =>
          cases resumed
          rcases createKey_error failed with ⟨details, rfl⟩
          exact rel.returns (.inr asked) (.backend _ details)
      · cases resumed
        exact rel.goes (.inr asked) rfl rfl (by simp) (by simp)
  | fetching id purpose =>
      have asked : (state.phase c).request = some (purpose.request id) := by rw [at_]; rfl
      have borne := bears (.read id) (by rw [at_]; rfl)
      rw [at_, Vault.resume] at resumed
      split at resumed
      · next failed =>
          cases resumed
          rcases fetchPublicKey_error failed with ⟨rfl, _⟩ | ⟨details, rfl⟩
          · exact rel.returns (.inr asked) (fetch_missed (borne.2 failed))
          · exact rel.returns (.inr asked) (.backend _ details)
      · next key read =>
          cases resumed
          exact rel.fetched asked (borne.1 key read)
  | signing id input algorithm =>
      have asked : (state.phase c).request = some (.sign id input) := by rw [at_]; rfl
      rcases rel.shaped c id input algorithm at_ with ⟨⟨raw, value, rfl⟩, sized⟩
      rcases bears (.sign id (buildSignRequest input raw.algorithm)) (by rw [at_]; rfl) with
        ⟨other, also, good, missed⟩
      cases value.symm.trans also
      rw [at_, Vault.resume] at resumed
      cases resumed
      refine rel.returns (.inr asked) ?_
      cases read : readSignature client id raw.algorithm response with
      | ok signature =>
          rcases good input signature rfl read with ⟨noted, valid⟩
          rcases readSignature_ok read with ⟨_, algorithm, length, _⟩
          exact .signed id input raw signature noted ⟨algorithm, length, sized, valid⟩
      | error error =>
          rcases readSignature_error read with ⟨rfl, _⟩ | ⟨details, rfl⟩
          · exact .unsigned id input (missed read)
          · exact .backend _ details
  | allowing id =>
      have asked : (state.phase c).request = some (.deleteKeypair id) := by rw [at_]; rfl
      rw [at_, Vault.resume] at resumed
      split at resumed
      · next failed =>
          cases resumed
          rcases allowDeletion_error failed with ⟨details, rfl⟩
          exact rel.returns (.inr asked) (.backend _ details)
      · cases resumed
        exact rel.goes (.inr asked) rfl rfl (by simp) (by simp)
  | deleting id =>
      have asked : (state.phase c).request = some (.deleteKeypair id) := by rw [at_]; rfl
      have borne := bears (.delete id) (by rw [at_]; rfl)
      rw [at_, Vault.resume] at resumed
      split at resumed
      · next failed =>
          cases resumed
          rcases deleteKey_error failed with ⟨details, rfl⟩
          exact rel.returns (.inr asked) (.backend _ details)
      · next gone =>
          cases resumed
          have cached : Rel client verifies (state.cacheSet (home c) id none) ledger :=
            rel.cacheSet (by simp)
          exact cached.returns (.inr asked) (.deleted id (borne gone))

theorem Rel.start {id : KeyPairId} (rel : Rel client verifies state ledger)
    (idle : state.phase c = .idle) (drawn : Drawn state id request) :
    Rel client verifies (start home state c id request) ledger := by
  have asked : ∀ request, (state.phase c).request = none ∨ (state.phase c).request = some request :=
    fun _ => .inl (congrArg Phase.request idle)
  cases request with
  | generateKeypair role =>
      refine rel.sends (asked _) rfl rfl ?_ ?_ (by simp)
      · intro other type same
        cases same
        exact ⟨drawn, Function.update_self _ _ _⟩
      · intro other unused
        rcases update_cases unused with ⟨_, used⟩ | ⟨_, unused⟩
        · cases used
        · exact unused
  | getPublicKey key => exact rel.goes (asked _) rfl rfl (by simp) (by simp)
  | sign key input =>
      rw [Vault.start]
      split
      · next algorithm found => exact rel.signs (asked _) (rel.cached _ _ _ found)
      · exact rel.goes (asked _) rfl rfl (by simp) (by simp)
  | deleteKeypair key => exact rel.goes (asked _) rfl rfl (by simp) (by simp)

theorem moves_simulate (documented : transit.Documented client verifies) :
    Simulates (@Moves transit client home) Step (Rel client verifies)
      fun _ _ _ => True := by
  intro state event after ledger rel taken
  have still : Rel client verifies after ledger → ∃ actions next, Run Step ledger actions next ∧
      Rel client verifies after next ∧ ∀ action ∈ actions, True :=
    fun there => ⟨[], ledger, .nil ledger, there, fun _ _ => trivial⟩
  cases taken with
  | ask c request id idle drawn => exact still (rel.start idle drawn)
  | serve c call response server sent answered =>
      rcases rel.serve documented sent answered with ⟨actions, next, run, there⟩
      exact ⟨actions, next, run, there, fun _ _ => trivial⟩
  | receive c response after got resumed => exact still (rel.resume got resumed)
  | giveUp c request details waiting asked => exact still (rel.returns (.inr asked) (.backend _ _))
  | drop c request waiting asked =>
      refine still (rel.settles (.inr asked) rfl rfl ?_)
      intro reply same
      cases same
  | restart p =>
      refine still (rel.recached ?_)
      intro q id algorithm found
      rcases view_update_cases (fun entries : KeyPairId → Option KeyAlgorithm => entries id) found with
        ⟨_, none_⟩ | ⟨_, old⟩
      · cases none_
      · exact rel.cached q id algorithm old

/-- What a key that Vault has at the start is to the ledger. -/
theorem start_life (client : Client) (found : Option TransitKey) : ∃ life : Life RawPublicKey,
    (∀ raw, life = .alive raw ↔ ∃ key, found = some key ∧ Material client key raw) ∧
      (∀ raw, life ≠ .gone raw) ∧ (found = none → life = .unborn) := by
  by_cases usable : ∃ key raw, found = some key ∧ Material client key raw
  · rcases usable with ⟨key, raw, rfl, material⟩
    refine ⟨.alive raw, ?_, by simp, by simp⟩
    intro other
    constructor
    · intro same
      cases same
      exact ⟨key, rfl, material⟩
    · rintro ⟨_, same, also⟩
      cases same
      rw [material.unique also]
  · refine ⟨.unborn, ?_, by simp, fun _ => rfl⟩
    intro raw
    constructor
    · intro alive
      cases alive
    · rintro ⟨key, there, material⟩
      exact absurd ⟨key, raw, there, material⟩ usable

theorem initial_rel (initial : state.Initial) :
    ∃ ledger, Rel client verifies state ledger ∧ ∀ c, ledger.notes c = [] := by
  choose lives standing ungone absent using fun id =>
    start_life client (transit.key state.server id)
  refine ⟨⟨lives, fun _ => []⟩, ?_, fun _ => rfl⟩
  constructor
  case truthful =>
    intro observer id raw noted
    cases noted
  case standing => exact standing
  case buried => exact fun id raw gone => absurd gone (ungone id raw)
  case drawn =>
    intro id unused
    refine ⟨absent id (initial.drawn id unused), ?_⟩
    intro c type sent
    rw [initial.unsent] at sent
    cases sent
  case pending =>
    intro c id type sent
    rw [initial.unsent] at sent
    cases sent
  case once =>
    intro c d id left right sent
    rw [initial.unsent] at sent
    cases sent
  case erasing =>
    intro c id sent
    rw [initial.unsent] at sent
    cases sent
  case cached =>
    intro p id algorithm found
    rw [initial.cold] at found
    cases found
  case shaped =>
    intro c id input algorithm at_
    rw [initial.idle] at at_
    cases at_
  case waits =>
    intro c call waiting
    rw [initial.idle] at waiting
    cases waiting
  case backed =>
    intro c request reply at_
    rw [initial.idle] at at_
    cases at_
  case blank => exact fun c _ => ⟨rfl, initial.unsent c⟩
  case deleted => exact fun id raw gone => absurd gone (ungone id raw)

/-- The engine over Vault Transit keeps the contract. -/
theorem implements (documented : transit.Documented client verifies) :
    Implements verifies (face client home transit) :=
  ⟨Rel client verifies, moves_simulate documented, fun _ _ rel => rel.explains,
    fun _ initial => initial_rel initial⟩

end Calls

section Sample

/-- Keys by their algorithms; every read shows the same two public keys. -/
def sampleText : KeyAlgorithm → String
  | .ed25519 => "2gc1vkhCCUeNrTVhLA/miCFvEXAFeylMxBdZqwls1HQ="
  | .ecdsaP256 => "-----BEGIN PUBLIC KEY-----"

def sampleBody (algorithm : KeyAlgorithm) : Json :=
  .object [("data", .object [("type", .string algorithm.asStr), ("keys", .object [
    ("1", .object [("public_key", .string (sampleText algorithm))])])])]

def sampleClient : Client where
  codec := {
    parse := fun text =>
      match KeyAlgorithm.tryFrom text with
      | .ok algorithm => some (sampleBody algorithm)
      | .error _ => none
    word := fun _ _ => "expected value at line 1 column 1" }
  fromPublicKeyPem _ := .ok (List.replicate 65 4)
  decodeError _ _ := "Invalid padding"
  statusText status := toString status
  debug text := "\"" ++ text ++ "\""

/-- A Vault that creates, reads and deletes keys, and is too busy to sign. -/
def sampleRespond (server : KeyPairId → Option KeyAlgorithm) :
    Call → Response × (KeyPairId → Option KeyAlgorithm)
  | .create id type =>
      match server id, KeyAlgorithm.tryFrom type with
      | none, .ok algorithm => (⟨200, .ok ""⟩, Function.update server id (some algorithm))
      | some _, .ok _ => (⟨200, .ok ""⟩, server)
      | _, .error _ => (⟨400, .ok ""⟩, server)
  | .read id =>
      match server id with
      | none => (⟨404, .ok ""⟩, server)
      | some algorithm => (⟨200, .ok algorithm.asStr⟩, server)
  | .sign id _ =>
      match server id with
      | none => (⟨400, .ok vaultSignKeyNotFound⟩, server)
      | some _ => (⟨503, .ok ""⟩, server)
  | .config _ => (⟨200, .ok ""⟩, server)
  | .delete id => (⟨204, .ok ""⟩, Function.update server id none)

def sampleTransit : Transit where
  Server := KeyPairId → Option KeyAlgorithm
  key server id := (server id).map fun algorithm => ⟨algorithm.asStr, sampleText algorithm⟩
  answers server call response after := sampleRespond server call = (response, after)

theorem sampleRespond_server (server : KeyPairId → Option KeyAlgorithm) (call : Call) :
    (sampleRespond server call).2 = server ∨
      (∃ id type algorithm, call = .create id type ∧ server id = none ∧
        KeyAlgorithm.tryFrom type = .ok algorithm ∧
        (sampleRespond server call).2 = Function.update server id (some algorithm)) ∨
      ∃ id, call = .delete id ∧
        (sampleRespond server call).2 = Function.update server id none := by
  cases call with
  | create id type =>
      rw [sampleRespond]
      split
      · next fresh read => exact .inr (.inl ⟨id, type, _, rfl, fresh, read, rfl⟩)
      · exact .inl rfl
      · exact .inl rfl
  | read id =>
      rw [sampleRespond]
      split <;> exact .inl rfl
  | sign id body =>
      rw [sampleRespond]
      split <;> exact .inl rfl
  | config id => exact .inl rfl
  | delete id => exact .inr (.inr ⟨id, rfl, rfl⟩)

section Answers

variable {server after : KeyPairId → Option KeyAlgorithm} {id : KeyPairId} {response : Response}

theorem sampleTransit_after {call : Call}
    (answered : sampleTransit.answers server call response after) :
    after = server ∨
      (∃ id type algorithm, call = .create id type ∧ server id = none ∧
        KeyAlgorithm.tryFrom type = .ok algorithm ∧
        after = Function.update server id (some algorithm)) ∨
      ∃ id, call = .delete id ∧ after = Function.update server id none := by
  have there : (sampleRespond server call).2 = after := congrArg Prod.snd answered
  rw [← there]
  exact sampleRespond_server server call

theorem sampleTransit_read (answered : sampleTransit.answers server (.read id) response after) :
    (server id = none ∧ response = ⟨404, .ok ""⟩) ∨
      ∃ algorithm, server id = some algorithm ∧ response = ⟨200, .ok algorithm.asStr⟩ := by
  have there : (sampleRespond server (.read id)).1 = response := congrArg Prod.fst answered
  rw [sampleRespond] at there
  split at there
  · next absent => exact .inl ⟨absent, there.symm⟩
  · next algorithm found => exact .inr ⟨algorithm, found, there.symm⟩

theorem sampleTransit_sign {body : Json}
    (answered : sampleTransit.answers server (.sign id body) response after) :
    (server id = none ∧ response = ⟨400, .ok vaultSignKeyNotFound⟩) ∨
      response = ⟨503, .ok ""⟩ := by
  have there : (sampleRespond server (.sign id body)).1 = response := congrArg Prod.fst answered
  rw [sampleRespond] at there
  split at there
  · next absent => exact .inl ⟨absent, there.symm⟩
  · exact .inr there.symm

theorem sampleTransit_key {found : Option KeyAlgorithm} (there : server id = found) :
    sampleTransit.key server id =
      found.map fun algorithm => ⟨algorithm.asStr, sampleText algorithm⟩ := by
  rw [← there]
  rfl

theorem sampleTransit_update (server : KeyPairId → Option KeyAlgorithm) (id : KeyPairId)
    (set : Option KeyAlgorithm) : sampleTransit.key (Function.update server id set) id =
      set.map fun algorithm => ⟨algorithm.asStr, sampleText algorithm⟩ :=
  sampleTransit_key (Function.update_self _ _ _)

theorem sampleTransit_apart (server : KeyPairId → Option KeyAlgorithm) (set : Option KeyAlgorithm)
    {other : KeyPairId} (away : other ≠ id) :
    sampleTransit.key (Function.update server id set) other = sampleTransit.key server other :=
  sampleTransit_key (Function.update_of_ne away _ _)

end Answers

theorem sampleTransit_documented :
    sampleTransit.Documented sampleClient fun _ _ bytes => bytes = List.replicate 64 0 where
  apart {server call response after} answered id away := by
    rcases sampleTransit_after answered with rfl | ⟨key, _, _, rfl, _, _, rfl⟩ | ⟨key, rfl, rfl⟩
    · rfl
    · exact sampleTransit_apart server _ away
    · exact sampleTransit_apart server _ away
  creates {server id type response after} answered := by
    rcases sampleTransit_after answered with rfl | ⟨key, _, algorithm, same, fresh, read, rfl⟩ |
      ⟨key, same, _⟩
    · exact .inl rfl
    · cases same
      refine .inr ⟨sampleText algorithm, ?_, ?_⟩
      · rw [KeyAlgorithm.asStr_of_tryFrom read]
        exact sampleTransit_update server id _
      · exact sampleTransit_key fresh
    · cases same
  deletes {server id response after} answered := by
    rcases sampleTransit_after answered with rfl | ⟨key, _, _, same, _⟩ | ⟨key, same, rfl⟩
    · exact .inl rfl
    · cases same
    · cases same
      exact .inr (sampleTransit_update server id none)
  keeps {server call response after} answered created deleted := by
    rcases sampleTransit_after answered with rfl | ⟨key, type, _, same, _⟩ | ⟨key, same, _⟩
    · rfl
    · exact absurd same (created key type)
    · exact absurd same (deleted key)
  reads {server id response after data} answered succeeded read := by
    rcases sampleTransit_read answered with ⟨_, rfl⟩ | ⟨algorithm, there, rfl⟩
    · cases succeeded
    · refine ⟨⟨algorithm.asStr, sampleText algorithm⟩, ?_, ?_⟩
      · exact sampleTransit_key there
      · cases algorithm with
        | ed25519 | ecdsaP256 =>
            cases read
            refine ⟨rfl, ?_⟩
            intro publicKey version
            cases version
            rfl
  unread {server id response after} answered missing := by
    rcases sampleTransit_read answered with ⟨absent, _⟩ | ⟨algorithm, _, rfl⟩
    · exact sampleTransit_key absent
    · cases missing
  signs {server id body response after raw} answered succeeded read := by
    rcases sampleTransit_sign answered with ⟨_, rfl⟩ | rfl
    · cases succeeded
    · cases succeeded
  unsigned {server id body response after} answered status text := by
    rcases sampleTransit_sign answered with ⟨absent, _⟩ | rfl
    · exact sampleTransit_key absent
    · cases status
  erased {server id response after} answered _ := by
    have there : Function.update server id none = after := congrArg Prod.snd answered
    rw [← there]
    exact sampleTransit_update server id none

def sampleVault : State sampleTransit where
  server _ := none
  used _ := false
  cache _ _ := none
  phase _ := .idle
  sent _ := none
  response _ := none

theorem sampleVault_initial : sampleVault.Initial :=
  ⟨fun _ _ => rfl, fun _ _ => rfl, fun _ => rfl, fun _ => rfl⟩

def sampleId : KeyPairId := ⟨"550e8400-e29b-41d4-a716-446655440000"⟩

def sampleDigest : List UInt8 := List.replicate 32 9

/-- A key is generated and read back, and a call signs with the algorithm that is cached. -/
def sampleTrace : List Event :=
  [.ask 0 (.generateKeypair .assertion) sampleId, .serve 0 ⟨200, .ok ""⟩, .receive 0,
    .serve 0 ⟨200, .ok "ecdsa-p256"⟩, .receive 0, .ask 1 (.sign sampleId sampleDigest) sampleId]

theorem sampleTrace_run : ∃ last : State sampleTransit,
    Run (Moves sampleClient fun _ => 0) sampleVault sampleTrace last ∧
    last.phase 1 = .signing sampleId sampleDigest .ecdsaP256 ∧
    sampleTransit.key last.server sampleId = some ⟨"ecdsa-p256", sampleText .ecdsaP256⟩ := by
  refine ⟨_, .cons (.ask 0 _ sampleId rfl rfl) (.cons (.serve 0 _ _ _ rfl rfl)
    (.cons (.receive 0 _ _ rfl rfl) (.cons (.serve 0 _ _ _ rfl rfl)
    (.cons (.receive 0 _ _ rfl rfl) (.single (.ask 1 _ sampleId rfl trivial)))))), rfl, rfl⟩

end Sample

section Shapes

variable {client : Client} {home : CallId → ProcessId} {verifies : Verifies} {c : CallId}

/-- Whatever the caches went through: a request for a signature that is on its way to a key in Vault
has the shape for the type of that key. -/
theorem sign_request_fits_key {first last : State transit} {trace : List Event} {id : KeyPairId}
    {input : List UInt8} {algorithm : KeyAlgorithm} {key : TransitKey}
    (documented : transit.Documented client verifies) (initial : first.Initial)
    (run : Run (Moves client home) first trace last)
    (signing : last.phase c = .signing id input algorithm)
    (there : transit.key last.server id = some key) :
    key.type = algorithm.asStr ∧ (algorithm = .ecdsaP256 → input.length = 32) ∧
      ∀ call, last.sent c = some call → call = .sign id (buildSignRequest input algorithm) := by
  rcases initial_rel initial with ⟨ledger, rel, _⟩
  rcases (moves_simulate documented).run run rel with ⟨_, _, _, after, _⟩
  rcases after.shaped c id input algorithm signing with ⟨⟨raw, value, rfl⟩, sized⟩
  rcases after.stands.known value there with ⟨_, label, _⟩
  refine ⟨label, sized, ?_⟩
  intro call sent
  have waiting : (last.phase c).call = some (.sign id (buildSignRequest input raw.algorithm)) := by
    rw [signing]
    rfl
  rcases after.waits c _ waiting with ⟨own, _⟩ | ⟨none_, _⟩
  · exact Option.some.inj (sent.symm.trans own)
  · rw [sent] at none_
    cases none_

theorem sign_request_fits_key_sample : ∃ last : State sampleTransit,
    Run (Moves sampleClient fun _ => 0) sampleVault sampleTrace last ∧
    ∀ call, last.sent 1 = some call →
      call = .sign sampleId (buildSignRequest sampleDigest .ecdsaP256) := by
  rcases sampleTrace_run with ⟨last, run, signing, there⟩
  exact ⟨last, run, (sign_request_fits_key sampleTransit_documented sampleVault_initial run signing
    there).2.2⟩

end Shapes

end SwiyuIssuer.Engine.Vault
