import SwiyuIssuer.Engine.Contract
import SwiyuIssuer.Library.Answers
import SwiyuIssuer.Persistence.Issuers

/-! `DevSigningEngine`: the key pairs in a table, for the calls of any number of processes. -/

namespace SwiyuIssuer.Engine

open Library Lifespan Persistence

namespace Dev

/-- `ed25519_dalek` and `p256`: public keys and signatures of private keys, and the scalars that
`SigningKey::from_slice` takes; and the `Debug` text of a string. -/
structure Crypto where
  ed25519Public : List UInt8 → List UInt8
  p256Public : List UInt8 → List UInt8
  signEd25519 : List UInt8 → List UInt8 → List UInt8
  fromSlice : List UInt8 → Except String Unit
  signPrehash : List UInt8 → List UInt8 → Except String (List UInt8)
  debug : String → String

namespace Crypto

def publicOf (crypto : Crypto) : KeyAlgorithm → List UInt8 → List UInt8
  | .ed25519 => crypto.ed25519Public
  | .ecdsaP256 => crypto.p256Public

def Draws (crypto : Crypto) : KeyAlgorithm → List UInt8 → Prop
  | .ed25519, secret => secret.length = 32
  | .ecdsaP256, secret => crypto.fromSlice secret = .ok ()

/-- A signature of a drawn key has 64 bytes, and verifies under its public key. -/
structure Correct (crypto : Crypto) (verifies : Verifies) : Prop where
  ed25519 : ∀ secret input, crypto.Draws .ed25519 secret →
    (crypto.signEd25519 secret input).length = 64 ∧
      verifies ⟨.ed25519, crypto.ed25519Public secret⟩ input (crypto.signEd25519 secret input)
  p256 : ∀ secret input bytes, crypto.Draws .ecdsaP256 secret →
    crypto.signPrehash secret input = .ok bytes →
      bytes.length = 64 ∧ verifies ⟨.ecdsaP256, crypto.p256Public secret⟩ input bytes

end Crypto

/-- A row of `signing_engine_dev_keypairs`. -/
structure Keypair where
  algorithm : String
  privateKey : List UInt8
  publicKey : List UInt8

inductive Phase
  | idle
  | asked (request : Request)
  | held (request : Request) (reply : Reply)
  | returned (request : Request) (reply : Reply)
  | dropped (request : Request)

namespace Phase

def request : Phase → Option Request
  | idle => none
  | asked request | held request _ | returned request _ | dropped request => some request

/-- The reply that is computed, whether or not the caller has it. -/
def computed : Phase → Option Reply
  | held _ reply | returned _ reply => some reply
  | _ => none

def reply : Phase → Option Reply
  | returned _ reply => some reply
  | _ => none

end Phase

/-- `used` has the identifiers that were drawn. -/
structure State where
  table : KeyPairId → Option Keypair
  used : KeyPairId → Bool
  phase : CallId → Phase

/-- `id` and `secret` are what `generate_keypair` draws, and nothing to the other requests. -/
inductive Event
  | ask (c : CallId) (request : Request)
  | execute (c : CallId) (id : KeyPairId) (secret : List UInt8) (answer : DbAnswer)
  | finish (c : CallId)
  | drop (c : CallId)

variable (crypto : Crypto)

def parseAlgorithmLabel (label : String) : Except SigningEngineError KeyAlgorithm :=
  (KeyAlgorithm.tryFrom label).mapError fun other =>
    .backend ("unknown algorithm label in DB: " ++ unknownAlgorithm crypto.debug other)

def signEd25519 (secret input : List UInt8) : Except SigningEngineError (List UInt8) :=
  if secret.length = 32 then .ok (crypto.signEd25519 secret input)
  else .error (.backend ("ed25519 private key has unexpected length: " ++ toString secret.length))

def signEcdsaP256 (secret input : List UInt8) : Except SigningEngineError (List UInt8) :=
  if input.length ≠ 32 then .error (.invalidInputLength 32 input.length)
  else do
    (crypto.fromSlice secret).mapError .backend
    (crypto.signPrehash secret input).mapError .backend

/-- `get_public_key`, behind its `SELECT`. -/
def publicKeyOf (id : KeyPairId) : Option Keypair → Except SigningEngineError RawPublicKey
  | none => .error (.keyNotFound id)
  | some row => do
      let algorithm ← parseAlgorithmLabel crypto row.algorithm
      return ⟨algorithm, row.publicKey⟩

/-- `sign`, behind its `SELECT`. -/
def signWith (id : KeyPairId) (input : List UInt8) :
    Option Keypair → Except SigningEngineError Signature
  | none => .error (.keyNotFound id)
  | some row => do
      let algorithm ← parseAlgorithmLabel crypto row.algorithm
      let bytes ← match algorithm with
        | .ed25519 => signEd25519 crypto row.privateKey input
        | .ecdsaP256 => signEcdsaP256 crypto row.privateKey input
      return ⟨algorithm, bytes⟩

def answered (answer : DbAnswer) (reply : Reply) : Reply :=
  match answer with
  | .ok => reply
  | .failed details | .lost details => .error (.backend details)

def applied (answer : DbAnswer) (before after : KeyPairId → Option Keypair) :
    KeyPairId → Option Keypair :=
  match answer with
  | .failed _ => before
  | .ok | .lost _ => after

def duplicateKey : String :=
  "duplicate key value violates unique constraint \"signing_engine_dev_keypairs_pkey\""

def State.goto (state : State) (c : CallId) (phase : Phase) : State :=
  { state with phase := Function.update state.phase c phase }

def generate (state : State) (c : CallId) (role : KeyRole) (id : KeyPairId) (secret : List UInt8)
    (answer : DbAnswer) : State :=
  let algorithm := KeyAlgorithm.forRole role
  let row : Keypair := ⟨algorithm.asStr, secret, crypto.publicOf algorithm secret⟩
  let asked : Request := .generateKeypair role
  let drawn := { state with used := Function.update state.used id true }
  match state.table id with
  | some _ => drawn.goto c (.held asked (.error (.backend duplicateKey)))
  | none =>
      { drawn.goto c (.held asked (answered answer (.ok (.generated ⟨id, algorithm, row.publicKey⟩))))
        with table := applied answer state.table (Function.update state.table id (some row)) }

/-- The one statement of a request, and what becomes of its answer. -/
def execute (state : State) (c : CallId) (id : KeyPairId) (secret : List UInt8)
    (answer : DbAnswer) : Request → State
  | .generateKeypair role => generate crypto state c role id secret answer
  | .getPublicKey asked =>
      state.goto c (.held (.getPublicKey asked)
        (answered answer ((publicKeyOf crypto asked (state.table asked)).map .publicKey)))
  | .sign asked input =>
      state.goto c (.held (.sign asked input)
        (answered answer ((signWith crypto asked input (state.table asked)).map .signed)))
  | .deleteKeypair asked =>
      { state.goto c (.held (.deleteKeypair asked) (answered answer (.ok .deleted))) with
        table := applied answer state.table (Function.update state.table asked none) }

/-- An identifier is drawn once, and a secret as the generator of the algorithm draws them. -/
def Drawn (state : State) (id : KeyPairId) (secret : List UInt8) : Request → Prop
  | .generateKeypair role => state.used id = false ∧ crypto.Draws (.forRole role) secret
  | _ => True

inductive Moves (state : State) : Event → State → Prop
  | ask (c : CallId) (request : Request) : state.phase c = .idle →
      Moves state (.ask c request) (state.goto c (.asked request))
  | execute (c : CallId) (request : Request) (id : KeyPairId) (secret : List UInt8)
      (answer : DbAnswer) : state.phase c = .asked request →
      Drawn crypto state id secret request →
      Moves state (.execute c id secret answer) (execute crypto state c id secret answer request)
  | finish (c : CallId) (request : Request) (reply : Reply) : state.phase c = .held request reply →
      Moves state (.finish c) (state.goto c (.returned request reply))
  | drop (c : CallId) (request : Request) :
      state.phase c = .asked request ∨ (∃ reply, state.phase c = .held request reply) →
      Moves state (.drop c) (state.goto c (.dropped request))

def Sound (row : Keypair) : Prop :=
  ∃ algorithm, row.algorithm = algorithm.asStr ∧ crypto.Draws algorithm row.privateKey ∧
    row.publicKey = crypto.publicOf algorithm row.privateKey

structure State.Initial (state : State) : Prop where
  sound : ∀ id row, state.table id = some row → Sound crypto row
  drawn : ∀ id, state.used id = false → state.table id = none
  idle : ∀ c, state.phase c = .idle

def face : Face where
  State := State
  Event := Event
  step := Moves crypto
  Initial := State.Initial crypto
  asked state c := (state.phase c).request
  reply state c := (state.phase c).reply

def Stands (row : Keypair) (key : RawPublicKey) : Prop :=
  row.algorithm = key.algorithm.asStr ∧ row.publicKey = key.bytes

/-- The ledger behind a state of the table and of the calls. -/
structure Rel (verifies : Verifies) (state : State) (ledger : KeyLedger) : Prop where
  sound : ∀ id row, state.table id = some row → Sound crypto row
  standing : ∀ id key, ledger.lives id = .alive key ↔
    ∃ row, state.table id = some row ∧ Stands row key
  drawn : ∀ id, state.used id = false → ledger.lives id = .unborn
  backed : ∀ c request reply, (state.phase c).request = some request →
    (state.phase c).computed = some reply →
      Backed verifies ledger.lives (ledger.notes c) request reply
  blank : ∀ c, (state.phase c).request = none → ledger.notes c = []
  deleted : ∀ id key, ledger.lives id = .gone key →
    ∃ c, (state.phase c).request = some (.deleteKeypair id)

section Refinement

variable {crypto : Crypto} {verifies : Verifies} {state after : State} {ledger next : KeyLedger}

theorem Rel.explains (rel : Rel crypto verifies state ledger) :
    Explains verifies (face crypto) ledger state where
  backed c request reply asked given := by
    refine rel.backed c request reply asked ?_
    change (state.phase c).reply = some reply at given
    cases at_ : state.phase c with
    | returned _ _ =>
        rw [at_] at given
        exact given
    | _ =>
        rw [at_] at given
        cases given
  unasked := rel.blank
  deleted := rel.deleted

theorem Rel.advance {c : CallId} {phase : Phase} {request : Request}
    (rel : Rel crypto verifies state ledger)
    (lives : ∀ id, (ledger.lives id).Before (next.lives id))
    (kept : ledger.notes c ⊆ next.notes c) (others : ∀ d, d ≠ c → next.notes d = ledger.notes d)
    (sound : ∀ id row, after.table id = some row → Sound crypto row)
    (standing : ∀ id key, next.lives id = .alive key ↔
      ∃ row, after.table id = some row ∧ Stands row key)
    (drawn : ∀ id, after.used id = false → next.lives id = .unborn)
    (moved : after.phase = Function.update state.phase c phase) (asks : phase.request = some request)
    (asked : (state.phase c).request = none ∨ (state.phase c).request = some request)
    (backed : ∀ reply, phase.computed = some reply →
      Backed verifies next.lives (next.notes c) request reply)
    (deleted : ∀ id key, next.lives id = .gone key →
      ledger.lives id = .gone key ∨ request = .deleteKeypair id) :
    Rel crypto verifies after next where
  sound := sound
  standing := standing
  drawn := drawn
  backed d other reply asking computed := by
    rw [moved] at asking computed
    by_cases own : d = c
    · subst own
      rw [Function.update_self] at asking computed
      cases asks.symm.trans asking
      exact backed reply computed
    · rw [Function.update_of_ne own] at asking computed
      rw [others d own]
      exact (rel.backed d other reply asking computed).mono lives (List.Subset.refl _)
  blank d idle := by
    rw [moved] at idle
    by_cases own : d = c
    · subst own
      rw [Function.update_self, asks] at idle
      cases idle
    · rw [Function.update_of_ne own] at idle
      rw [others d own]
      exact rel.blank d idle
  deleted id key gone := by
    rw [moved]
    rcases deleted id key gone with old | rfl
    · rcases rel.deleted id key old with ⟨d, asking⟩
      refine ⟨d, ?_⟩
      by_cases own : d = c
      · subst own
        rw [Function.update_self, asks]
        rcases asked with idle | same
        · rw [idle] at asking
          cases asking
        · exact same.symm.trans asking
      · rw [Function.update_of_ne own]
        exact asking
    · refine ⟨c, ?_⟩
      rw [Function.update_self]
      exact asks

theorem publicKeyOf_stands {id : KeyPairId} {row : Keypair} {key : RawPublicKey}
    (stands : Stands row key) : publicKeyOf crypto id (some row) = .ok key := by
  rcases stands with ⟨label, bytes⟩
  simp only [publicKeyOf, parseAlgorithmLabel, label, KeyAlgorithm.tryFrom_asStr,
    Answers.ok_mapError, bytes]
  rfl

theorem signWith_backed {id : KeyPairId} {row : Keypair} {key : RawPublicKey} {input : List UInt8}
    {lives : KeyPairId → Life RawPublicKey} {notes : List (Note KeyPairId RawPublicKey)}
    (correct : crypto.Correct verifies) (sound : Sound crypto row) (stands : Stands row key)
    (alive : lives id = .alive key) (noted : .hit id key ∈ notes) :
    Backed verifies lives notes (.sign id input)
      ((signWith crypto id input (some row)).map .signed) := by
  rcases sound with ⟨algorithm, label, draws, public_⟩
  rcases stands with ⟨same, bytes⟩
  rcases key with ⟨own, material⟩
  cases KeyAlgorithm.asStr_injective (label.symm.trans same)
  have derived : material = crypto.publicOf own row.privateKey := bytes.symm.trans public_
  subst derived
  have value : (lives id).value = some ⟨own, crypto.publicOf own row.privateKey⟩ := by
    rw [alive]
    rfl
  simp only [signWith, parseAlgorithmLabel, label, KeyAlgorithm.tryFrom_asStr, Answers.ok_mapError]
  cases own with
  | ed25519 =>
      have sized : row.privateKey.length = 32 := draws
      rcases correct.ed25519 row.privateKey input draws with ⟨length, good⟩
      have signed : SignedBy verifies ⟨.ed25519, crypto.publicOf .ed25519 row.privateKey⟩ input
          ⟨.ed25519, crypto.signEd25519 row.privateKey input⟩ :=
        ⟨rfl, length, (fun prehashed => by cases prehashed), good⟩
      have made : signEd25519 crypto row.privateKey input =
          .ok (crypto.signEd25519 row.privateKey input) := if_pos sized
      simp only [made]
      exact .signed id input _ _ noted signed
  | ecdsaP256 =>
      have scalar : crypto.fromSlice row.privateKey = .ok () := draws
      by_cases length : input.length = 32
      · cases made : crypto.signPrehash row.privateKey input with
        | error details =>
            have failed : signEcdsaP256 crypto row.privateKey input = .error (.backend details) := by
              rw [signEcdsaP256, if_neg (not_not.mpr length), scalar, made]
              rfl
            simp only [failed]
            exact .backend _ details
        | ok bytes =>
            rcases correct.p256 row.privateKey input bytes draws made with ⟨sized, good⟩
            have signed : SignedBy verifies ⟨.ecdsaP256, crypto.publicOf .ecdsaP256 row.privateKey⟩
                input ⟨.ecdsaP256, bytes⟩ := ⟨rfl, sized, fun _ => length, good⟩
            have done : signEcdsaP256 crypto row.privateKey input = .ok bytes := by
              rw [signEcdsaP256, if_neg (not_not.mpr length), scalar, made]
              rfl
            simp only [done]
            exact .signed id input _ _ noted signed
      · have refused : signEcdsaP256 crypto row.privateKey input =
            .error (.invalidInputLength 32 input.length) := if_pos length
        simp only [refused]
        exact .unhashed id input _ value rfl length

theorem Rel.stays {c : CallId} {phase : Phase} {request : Request}
    (rel : Rel crypto verifies state ledger) (table : after.table = state.table)
    (used : ∀ id, after.used id = false → state.used id = false)
    (moved : after.phase = Function.update state.phase c phase) (asks : phase.request = some request)
    (asked : (state.phase c).request = none ∨ (state.phase c).request = some request)
    (backed : ∀ reply, phase.computed = some reply →
      Backed verifies ledger.lives (ledger.notes c) request reply) :
    Rel crypto verifies after ledger := by
  refine rel.advance (fun _ => .refl _) (List.Subset.refl _) (fun _ _ => rfl) ?_ ?_ ?_ moved asks
    asked backed fun _ _ gone => .inl gone
  · rw [table]
    exact rel.sound
  · rw [table]
    exact rel.standing
  · exact fun id fresh => rel.drawn id (used id fresh)

theorem Rel.looked {c : CallId} {phase : Phase} {request : Request}
    {note : Note KeyPairId RawPublicKey} (rel : Rel crypto verifies state ledger)
    (table : after.table = state.table) (used : ∀ id, after.used id = false → state.used id = false)
    (moved : after.phase = Function.update state.phase c phase) (asks : phase.request = some request)
    (asked : (state.phase c).request = some request)
    (backed : ∀ reply, phase.computed = some reply →
      Backed verifies ledger.lives (note :: ledger.notes c) request reply) :
    Rel crypto verifies after
      { ledger with notes := Function.update ledger.notes c (note :: ledger.notes c) } := by
  have own : Function.update ledger.notes c (note :: ledger.notes c) c = note :: ledger.notes c :=
    Function.update_self _ _ _
  refine rel.advance (fun _ => .refl _) ?_ (fun d other => Function.update_of_ne other _ _) ?_ ?_ ?_
    moved asks (.inr asked) ?_ fun _ _ gone => .inl gone
  · dsimp only
    rw [own]
    exact List.subset_cons_self _ _
  · rw [table]
    exact rel.sound
  · rw [table]
    exact rel.standing
  · exact fun id fresh => rel.drawn id (used id fresh)
  · dsimp only
    rw [own]
    exact backed

theorem backed_answered {lives : KeyPairId → Life RawPublicKey}
    {notes : List (Note KeyPairId RawPublicKey)} {request : Request} {reply : Reply}
    (backed : Backed verifies lives notes request reply) (answer : DbAnswer) :
    Backed verifies lives notes request (answered answer reply) := by
  cases answer with
  | ok => exact backed
  | failed details | lost details => exact .backend request details

theorem Rel.finds (rel : Rel crypto verifies state ledger) (id : KeyPairId) :
    (∃ row key, state.table id = some row ∧ Sound crypto row ∧ Stands row key ∧
      ledger.lives id = .alive key) ∨
      (state.table id = none ∧ Seen ledger.lives (.miss id)) := by
  cases found : state.table id with
  | none =>
      refine .inr ⟨rfl, ?_⟩
      intro key alive
      rcases (rel.standing id key).mp alive with ⟨row, there, _⟩
      rw [found] at there
      cases there
  | some row =>
      rcases rel.sound id row found with ⟨algorithm, label, draws, public_⟩
      have stands : Stands row ⟨algorithm, row.publicKey⟩ := ⟨label, rfl⟩
      exact .inl ⟨row, _, rfl, ⟨algorithm, label, draws, public_⟩, stands,
        (rel.standing id _).mpr ⟨row, found, stands⟩⟩

/-- A request that only looks at the row of `id`. -/
theorem reads_simulate {c : CallId} {request : Request} (id : KeyPairId) (answer : DbAnswer)
    (make : Option Keypair → Reply) (rel : Rel crypto verifies state ledger)
    (asked : state.phase c = .asked request)
    (missed : ∀ notes : List (Note KeyPairId RawPublicKey), .miss id ∈ notes →
      Backed verifies ledger.lives notes request (make none))
    (found : ∀ (row : Keypair) (key : RawPublicKey) (notes : List (Note KeyPairId RawPublicKey)),
      Sound crypto row → Stands row key → ledger.lives id = .alive key → .hit id key ∈ notes →
        Backed verifies ledger.lives notes request (make (some row))) :
    ∃ note, Seen ledger.lives note ∧
      Rel crypto verifies (state.goto c (.held request (answered answer (make (state.table id)))))
        { ledger with notes := Function.update ledger.notes c (note :: ledger.notes c) } := by
  have same : (state.phase c).request = some request := congrArg Phase.request asked
  rcases rel.finds id with ⟨row, key, there, sound, stands, alive⟩ | ⟨absent, unseen⟩
  · refine ⟨.hit id key, alive, rel.looked rfl (fun _ fresh => fresh) rfl rfl same ?_⟩
    intro reply computed
    cases computed
    rw [there]
    exact backed_answered (found row key _ sound stands alive List.mem_cons_self) answer
  · refine ⟨.miss id, unseen, rel.looked rfl (fun _ fresh => fresh) rfl rfl same ?_⟩
    intro reply computed
    cases computed
    rw [absent]
    exact backed_answered (missed _ List.mem_cons_self) answer

theorem Rel.erased {c : CallId} {id : KeyPairId} {reply : Reply}
    (rel : Rel crypto verifies state ledger) (asked : state.phase c = .asked (.deleteKeypair id))
    (backed : ∀ lives notes, .miss id ∈ notes →
      Backed verifies lives notes (.deleteKeypair id) reply) :
    ∃ actions next, Run Step ledger actions next ∧
      Rel crypto verifies
        { state.goto c (.held (.deleteKeypair id) reply) with
          table := Function.update state.table id none } next := by
  have same : (state.phase c).request = some (.deleteKeypair id) := congrArg Phase.request asked
  have sound : ∀ other row, Function.update state.table id none other = some row →
      Sound crypto row := by
    intro other row found
    exact rel.sound other row (update_none found).2
  let notes := Function.update ledger.notes c (.miss id :: ledger.notes c)
  have own : notes c = .miss id :: ledger.notes c := Function.update_self _ _ _
  have kept : ledger.notes c ⊆ notes c := by
    rw [own]
    exact List.subset_cons_self _ _
  rcases rel.finds id with ⟨row, key, there, _, _, alive⟩ | ⟨absent, unseen⟩
  · let lives := Function.update ledger.lives id (.gone key)
    have died : Step ledger (.death id) { ledger with lives := lives } := .death ledger id key alive
    have before : ∀ other, (ledger.lives other).Before (lives other) := before_step died
    have here : lives id = .gone key := Function.update_self _ _ _
    have unseen : Seen lives (.miss id) := by
      intro other alive_
      rw [here] at alive_
      cases alive_
    refine ⟨[.death id, .look c (.miss id)], ⟨lives, notes⟩,
      .cons died (.single (.look _ c _ unseen)), ?_⟩
    refine rel.advance before kept (fun d other => Function.update_of_ne other _ _) sound
      ?_ ?_ rfl rfl (.inr same) ?_ ?_
    · intro other standing
      dsimp only
      by_cases erased : other = id
      · subst erased
        rw [here, Function.update_self]
        constructor
        · intro alive_
          cases alive_
        · rintro ⟨_, found, _⟩
          cases found
      · rw [Function.update_of_ne erased]
        exact (congrArg (· = _) (Function.update_of_ne erased _ _)).to_iff.trans
          (rel.standing other standing)
    · intro other fresh
      have unborn := rel.drawn other fresh
      by_cases erased : other = id
      · subst erased
        rw [alive] at unborn
        cases unborn
      · exact (Function.update_of_ne erased _ _).trans unborn
    · intro given computed
      cases computed
      refine backed _ _ ?_
      dsimp only
      rw [own]
      exact List.mem_cons_self
    · intro other old gone
      by_cases erased : other = id
      · subst erased
        exact .inr rfl
      · exact .inl ((Function.update_of_ne erased _ _).symm.trans gone)
  · refine ⟨[.look c (.miss id)], { ledger with notes := notes },
      .single (.look ledger c _ unseen), ?_⟩
    have unchanged : Function.update state.table id none = state.table := by
      rw [← absent]
      exact Function.update_eq_self _ _
    rw [unchanged]
    refine rel.looked rfl (fun _ fresh => fresh) rfl rfl same ?_
    intro given computed
    cases computed
    exact backed _ _ List.mem_cons_self

/-- The row of a drawn key pair is inserted: the key is born, and is seen where the call has its
answer. -/
theorem Rel.inserted {c : CallId} {role : KeyRole} {id : KeyPairId} {secret : List UInt8}
    {reply : Reply} (rel : Rel crypto verifies state ledger)
    (asked : state.phase c = .asked (.generateKeypair role)) (fresh : state.used id = false)
    (draws : crypto.Draws (.forRole role) secret)
    (backed : ∀ lives notes, .hit id ⟨.forRole role, crypto.publicOf (.forRole role) secret⟩ ∈ notes →
      Backed verifies lives notes (.generateKeypair role) reply) :
    ∃ actions next, Run Step ledger actions next ∧
      Rel crypto verifies
        { state.goto c (.held (.generateKeypair role) reply) with
          table := Function.update state.table id (some ⟨(KeyAlgorithm.forRole role).asStr, secret,
            crypto.publicOf (.forRole role) secret⟩)
          used := Function.update state.used id true } next := by
  have same : (state.phase c).request = some (.generateKeypair role) :=
    congrArg Phase.request asked
  let key : RawPublicKey := ⟨.forRole role, crypto.publicOf (.forRole role) secret⟩
  have unborn := rel.drawn id fresh
  let lives := Function.update ledger.lives id (.alive key)
  let notes := Function.update ledger.notes c (.hit id key :: ledger.notes c)
  have born : Step ledger (.birth id key) { ledger with lives := lives } :=
    .birth ledger id key unborn
  have before : ∀ other, (ledger.lives other).Before (lives other) := before_step born
  have here : lives id = .alive key := Function.update_self _ _ _
  have own : notes c = .hit id key :: ledger.notes c := Function.update_self _ _ _
  refine ⟨[.birth id key, .look c (.hit id key)], ⟨lives, notes⟩,
    .cons born (.single (.look _ c _ here)), ?_⟩
  refine rel.advance before ?_ (fun d other => Function.update_of_ne other _ _) ?_ ?_ ?_ rfl rfl
    (.inr same) ?_ ?_
  · dsimp only
    rw [own]
    exact List.subset_cons_self _ _
  · intro other row found
    rcases update_some_cases found with ⟨_, rfl⟩ | ⟨_, old⟩
    · exact ⟨.forRole role, rfl, draws, rfl⟩
    · exact rel.sound other row old
  · intro other standing
    dsimp only
    by_cases inserted : other = id
    · subst inserted
      rw [here, Function.update_self]
      constructor
      · intro alive
        cases alive
        exact ⟨_, rfl, rfl, rfl⟩
      · rintro ⟨row, found, label, bytes⟩
        cases found
        rcases standing with ⟨algorithm, material⟩
        cases KeyAlgorithm.asStr_injective label
        cases bytes
        rfl
    · rw [Function.update_of_ne inserted]
      exact (congrArg (· = _) (Function.update_of_ne inserted _ _)).to_iff.trans
        (rel.standing other standing)
  · intro other unused
    dsimp only at unused
    rcases update_cases unused with ⟨_, drawn⟩ | ⟨elsewhere, unused⟩
    · cases drawn
    · exact (Function.update_of_ne elsewhere _ _).trans (rel.drawn other unused)
  · intro given computed
    cases computed
    refine backed _ _ ?_
    dsimp only
    rw [own]
    exact List.mem_cons_self
  · intro other old gone
    dsimp only at gone
    rcases update_cases gone with ⟨_, dead⟩ | ⟨_, gone⟩
    · cases dead
    · exact .inl gone

theorem execute_simulates {c : CallId} {request : Request} {id : KeyPairId} {secret : List UInt8}
    {answer : DbAnswer} (correct : crypto.Correct verifies) (rel : Rel crypto verifies state ledger)
    (asked : state.phase c = .asked request) (drawn : Drawn crypto state id secret request) :
    ∃ actions next, Run Step ledger actions next ∧
      Rel crypto verifies (execute crypto state c id secret answer request) next := by
  have same : (state.phase c).request = some request := congrArg Phase.request asked
  have looks : ∀ {note : Note KeyPairId RawPublicKey} {after : State}, Seen ledger.lives note →
      Rel crypto verifies after
        { ledger with notes := Function.update ledger.notes c (note :: ledger.notes c) } →
      ∃ actions next, Run Step ledger actions next ∧ Rel crypto verifies after next :=
    fun seen there => ⟨_, _, .single (.look ledger c _ seen), there⟩
  cases request with
  | getPublicKey key =>
      have read := reads_simulate key answer
        (fun row => (publicKeyOf crypto key row).map .publicKey) rel asked ?_ ?_
      · rcases read with ⟨note, seen, there⟩
        exact looks seen there
      · intro notes missed
        exact .unread key missed
      · intro row found notes _ stands _ noted
        simp only [publicKeyOf_stands stands]
        exact .read key found noted
  | sign key input =>
      have read := reads_simulate key answer
        (fun row => (signWith crypto key input row).map .signed) rel asked ?_ ?_
      · rcases read with ⟨note, seen, there⟩
        exact looks seen there
      · intro notes missed
        exact .unsigned key input missed
      · intro row found notes sound stands alive noted
        exact signWith_backed correct sound stands alive noted
  | deleteKeypair key =>
      cases answer with
      | ok => exact rel.erased asked fun _ _ missed => .deleted key missed
      | lost details => exact rel.erased asked fun _ _ _ => .backend _ details
      | failed details =>
          refine ⟨[], ledger, .nil ledger, ?_⟩
          refine rel.stays rfl (fun _ fresh => fresh) rfl rfl (.inr same) ?_
          intro reply computed
          cases computed
          exact .backend _ details
  | generateKeypair role =>
      rcases drawn with ⟨fresh, draws⟩
      have absent : state.table id = none := by
        rcases rel.finds id with ⟨_, key, _, _, _, alive⟩ | ⟨absent, _⟩
        · rw [rel.drawn id fresh] at alive
          cases alive
        · exact absent
      simp only [execute, generate, absent]
      cases answer with
      | ok => exact rel.inserted asked fresh draws fun _ _ noted => .generated role id _ noted rfl
      | lost details => exact rel.inserted asked fresh draws fun _ _ _ => .backend _ details
      | failed details =>
          refine ⟨[], ledger, .nil ledger, ?_⟩
          refine rel.stays rfl ?_ rfl rfl (.inr same) ?_
          · intro other unused
            dsimp only at unused
            rcases update_cases unused with ⟨_, drawn⟩ | ⟨_, unused⟩
            · cases drawn
            · exact unused
          · intro reply computed
            cases computed
            exact .backend _ details

theorem moves_simulate (correct : crypto.Correct verifies) :
    Simulates (Moves crypto) Step (Rel crypto verifies) fun _ _ _ => True := by
  intro state event after ledger rel taken
  suffices explained : ∃ actions next, Run Step ledger actions next ∧
      Rel crypto verifies after next by
    rcases explained with ⟨actions, next, run, there⟩
    exact ⟨actions, next, run, there, fun _ _ => trivial⟩
  cases taken with
  | ask c request idle =>
      refine ⟨[], ledger, .nil ledger, rel.stays rfl (fun _ fresh => fresh) rfl rfl ?_ ?_⟩
      · exact .inl (congrArg Phase.request idle)
      · intro reply computed
        cases computed
  | execute c request id secret answer asked drawn =>
      exact execute_simulates correct rel asked drawn
  | finish c request reply held =>
      refine ⟨[], ledger, .nil ledger, rel.stays rfl (fun _ fresh => fresh) rfl rfl ?_ ?_⟩
      · exact .inr (congrArg Phase.request held)
      · intro given computed
        cases computed
        exact rel.backed c request reply (congrArg Phase.request held)
          (congrArg Phase.computed held)
  | drop c request waiting =>
      refine ⟨[], ledger, .nil ledger, rel.stays rfl (fun _ fresh => fresh) rfl rfl ?_ ?_⟩
      · rcases waiting with asked | ⟨reply, held⟩
        · exact .inr (congrArg Phase.request asked)
        · exact .inr (congrArg Phase.request held)
      · intro reply computed
        cases computed

def startLife (crypto : Crypto) (id : KeyPairId) : Option Keypair → Life RawPublicKey
  | none => .unborn
  | some row =>
      match publicKeyOf crypto id (some row) with
      | .ok key => .alive key
      | .error _ => .unborn

theorem startLife_sound (id : KeyPairId) {row : Keypair} (sound : Sound crypto row) :
    ∃ key, Stands row key ∧ startLife crypto id (some row) = .alive key := by
  rcases sound with ⟨algorithm, label, _, _⟩
  have stands : Stands row ⟨algorithm, row.publicKey⟩ := ⟨label, rfl⟩
  refine ⟨_, stands, ?_⟩
  rw [startLife, publicKeyOf_stands stands]

theorem Stands.unique {row : Keypair} {key other : RawPublicKey} (stands : Stands row key)
    (also : Stands row other) : other = key := by
  rcases key with ⟨algorithm, bytes⟩
  rcases other with ⟨algorithm', bytes'⟩
  rcases stands with ⟨label, rfl⟩
  rcases also with ⟨label', rfl⟩
  cases KeyAlgorithm.asStr_injective (label'.symm.trans label)
  rfl

theorem initial_rel (initial : state.Initial crypto) :
    Rel crypto verifies state ⟨fun id => startLife crypto id (state.table id), fun _ => []⟩ where
  sound := initial.sound
  standing id key := by
    dsimp only
    cases found : state.table id with
    | none =>
        constructor
        · intro alive
          cases alive
        · rintro ⟨_, there, _⟩
          cases there
    | some row =>
        rcases startLife_sound id (initial.sound id row found) with ⟨own, stands, alive⟩
        rw [alive]
        constructor
        · intro same
          cases same
          exact ⟨row, rfl, stands⟩
        · rintro ⟨_, there, also⟩
          cases there
          rw [stands.unique also]
  drawn id unused := by
    dsimp only
    rw [initial.drawn id unused]
    rfl
  backed c request reply asked := by
    rw [initial.idle] at asked
    cases asked
  blank _ _ := rfl
  deleted id key gone := by
    dsimp only at gone
    cases found : state.table id with
    | none =>
        rw [found] at gone
        cases gone
    | some row =>
        rcases startLife_sound id (initial.sound id row found) with ⟨own, _, alive⟩
        rw [found, alive] at gone
        cases gone

/-- The engine over the table keeps the contract. -/
theorem implements (correct : crypto.Correct verifies) : Implements verifies (face crypto) :=
  ⟨Rel crypto verifies, moves_simulate correct, fun _ _ rel => rel.explains,
    fun _ initial => ⟨_, initial_rel initial, fun _ => rfl⟩⟩

end Refinement

end Dev

end SwiyuIssuer.Engine
