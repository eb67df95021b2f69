import SwiyuIssuer.Saga.Tasks
import SwiyuIssuer.StatusStore.Publication

/-! One issuer whose sagas run beside the two signers: the credential endpoint and the status-list
publishers. -/

namespace SwiyuIssuer.Signing

open Library Persistence Worker Saga StatusStore

/-- The key that the tail of the log has under the assertion fragment is the key pair's. -/
def advertises (ext : Externals) (log : List Saga.Published) (key : KeyPairId) : Bool :=
  match (entries log).getLast?.map LogEntry.didDocState,
      sec1ToP256 "assertion" (ext.engine.publicKey key) with
  | some (.value (.ok doc)), .ok publicKey => doc.key assertionFragment == some publicKey
  | _, _ => false

/-- The sagas of one issuer, and the tables and registry of the signers; `asked` is the issuer that
each request of the credential endpoint is for. -/
structure Site where
  world : World
  state : State
  asked : TxId → Option IssuerId

inductive Event
  | saga (event : Saga.Event)
  | status (event : StatusStore.Event)

namespace Site

/-- A query by id finds no other row, and this issuer's row as the sagas have left it. -/
def finds (site : Site) (id : IssuerId) : Option Issuer → Bool
  | none => true
  | some row => row.id == id && (id != site.world.issuer.id || row == site.world.issuer)

def reads (site : Site) : StatusStore.Event → Bool
  | .session _ (.readIssuer request issuer) => site.finds request.issuerId issuer
  | .publisher p (.loadIssuer issuer _) =>
      match site.state.publishers p with
      | .acquired list => site.finds list.issuerId issuer
      | _ => true
  | _ => true

def asks (site : Site) : StatusStore.Event → TxId → Option IssuerId
  | .session t (.readIssuer request _) => Function.update site.asked t (some request.issuerId)
  | _ => site.asked

def step (ext : Externals) (codec : StatusListCodec) (site : Site) : Event → Option Site
  | .saga event => (site.world.step ext event).map fun world => { site with world := world }
  | .status event =>
      if site.reads event then
        (site.state.step codec event).map fun state =>
          { site with state := state, asked := site.asks event }
      else none

/-- The issuer as its creation leaves it: the log advertises the assertion key of the row. -/
structure Initial (ext : Externals) (site : Site) : Prop where
  world : Saga.Initial site.world
  state : site.state.Initial
  asked : ∀ t, site.asked t = none
  advertised : ∃ key, site.world.issuer.assertionKeyId = some key ∧
    advertises ext site.world.log key = true

/-- The header names the assertion key of the issuer's DID, and the signature is of the key that
the published log has under that name. -/
def Verifies (ext : Externals) (site : Site) (header : JwsHeader) (signedBy : KeyPairId) : Prop :=
  header.kid = assertionKid site.world.issuer.did ∧
    advertises ext site.world.log signedBy = true

/-- What the issuer has signed verifies under its published log: every credential that it has
handed out, and the token that the registry has last accepted for each of its lists. -/
structure Verifiable (ext : Externals) (site : Site) : Prop where
  credentials : ∀ t jwt, site.state.store.sessions t = .issued (.ok jwt) →
    site.asked t = some site.world.issuer.id → site.Verifies ext jwt.header jwt.signedBy
  tokens : ∀ id list entryId put, site.state.store.committedLists id = some list →
    list.issuerId = site.world.issuer.id → list.registryEntryId = some entryId →
    site.state.applied entryId = some put →
    site.Verifies ext put.token.header put.token.signedBy

end Site

def rotatesAssertion (task : OperationTask) : Bool :=
  match task.taskType, RotateKeysInput.decode task.input with
  | .rotateKeys, .ok input => input.roles.contains .assertion
  | _, _ => false

/-- No rotation of the assertion key has its entry stored by the registry, or gets to swap. -/
def steady (site : Site) : Event → Bool
  | .saga (.perform calls) =>
      match site.world.worker with
      | .acquired task => !(rotatesAssertion task &&
          (task.step == some "publish_didlog" && calls.put.stored ||
            task.step == some "swap_keys"))
      | _ => true
  | _ => true

theorem advertises_iff {ext : Externals} {log : List Saga.Published} {key : KeyPairId} :
    advertises ext log key = true ↔ ∃ last doc publicKey, (entries log).getLast? = some last ∧
      last.didDocState = .value (.ok doc) ∧
      sec1ToP256 "assertion" (ext.engine.publicKey key) = .ok publicKey ∧
      doc.key assertionFragment = some publicKey := by
  unfold advertises
  constructor
  · intro shown
    split at shown
    · next doc publicKey tail shape =>
        rcases Option.map_eq_some_iff.mp tail with ⟨last, found, state⟩
        exact ⟨last, doc, publicKey, found, state, shape, by simpa using shown⟩
    · cases shown
  · rintro ⟨last, doc, publicKey, found, state, shape, key⟩
    simp [found, state, shape, key]

end SwiyuIssuer.Signing
