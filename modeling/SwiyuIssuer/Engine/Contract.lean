import SwiyuIssuer.Engine.Keys
import SwiyuIssuer.Library.Lifespan
import SwiyuIssuer.Library.Simulation

/-! What the `SigningEngine` trait promises its callers, of any backend. -/

namespace SwiyuIssuer.Engine

open Library Lifespan

/-- A backend as its callers see it: its runs, and what each call asked and was answered. -/
structure Face where
  State : Type
  Event : Type
  step : State → Event → State → Prop
  Initial : State → Prop
  asked : State → CallId → Option Request
  reply : State → CallId → Option Reply

/-- A key of a signature, the bytes that were signed, and the signature's. -/
abbrev Verifies := RawPublicKey → List UInt8 → List UInt8 → Prop

abbrev KeyLedger := Ledger KeyPairId RawPublicKey CallId

structure SignedBy (verifies : Verifies) (key : RawPublicKey) (input : List UInt8)
    (signature : Signature) : Prop where
  algorithm : signature.algorithm = key.algorithm
  length : signature.bytes.length = 64
  prehashed : key.algorithm = .ecdsaP256 → input.length = 32
  verifies : verifies key input signature.bytes

/-- A call has an answer that what it noted of the keys bears out. -/
inductive Backed (verifies : Verifies) (lives : KeyPairId → Life RawPublicKey)
    (notes : List (Note KeyPairId RawPublicKey)) : Request → Reply → Prop
  | generated (role : KeyRole) (id : KeyPairId) (key : RawPublicKey) : .hit id key ∈ notes →
      key.algorithm = .forRole role →
      Backed verifies lives notes (.generateKeypair role) (.ok (.generated ⟨id, key⟩))
  | read (id : KeyPairId) (key : RawPublicKey) : .hit id key ∈ notes →
      Backed verifies lives notes (.getPublicKey id) (.ok (.publicKey key))
  | signed (id : KeyPairId) (input : List UInt8) (key : RawPublicKey) (signature : Signature) :
      .hit id key ∈ notes → SignedBy verifies key input signature →
      Backed verifies lives notes (.sign id input) (.ok (.signed signature))
  | deleted (id : KeyPairId) : .miss id ∈ notes →
      Backed verifies lives notes (.deleteKeypair id) (.ok .deleted)
  | vanished (role : KeyRole) (id : KeyPairId) : .miss id ∈ notes →
      Backed verifies lives notes (.generateKeypair role) (.error (.keyNotFound id))
  | unread (id : KeyPairId) : .miss id ∈ notes →
      Backed verifies lives notes (.getPublicKey id) (.error (.keyNotFound id))
  | unsigned (id : KeyPairId) (input : List UInt8) : .miss id ∈ notes →
      Backed verifies lives notes (.sign id input) (.error (.keyNotFound id))
  | unhashed (id : KeyPairId) (input : List UInt8) (key : RawPublicKey) :
      (lives id).value = some key → key.algorithm = .ecdsaP256 → input.length ≠ 32 →
      Backed verifies lives notes (.sign id input) (.error (.invalidInputLength 32 input.length))
  | backend (request : Request) (details : String) :
      Backed verifies lives notes request (.error (.backend details))

theorem Backed.mono {verifies : Verifies} {lives later : KeyPairId → Life RawPublicKey}
    {notes more : List (Note KeyPairId RawPublicKey)} {request : Request} {reply : Reply}
    (backed : Backed verifies lives notes request reply)
    (before : ∀ id, (lives id).Before (later id)) (kept : notes ⊆ more) :
    Backed verifies later more request reply := by
  cases backed with
  | generated role id key noted suits => exact .generated role id key (kept noted) suits
  | read id key noted => exact .read id key (kept noted)
  | signed id input key signature noted good =>
      exact .signed id input key signature (kept noted) good
  | deleted id noted => exact .deleted id (kept noted)
  | vanished role id noted => exact .vanished role id (kept noted)
  | unread id noted => exact .unread id (kept noted)
  | unsigned id input noted => exact .unsigned id input (kept noted)
  | unhashed id input key known prehashed wrong =>
      exact .unhashed id input key ((before id).value known) prehashed wrong
  | backend request details => exact .backend request details

/-- Every answer is borne out, a call that has not begun noted nothing, and keys die of deletions. -/
structure Explains (verifies : Verifies) (face : Face) (ledger : KeyLedger) (state : face.State) :
    Prop where
  backed : ∀ c request reply, face.asked state c = some request →
    face.reply state c = some reply → Backed verifies ledger.lives (ledger.notes c) request reply
  unasked : ∀ c, face.asked state c = none → ledger.notes c = []
  deleted : ∀ id key, ledger.lives id = .gone key →
    ∃ c, face.asked state c = some (.deleteKeypair id)

/-- Behind a backend stands a ledger whose keys are born once, and that explains every answer. -/
def Implements (verifies : Verifies) (face : Face) : Prop :=
  ∃ rel : face.State → KeyLedger → Prop,
    Simulates face.step Step rel (fun _ _ _ => True) ∧
    (∀ state ledger, rel state ledger → Explains verifies face ledger state) ∧
    ∀ state, face.Initial state → ∃ ledger, rel state ledger ∧ ∀ c, ledger.notes c = []

inductive Told (face : Face) (state : face.State) (c : CallId) (id : KeyPairId)
    (key : RawPublicKey) : Prop
  | generated (role : KeyRole) : face.asked state c = some (.generateKeypair role) →
      face.reply state c = some (.ok (.generated ⟨id, key⟩)) → Told face state c id key
  | read : face.asked state c = some (.getPublicKey id) →
      face.reply state c = some (.ok (.publicKey key)) → Told face state c id key

def Signed (face : Face) (state : face.State) (c : CallId) (id : KeyPairId) (input : List UInt8)
    (signature : Signature) : Prop :=
  face.asked state c = some (.sign id input) ∧
    face.reply state c = some (.ok (.signed signature))

section Contract

variable {verifies : Verifies} {face : Face} {ledger : KeyLedger} {state : face.State}
  {c : CallId} {id : KeyPairId}

theorem Explains.told {key : RawPublicKey} (explains : Explains verifies face ledger state)
    (told : Told face state c id key) : .hit id key ∈ ledger.notes c := by
  cases told with
  | generated role asked reply =>
      cases explains.backed c _ _ asked reply with
      | generated _ _ _ noted _ => exact noted
  | read asked reply =>
      cases explains.backed c _ _ asked reply with
      | read _ _ noted => exact noted

theorem Explains.signed {input : List UInt8} {signature : Signature}
    (explains : Explains verifies face ledger state)
    (signed : Signed face state c id input signature) :
    ∃ key, .hit id key ∈ ledger.notes c ∧ SignedBy verifies key input signature := by
  cases explains.backed c _ _ signed.1 signed.2 with
  | signed _ _ key _ noted good => exact ⟨key, noted, good⟩

theorem Explains.missing {request : Request} (explains : Explains verifies face ledger state)
    (asked : face.asked state c = some request)
    (missing : face.reply state c = some (.error (.keyNotFound id))) :
    .miss id ∈ ledger.notes c := by
  cases explains.backed c _ _ asked missing with
  | vanished _ _ noted | unread _ noted | unsigned _ _ noted => exact noted

variable {first told deleted last : face.State} {front between back : List face.Event}
  {d : CallId} {key : RawPublicKey}

/-- One key stands behind an identifier: every call is told the same, and every signature is of it. -/
theorem Implements.one_key (implements : Implements verifies face) (initial : face.Initial first)
    (run : Run face.step first front last) (heard : Told face last c id key) :
    (∀ d other, Told face last d id other → other = key) ∧
      ∀ d input signature, Signed face last d id input signature →
        SignedBy verifies key input signature := by
  rcases implements with ⟨rel, simulates, explains, starts⟩
  rcases starts first initial with ⟨start, related, blank⟩
  rcases simulates.run run related with ⟨actions, ledger, taken, there, _⟩
  have truthful := truthful_of_blank taken blank
  have known := truthful c id key ((explains last ledger there).told heard)
  constructor
  · intro d other also
    have same := truthful d id other ((explains last ledger there).told also)
    exact Option.some.inj (same.symm.trans known)
  · intro d input signature signed
    rcases (explains last ledger there).signed signed with ⟨other, noted, good⟩
    have same := truthful d id other noted
    rw [known] at same
    cases same
    exact good

theorem gone_of_late_miss {start after : KeyLedger} {actions : List (Action _ _ _)}
    (explains : Explains verifies face start state) (truthful : Truthful start)
    (heard : Told face state c id key) (unasked : face.asked state d = none)
    (taken : Run Step start actions after) (missed : .miss id ∈ after.notes d) :
    after.lives id = .gone key := by
  have born := truthful c id key (explains.told heard)
  refine gone_of_miss taken born ?_ missed
  rw [explains.unasked d unasked]
  exact List.not_mem_nil

/-- After a call has deleted a key that was handed out, no call that begins then gets anything of it. -/
theorem Implements.deleted_for_good {e : CallId} (implements : Implements verifies face)
    (initial : face.Initial first) (early : Run face.step first front told)
    (heard : Told face told c id key) (unasked : face.asked told d = none)
    (run : Run face.step told between deleted)
    (asked : face.asked deleted d = some (.deleteKeypair id))
    (done : face.reply deleted d = some (.ok .deleted))
    (late : Run face.step deleted back last) (unbegun : face.asked deleted e = none) :
    (∀ other, ¬ Told face last e id other) ∧
      ∀ input signature, ¬ Signed face last e id input signature := by
  rcases implements with ⟨rel, simulates, explains, starts⟩
  rcases starts first initial with ⟨start, related, blank⟩
  rcases simulates.run early related with ⟨_, then_, reached, thenRel, _⟩
  rcases simulates.run run thenRel with ⟨_, later, onward, laterRel, _⟩
  rcases simulates.run late laterRel with ⟨_, end_, final, endRel, _⟩
  have truthful := truthful_of_blank reached blank
  have missed : .miss id ∈ later.notes d := by
    cases (explains _ _ laterRel).backed d _ _ asked done with
    | deleted _ noted => exact noted
  have dead := gone_of_late_miss (explains _ _ thenRel) truthful heard unasked onward missed
  have blind : ∀ other, .hit id other ∉ end_.notes e := by
    intro other noted
    have old := no_hit_after_gone final dead noted
    rw [(explains _ _ laterRel).unasked e unbegun] at old
    cases old
  constructor
  · intro other also
    exact blind other ((explains _ _ endRel).told also)
  · intro input signature signed
    rcases (explains _ _ endRel).signed signed with ⟨other, noted, _⟩
    exact blind other noted

/-- A key that was handed out is not found only where a call was asked to delete it. -/
theorem Implements.missing_was_deleted {request : Request} (implements : Implements verifies face)
    (initial : face.Initial first) (early : Run face.step first front told)
    (heard : Told face told c id key) (unasked : face.asked told d = none)
    (run : Run face.step told back last) (asked : face.asked last d = some request)
    (missing : face.reply last d = some (.error (.keyNotFound id))) :
    ∃ e, face.asked last e = some (.deleteKeypair id) := by
  rcases implements with ⟨rel, simulates, explains, starts⟩
  rcases starts first initial with ⟨start, related, blank⟩
  rcases simulates.run early related with ⟨_, then_, reached, thenRel, _⟩
  rcases simulates.run run thenRel with ⟨_, end_, onward, endRel, _⟩
  have truthful := truthful_of_blank reached blank
  have missed := (explains _ _ endRel).missing asked missing
  exact (explains _ _ endRel).deleted id key
    (gone_of_late_miss (explains _ _ thenRel) truthful heard unasked onward missed)

end Contract

end SwiyuIssuer.Engine
