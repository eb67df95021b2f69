import SwiyuIssuer.Engine.Dev
import SwiyuIssuer.Engine.VaultRuns

/-! `AnySigningEngine`: what callers get from the backend that the configuration names. -/

namespace SwiyuIssuer.Engine

open Library

inductive AnySigningEngine
  | dev (crypto : Dev.Crypto)
  | vault (client : Vault.Client) (transit : Vault.Transit) (home : CallId → Vault.ProcessId)

namespace AnySigningEngine

def face : AnySigningEngine → Face
  | dev crypto => Dev.face crypto
  | vault client transit home => Vault.face client home transit

/-- What the backend relies on outside this repository. -/
def Relies (verifies : Verifies) : AnySigningEngine → Prop
  | dev crypto => crypto.Correct verifies
  | vault client transit _ => transit.Documented client verifies

theorem implements {verifies : Verifies} {engine : AnySigningEngine}
    (relies : engine.Relies verifies) : Implements verifies engine.face := by
  cases engine with
  | dev crypto => exact Dev.implements relies
  | vault client transit home => exact Vault.implements relies

end AnySigningEngine

section Sample

/-- Sixty-four bytes that depend on the secret and on the input. -/
def sampleSign (secret input : List UInt8) : List UInt8 :=
  (secret ++ input ++ List.replicate 64 0).take 64

def sampleCrypto : Dev.Crypto where
  ed25519Public := id
  p256Public := id
  signEd25519 := sampleSign
  fromSlice secret := if secret.length = 32 then .ok () else .error "invalid scalar"
  signPrehash secret input := .ok (sampleSign secret input)
  debug text := "\"" ++ text ++ "\""

def sampleVerifies : Verifies := fun key input bytes => bytes = sampleSign key.bytes input

theorem sampleSign_length (secret input : List UInt8) : (sampleSign secret input).length = 64 := by
  simp only [sampleSign, List.length_take, List.length_append, List.length_replicate]
  omega

theorem sampleCrypto_correct : sampleCrypto.Correct sampleVerifies where
  ed25519 secret input _ := ⟨sampleSign_length secret input, rfl⟩
  p256 secret input bytes _ signed := by
    cases signed
    exact ⟨sampleSign_length secret input, rfl⟩

def sampleEngine : AnySigningEngine := .dev sampleCrypto

theorem sampleEngine_relies : sampleEngine.Relies sampleVerifies := sampleCrypto_correct

def sampleTable : Dev.State := ⟨fun _ => none, fun _ => false, fun _ => .idle⟩

theorem sampleTable_initial : sampleEngine.face.Initial sampleTable :=
  Dev.State.Initial.mk (by intro _ _ found; cases found) (fun _ _ => rfl) (fun _ => rfl)

def sampleId : KeyPairId := ⟨"550e8400-e29b-41d4-a716-446655440000"⟩

def sampleSecret : List UInt8 := List.replicate 32 7

def sampleKey : RawPublicKey := ⟨.ed25519, sampleSecret⟩

def sampleSignature : Signature := ⟨.ed25519, sampleSign sampleSecret [1, 2, 3]⟩

/-- One call from its request to its answer. -/
def sampleCall (c : CallId) (request : Request) : List Dev.Event :=
  [.ask c request, .execute c sampleId sampleSecret .ok, .finish c]

def sampleAfter (state : Dev.State) (c : CallId) (request : Request) (reply : Reply) : Dev.State :=
  (Dev.execute sampleCrypto (state.goto c (.asked request)) c sampleId sampleSecret .ok request).goto c
    (.returned request reply)

theorem sampleCall_run (state : Dev.State) (c : CallId) (request : Request) (reply : Reply)
    (idle : state.phase c = .idle)
    (drawn : Dev.Drawn sampleCrypto (state.goto c (.asked request)) sampleId sampleSecret request)
    (held : (Dev.execute sampleCrypto (state.goto c (.asked request)) c sampleId sampleSecret .ok
      request).phase c = .held request reply) :
    Run sampleEngine.face.step state (sampleCall c request) (sampleAfter state c request reply) :=
  .cons (.ask c request idle) (.cons (.execute c request sampleId sampleSecret .ok
    (Function.update_self _ _ _) drawn) (.single (.finish c request reply held)))

/-- The states behind `generate_keypair`, `sign`, `delete_keypair` and `sign` again. -/
def sampleTold : Dev.State :=
  sampleAfter sampleTable 0 (.generateKeypair .authorized) (.ok (.generated ⟨sampleId, sampleKey⟩))

def sampleSigned : Dev.State :=
  sampleAfter sampleTold 1 (.sign sampleId [1, 2, 3]) (.ok (.signed sampleSignature))

def sampleDeleted : Dev.State :=
  sampleAfter sampleSigned 2 (.deleteKeypair sampleId) (.ok .deleted)

def sampleMissed : Dev.State :=
  sampleAfter sampleDeleted 3 (.sign sampleId [1, 2, 3]) (.error (.keyNotFound sampleId))

theorem sampleTold_run : Run sampleEngine.face.step sampleTable
    (sampleCall 0 (.generateKeypair .authorized)) sampleTold :=
  sampleCall_run sampleTable 0 _ _ rfl ⟨rfl, rfl⟩ rfl

theorem sampleSigned_run : Run sampleEngine.face.step sampleTold
    (sampleCall 1 (.sign sampleId [1, 2, 3])) sampleSigned :=
  sampleCall_run sampleTold 1 _ _ rfl trivial rfl

theorem sampleDeleted_run : Run sampleEngine.face.step sampleSigned
    (sampleCall 2 (.deleteKeypair sampleId)) sampleDeleted :=
  sampleCall_run sampleSigned 2 _ _ rfl trivial rfl

theorem sampleMissed_run : Run sampleEngine.face.step sampleDeleted
    (sampleCall 3 (.sign sampleId [1, 2, 3])) sampleMissed :=
  sampleCall_run sampleDeleted 3 _ _ rfl trivial rfl

theorem sampleTold_told : Told sampleEngine.face sampleTold 0 sampleId sampleKey :=
  .generated .authorized rfl rfl

theorem sampleSigned_told : Told sampleEngine.face sampleSigned 0 sampleId sampleKey :=
  .generated .authorized rfl rfl

theorem sampleSigned_signed :
    Signed sampleEngine.face sampleSigned 1 sampleId [1, 2, 3] sampleSignature :=
  ⟨rfl, rfl⟩

end Sample

section Engines

variable {verifies : Verifies} {engine : AnySigningEngine} {first told deleted last : engine.face.State}
  {front between back : List engine.face.Event} {c d e : CallId} {id : KeyPairId}
  {key : RawPublicKey}

/-- For as long as an identifier is in use, its calls are told one public key, and every signature
verifies under that key. -/
theorem signatures_of_one_key (relies : engine.Relies verifies)
    (initial : engine.face.Initial first) (run : Run engine.face.step first front last)
    (heard : Told engine.face last c id key) :
    (∀ d other, Told engine.face last d id other → other = key) ∧
      ∀ d input signature, Signed engine.face last d id input signature →
        SignedBy verifies key input signature :=
  (AnySigningEngine.implements relies).one_key initial run heard

theorem signatures_of_one_key_sample :
    SignedBy sampleVerifies sampleKey [1, 2, 3] sampleSignature :=
  (signatures_of_one_key sampleEngine_relies sampleTable_initial
    (sampleTold_run.append sampleSigned_run) sampleSigned_told).2 _ _ _ sampleSigned_signed

/-- A deletion that has answered is for good: no call that begins later gets the public key or a
signature. -/
theorem deleted_key_stays_deleted (relies : engine.Relies verifies)
    (initial : engine.face.Initial first) (early : Run engine.face.step first front told)
    (heard : Told engine.face told c id key) (unasked : engine.face.asked told d = none)
    (run : Run engine.face.step told between deleted)
    (asked : engine.face.asked deleted d = some (.deleteKeypair id))
    (done : engine.face.reply deleted d = some (.ok .deleted))
    (late : Run engine.face.step deleted back last)
    (unbegun : engine.face.asked deleted e = none) :
    (∀ other, ¬ Told engine.face last e id other) ∧
      ∀ input signature, ¬ Signed engine.face last e id input signature :=
  (AnySigningEngine.implements relies).deleted_for_good initial early heard unasked run asked done
    late unbegun

theorem deleted_key_stays_deleted_sample :
    (∀ other, ¬ Told sampleEngine.face sampleMissed 3 sampleId other) ∧
      ∀ input signature, ¬ Signed sampleEngine.face sampleMissed 3 sampleId input signature :=
  deleted_key_stays_deleted sampleEngine_relies sampleTable_initial sampleTold_run sampleTold_told
    (show sampleEngine.face.asked sampleTold 2 = none from rfl)
    (sampleSigned_run.append sampleDeleted_run) rfl rfl sampleMissed_run rfl

/-- A key that was handed out is not found only where a call was asked to delete it. -/
theorem missing_key_was_deleted {request : Request} (relies : engine.Relies verifies)
    (initial : engine.face.Initial first) (early : Run engine.face.step first front told)
    (heard : Told engine.face told c id key) (unasked : engine.face.asked told d = none)
    (run : Run engine.face.step told back last) (asked : engine.face.asked last d = some request)
    (missing : engine.face.reply last d = some (.error (.keyNotFound id))) :
    ∃ e, engine.face.asked last e = some (.deleteKeypair id) :=
  (AnySigningEngine.implements relies).missing_was_deleted initial early heard unasked run asked
    missing

theorem missing_key_was_deleted_sample :
    ∃ e, sampleEngine.face.asked sampleMissed e = some (.deleteKeypair sampleId) :=
  missing_key_was_deleted sampleEngine_relies sampleTable_initial sampleTold_run sampleTold_told
    (show sampleEngine.face.asked sampleTold 3 = none from rfl)
    (sampleSigned_run.append (sampleDeleted_run.append sampleMissed_run))
    (show _ = some (.sign sampleId [1, 2, 3]) from rfl) rfl

end Engines

end SwiyuIssuer.Engine
