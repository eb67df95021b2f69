import Mathlib.Logic.Relation
import SwiyuIssuer.Catalogue.Validators
import SwiyuIssuer.Tenancy.Database

/-! What the statements of the binaries make of the rows that belong together: no row ever belongs
with one of another tenant. -/

namespace SwiyuIssuer.Tenancy

open Library Persistence Catalogue.Validators

namespace Reference

/-- Of a row that is never deleted, and stays with its owner. -/
def isKept : Reference → Bool
  | issuer _ _ | credentialType _ _ | account _ _ | statusList _ _ => true
  | _ => false

/-- What its writer has seen of the rows that a new row is to belong with: the checks of the ids in
the path in the management API, the rows that are read with the offer in the issuance, the `INSERT`
just before in `provision_for_issuer`. -/
def Seen (seen : Reference → Prop) : Reference → Prop
  | issuer _ _ | credentialType _ _ | account _ _ => True
  | statusList _ issuerId => ∃ tenantId, seen (.issuer issuerId tenantId)
  | current issuerId id => seen (.statusList id issuerId)
  | assignment issuerId typeId tenantId =>
      seen (.issuer issuerId tenantId) ∧ seen (.credentialType typeId tenantId)
  | offer issuerId tenantId => seen (.issuer issuerId tenantId)
  | credential listId issuerId tenantId =>
      seen (.offer issuerId tenantId) ∧ seen (.current issuerId listId)
  | invitation accountId tenantId => seen (.account accountId tenantId)

/-- The rows that a row belongs with are there, and are of its tenant. -/
def Belongs (held : Reference → Prop) : Reference → Prop
  | issuer _ _ | credentialType _ _ | account _ _ => True
  | statusList _ issuerId => ∃ tenantId, held (.issuer issuerId tenantId)
  | current issuerId id => held (.statusList id issuerId)
  | assignment issuerId typeId tenantId =>
      held (.issuer issuerId tenantId) ∧ held (.credentialType typeId tenantId)
  | offer issuerId tenantId => held (.issuer issuerId tenantId)
  | credential listId issuerId tenantId =>
      held (.issuer issuerId tenantId) ∧ held (.statusList listId issuerId)
  | invitation accountId tenantId => held (.account accountId tenantId)

theorem Seen.mono {seen wider : Reference → Prop} {reference : Reference}
    (known : reference.Seen seen) (follows : ∀ other, seen other → wider other) :
    reference.Seen wider := by
  cases reference with
  | issuer id tenantId | credentialType id tenantId | account id tenantId => trivial
  | statusList id issuerId => exact known.imp fun _ => follows _
  | current issuerId id => exact follows _ known
  | assignment issuerId typeId tenantId => exact known.imp (follows _) (follows _)
  | offer issuerId tenantId => exact follows _ known
  | credential listId issuerId tenantId => exact known.imp (follows _) (follows _)
  | invitation accountId tenantId => exact follows _ known

theorem Belongs.mono {held later : Reference → Prop} {reference : Reference}
    (belongs : reference.Belongs held)
    (kept : ∀ other, other.isKept = true → held other → later other) : reference.Belongs later := by
  cases reference with
  | issuer id tenantId | credentialType id tenantId | account id tenantId => trivial
  | statusList id issuerId => exact belongs.imp fun _ => kept _ rfl
  | current issuerId id => exact kept _ rfl belongs
  | assignment issuerId typeId tenantId => exact belongs.imp (kept _ rfl) (kept _ rfl)
  | offer issuerId tenantId => exact kept _ rfl belongs
  | credential listId issuerId tenantId => exact belongs.imp (kept _ rfl) (kept _ rfl)
  | invitation accountId tenantId => exact kept _ rfl belongs

/-- What was seen is still there, with all that it belonged with. -/
theorem Seen.belongs {seen held : Reference → Prop} {reference : Reference}
    (known : reference.Seen seen)
    (kept : ∀ other, other.isKept = true → seen other → held other)
    (belonged : ∀ other, seen other → other.Belongs held) : reference.Belongs held := by
  cases reference with
  | issuer id tenantId | credentialType id tenantId | account id tenantId => trivial
  | statusList id issuerId => exact known.imp fun _ => kept _ rfl
  | current issuerId id => exact kept _ rfl known
  | assignment issuerId typeId tenantId => exact known.imp (kept _ rfl) (kept _ rfl)
  | offer issuerId tenantId => exact kept _ rfl known
  | credential listId issuerId tenantId => exact known.imp (belonged _) (belonged _)
  | invitation accountId tenantId => exact kept _ rfl known

end Reference

namespace Database

/-- No row belongs with one of another tenant. -/
structure Sound (db : Database) : Prop where
  keyed : db.Keyed
  belongs : ∀ reference ∈ db.references, reference.Belongs (· ∈ db.references)

section Owners

variable {db : Database} {tenantId : TenantId}

theorem mem_type {id : CredentialTypeId} : Reference.credentialType id tenantId ∈ db.references ↔
    ∃ row ∈ db.types, row.id = id ∧ row.tenantId = tenantId := by
  simp [references, IssuerRow.references, eq_comm]

variable (sound : db.Sound)
include sound

theorem Sound.type_owner {id : CredentialTypeId} {one two : TenantId}
    (first : Reference.credentialType id one ∈ db.references)
    (second : Reference.credentialType id two ∈ db.references) : one = two :=
  sound.keyed.types.owner (mem_type.mp first) (mem_type.mp second)

end Owners

/-- What one statement does to the rows that belong together; `past` are the earlier contents of the
tables. -/
structure Write (past : List Database) (before after : Database) : Prop where
  keyed : after.Keyed
  keeps : ∀ reference ∈ before.references, reference.isKept = true → reference ∈ after.references
  adds : ∀ reference ∈ after.references, reference ∈ before.references ∨
    reference.Seen fun other => ∃ known ∈ before :: past, other ∈ known.references

structure Past (past : List Database) (present : Database) : Prop where
  sound : ∀ known ∈ present :: past, known.Sound
  kept : ∀ known ∈ present :: past, ∀ reference ∈ known.references, reference.isKept = true →
    reference ∈ present.references

variable {past : List Database} {before after : Database}

theorem Sound.alone (sound : before.Sound) : Past [] before where
  sound known member := by
    cases List.mem_singleton.mp member
    exact sound
  kept known member reference held _ := by
    cases List.mem_singleton.mp member
    exact held

theorem Past.present (held : Past past before) : before.Sound := held.sound before (.head _)

theorem Past.write (held : Past past before) (write : Write past before after) :
    Past (before :: past) after := by
  have kept : ∀ known ∈ before :: past, ∀ reference ∈ known.references,
      reference.isKept = true → reference ∈ after.references := by
    intro known member reference there stays
    exact write.keeps reference (held.kept known member reference there stays) stays
  have belonged : ∀ known ∈ before :: past, ∀ reference ∈ known.references,
      reference.Belongs (· ∈ after.references) := by
    intro known member reference there
    exact ((held.sound known member).belongs reference there).mono fun other stays present =>
      kept known member other present stays
  have sound : after.Sound := by
    refine ⟨write.keyed, ?_⟩
    intro reference there
    rcases write.adds reference there with old | seen
    · exact belonged before (.head _) reference old
    · apply seen.belongs
      · rintro other stays ⟨known, member, present⟩
        exact kept known member other present stays
      · rintro other ⟨known, member, present⟩
        exact belonged known member other present
  refine ⟨?_, ?_⟩
  · intro known member
    rcases List.mem_cons.mp member with rfl | earlier
    · exact sound
    · exact held.sound known earlier
  · intro known member reference there stays
    rcases List.mem_cons.mp member with rfl | earlier
    · exact there
    · exact kept known earlier reference there stays

theorem Write.later {longer : List Database} (write : Write past before after)
    (recorded : ∀ known ∈ past, known ∈ longer) : Write longer before after where
  keyed := write.keyed
  keeps := write.keeps
  adds reference there := (write.adds reference there).imp_right fun seen =>
    seen.mono fun other => by
      rintro ⟨known, member, present⟩
      refine ⟨known, ?_, present⟩
      rcases List.mem_cons.mp member with rfl | earlier
      · exact .head _
      · exact .tail _ (recorded known earlier)

theorem Write.same (keyed : after.Keyed)
    (same : ∀ reference, reference ∈ after.references ↔ reference ∈ before.references) :
    Write past before after where
  keyed := keyed
  keeps reference there _ := (same reference).mpr there
  adds reference there := .inl ((same reference).mp there)

end Database

structure Server (V : Type) extends Database where
  validators : StampedCache.Cache CredentialTypeId DateTime V

structure Site (V : Type) where
  server : Server V
  past : List (Server V)

variable {V : Type}

def Site.empty : Site V := ⟨⟨.empty, fun _ => none⟩, []⟩

namespace Site

/-- A row of the type that some statement could read, as it was then. -/
def Version (site : Site V) (row : CredentialType) : Prop :=
  ∃ known ∈ site.server :: site.past, row ∈ known.types

/-- One statement of any of the binaries, between those of all the others, or the compilation of a
schema that was read. -/
structure Step (compiler : Compiler V) (site after : Site V) : Prop where
  write : Database.Write (site.past.map Server.toDatabase) site.server.toDatabase
    after.server.toDatabase
  compiled : ∀ id entry, after.server.validators id = some entry →
    site.server.validators id = some entry ∨ ∃ row, site.Version row ∧ row.id = id ∧
      row.updatedAt = entry.stamp ∧ compiler.validatorFor row.claimSchema = .ok entry.value
  recorded : after.past = site.server :: site.past

/-- A type of the tenant is written under a stamp that no version of it with another schema has
had. -/
def Restamps (tenantId : TenantId) (site after : Site V) : Prop :=
  ∀ row ∈ after.server.types, row.tenantId = tenantId → row ∈ site.server.types ∨
    ∀ version, site.Version version → version.id = row.id → version.updatedAt = row.updatedAt →
      version.claimSchema = row.claimSchema

theorem past_run {compiler : Compiler V} (site : Site V) {after : Site V}
    (held : Database.Past (site.past.map Server.toDatabase) site.server.toDatabase)
    (run : Relation.ReflTransGen (Step compiler) site after) :
    Database.Past (after.past.map Server.toDatabase) after.server.toDatabase := by
  induction run with
  | refl => exact held
  | tail _ step ih =>
      rw [step.recorded]
      exact ih.write step.write

end Site

/-- A server that some run from the empty tables leads to. -/
def Reachable (compiler : Compiler V) (server : Server V) : Prop :=
  ∃ past, Relation.ReflTransGen (Site.Step compiler) .empty ⟨server, past⟩

/-- The same, with no stamp of a type of the tenant used for two schemas. -/
def Restamped (compiler : Compiler V) (tenantId : TenantId) (server : Server V) : Prop :=
  ∃ past, Relation.ReflTransGen (fun site after => Site.Step compiler site after ∧
    site.Restamps tenantId after) .empty ⟨server, past⟩

variable {compiler : Compiler V} {tenantId : TenantId} {server : Server V}

theorem Restamped.reachable (reached : Restamped compiler tenantId server) :
    Reachable compiler server := by
  rcases reached with ⟨past, run⟩
  exact ⟨past, Relation.ReflTransGen.mono (fun _ _ step => step.1) _ _ run⟩

theorem empty_past : Database.Past [] .empty := by
  apply Database.Sound.alone
  refine ⟨⟨.nil, .nil, .nil, .nil, .nil, .nil, .nil, .nil, .nil⟩, ?_⟩
  intro reference there
  simp [Database.references, Database.empty] at there

theorem Reachable.sound (reached : Reachable compiler server) : server.toDatabase.Sound := by
  rcases reached with ⟨past, run⟩
  exact (Site.past_run .empty empty_past run).present

/-- The validators that are found for the tenant's types are those of their schemas. -/
def Server.Current (compiler : Compiler V) (tenantId : TenantId) (server : Server V) : Prop :=
  ∀ row ∈ server.types, row.tenantId = tenantId → ∀ validator,
    StampedCache.lookup server.validators row.id row.updatedAt = some validator →
      compiler.validatorFor row.claimSchema = .ok validator

namespace Site

structure Stamped (compiler : Compiler V) (tenantId : TenantId) (site : Site V) : Prop where
  past : Database.Past (site.past.map Server.toDatabase) site.server.toDatabase
  schemas : ∀ one two, site.Version one → site.Version two → one.tenantId = tenantId →
    one.id = two.id → one.updatedAt = two.updatedAt → one.claimSchema = two.claimSchema
  compiled : ∀ id entry, site.server.validators id = some entry → ∃ row, site.Version row ∧
    row.id = id ∧ row.updatedAt = entry.stamp ∧
      compiler.validatorFor row.claimSchema = .ok entry.value

variable {site after : Site V} {row : CredentialType}

theorem version_cases (recorded : after.past = site.server :: site.past)
    (version : after.Version row) : row ∈ after.server.types ∨ site.Version row := by
  rcases version with ⟨known, member, there⟩
  rcases List.mem_cons.mp member with rfl | earlier
  · exact .inl there
  · exact .inr ⟨known, recorded ▸ earlier, there⟩

theorem Version.later (recorded : after.past = site.server :: site.past)
    (version : site.Version row) : after.Version row := by
  rcases version with ⟨known, member, there⟩
  exact ⟨known, .tail _ (recorded ▸ member), there⟩

theorem Version.owner {other : CredentialType}
    (held : Database.Past (site.past.map Server.toDatabase) site.server.toDatabase)
    (first : site.Version row) (second : site.Version other) (same : row.id = other.id) :
    row.tenantId = other.tenantId := by
  have kept : ∀ version, site.Version version →
      Reference.credentialType version.id version.tenantId ∈ site.server.references := by
    rintro version ⟨known, member, there⟩
    refine held.kept known.toDatabase ?_ _ (Database.mem_type.mpr ⟨version, there, rfl, rfl⟩) rfl
    exact List.mem_map_of_mem (f := Server.toDatabase) member
  have owner := kept other second
  rw [← same] at owner
  exact held.present.type_owner (kept row first) owner

theorem Stamped.step (stamped : site.Stamped compiler tenantId)
    (step : Step compiler site after) (restamps : site.Restamps tenantId after) :
    after.Stamped compiler tenantId := by
  have past : Database.Past (after.past.map Server.toDatabase) after.server.toDatabase := by
    rw [step.recorded]
    exact stamped.past.write step.write
  have fresh : ∀ row, after.Version row → row.tenantId = tenantId →
      site.Version row ∨ (row ∈ after.server.types ∧
        ∀ version, site.Version version → version.id = row.id →
          version.updatedAt = row.updatedAt → version.claimSchema = row.claimSchema) := by
    intro row version own
    rcases version_cases step.recorded version with present | old
    · exact (restamps row present own).imp (fun there => ⟨site.server, .head _, there⟩)
        fun fresh => ⟨present, fresh⟩
    · exact .inl old
  refine ⟨past, ?_, ?_⟩
  · intro one two first second own same stamp
    have other : two.tenantId = tenantId := (second.owner past first same.symm).trans own
    rcases fresh one first own with oldOne | ⟨presentOne, newOne⟩
    · rcases fresh two second other with oldTwo | ⟨-, newTwo⟩
      · exact stamped.schemas one two oldOne oldTwo own same stamp
      · exact newTwo one oldOne same stamp
    · rcases fresh two second other with oldTwo | ⟨presentTwo, -⟩
      · exact (newOne two oldTwo same.symm stamp.symm).symm
      · rw [step.write.keyed.types.unique presentOne presentTwo same]
  · intro id entry found
    rcases step.compiled id entry found with old | ⟨row, version, compiled⟩
    · rcases stamped.compiled id entry old with ⟨row, version, compiled⟩
      exact ⟨row, version.later step.recorded, compiled⟩
    · exact ⟨row, version.later step.recorded, compiled⟩

theorem Stamped.current (stamped : site.Stamped compiler tenantId) :
    site.server.Current compiler tenantId := by
  intro row there own validator held
  rcases stamped.compiled row.id _ (StampedCache.lookup_some held) with
    ⟨version, old, named, stamp, compiled⟩
  rw [stamped.schemas row version ⟨site.server, .head _, there⟩ old own named.symm stamp.symm]
  exact compiled

theorem empty_stamped : (Site.empty (V := V)).Stamped compiler tenantId where
  past := empty_past
  schemas one two first := by
    rcases first with ⟨known, member, there⟩
    cases List.mem_singleton.mp member
    cases there
  compiled id entry found := by cases found

end Site

theorem Restamped.current (reached : Restamped compiler tenantId server) :
    server.Current compiler tenantId := by
  rcases reached with ⟨past, run⟩
  have stamped : (Site.mk server past).Stamped compiler tenantId := by
    generalize Site.mk server past = site at run
    induction run with
    | refl => exact Site.empty_stamped
    | tail _ step ih => exact ih.step step.1 step.2
  exact stamped.current

end SwiyuIssuer.Tenancy
