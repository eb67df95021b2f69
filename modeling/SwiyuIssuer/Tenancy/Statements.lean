import SwiyuIssuer.Library.Confined
import SwiyuIssuer.Tenancy.References

/-! The statements of one tenant: what they answer and do to its rows follows from these alone, and
the rows of the others stay as they are. -/

namespace SwiyuIssuer.Tenancy

open Library Persistence Catalogue.Validators

namespace TenantTable

variable {α κ : Type} [DecidableEq κ] (table : TenantTable α κ)

def find (clause : α → Bool) (db : Database) : Option α := (table.rows db).find? clause

def any (clause : α → Bool) (db : Database) : Bool := (table.rows db).any clause

/-- `INSERT`. Each index has the rows beside which it refuses the new one. -/
def insert (indexes : List (String × (α → Bool))) (row : α) (db : Database) :
    Except PersistenceError (Unit × Database) :=
  let pkey := (table.pkey, fun other => table.key other == table.key row)
  match (pkey :: indexes).find? fun index => table.any index.2 db with
  | some index => .error (.uniqueViolation index.1)
  | none => .ok ((), table.put (table.rows db ++ [row]) db)

/-- `INSERT … ON CONFLICT (…) DO NOTHING` on the primary key; answers whether the row is new. -/
def insertNew (row : α) (db : Database) : Except PersistenceError (Bool × Database) :=
  if table.any (fun other => table.key other == table.key row) db then .ok (false, db)
  else .ok (true, table.put (table.rows db ++ [row]) db)

/-- `UPDATE`; answers whether it has affected a row. -/
def update (clause : α → Bool) (change : α → α) (db : Database) :
    Except PersistenceError (Bool × Database) :=
  .ok (table.any clause db, table.put (Rows.update clause change (table.rows db)) db)

/-- `DELETE`; answers whether there was such a row. -/
def delete (clause : α → Bool) (db : Database) : Except PersistenceError (Bool × Database) :=
  .ok (table.any clause db, table.put ((table.rows db).filter fun row => !clause row) db)

end TenantTable

/-- A statement of the tenant on these tables. -/
structure TenantStatement {β : Type} (tenantId : TenantId)
    (run : Database → Except PersistenceError (β × Database)) (db : Database) : Prop where
  same : (run db).map (Prod.map id (·.own tenantId)) = run (db.own tenantId)
  others : ∀ x after, run db = .ok (x, after) → after.others tenantId = db.others tenantId
  write : ∀ x after, run db = .ok (x, after) → Database.Write [] db after

namespace KeyedTable

variable {α κ : Type} [DecidableEq κ] {table : KeyedTable α κ} {db : Database}
  {past : List Database} {new : List α}

theorem rows_references {row : α} (there : row ∈ table.rows db) {reference : Reference}
    (named : reference ∈ table.references row) : reference ∈ db.references := by
  rw [← table.put_rows db, table.mem_references]
  exact .inl (List.mem_flatMap.mpr ⟨row, there, named⟩)

theorem write_put (keyed : db.Keyed) (distinct : Rows.Keyed table.key new)
    (keeps : ∀ reference ∈ (table.rows db).flatMap table.references, reference.isKept = true →
      reference ∈ new.flatMap table.references)
    (adds : ∀ reference ∈ new.flatMap table.references,
      reference ∈ (table.rows db).flatMap table.references ∨
        reference.Seen fun other => ∃ known ∈ db :: past, other ∈ known.references) :
    Database.Write past db (table.put new db) := by
  have held : ∀ reference, reference ∈ db.references ↔
      reference ∈ (table.rows db).flatMap table.references ∨
        reference ∈ (table.put [] db).references := by
    intro reference
    conv_lhs => rw [← table.put_rows db]
    exact table.mem_references _ _ _
  refine ⟨table.keyed_put _ _ keyed distinct, ?_, ?_⟩
  · intro reference there stays
    rw [table.mem_references]
    exact ((held reference).mp there).imp_left fun named => keeps reference named stays
  · intro reference there
    rcases (table.mem_references _ _ _).mp there with named | elsewhere
    · exact (adds reference named).imp_left fun old => (held reference).mpr (.inl old)
    · exact .inl ((held reference).mpr (.inr elsewhere))

/-- The new row goes where its writer has seen that it belongs. -/
theorem append_write {row : α} (keyed : db.Keyed)
    (fresh : ∀ other ∈ table.rows db, table.key other ≠ table.key row)
    (seen : ∀ reference ∈ table.references row,
      reference.Seen fun other => ∃ known ∈ db :: past, other ∈ known.references) :
    Database.Write past db (table.put (table.rows db ++ [row]) db) := by
  apply write_put keyed ((table.keyed_rows db keyed).append fresh)
  · intro reference there _
    rw [List.flatMap_append]
    exact List.mem_append_left _ there
  · intro reference there
    rw [List.flatMap_append, List.mem_append] at there
    refine there.imp id fun last => seen reference ?_
    rw [List.flatMap_singleton] at last
    exact last

theorem update_write {clause : α → Bool} {change : α → α} (keyed : db.Keyed)
    (key : ∀ row, table.key (change row) = table.key row)
    (references : ∀ row, table.references (change row) = table.references row) :
    Database.Write past db (table.put (Rows.update clause change (table.rows db)) db) := by
  apply write_put keyed ((table.keyed_rows db keyed).update key)
  · intro reference there _
    rw [Rows.flatMap_update references]
    exact there
  · intro reference there
    rw [Rows.flatMap_update references] at there
    exact .inl there

end KeyedTable

namespace TenantTable

variable {α κ : Type} [DecidableEq κ] {table : TenantTable α κ} {db : Database}
  {tenantId : TenantId} {clause : α → Bool} {change : α → α} {new : List α}

section Append

variable {row : α}

end Append

end TenantTable

end SwiyuIssuer.Tenancy
