import FieldFilter.Database.Entity
import FieldFilter.Sql.Column
import Mathlib.Data.List.Basic

/-! Columns that move from one table to another. A column moves when it is qualified by the one
table, and all that changes is its qualifier. Moving back undoes this for every column but those
that the other table qualifies on its own.
-/

namespace FieldFilter

namespace Identifier

/-- The column is the name of the table, a point and the rest of a name. -/
def IsQualifiedBy (table column : String) : Prop :=
  ∃ rest, column = table ++ "." ++ rest

theorem isQualifiedBy_append (table rest : String) : IsQualifiedBy table (table ++ "." ++ rest) :=
  ⟨rest, rfl⟩

theorem unqualified?_eq_some_iff {table column : String} {rest : List Char}
    : unqualified? table column = some rest ↔ column = table ++ "." ++ String.ofList rest := by
  rw [unqualified?, List.isPrefixOf?_eq_some_iff_append_eq, eq_comm, ← String.toList_inj]
  simp

/-- A column of the one table becomes a column of the other, with the same rest. -/
theorem requalify_append (source target rest : String)
    : requalify (source ++ "." ++ rest) source target = target ++ "." ++ rest := by
  have found : unqualified? source (source ++ "." ++ rest) = some rest.toList := by
    rw [unqualified?_eq_some_iff, String.ofList_toList]
  rw [requalify, found]
  simp

/-- A column that the table does not qualify stays where it is. -/
theorem requalify_of_not_isQualifiedBy {column source : String}
    (other : ¬ IsQualifiedBy source column) (target : String)
    : requalify column source target = column := by
  unfold requalify
  split
  · next rest found => exact absurd ⟨_, unqualified?_eq_some_iff.mp found⟩ other
  · rfl

/-- Nothing moves from a table to itself, by cases on whether the column is one of the table. -/
theorem requalify_self (column table : String) : requalify column table table = column := by
  by_cases own : IsQualifiedBy table column
  · obtain ⟨rest, rfl⟩ := own
    exact requalify_append table table rest
  · exact requalify_of_not_isQualifiedBy own table

/-- A column comes back exactly when the other table did not qualify it before, or the one table did
as well. By cases on whether the column moves at all: one that does not is moved on the way back
when the other table qualifies it.
-/
theorem requalify_requalify_eq_iff {column source target : String}
    : requalify (requalify column source target) target source = column
      ↔ (IsQualifiedBy target column → IsQualifiedBy source column) := by
  by_cases own : IsQualifiedBy source column
  · obtain ⟨rest, rfl⟩ := own
    rw [requalify_append, requalify_append]
    exact iff_of_true rfl fun _ => isQualifiedBy_append source rest
  · rw [requalify_of_not_isQualifiedBy own]
    constructor
    · intro back foreign
      obtain ⟨rest, rfl⟩ := foreign
      rw [requalify_append] at back
      exact absurd ⟨rest, back.symm⟩ own
    · intro foreign
      exact requalify_of_not_isQualifiedBy (fun there => own (foreign there)) source

end Identifier

open Identifier

/-- The columns of a layout that another table may take over: the scope, the id and the key to which
values of custom fields are joined.
-/
def movableColumns (entity : Entity) (layout : ValueTable) : List String :=
  [entity.scopeColumn, entity.idColumn, layout.parentKey]

/-- On another table each of these columns is the one that it was, moved from the entities' own. -/
theorem movableColumns_retarget (entity : Entity) (layout : ValueTable) (table : String)
    : movableColumns (entity.retarget table) (layout.retarget entity.table table)
      = (movableColumns entity layout).map fun column => requalify column entity.table table :=
  rfl

/-- Moving entities to a table and back restores them when it restores their columns. -/
theorem Entity.retarget_retarget_eq_iff {entity : Entity} {table : String}
    : (entity.retarget table).retarget entity.table = entity
      ↔ requalify (requalify entity.scopeColumn entity.table table) table entity.table
          = entity.scopeColumn
        ∧ requalify (requalify entity.idColumn entity.table table) table entity.table
          = entity.idColumn := by
  obtain ⟨own, scopeColumn, idColumn⟩ := entity
  simp [retarget]

theorem ValueTable.retarget_retarget_eq_iff {layout : ValueTable} {source target : String}
    : (layout.retarget source target).retarget target source = layout
      ↔ requalify (requalify layout.parentKey source target) target source = layout.parentKey := by
  obtain ⟨table, parentKey, keyColumn, fieldColumn, textColumn, listColumn, booleanColumn,
    numericColumn⟩ := layout
  simp [retarget]

/-- Moving to another table can be undone. A column that moves changes its qualifier and keeps the
rest, and any other column stays. It comes back exactly when the one table qualifies it, the other
does not, or both are the same; so entities and the key of their custom values come back exactly
when each of these columns that the other table qualifies is one of the entities' own table. The
names of the two tables may overlap: either of them may be a start of the other.
-/
theorem retarget_reversible (column source target : String) (entity : Entity) (layout : ValueTable)
    (table : String)
    : ((∃ rest,
          column = source ++ "." ++ rest
          ∧ requalify column source target = target ++ "." ++ rest)
        ∨ ¬ IsQualifiedBy source column ∧ requalify column source target = column)
      ∧ (requalify (requalify column source target) target source = column
          ↔ IsQualifiedBy source column ∨ ¬ IsQualifiedBy target column ∨ source = target)
      ∧ ((entity.retarget table).retarget entity.table = entity
            ∧ (layout.retarget entity.table table).retarget table entity.table = layout
          ↔ ∀ moved ∈ movableColumns entity layout,
              IsQualifiedBy table moved → IsQualifiedBy entity.table moved) := by
  refine ⟨?_, ?_, ?_⟩
  · by_cases own : IsQualifiedBy source column
    · obtain ⟨rest, rfl⟩ := own
      exact Or.inl ⟨rest, rfl, requalify_append source target rest⟩
    · exact Or.inr ⟨own, requalify_of_not_isQualifiedBy own target⟩
  · rw [requalify_requalify_eq_iff]
    constructor
    · intro foreign
      by_cases there : IsQualifiedBy target column
      · exact Or.inl (foreign there)
      · exact Or.inr (Or.inl there)
    · rintro (own | elsewhere | rfl) there
      · exact own
      · exact absurd there elsewhere
      · exact there
  · rw [Entity.retarget_retarget_eq_iff, ValueTable.retarget_retarget_eq_iff]
    simp only [requalify_requalify_eq_iff, movableColumns, List.forall_mem_cons,
      List.not_mem_nil, false_imp_iff, implies_true, and_true, and_assoc]

/-- A schema and a table in it have the same start, and columns still find their way back. -/
example
    : requalify "db.orders.id" "db" "db.orders" = "db.orders.orders.id"
      ∧ requalify "db.orders.orders.id" "db.orders" "db" = "db.orders.id"
      ∧ requalify "db_old.id" "db" "db.orders" = "db_old.id" := by
  decide

end FieldFilter
