import FieldFilter.Sql.Identifier

/-! The entities that filters select, and the table that holds them.
-/

namespace FieldFilter

/-- The table of the entities, with the columns for their scope and for their id. -/
structure Entity where
  table : String
  scopeColumn : String
  idColumn : String
  deriving DecidableEq, Repr

namespace Entity

/-- The entities that are selected unless the settings say otherwise. -/
def standard : Entity :=
  { table := "reservations"
    scopeColumn := "reservations.project_id"
    idColumn := "reservations.reservation_id" }

/-- The same layout over another table: columns qualified by the table are qualified by the
other one. -/
def retarget (e : Entity) (table : String) : Entity :=
  { table
    scopeColumn := Identifier.requalify e.scopeColumn e.table table
    idColumn := Identifier.requalify e.idColumn e.table table }

end Entity

end FieldFilter
