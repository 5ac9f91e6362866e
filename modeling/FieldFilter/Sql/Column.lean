import FieldFilter.Catalog.FieldType
import FieldFilter.Sql.Identifier

/-! Columns and the table of custom field values. A custom field has no column of its own; each
use of one joins the value table under a fresh alias, and reads the column for its storage there.
-/

namespace FieldFilter

/-- A column that a condition reads: one named by the catalog, or the storage column of the
value table under the alias with a number. -/
inductive Column
  | fixed (name : String)
  | joined (number : Nat) (storage : Storage)
  deriving DecidableEq

/-- The use of a custom field: the value table under the alias with a number, restricted to one
field. -/
structure Join where
  number : Nat
  fieldId : Int
  deriving DecidableEq

/-- The layout of the table that holds the values of custom fields, one row for each entity and
field. -/
structure ValueTable where
  table : String
  parentKey : String
  keyColumn : String
  fieldColumn : String
  textColumn : String
  listColumn : String
  booleanColumn : String
  numericColumn : String
  deriving DecidableEq

namespace ValueTable

/-- The layout that holds unless the settings say otherwise. -/
def standard : ValueTable :=
  { table := "custom_field_values"
    parentKey := "reservations.reservation_id"
    keyColumn := "reservation_id"
    fieldColumn := "field_id"
    textColumn := "value_text"
    listColumn := "value_list"
    booleanColumn := "value_bool"
    numericColumn := "value_number" }

def storageColumn (t : ValueTable) : Storage → String
  | .text => t.textColumn
  | .list => t.listColumn
  | .boolean => t.booleanColumn
  | .numeric => t.numericColumn

/-- The layout for entities of the table `target` in place of `source`: a parent key that is
qualified by the one is qualified by the other. -/
def retarget (t : ValueTable) (source target : String) : ValueTable :=
  { t with parentKey := Identifier.requalify t.parentKey source target }

/-- The join of the value table under a name for one field. -/
def joinText (t : ValueTable) (name : String) (fieldId : Int) : String :=
  "LEFT OUTER JOIN " ++ t.table ++ " AS " ++ name ++ " ON " ++ t.parentKey ++ " = " ++ name
    ++ "." ++ t.keyColumn ++ " AND " ++ name ++ "." ++ t.fieldColumn ++ " = " ++ toString fieldId

end ValueTable

def aliasText (n : Nat) : String :=
  "f" ++ toString n

def Column.text (t : ValueTable) : Column → String
  | fixed name => name
  | joined n storage => aliasText n ++ "." ++ t.storageColumn storage

def Join.text (t : ValueTable) (j : Join) : String :=
  t.joinText (aliasText j.number) j.fieldId

end FieldFilter
