import FieldFilter.Catalog.Listing
import FieldFilter.Json.Reader

/-! Rows of a catalog table. A row becomes a field unless its type has no meaning or its column
could not be spliced into SQL; a style that is no JSON is dropped alone.
-/

namespace FieldFilter

/-- A row of a catalog table. -/
structure CatalogRow where
  id : Int
  code : String
  type : Int
  column : Option String
  scope : Int
  style : Option String
  deriving DecidableEq, Repr

namespace CatalogRow

def styleValue (row : CatalogRow) : Logged (Option Json.Value) :=
  match row.style with
  | none => .quiet none
  | some text =>
    match Json.Value.read? text with
    | some value => .quiet (some value)
    | none => { value := none, warnings := [.invalidStyle row.code] }

def field? (row : CatalogRow) : Logged (Option Field) :=
  match FieldType.ofCode? row.type with
  | none => { value := none, warnings := [.unknownFieldType row.code row.type] }
  | some type =>
    let style := row.styleValue
    let field := (Field.ofRecord row.id row.code type row.column row.scope style.value).plain?
    { value := field.value, warnings := style.warnings ++ field.warnings }

/-- The fields of some rows, in order. -/
def fields (rows : List CatalogRow) : Logged (List Field) :=
  Logged.collect field? rows

end CatalogRow

end FieldFilter
