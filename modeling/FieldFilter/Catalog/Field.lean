import FieldFilter.Catalog.FieldType
import FieldFilter.Json.Value
import FieldFilter.Sql.Identifier
import FieldFilter.Text.Blank

/-! Catalog fields. A field belongs to one scope, or to all of them when its scope is zero; its
values stand in a column of their own or in the value table of custom fields.
-/

namespace FieldFilter

/-- Where the values of a field are. -/
inductive Placement
  | fixed (column : String)
  | custom
  deriving DecidableEq, Repr

namespace Placement

/-- The placement of a field. A named column is fixed. A field without one is custom in its
scope; a field of all scopes has a column that is called like its code. -/
def ofRecord (column : Option String) (scope : Int) (code : String) : Placement :=
  match (column.map Text.trimmed).filter (· ≠ "") with
  | some name => fixed name
  | none => if scope = 0 then fixed code else custom

/-- A fixed column has a plain name. -/
def isPlain : Placement → Bool
  | fixed column => Identifier.isPlain column
  | custom => true

end Placement

/-- A field of the catalog. -/
structure Field where
  code : String
  id : Int
  type : FieldType
  placement : Placement
  scope : Int
  style : Option Json.Value

namespace Field

/-- The field of a catalog record. -/
def ofRecord (id : Int) (code : String) (type : FieldType) (column : Option String) (scope : Int)
    (style : Option Json.Value)
    : Field :=
  { code, id, type, placement := .ofRecord column scope code, scope, style }

/-- The field can be used in a scope. -/
def isVisibleIn (f : Field) (scope : Int) : Bool :=
  f.scope == 0 || f.scope == scope

/-- The column of the field may be spliced into SQL. -/
def hasPlainColumn (f : Field) : Bool :=
  f.placement.isPlain

/-- The field that a code stands for among some: the last one with that code. -/
def resolve? (fields : List Field) (code : String) : Option Field :=
  (fields.filter (·.code == code)).getLast?

end Field

end FieldFilter
