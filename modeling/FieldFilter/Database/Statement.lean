import FieldFilter.Database.Entity
import FieldFilter.Sql.Query

/-! The statements that are sent to a database. A statement is a text with placeholders and the
values for them, in the same order.
-/

namespace FieldFilter

/-- A statement. -/
structure Statement where
  text : String
  params : List Parameter
  deriving DecidableEq

namespace Statement

/-- As many placeholders as asked for, with a comma between neighbours. -/
def placeholders (count : Nat) : String :=
  String.intercalate ", " (List.replicate count "?")

/-- The columns of a catalog table, numbers as integers and documents as texts. -/
def fieldColumns : String :=
  "CAST(field_id AS SIGNED), field_code, CAST(field_type AS SIGNED), column_name, "
    ++ "CAST(scope_id AS SIGNED), CAST(style AS CHAR)"

/-- The fields of a scope and of all scopes with some codes, in the order of the codes and of the
scopes within one code. -/
def fields (table : String) (scope : Int) (codes : List String) : Statement :=
  let list := placeholders codes.length
  { text := "SELECT " ++ fieldColumns ++ " FROM " ++ table ++ " WHERE field_code IN (" ++ list
      ++ ") AND (scope_id = 0 OR scope_id = ?) ORDER BY FIELD(field_code, " ++ list
      ++ "), scope_id"
    params := codes.map .text ++ .int scope :: codes.map .text }

def scopeCondition (entity : Entity) : String :=
  entity.scopeColumn ++ " = ?"

/-- The number of entities of a scope that match a query. -/
def count (entity : Entity) (scope : Int) (q : CompiledQuery) : Statement :=
  { text := q.apply "COUNT(*)" entity.table (scopeCondition entity)
    params := .int scope :: q.params }

/-- The ids of at most `limit` entities of a scope that match a query, in ascending order and each
once. -/
def ids (entity : Entity) (scope : Int) (q : CompiledQuery) (limit : Nat) : Statement :=
  { text := q.apply ("DISTINCT CAST(" ++ entity.idColumn ++ " AS SIGNED)") entity.table
        (scopeCondition entity)
      ++ " ORDER BY 1 LIMIT ?"
    params := .int scope :: q.params ++ [.int limit] }

end Statement

end FieldFilter
