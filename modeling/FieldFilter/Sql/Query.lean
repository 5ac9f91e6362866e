import FieldFilter.Sql.Predicate

/-! Compiled queries: a predicate, the joins that it needs and the values for its placeholders,
ready to be put into a statement.
-/

namespace FieldFilter

/-- A compiled query. -/
structure CompiledQuery where
  predicate : String
  joins : List String
  params : List Parameter
  deriving DecidableEq

namespace CompiledQuery

def trueText : String := "1=1"

def alwaysTrue : CompiledQuery :=
  { predicate := trueText, joins := [], params := [] }

def isAlwaysTrue (q : CompiledQuery) : Bool :=
  q.predicate == trueText && q.joins.isEmpty

/-- The part that is added to the condition of a statement. -/
def whereClause (q : CompiledQuery) : String :=
  "AND (" ++ q.predicate ++ ")"

/-- The joins, with a blank between neighbours. -/
def joinClause (q : CompiledQuery) : String :=
  String.intercalate " " q.joins

/-- The statement that selects from a table what meets a condition and the query. The parameters
of the condition come before those of the query. -/
def apply (q : CompiledQuery) (select source condition : String) : String :=
  "SELECT " ++ select ++ " FROM " ++ source
    ++ (if q.joins.isEmpty then "" else " " ++ q.joinClause)
    ++ " WHERE " ++ condition ++ " " ++ q.whereClause

end CompiledQuery

/-- A predicate with the joins of the custom fields in it, in the order of their aliases. -/
structure Plan where
  predicate : Predicate
  joins : List Join

namespace Plan

/-- The query of a plan over a layout of the value table. -/
def query (table : ValueTable) (plan : Plan) : CompiledQuery :=
  { predicate := plan.predicate.text table
    joins := plan.joins.map (Join.text table)
    params := plan.predicate.params }

end Plan

end FieldFilter
