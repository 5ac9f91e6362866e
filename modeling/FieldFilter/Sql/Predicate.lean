import FieldFilter.Filter.Conjunction
import FieldFilter.Sql.Test

/-! Predicates: tests combined like the conditions they come from. Every test and every group
stands in parentheses of its own, so the text never depends on the precedence of `AND` and `OR`.
-/

namespace FieldFilter

/-- A predicate. -/
inductive Predicate
  | test (t : Test)
  | group (first : Predicate) (rest : List (Conjunction × Predicate))

namespace Predicate

def parenthesized (text : String) : String :=
  "(" ++ text ++ ")"

mutual

def text (table : ValueTable) : Predicate → String
  | test t => parenthesized (t.text table)
  | group first rest => parenthesized (first.text table ++ restText table rest)

def restText (table : ValueTable) : List (Conjunction × Predicate) → String
  | [] => ""
  | (conjunction, p) :: rest => conjunction.text ++ p.text table ++ restText table rest

end

mutual

/-- The parameters of a predicate, in the order of their placeholders. -/
def params : Predicate → List Parameter
  | test t => t.params
  | group first rest => first.params ++ restParams rest

def restParams : List (Conjunction × Predicate) → List Parameter
  | [] => []
  | (_, p) :: rest => p.params ++ restParams rest

end

end Predicate

end FieldFilter
