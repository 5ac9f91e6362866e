import FieldFilter.Filter.Conjunction
import FieldFilter.Filter.Operator
import FieldFilter.Json.Value

/-! Filter expressions: conditions on fields, combined in groups. A group keeps its children in
order, each with the token before it, and gives neither token precedence.
-/

namespace FieldFilter

/-- A condition on a field: an operator with a literal operand, or one with another field. -/
inductive Condition
  | literal (field : String) (op : LiteralOperator) (operand : Json.Value)
  | fields (field : String) (op : FieldOperator) (other : String)

namespace Condition

def field : Condition → String
  | literal field _ _ | fields field _ _ => field

def operator : Condition → Operator
  | literal _ op _ => .literal op
  | fields _ op _ => .field op

/-- The codes that the condition refers to, its own field first. -/
def codes : Condition → List String
  | literal field _ _ => [field]
  | fields field _ other => [field, other]

end Condition

/-- A filter expression. -/
inductive FilterExpr
  | condition (c : Condition)
  | group (first : FilterExpr) (rest : List (Conjunction × FilterExpr))

namespace FilterExpr

mutual

/-- The conditions of an expression, from left to right. -/
def conditions : FilterExpr → List Condition
  | condition c => [c]
  | group first rest => first.conditions ++ restConditions rest

def restConditions : List (Conjunction × FilterExpr) → List Condition
  | [] => []
  | (_, e) :: rest => e.conditions ++ restConditions rest

end

end FilterExpr

end FieldFilter
