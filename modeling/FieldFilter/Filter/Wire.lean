import FieldFilter.Filter.Error
import FieldFilter.Filter.Expr
import FieldFilter.Json.Reader

/-! Filters as JSON. A condition is an array of a field code, an operator and an operand; a group
is an array of expressions with conjunctions between them. An array of three is a condition
unless its middle is a conjunction.
-/

namespace FieldFilter

/-- A field code without its qualifier, which ends at the last point. -/
def stripQualifier (code : String) : String :=
  String.ofList (code.toList.reverse.takeWhile (· ≠ '.')).reverse

def Conjunction.ofJson? (value : Json.Value) : Option Conjunction :=
  value.string?.bind ofToken?

/-- The field code that a value spells, without its qualifier. An empty code is none. -/
def fieldCode? (value : Json.Value) : Option String :=
  (value.string?.map stripQualifier).filter (· ≠ "")

/-- The items of an array that is a condition. -/
def conditionItems? : List Json.Value → Option (Json.Value × Json.Value × Json.Value)
  | [code, token, operand] =>
    if (Conjunction.ofJson? token).isSome then none else some (code, token, operand)
  | _ => none

def Condition.ofItems (code token operand : Json.Value) : Except FilterError Condition :=
  match fieldCode? code with
  | none => .error (.malformedFilter (.fieldCode code))
  | some field =>
    match token with
    | .string token =>
      match Operator.ofToken? token with
      | none => .error (.unsupportedOperator field token)
      | some (.literal op) => .ok (.literal field op operand)
      | some (.field op) =>
        match fieldCode? operand with
        | none => .error (.malformedOperand field (.field op) .notAFieldCode)
        | some other => .ok (.fields field op other)
    | _ => .error (.malformedFilter (.operatorToken field))

namespace FilterExpr

mutual

/-- The expression that a value is, inside a group. -/
def ofJson : Json.Value → Except FilterError FilterExpr
  | .array [] => .error (.malformedFilter .emptyChild)
  | .array items =>
    match conditionItems? items with
    | some (code, token, operand) => (Condition.ofItems code token operand).map condition
    | none => groupOfItems items
  | value => .error (.malformedFilter (.child value))

def groupOfItems : List Json.Value → Except FilterError FilterExpr
  | [] => .error (.malformedFilter .emptyGroup)
  | value :: items => do
    let first ← ofJson value
    return group first (← restOfItems items)

def restOfItems : List Json.Value → Except FilterError (List (Conjunction × FilterExpr))
  | [] => .ok []
  | [token] =>
    match Conjunction.ofJson? token with
    | none => .error (.malformedFilter (.conjunction token))
    | some _ => .error (.malformedFilter (.dangling token))
  | token :: value :: items =>
    match Conjunction.ofJson? token with
    | none => .error (.malformedFilter (.conjunction token))
    | some conjunction => do
      let child ← ofJson value
      return (conjunction, child) :: (← restOfItems items)

end

/-- The expression of a whole filter. Nothing and the empty array are no filter. -/
def ofFilter : Json.Value → Except FilterError (Option FilterExpr)
  | .null => .ok none
  | .array [] => .ok none
  | .array items => (ofJson (.array items)).map some
  | value => .error (.malformedFilter (.notAnArray value))

end FilterExpr

/-- The JSON value of a filter text, which is limited in size. -/
def readFilter (text : String) : Except FilterError Json.Value :=
  if maxFilterBytes < text.utf8ByteSize then .error (.malformedFilter .tooLarge)
  else match Json.Value.read? text with
    | some value => .ok value
    | none => .error (.malformedFilter .invalidJson)

end FieldFilter
