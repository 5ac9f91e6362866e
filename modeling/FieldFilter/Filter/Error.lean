import FieldFilter.Calendar.Date
import FieldFilter.Catalog.Error
import FieldFilter.Filter.Operator
import FieldFilter.Json.Writer

/-! Why a filter does not compile.
-/

namespace FieldFilter

/-- How a filter text or value fails to be an expression. -/
inductive ShapeFault
  | tooLarge
  | invalidJson
  | notAnArray (value : Json.Value)
  | fieldCode (value : Json.Value)
  | operatorToken (field : String)
  | emptyGroup
  | emptyChild
  | child (value : Json.Value)
  | conjunction (value : Json.Value)
  | dangling (value : Json.Value)

/-- How an operand fails to fit its operator. -/
inductive OperandFault
  | notAFieldCode
  | notAScalar (value : Json.Value)
  | notText (value : Json.Value)
  | notAnInteger (value : Json.Value)
  | negativeLength
  | notABoolean (value : Json.Value)
  | boundCount (count : Nat)
  | notBounds (value : Json.Value)
  | dateText (text : String)
  | date (value : Json.Value)
  | dateOutOfRange (date : Calendar.Date)
  | regexClass (value : Json.Value)
  | noListIds
  | listId (value : Json.Value)
  | notAnOffset (value : Json.Value)
  | dayOffset (text : String)
  | offsetOutOfRange (text : String)
  | anchor (text : String)

/-- Why a filter does not compile. -/
inductive FilterError
  | unknownField (code : String)
  | unsupportedOperator (field token : String)
  | malformedOperand (field : String) (operator : Operator) (fault : OperandFault)
  | malformedFilter (fault : ShapeFault)
  | catalogUnavailable (source : DataError)

/-- The largest filter text, in bytes. -/
def maxFilterBytes : Nat := 65536

def ShapeFault.message : ShapeFault → String
  | tooLarge =>
    "filter JSON exceeds maximum size of " ++ toString maxFilterBytes ++ " bytes"
  | invalidJson => "the text is not JSON"
  | notAnArray value => "filter must be an array, got " ++ value.compact
  | fieldCode value => "condition field code must be a string, got " ++ value.compact
  | operatorToken field => "operator for " ++ field ++ " must be a string"
  | emptyGroup => "empty group"
  | emptyChild => "empty sub-expression"
  | child value => "expected a sub-expression, got " ++ value.compact
  | conjunction value =>
    "expected 'and' or 'or' between sub-expressions, got " ++ value.compact
  | dangling value => "dangling " ++ value.compact ++ " at end of group"

def OperandFault.message : OperandFault → String
  | notAFieldCode => "expected a field code"
  | notAScalar value => "expected a scalar, got " ++ value.compact
  | notText value => "expected text, got " ++ value.compact
  | notAnInteger value => "expected an integer, got " ++ value.compact
  | negativeLength => "length must not be negative"
  | notABoolean value => "expected a boolean, got " ++ value.compact
  | boundCount count => "expected two bounds, got " ++ toString count
  | notBounds value => "expected two bounds, got " ++ value.compact
  | dateText text => "unparseable date '" ++ text ++ "'"
  | date value => "unparseable date " ++ value.compact
  | dateOutOfRange day => "date " ++ day.text ++ " out of range"
  | regexClass value => "unknown regex class " ++ value.compact
  | noListIds => "expected at least one list id"
  | listId value => "invalid list id " ++ value.compact
  | notAnOffset value => "expected an anchored offset, got " ++ value.compact
  | dayOffset text => "invalid day offset in '" ++ text ++ "'"
  | offsetOutOfRange text => "day offset out of range in '" ++ text ++ "'"
  | anchor text => "unknown anchor in '" ++ text ++ "'"

namespace FilterError

/-- The name of the kind of error, for programs. -/
def code : FilterError → String
  | unknownField _ => "UNKNOWN_FIELD_CODE"
  | unsupportedOperator _ _ => "UNSUPPORTED_OPERATOR"
  | malformedOperand _ _ _ => "MALFORMED_OPERAND"
  | malformedFilter _ => "MALFORMED_FILTER"
  | catalogUnavailable _ => "CATALOG_UNAVAILABLE"

def message : FilterError → String
  | unknownField code => "unknown field code: " ++ code
  | unsupportedOperator field token =>
    "unsupported operator '" ++ token ++ "' on field " ++ field
  | malformedOperand field operator fault =>
    "malformed operand for " ++ field ++ " " ++ operator.token ++ ": " ++ fault.message
  | malformedFilter fault => "malformed filter expression: " ++ fault.message
  | catalogUnavailable source => "field catalog unavailable: " ++ source.message

/-- The texts of the error and of what caused it, outermost first. -/
def causes (e : FilterError) : List String :=
  match e with
  | catalogUnavailable source => e.message :: source.causes
  | unknownField _ | unsupportedOperator _ _ | malformedOperand _ _ _ | malformedFilter _ =>
    [e.message]

end FilterError

end FieldFilter
