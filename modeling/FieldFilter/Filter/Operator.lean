import FieldFilter.Sql.Test

/-! The operators of filter conditions. Most compare a field with a literal operand; four of them
compare it with another field.
-/

namespace FieldFilter

/-- Operators whose operand is a literal. -/
inductive LiteralOperator
  | equal | notEqual
  | less | greater | lessOrEqual | greaterOrEqual
  | contains | notContains
  | startsWith | endsWith
  | between
  | minLength | maxLength
  | regex
  | isBlank | isNotBlank
  | listInclude | listNotInclude
  | rangeFrom | rangeTo
  | nowGreaterThan | nowLessThan
  | date (relation : Comparison)
  deriving DecidableEq, Repr

/-- Operators whose operand is another field. -/
inductive FieldOperator
  | same | notSame | sameDate | notSameDate
  deriving DecidableEq, Repr

/-- An operator. -/
inductive Operator
  | literal (op : LiteralOperator)
  | field (op : FieldOperator)
  deriving DecidableEq, Repr

def LiteralOperator.token : LiteralOperator → String
  | equal => "="
  | notEqual => "<>"
  | less => "<"
  | greater => ">"
  | lessOrEqual => "<="
  | greaterOrEqual => ">="
  | contains => "contains"
  | notContains => "notcontains"
  | startsWith => "startswith"
  | endsWith => "endswith"
  | between => "between"
  | minLength => "minlength"
  | maxLength => "maxlength"
  | regex => "regex"
  | isBlank => "isblank"
  | isNotBlank => "isnotblank"
  | listInclude => "listinclude"
  | listNotInclude => "listnotinclude"
  | rangeFrom => "rangefrom"
  | rangeTo => "rangeto"
  | nowGreaterThan => "nowgreaterthan"
  | nowLessThan => "nowlessthan"
  | date .eq => "=date"
  | date .ne => "<>date"
  | date .lt => "<date"
  | date .gt => ">date"
  | date .le => "<=date"
  | date .ge => ">=date"

/-- The token of an operator with another field as its operand. -/
def FieldOperator.token : FieldOperator → String
  | same => "same"
  | notSame => "notsame"
  | sameDate => "samedate"
  | notSameDate => "notsamedate"

namespace Operator

/-- Every operator, in the order of the operator table. -/
def all : List Operator :=
  [ literal .equal, literal .notEqual, literal .less, literal .greater, literal .lessOrEqual,
    literal .greaterOrEqual, literal .contains, literal .notContains, literal .startsWith,
    literal .endsWith, literal .between, literal .minLength, literal .maxLength,
    field .same, field .notSame, field .sameDate, field .notSameDate,
    literal .regex, literal .isBlank, literal .isNotBlank, literal .listInclude,
    literal .listNotInclude, literal .rangeFrom, literal .rangeTo, literal .nowGreaterThan,
    literal .nowLessThan, literal (.date .eq), literal (.date .ne), literal (.date .lt),
    literal (.date .gt), literal (.date .le), literal (.date .ge) ]

def token : Operator → String
  | literal op => op.token
  | field op => op.token

def ofToken? (token : String) : Option Operator :=
  all.find? (·.token == token)

/-- Operators whose operand is another field. -/
def isCrossField : Operator → Bool
  | literal _ => false
  | field _ => true

theorem ofToken?_token (op : Operator) : ofToken? op.token = some op := by
  rcases op with op | op
  · cases op with
    | date relation => cases relation <;> decide
    | _ => decide
  · cases op <;> decide

end Operator

end FieldFilter
