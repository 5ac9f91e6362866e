import FieldFilter.Compile.Operand
import FieldFilter.Filter.Expr
import FieldFilter.Sql.Test

/-! The test of one condition. The column that it reads is already known; what is left is to read
the operand and to choose the comparison.
-/

namespace FieldFilter

namespace Test

def compared (relation : Comparison) (c : Column) (p : Parameter) : Atom :=
  .compare relation (.column c) (.bound p)

/-- Nothing is stored, or the empty text. -/
def blankAtoms (storage : Storage) (c : Column) : List Atom :=
  if storage.holdsText then [.isNull c, .compare .eq (.column c) .emptyText] else [.isNull c]

/-- Something is stored, and not the empty text. -/
def filledAtoms (storage : Storage) (c : Column) : List Atom :=
  if storage.holdsText then [.isNotNull c, .compare .ne (.column c) .emptyText]
  else [.isNotNull c]

def equalTo (c : Column) (term : Term) : Test :=
  any [.compare .eq (.column c) term]

/-- A value is missing or differs from a term. -/
def differentFrom (c : Column) (term : Term) : Test :=
  any [.compare .ne (.column c) term, .isNull c]

/-- A value has a date in a relation to the one from `start` up to `next`. -/
def dateIs (relation : Comparison) (c : Column) (start next : Int) : Test :=
  let before (t : Int) := compared .lt c (.int t)
  let since (t : Int) := compared .ge c (.int t)
  match relation with
  | .eq => all [since start, before next]
  | .ne => any [before start, since next]
  | .lt => any [before start]
  | .gt => any [since next]
  | .le => any [before next]
  | .ge => any [since start]

end Test

namespace LiteralOperator

open Ending (reporting)

/-- The term that an equality compares with, or nothing when its operand is empty. A truth value
stands in the text itself. -/
def equalityTerm (type : FieldType) (operand : Json.Value)
    : Except OperandFault (Option Term) :=
  if Operand.isEmpty operand then .ok none
  else if type = .boolean then
    (Operand.truth operand).map fun b => some (.literal (if b then 1 else 0))
  else (Operand.scalar operand).map fun p => some (.bound p)

/-- The test of an operator with a literal operand, on a column of a field. -/
def test (op : LiteralOperator) (type : FieldType) (c : Column) (clock : Clock)
    (operand : Json.Value)
    : Except (Ending OperandFault) Test :=
  match op with
  | equal => do
    match ← reporting (equalityTerm type operand) with
    | none => return .any (Test.blankAtoms type.storage c)
    | some term => return .equalTo c term
  | notEqual => do
    match ← reporting (equalityTerm type operand) with
    | none => return .all (Test.filledAtoms type.storage c)
    | some term => return .differentFrom c term
  | less => (reporting (Operand.scalar operand)).map fun p => .any [Test.compared .lt c p]
  | greater => (reporting (Operand.scalar operand)).map fun p => .any [Test.compared .gt c p]
  | lessOrEqual => (reporting (Operand.scalar operand)).map fun p => .any [Test.compared .le c p]
  | greaterOrEqual => (reporting (Operand.scalar operand)).map fun p => .any [Test.compared .ge c p]
  | contains => (reporting (Operand.text operand)).map fun s =>
    .any [.compare .gt (.locate (.text s) c) (.literal 0)]
  | notContains => (reporting (Operand.text operand)).map fun s =>
    .any [.compare .eq (.locate (.text s) c) (.literal 0), .isNull c]
  | startsWith => (reporting (Operand.text operand)).map fun s =>
    .any [.like c (.text (Like.startingWith s))]
  | endsWith => (reporting (Operand.text operand)).map fun s =>
    .any [.like c (.text (Like.endingWith s))]
  | between => (Operand.bounds type clock operand).map fun (least, greatest) =>
    .any [.between c least greatest]
  | minLength => (reporting (Operand.length operand)).map fun n =>
    .any [.compare .ge (.length c) (.bound (.int n))]
  | maxLength => (reporting (Operand.length operand)).map fun n =>
    .any [.compare .le (.length c) (.bound (.int n))]
  | regex => (reporting (Operand.regexClass operand)).map fun cls =>
    .any ((if cls.acceptsBlank then Test.blankAtoms type.storage c else [])
      ++ [.regexp c (.text cls.pattern)])
  | isBlank => .ok (.any (Test.blankAtoms type.storage c))
  | isNotBlank => .ok (.all (Test.filledAtoms type.storage c))
  | listInclude => (reporting (Operand.documents operand)).map fun ds =>
    .any [.contains false c ds]
  | listNotInclude => (reporting (Operand.documents operand)).map fun ds =>
    .any [.isNull c, .contains true c ds]
  | rangeFrom => (reporting (Operand.relativeInstant clock operand)).map fun t =>
    .any [Test.compared .ge c (.int t)]
  | rangeTo => (reporting (Operand.relativeInstant clock operand)).map fun t =>
    .any [Test.compared .le c (.int t)]
  | nowGreaterThan => .ok (.any [Test.compared .lt c (.int clock.now)])
  | nowLessThan => .ok (.any [Test.compared .gt c (.int clock.now)])
  | date relation => (Operand.dayBounds clock operand).map fun (start, next) =>
    .dateIs relation c start next

end LiteralOperator

namespace FieldOperator

/-- The test of an operator between two columns. Dates are compared on the clock as it is at
present. -/
def test (op : FieldOperator) (c other : Column) (clock : Clock) : Test :=
  match op with
  | same => .any [.compare .eq (.bytes c) (.bytes other)]
  | notSame => .any [.compare .ne (.bytes c) (.bytes other)]
  | sameDate => .any [.compare .eq (.date c clock.offset) (.date other clock.offset)]
  | notSameDate => .any [.compare .ne (.date c clock.offset) (.date other clock.offset)]

end FieldOperator

end FieldFilter
