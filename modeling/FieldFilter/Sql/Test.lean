import FieldFilter.Sql.Parameter
import FieldFilter.Sql.Column

/-! The Boolean expressions that conditions compile to. A test is a disjunction or a conjunction
of atoms, so its text needs no inner parentheses beyond those the atoms bring. Every value that a
test compares with is a placeholder in the text and a parameter beside it, in the same order.
-/

namespace FieldFilter

/-- The comparisons of SQL. -/
inductive Comparison
  | eq | ne | lt | gt | le | ge
  deriving DecidableEq, Repr

def Comparison.text : Comparison → String
  | eq => "="
  | ne => "<>"
  | lt => "<"
  | gt => ">"
  | le => "<="
  | ge => ">="

/-- One side of a comparison. -/
inductive Term
  /-- A column as it is. -/
  | column (c : Column)
  /-- A bound value. -/
  | bound (p : Parameter)
  /-- A small number in the text itself. -/
  | literal (n : Nat)
  /-- The empty text. -/
  | emptyText
  /-- The place of a bound text in a column, or zero. -/
  | locate (p : Parameter) (c : Column)
  /-- The number of characters of a column. -/
  | length (c : Column)
  /-- A column compared by its bytes, nothing being the empty text. -/
  | bytes (c : Column)
  /-- The date of a column of seconds on a clock ahead of universal time by `offset` seconds,
  nothing being zero. -/
  | date (c : Column) (offset : Int)
  deriving DecidableEq

namespace Term

/-- An expression moved ahead by a number of seconds. -/
def shiftedText (expression : String) (offset : Int) : String :=
  if offset = 0 then expression
  else if 0 < offset then "(" ++ expression ++ " + " ++ toString offset ++ ")"
  else "(" ++ expression ++ " - " ++ toString (-offset) ++ ")"

/-- The date, as a text, of an expression that counts seconds from 1970. -/
def dateText (expression : String) (offset : Int) : String :=
  "DATE_FORMAT(DATE_ADD('1970-01-01', INTERVAL " ++ shiftedText expression offset
    ++ " SECOND), '%Y-%m-%d')"

def text (t : ValueTable) : Term → String
  | column c => c.text t
  | bound _ => "?"
  | literal n => toString n
  | emptyText => "''"
  | locate _ c => "LOCATE(?, " ++ c.text t ++ ")"
  | length c => "CHAR_LENGTH(" ++ c.text t ++ ")"
  | bytes c => "BINARY COALESCE(" ++ c.text t ++ ", '')"
  | date c offset => dateText ("COALESCE(" ++ c.text t ++ ", 0)") offset

def params : Term → List Parameter
  | bound p => [p]
  | locate p _ => [p]
  | column _ | literal _ | emptyText | length _ | bytes _ | date _ _ => []

end Term

/-- A test without `AND` and `OR` between its parts. -/
inductive Atom
  | compare (relation : Comparison) (left right : Term)
  | isNull (c : Column)
  | isNotNull (c : Column)
  | like (c : Column) (pattern : Parameter)
  | regexp (c : Column) (pattern : Parameter)
  | between (c : Column) (least greatest : Parameter)
  /-- A JSON column that contains one of some documents, or none of them. -/
  | contains (negated : Bool) (c : Column) (documents : List Parameter)
  deriving DecidableEq

namespace Atom

def text (t : ValueTable) : Atom → String
  | compare relation left right =>
    left.text t ++ " " ++ relation.text ++ " " ++ right.text t
  | isNull c => c.text t ++ " IS NULL"
  | isNotNull c => c.text t ++ " IS NOT NULL"
  | like c _ => c.text t ++ " LIKE ?"
  | regexp c _ => c.text t ++ " REGEXP ?"
  | between c _ _ => c.text t ++ " BETWEEN ? AND ?"
  | contains negated c documents =>
    (if negated then "NOT (" else "(")
      ++ String.intercalate " OR " (documents.map fun _ => "JSON_CONTAINS(" ++ c.text t ++ ", ?)")
      ++ ")"

def params : Atom → List Parameter
  | compare _ left right => left.params ++ right.params
  | isNull _ | isNotNull _ => []
  | like _ pattern | regexp _ pattern => [pattern]
  | between _ least greatest => [least, greatest]
  | contains _ _ documents => documents

end Atom

/-- A test: some of its atoms hold, or all of them. -/
inductive Test
  | any (atoms : List Atom)
  | all (atoms : List Atom)
  deriving DecidableEq

namespace Test

def atoms : Test → List Atom
  | any atoms | all atoms => atoms

def text (t : ValueTable) : Test → String
  | any atoms => String.intercalate " OR " (atoms.map (Atom.text t))
  | all atoms => String.intercalate " AND " (atoms.map (Atom.text t))

def params (test : Test) : List Parameter :=
  test.atoms.flatMap Atom.params

end Test

end FieldFilter
