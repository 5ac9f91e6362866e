import FieldFilter.Catalog.Field
import FieldFilter.Compile.Render
import FieldFilter.Sql.Query

/-! From an expression to a plan. Conditions are planned from left to right; each use of a custom
field takes the next alias and adds one join. The first condition that fails decides the ending.
-/

namespace FieldFilter

/-- The column of a field and the joins that it needs, after `used` joins before it. -/
def Field.columnAfter (used : Nat) (f : Field) : Column × List Join :=
  match f.placement with
  | .fixed name => (.fixed name, [])
  | .custom => (.joined (used + 1) f.type.storage, [{ number := used + 1, fieldId := f.id }])

/-- The field that a code stands for. -/
def Field.find (fields : List Field) (code : String) : Except (Ending FilterError) Field :=
  match Field.resolve? fields code with
  | some f => .ok f
  | none => .error (.reported (.unknownField code))

/-- The test of a condition and the joins that it needs, after `used` joins before it. -/
def Condition.plan (fields : List Field) (clock : Clock) (used : Nat)
    : Condition → Except (Ending FilterError) (Test × List Join)
  | .literal code op operand => do
    let f ← Field.find fields code
    let (column, joins) := f.columnAfter used
    match op.test f.type column clock operand with
    | .ok test => return (test, joins)
    | .error ending => throw (ending.map (.malformedOperand f.code (.literal op)))
  | .fields code op other => do
    let (column, joins) := (← Field.find fields code).columnAfter used
    let (otherColumn, otherJoins) :=
      (← Field.find fields other).columnAfter (used + joins.length)
    return (op.test column otherColumn clock, joins ++ otherJoins)

namespace FilterExpr

mutual

/-- The plan of an expression, after `used` joins before it. -/
def plan (fields : List Field) (clock : Clock) (used : Nat)
    : FilterExpr → Except (Ending FilterError) Plan
  | condition c => do
    let (test, joins) ← c.plan fields clock used
    return { predicate := .test test, joins }
  | group first rest => do
    let head ← first.plan fields clock used
    let (children, joins) ← restPlan fields clock (used + head.joins.length) rest
    return { predicate := .group head.predicate children, joins := head.joins ++ joins }

def restPlan (fields : List Field) (clock : Clock) (used : Nat)
    : List (Conjunction × FilterExpr)
      → Except (Ending FilterError) (List (Conjunction × Predicate) × List Join)
  | [] => .ok ([], [])
  | (conjunction, e) :: rest => do
    let child ← e.plan fields clock used
    let (children, joins) ← restPlan fields clock (used + child.joins.length) rest
    return ((conjunction, child.predicate) :: children, child.joins ++ joins)

end

/-- The query of an expression over some fields and a layout of the value table. No expression
matches everything. -/
def compile (table : ValueTable) (clock : Clock) (fields : List Field)
    : Option FilterExpr → Except (Ending FilterError) CompiledQuery
  | none => .ok .alwaysTrue
  | some e => (e.plan fields clock 0).map (Plan.query table)

end FilterExpr

end FieldFilter
