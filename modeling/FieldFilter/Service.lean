import FieldFilter.Catalog.Backend
import FieldFilter.Compile.Plan
import FieldFilter.Filter.Codes

/-! The compilation of filters against a catalog backend. A filter is read first; only when it has
conditions is the backend asked, once, for all the codes that the filter mentions. Fields of other
scopes are dropped from the answer before anything is compiled.
-/

namespace FieldFilter

namespace Condition

/-- Compiling the condition asks for the start of the present day. -/
def asksForToday (fields : List Field) : Condition → Bool
  | literal field .rangeFrom operand | literal field .rangeTo operand =>
    (Field.resolve? fields field).isSome && Operand.asksForToday operand
  | _ => false

/-- The warnings of compiling some conditions from left to right, up to the first that fails. -/
def warnings (fields : List Field) (clock : Clock) : List Condition → List Warning
  | [] => []
  | c :: rest =>
    let own :=
      if c.asksForToday fields && clock.todayIsUnresolved then
        [Warning.startOfDayUnresolved clock.zone.name]
      else []
    match c.plan fields clock 0 with
    | .ok _ => own ++ warnings fields clock rest
    | .error _ => own

end Condition

/-- A filter compiler: the layout of the value table and the zone in which dates are read. -/
structure Service where
  valueTable : ValueTable
  zone : Calendar.Zone

namespace Service

def clock (service : Service) (now : Int) : Clock :=
  { zone := service.zone, now }

abbrev Outcome : Type :=
  Logged (Except (Ending FilterError) CompiledQuery)

/-- The query of an expression over some fields, all of which can be used. -/
def compileOver (service : Service) (now : Int) (expression : FilterExpr) (fields : List Field)
    : Outcome :=
  let clock := service.clock now
  { value := FilterExpr.compile service.valueTable clock fields (some expression)
    warnings := Condition.warnings fields clock expression.conditions }

/-- What a compilation makes of the answer of a backend. -/
def conclude (service : Service) (backend : String) (scope now : Int) (expression : FilterExpr)
    (answer : Answer)
    : Outcome :=
  match answer.value with
  | .error e =>
    { value := .error (.reported (.catalogUnavailable e))
      warnings := answer.warnings ++ [.lookupFailed backend scope e.isTransient] }
  | .ok fields =>
    let outcome := service.compileOver now expression (fields.filter (·.isVisibleIn scope))
    { outcome with warnings := answer.warnings ++ outcome.warnings }

def compileAt {m : Type → Type} [Monad m] (service : Service) (backend : Backend m)
    (scope now : Int) (filter : Json.Value)
    : m Outcome :=
  match FilterExpr.ofFilter filter with
  | .error e => pure (.quiet (.error (.reported e)))
  | .ok none => pure (.quiet (.ok .alwaysTrue))
  | .ok (some expression) => do
    let answer ← backend.lookup scope (fieldCodes filter)
    return service.conclude backend.name scope now expression answer

end Service

end FieldFilter
