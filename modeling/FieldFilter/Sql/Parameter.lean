import FieldFilter.Json.Value

/-! Values bound to the placeholders of a statement.
-/

namespace FieldFilter

/-- A bound value. -/
inductive Parameter
  | int (n : Int)
  | float (x : Binary64)
  | text (s : String)
  deriving DecidableEq

namespace Parameter

/-- The parameter for a JSON scalar. A number that is not a signed 64-bit integer is bound as the
nearest double, and a truth value as one or zero; nothing and containers are no scalars. -/
def ofJson? : Json.Value → Option Parameter
  | .number n => (n.word?.map int).or (n.double?.map float)
  | .string s => some (text s)
  | .bool b => some (int (if b then 1 else 0))
  | .null | .array _ | .object _ => none

def toJson : Parameter → Json.Value
  | int n => .number (.integer n)
  | float x => .number (.double x)
  | text s => .string s

end Parameter

end FieldFilter
