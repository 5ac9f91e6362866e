import FieldFilter.Number.Word
import FieldFilter.Number.Binary64

/-! JSON values. A number is an integer or a double, as it was written, and an object keeps its
members in order with distinct keys.
-/

namespace FieldFilter.Json

/-- A number: an integer when it was written without a point or an exponent and has at most 64
bits, a double otherwise. -/
inductive Number
  | integer (n : Int)
  | double (x : Binary64)
  deriving DecidableEq

namespace Number

/-- The number as a signed 64-bit integer, if it was written as one. -/
def word? : Number → Option Int
  | integer n => Word.check? n
  | double _ => none

/-- The number as a double, rounded if it is an integer that no double equals. -/
def double? : Number → Option Binary64
  | integer n => Binary64.ofInt? n
  | double x => some x

end Number

/-- A JSON value. -/
inductive Value
  | null
  | bool (b : Bool)
  | number (n : Number)
  | string (s : String)
  | array (items : List Value)
  | object (members : List (String × Value))
  deriving Inhabited

namespace Value

def string? : Value → Option String
  | string s => some s
  | _ => none

end Value

/-- A member list after one more member: a key that is already there keeps its place and takes
the new value. -/
def insertMember (key : String) (value : Value)
    : List (String × Value) → List (String × Value)
  | [] => [(key, value)]
  | (k, v) :: rest =>
    if k = key then (k, value) :: rest else (k, v) :: insertMember key value rest

end FieldFilter.Json
