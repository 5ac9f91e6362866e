import FieldFilter.Number.Shortest
import FieldFilter.Json.Value

/-! The text of a JSON number. A double shows its shortest digits, positionally from one
hundred-thousandth up to ten to the sixteenth and with an exponent outside of that; it always
shows a point or an exponent, so that it reads back as a double.
-/

namespace FieldFilter.Json

/-- The integer in decimal, with a minus sign when it is negative. -/
def integerText (n : Int) : String :=
  toString n

/-- Digits placed around the decimal point, which stands after the first `point` of them. -/
def positionalText (digits : List Char) (point : Int) : List Char :=
  if (digits.length : Int) ≤ point then
    digits ++ List.replicate (point - digits.length).toNat '0' ++ ['.', '0']
  else if 0 < point then
    digits.take point.toNat ++ '.' :: digits.drop point.toNat
  else
    '0' :: '.' :: (List.replicate (-point).toNat '0' ++ digits)

/-- Digits with the point after the first one, and the exponent written with its sign. -/
def exponentText (digits : List Char) (point : Int) : List Char :=
  let e := point - 1
  let fraction := if digits.length ≤ 1 then [] else '.' :: digits.drop 1
  let sign := if e < 0 then '-' else '+'
  digits.take 1 ++ fraction ++ 'e' :: sign :: Nat.toDigits 10 e.natAbs

/-- The text of a positive decimal: positional while the point falls at most four zeros before
the digits and at most sixteen places after their first. -/
def decimalText (d : Decimal) : List Char :=
  let digits := d.digits
  let point := digits.length + d.exponent
  if -5 < point ∧ point ≤ 16 then positionalText digits point else exponentText digits point

def doubleText (x : Binary64) : String :=
  let magnitude := if x.isZero then ['0', '.', '0'] else decimalText x.shortest
  String.ofList (if x.negative then '-' :: magnitude else magnitude)

def Number.text : Number → String
  | .integer n => integerText n
  | .double x => doubleText x

end FieldFilter.Json
