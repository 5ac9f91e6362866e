import FieldFilter.Number.Binary64

/-! The shortest decimal of a double: the fewest digits that round back to it, and among those
the nearest to its exact value, a tie going to the even last digit.
-/

namespace FieldFilter

/-- A positive decimal, `coefficient * 10 ^ exponent`. -/
structure Decimal where
  coefficient : Nat
  exponent : Int
  deriving DecidableEq, Repr

namespace Decimal

/-- The digits of the coefficient, most significant first. -/
def digits (d : Decimal) : List Char :=
  Nat.toDigits 10 d.coefficient

/-- The same number with no zero at the end of its coefficient, of which there are fewer than
`fuel`. -/
def strip : Nat → Decimal → Decimal
  | 0, d => d
  | fuel + 1, d =>
    if d.coefficient ≠ 0 ∧ d.coefficient % 10 = 0 then
      strip fuel ⟨d.coefficient / 10, d.exponent + 1⟩
    else d

end Decimal

namespace Binary64

/-- The exponent of the first decimal digit of `num / den`. -/
def leadingExponent (num den : Nat) : Int :=
  if den ≤ num then ((Nat.toDigits 10 (num / den)).length : Int) - 1
  else -((Nat.toDigits 10 ((den - 1) / num)).length : Int)

/-- The neighbour of a nonzero double's magnitude on the grid of multiples of
`10 ^ grid`, if one of the two lies among the reals that round to the double. Magnitudes are
counted in quarters of the last place, so that the ends of that interval are whole. -/
def neighbourOn? (x : Binary64) (grid : Int) : Option Decimal :=
  let m := x.significand
  let quarter := x.exponent - 2
  let decimals (c : Nat) : Nat := c * Nat.pow 10 grid.toNat * Nat.pow 2 (-quarter).toNat
  let quarters (u : Nat) : Nat := u * Nat.pow 2 quarter.toNat * Nat.pow 10 (-grid).toNat
  let least := if m = perExponent ∧ x.exponent ≠ -1074 then 4 * m - 1 else 4 * m - 2
  let inside (c : Nat) : Bool :=
    if m % 2 = 0 then
      quarters least ≤ decimals c ∧ decimals c ≤ quarters (4 * m + 2)
    else
      quarters least < decimals c ∧ decimals c < quarters (4 * m + 2)
  let below := quarters (4 * m) / decimals 1
  let above := below + 1
  match inside below, inside above with
  | false, false => none
  | true, false => some ⟨below, grid⟩
  | false, true => some ⟨above, grid⟩
  | true, true =>
    let middle := decimals below + decimals above
    if 2 * quarters (4 * m) < middle then some ⟨below, grid⟩
    else if middle < 2 * quarters (4 * m) then some ⟨above, grid⟩
    else some ⟨below + below % 2, grid⟩

/-- The shortest decimal of a nonzero double's magnitude. Seventeen digits always suffice. -/
def shortest (x : Binary64) : Decimal :=
  let (up, down) := powerOfTwo x.exponent
  let leading := leadingExponent (x.significand * up) down
  match (List.range 17).findSome? fun (n : Nat) => x.neighbourOn? (leading - n) with
  | some d => d.strip 18
  | none => ⟨0, 0⟩

end Binary64

end FieldFilter
