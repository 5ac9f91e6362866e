/-! Finite doubles, computed in exact natural-number arithmetic. A quotient is rounded to the
nearest double, a tie going to the even neighbour, and products and quotients of doubles are
the rounded exact ones; a result too large for a double is refused.
-/

namespace FieldFilter

namespace Binary64

/-- Two to the fifty-second: how many doubles have the same exponent and sign. -/
abbrev perExponent : Nat := 4503599627370496

/-- How many finite doubles are at least zero, by their exponents. -/
abbrev magnitudes : Nat := 2047 * perExponent

end Binary64

/-- A finite double. The rank is the place of its magnitude among the finite doubles that are
at least zero, in increasing order: 0 is zero and 1 the least positive double. -/
structure Binary64 where
  negative : Bool
  rank : Nat
  rank_lt : rank < Binary64.magnitudes
  deriving DecidableEq

namespace Binary64

/-- The magnitude of a double is its significand times two to its exponent. -/
def significand (x : Binary64) : Nat :=
  if x.rank < perExponent then x.rank else perExponent + x.rank % perExponent

/-- The exponent that goes with `significand`. -/
def exponent (x : Binary64) : Int :=
  if x.rank < perExponent then -1074 else (x.rank / perExponent : Nat) - 1075

/-- Zero, of either sign. -/
def zero (negative : Bool) : Binary64 :=
  { negative, rank := 0, rank_lt := by decide }

def isZero (x : Binary64) : Bool :=
  x.rank == 0

def negate (x : Binary64) : Binary64 :=
  { x with negative := !x.negative }

/-- The quotient rounded to the nearest natural number, a tie going to the even one. -/
def divideEven (num den : Nat) : Nat :=
  let quotient := num / den
  let rest := num % den
  if 2 * rest < den then quotient
  else if den < 2 * rest then quotient + 1
  else quotient + quotient % 2

/-- Two to a power, as a quotient of natural numbers. -/
def powerOfTwo (e : Int) : Nat × Nat :=
  (Nat.pow 2 e.toNat, Nat.pow 2 (-e).toNat)

/-- The exponent of the last bit that a double near `num / den` keeps: its significand has 53
bits, unless that would take the exponent below the least one. -/
def unitExponent (num den : Nat) : Int :=
  let k : Int := (num.log2 : Int) - den.log2
  let (up, down) := powerOfTwo k
  max (-1074) (if num * down < den * up then k - 53 else k - 52)

/-- The double nearest to `num / den`, a tie going to the even one. Nothing when the quotient
is beyond the largest double. -/
def round? (negative : Bool) (num den : Nat) : Option Binary64 :=
  if num = 0 then some (zero negative)
  else
    let e := unitExponent num den
    let (up, down) := powerOfTwo e
    let rank := (e + 1074).toNat * perExponent + divideEven (num * down) (den * up)
    if h : rank < magnitudes then some { negative, rank, rank_lt := h } else none

def ofInt? (n : Int) : Option Binary64 :=
  round? (n < 0) n.natAbs 1

def mul? (x y : Binary64) : Option Binary64 :=
  let (up, down) := powerOfTwo (x.exponent + y.exponent)
  round? (x.negative != y.negative) (x.significand * y.significand * up) down

/-- The rounded quotient of two doubles, of which the second is not zero. -/
def div? (x y : Binary64) : Option Binary64 :=
  let (up, down) := powerOfTwo (x.exponent - y.exponent)
  round? (x.negative != y.negative) (x.significand * up) (y.significand * down)

def powerOfTen? (k : Nat) : Option Binary64 :=
  round? false (Nat.pow 10 k) 1

/-- The double for `coefficient * 10 ^ scale`, in two roundings: the coefficient is rounded
first, and then its product or quotient with the rounded power of ten. Powers of ten end at
308, so a smaller scale divides by that one first; below twice that, nothing is left. -/
def scaled? (coefficient : Nat) (scale : Int) : Option Binary64 := do
  let x ← round? false coefficient 1
  if x.isZero then
    return x
  else if 0 ≤ scale then
    if scale ≤ 308 then x.mul? (← powerOfTen? scale.toNat) else none
  else if -308 ≤ scale then
    x.div? (← powerOfTen? (-scale).toNat)
  else if -616 ≤ scale then
    let y ← x.div? (← powerOfTen? 308)
    y.div? (← powerOfTen? (-scale - 308).toNat)
  else
    return zero false

end Binary64

end FieldFilter
