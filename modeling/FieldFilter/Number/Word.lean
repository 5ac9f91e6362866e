/-! Signed integers of 64 bits. Arithmetic is done on unbounded integers and checked against
this range afterwards, so that a result is exact or refused.
-/

namespace FieldFilter.Word

/-- The least signed integer of 64 bits. -/
abbrev least : Int := -9223372036854775808

/-- The greatest signed integer of 64 bits. -/
abbrev greatest : Int := 9223372036854775807

/-- How many integers have 64 bits, which is the least natural number that has more. -/
abbrev count : Nat := 18446744073709551616

/-- The integer is representable in 64 bits, signed. -/
abbrev Fits (n : Int) : Prop :=
  least ≤ n ∧ n ≤ greatest

/-- The integer itself when it fits, nothing otherwise. -/
def check? (n : Int) : Option Int :=
  if Fits n then some n else none

theorem check?_eq_some_iff {n m : Int} : check? n = some m ↔ Fits n ∧ n = m := by
  simp [check?]

end FieldFilter.Word
