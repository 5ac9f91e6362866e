import FieldFilter.Number.Binary64
import Mathlib.Algebra.Order.Field.Power
import Mathlib.Data.Rat.Cast.Order
import Mathlib.Tactic.FieldSimp
import Mathlib.Tactic.Linarith
import Mathlib.Tactic.NormNum
import Mathlib.Tactic.Positivity
import Mathlib.Tactic.Ring

/-! Rounding gives the nearest double: no double is nearer to a quotient than the one it is rounded
to. An integer that is too large for a signed word, but not for an unsigned one, is rounded to a
multiple of 2048; so it keeps its value only if it is such a multiple itself.
-/

namespace FieldFilter.Binary64

-----------------------------------------------------------------------------------------
-- What a double stands for
-----------------------------------------------------------------------------------------

/-- How far a double is from zero. -/
def magnitude (x : Binary64) : ℚ :=
  x.significand * 2 ^ x.exponent

/-- A magnitude with a sign. -/
def signed (negative : Bool) (v : ℚ) : ℚ :=
  if negative then -v else v

/-- The number that a double stands for. -/
def value (x : Binary64) : ℚ :=
  signed x.negative x.magnitude

/-- No double is nearer to a number. -/
def IsNearest (x : Binary64) (v : ℚ) : Prop :=
  ∀ y : Binary64, |x.value - v| ≤ |y.value - v|

theorem magnitude_nonneg (x : Binary64) : 0 ≤ x.magnitude := by
  unfold magnitude
  positivity

theorem magnitude_zero (negative : Bool) : (zero negative).magnitude = 0 := by
  simp [magnitude, significand, zero]

theorem abs_value (x : Binary64) : |x.value| = x.magnitude := by
  cases h : x.negative with
  | false => rw [value, h, signed, if_neg Bool.false_ne_true, abs_of_nonneg x.magnitude_nonneg]
  | true => rw [value, h, signed, if_pos rfl, abs_neg, abs_of_nonneg x.magnitude_nonneg]

theorem perExponent_eq : perExponent = 2 ^ 52 := rfl

theorem significand_lt (x : Binary64) : x.significand < 2 ^ 53 := by
  have bound := Nat.mod_lt x.rank (show 0 < 2 ^ 52 by decide)
  simp only [significand, perExponent_eq]
  split <;> omega

theorem exponent_ge (x : Binary64) : -1074 ≤ x.exponent := by
  simp only [exponent, perExponent_eq]
  split <;> omega

/-- The magnitude at a rank that is written in units of a power of two. A significand of 53 ones and
one more is the least one of the next exponent, by cases on where the significand lies.
-/
theorem magnitude_of_rank {x : Binary64} {e : ℤ} {q : ℕ} (least : -1074 ≤ e)
    (rank : x.rank = (e + 1074).toNat * perExponent + q) (most : q ≤ 2 ^ 53)
    (normal : e = -1074 ∨ 2 ^ 52 ≤ q)
    : x.magnitude = q * 2 ^ e := by
  rw [perExponent_eq] at rank
  rcases Nat.lt_or_ge q (2 ^ 52) with small | large
  · obtain rfl : e = -1074 := by omega
    have own : x.rank < 2 ^ 52 := by omega
    simp only [magnitude, significand, exponent, perExponent_eq, if_pos own]
    rw [rank]
    norm_num
  · have above : ¬ x.rank < 2 ^ 52 := by omega
    simp only [magnitude, significand, exponent, perExponent_eq, if_neg above]
    rcases Nat.lt_or_eq_of_le most with below | rfl
    · have digits : 2 ^ 52 + x.rank % 2 ^ 52 = q := by omega
      have power : ((x.rank / 2 ^ 52 : ℕ) : ℤ) - 1075 = e := by omega
      rw [digits, power]
    · have digits : 2 ^ 52 + x.rank % 2 ^ 52 = 2 ^ 52 := by omega
      have power : ((x.rank / 2 ^ 52 : ℕ) : ℤ) - 1075 = 1 + e := by omega
      rw [digits, power, zpow_add₀ two_ne_zero]
      norm_num
      ring

/-- From the least significand of an exponent on, every double is a whole number of its units: a
smaller exponent would not reach so far.
-/
theorem exists_magnitude_eq {x : Binary64} {e : ℤ} (least : -1074 ≤ e)
    (far : e = -1074 ∨ (2 : ℚ) ^ (e + 52) ≤ x.magnitude)
    : ∃ j : ℕ, x.magnitude = j * 2 ^ e := by
  have exponent : e ≤ x.exponent := by
    rcases far with rfl | far
    · exact x.exponent_ge
    · by_contra lower
      have few : (x.significand : ℚ) < 2 ^ (53 : ℤ) := by exact_mod_cast x.significand_lt
      have bound : x.magnitude < 2 ^ (e + 52) := by
        calc
          x.magnitude < 2 ^ (53 : ℤ) * 2 ^ x.exponent :=
            mul_lt_mul_of_pos_right few (by positivity)
          _ = 2 ^ (53 + x.exponent) := (zpow_add₀ two_ne_zero _ _).symm
          _ ≤ 2 ^ (e + 52) := zpow_le_zpow_right₀ one_le_two (by omega)
      exact absurd far (not_le.mpr bound)
  obtain ⟨k, more⟩ := Int.eq_ofNat_of_zero_le (sub_nonneg.mpr exponent)
  refine ⟨x.significand * 2 ^ k, ?_⟩
  have split : x.exponent = k + e := by omega
  rw [magnitude, split, zpow_add₀ two_ne_zero, zpow_natCast]
  push_cast
  ring

-----------------------------------------------------------------------------------------
-- The unit in which a quotient is rounded
-----------------------------------------------------------------------------------------

theorem powerOfTwo_div (e : Int) : ((powerOfTwo e).1 : ℚ) / (powerOfTwo e).2 = 2 ^ e := by
  have split : (e.toNat : ℤ) - (-e).toNat = e := Int.toNat_sub_toNat_neg e
  conv_rhs => rw [← split, zpow_sub₀ two_ne_zero, zpow_natCast, zpow_natCast]
  simp [powerOfTwo]

theorem powerOfTwo_pos (e : Int) : 0 < (powerOfTwo e).1 ∧ 0 < (powerOfTwo e).2 :=
  ⟨Nat.pow_pos two_pos, Nat.pow_pos two_pos⟩

/-- A comparison in whole numbers is one of the quotient with the power of two. -/
theorem mul_lt_mul_powerOfTwo_iff (num : Nat) {den : Nat} (positive : 0 < den) (e : Int)
    : num * (powerOfTwo e).2 < den * (powerOfTwo e).1 ↔ (num : ℚ) / den < 2 ^ e := by
  obtain ⟨_, down⟩ := powerOfTwo_pos e
  have hd : (0 : ℚ) < den := by exact_mod_cast positive
  have hp : (0 : ℚ) < (powerOfTwo e).2 := by exact_mod_cast down
  rw [← powerOfTwo_div, div_lt_div_iff₀ hd hp, mul_comm ((powerOfTwo e).1 : ℚ)]
  exact_mod_cast Iff.rfl

/-- The binary logarithms of its parts tell a quotient up to a factor of two, either way. -/
theorem ratio_bounds {num den : Nat} (hn : num ≠ 0) (hd : den ≠ 0)
    : (2 : ℚ) ^ ((num.log2 : ℤ) - den.log2 - 1) ≤ num / den
      ∧ (num : ℚ) / den < 2 ^ ((num.log2 : ℤ) - den.log2 + 1) := by
  have numLow : (2 : ℚ) ^ num.log2 ≤ num := by exact_mod_cast Nat.log2_self_le hn
  have numHigh : (num : ℚ) < 2 ^ (num.log2 + 1) := by exact_mod_cast Nat.lt_log2_self
  have denLow : (2 : ℚ) ^ den.log2 ≤ den := by exact_mod_cast Nat.log2_self_le hd
  have denHigh : (den : ℚ) < 2 ^ (den.log2 + 1) := by exact_mod_cast Nat.lt_log2_self
  have positive : (0 : ℚ) < den := by exact_mod_cast Nat.pos_of_ne_zero hd
  constructor
  · have split : (num.log2 : ℤ) - den.log2 - 1 = num.log2 - (den.log2 + 1 : ℕ) := by
      push_cast
      ring
    rw [split, zpow_sub₀ two_ne_zero, zpow_natCast, zpow_natCast,
      div_le_div_iff₀ (by positivity) positive]
    exact mul_le_mul numLow denHigh.le positive.le (by positivity)
  · have split : (num.log2 : ℤ) - den.log2 + 1 = (num.log2 + 1 : ℕ) - den.log2 := by
      push_cast
      ring
    rw [split, zpow_sub₀ two_ne_zero, zpow_natCast, zpow_natCast,
      div_lt_div_iff₀ positive (by positivity)]
    exact mul_lt_mul numHigh denLow (by positivity) (by positivity)

/-- In its unit a quotient has at most 53 bits, and it has all of them unless the unit is the least
one. By cases on how the quotient compares with the power that the logarithms point to.
-/
theorem unitExponent_spec {num den : Nat} (hn : num ≠ 0) (hd : den ≠ 0)
    : -1074 ≤ unitExponent num den
      ∧ (num : ℚ) / den < 2 ^ (unitExponent num den + 53)
      ∧ (unitExponent num den = -1074 ∨ (2 : ℚ) ^ (unitExponent num den + 52) ≤ num / den) := by
  obtain ⟨low, high⟩ := ratio_bounds hn hd
  have compared := mul_lt_mul_powerOfTwo_iff num (Nat.pos_of_ne_zero hd)
    ((num.log2 : ℤ) - den.log2)
  -- The exponent that the quotient asks for, before the least one cuts it off.
  have free
      : ∃ e : ℤ,
          unitExponent num den = max (-1074) e
          ∧ (2 : ℚ) ^ (e + 52) ≤ num / den
          ∧ (num : ℚ) / den < 2 ^ (e + 53) := by
    unfold unitExponent
    by_cases below
        : num * (powerOfTwo (num.log2 - den.log2)).2 < den * (powerOfTwo (num.log2 - den.log2)).1
    · refine ⟨num.log2 - den.log2 - 53, by simp only [if_pos below], ?_, ?_⟩
      · rwa [show (num.log2 : ℤ) - den.log2 - 53 + 52 = num.log2 - den.log2 - 1 by omega]
      · rw [show (num.log2 : ℤ) - den.log2 - 53 + 53 = num.log2 - den.log2 by omega]
        exact compared.mp below
    · refine ⟨num.log2 - den.log2 - 52, by simp only [if_neg below], ?_, ?_⟩
      · rw [show (num.log2 : ℤ) - den.log2 - 52 + 52 = num.log2 - den.log2 by omega]
        exact not_lt.mp fun under => below (compared.mpr under)
      · rwa [show (num.log2 : ℤ) - den.log2 - 52 + 53 = num.log2 - den.log2 + 1 by omega]
  obtain ⟨e, same, least, greatest⟩ := free
  rw [same]
  refine ⟨le_max_left _ _, ?_, ?_⟩
  · refine greatest.trans_le (zpow_le_zpow_right₀ one_le_two ?_)
    omega
  · rcases le_total e (-1074) with small | large
    · exact Or.inl (max_eq_left small)
    · rw [max_eq_right large]
      exact Or.inr least

-----------------------------------------------------------------------------------------
-- Rounding in that unit
-----------------------------------------------------------------------------------------

/-- Twice the rounded quotient is within one of twice the quotient, by cases on the remainder. -/
theorem divideEven_spec (num : Nat) {den : Nat} (positive : 0 < den)
    : 2 * (divideEven num den * den) ≤ 2 * num + den
      ∧ 2 * num ≤ 2 * (divideEven num den * den) + den := by
  have whole := Nat.div_add_mod num den
  have rest := Nat.mod_lt num positive
  have next : (num / den + 1) * den = den * (num / den) + den := by ring
  have same : num / den * den = den * (num / den) := Nat.mul_comm _ _
  unfold divideEven
  simp only
  split
  · omega
  · split
    · omega
    · rcases Nat.mod_two_eq_zero_or_one (num / den) with even | odd
      · rw [even, Nat.add_zero]
        omega
      · rw [odd]
        omega

/-- A quotient is rounded by at most a half. -/
theorem abs_divideEven_sub_le (num : Nat) {den : Nat} (positive : 0 < den)
    : |(divideEven num den : ℚ) - num / den| ≤ 1 / 2 := by
  obtain ⟨above, below⟩ := divideEven_spec num positive
  have hd : (0 : ℚ) < den := by exact_mod_cast positive
  have above' : 2 * (divideEven num den * den : ℚ) ≤ 2 * num + den := by exact_mod_cast above
  have below' : (2 * num : ℚ) ≤ 2 * (divideEven num den * den) + den := by exact_mod_cast below
  have back : (num : ℚ) / den * den = num := div_mul_cancel₀ _ hd.ne'
  rw [abs_le]
  constructor
  · by_contra less
    have apart := mul_lt_mul_of_pos_right (not_le.mp less) hd
    linarith
  · by_contra more
    have apart := mul_lt_mul_of_pos_right (not_le.mp more) hd
    linarith

/-- Nothing that is whole is nearer to a number than what is at most a half away. -/
theorem abs_sub_le_of_half {v : ℚ} {q : ℤ} (near : |(q : ℚ) - v| ≤ 1 / 2) (j : ℤ)
    : |(q : ℚ) - v| ≤ |(j : ℚ) - v| := by
  by_cases same : j = q
  · rw [same]
  · have apart : (1 : ℚ) ≤ |(j : ℚ) - q| := by
      exact_mod_cast Int.one_le_abs (sub_ne_zero.mpr same)
    have triangle : |(j : ℚ) - q| ≤ |(j : ℚ) - v| + |(q : ℚ) - v| := by
      calc
        |(j : ℚ) - q| = |(j - v) - (q - v)| := by ring_nf
        _ ≤ |(j : ℚ) - v| + |(q : ℚ) - v| := abs_sub _ _
    linarith

/-- A number is rounded to so many units of a power of two: it has at most 53 bits in the unit, and
all of them unless the unit is the least one.
-/
structure RoundsTo (v : ℚ) (e : ℤ) (q : ℕ) : Prop where
  least : -1074 ≤ e
  below : v < 2 ^ (e + 53)
  normal : e = -1074 ∨ (2 : ℚ) ^ (e + 52) ≤ v
  near : |(q : ℚ) - v / 2 ^ e| ≤ 1 / 2

/-- What is rounded up may have one bit more, and then it is the least with so many. -/
theorem RoundsTo.significand_le {v : ℚ} {e : ℤ} {q : ℕ} (h : RoundsTo v e q) : q ≤ 2 ^ 53 := by
  have unit : (0 : ℚ) < 2 ^ e := by positivity
  have scaled : v / 2 ^ e < 2 ^ 53 := by
    rw [div_lt_iff₀ unit]
    calc
      v < 2 ^ (53 + e) := by
        rw [add_comm]
        exact h.below
      _ = 2 ^ 53 * 2 ^ e := zpow_add₀ two_ne_zero _ _
  have bound : (q : ℚ) < 2 ^ 53 + 1 := by linarith [(abs_le.mp h.near).2]
  exact Nat.lt_succ_iff.mp (by exact_mod_cast bound)

/-- What is rounded down keeps its bits. -/
theorem RoundsTo.le_significand {v : ℚ} {e : ℤ} {q : ℕ} (h : RoundsTo v e q)
    : e = -1074 ∨ 2 ^ 52 ≤ q := by
  refine h.normal.imp_right fun large => ?_
  have unit : (0 : ℚ) < 2 ^ e := by positivity
  have scaled : 2 ^ 52 ≤ v / 2 ^ e := by
    rw [le_div_iff₀ unit]
    calc
      (2 : ℚ) ^ 52 * 2 ^ e = 2 ^ (52 + e) := (zpow_add₀ two_ne_zero _ _).symm
      _ ≤ v := by
        rw [add_comm]
        exact large
  have bound : (2 ^ 52 : ℚ) < q + 1 := by linarith [(abs_le.mp h.near).1]
  exact Nat.lt_succ_iff.mp (by exact_mod_cast bound)

/-- No whole number of the units is nearer to a number than what it is rounded to. -/
theorem RoundsTo.nearest_whole {v : ℚ} {e : ℤ} {q : ℕ} (h : RoundsTo v e q) (j : ℤ)
    : |q * 2 ^ e - v| ≤ |j * 2 ^ e - v| := by
  have unit : (0 : ℚ) < 2 ^ e := by positivity
  have scale (z : ℚ) : |z * 2 ^ e - v| = |z - v / 2 ^ e| * 2 ^ e := by
    rw [← abs_of_pos unit, ← abs_mul, abs_of_pos unit, sub_mul, div_mul_cancel₀ _ unit.ne']
  rw [scale, scale]
  refine mul_le_mul_of_nonneg_right ?_ unit.le
  exact_mod_cast abs_sub_le_of_half (q := q) (by exact_mod_cast h.near) j

/-- No double is nearer to a number than what it is rounded to, by cases on whether the double is a
whole number of the units. If it is not, it lies below the least number with all bits, and that one
is between the two.
-/
theorem RoundsTo.nearest {v : ℚ} {e : ℤ} {q : ℕ} (h : RoundsTo v e q) (y : Binary64)
    : |q * 2 ^ e - v| ≤ |y.magnitude - v| := by
  by_cases far : e = -1074 ∨ (2 : ℚ) ^ (e + 52) ≤ y.magnitude
  · obtain ⟨j, same⟩ := exists_magnitude_eq h.least far
    rw [same]
    exact_mod_cast h.nearest_whole j
  · obtain ⟨large, under⟩ := not_or.mp far
    have start : (2 : ℚ) ^ (e + 52) ≤ v := h.normal.resolve_left large
    have power : (((2 ^ 52 : ℕ) : ℤ) : ℚ) * 2 ^ e = 2 ^ (e + 52) := by
      rw [add_comm, zpow_add₀ two_ne_zero]
      norm_num
    calc
      |q * 2 ^ e - v| ≤ |2 ^ (e + 52) - v| := power ▸ h.nearest_whole (2 ^ 52 : ℕ)
      _ = v - 2 ^ (e + 52) := by rw [abs_sub_comm, abs_of_nonneg (by linarith)]
      _ ≤ v - y.magnitude := by linarith
      _ ≤ |y.magnitude - v| := by
        rw [abs_sub_comm]
        exact le_abs_self _

/-- A quotient is rounded in its unit. -/
theorem roundsTo_unitExponent {num den : Nat} (hn : num ≠ 0) (hd : den ≠ 0)
    : RoundsTo (num / den) (unitExponent num den)
        (divideEven (num * (powerOfTwo (unitExponent num den)).2)
          (den * (powerOfTwo (unitExponent num den)).1)) := by
  obtain ⟨least, below, normal⟩ := unitExponent_spec hn hd
  obtain ⟨up, down⟩ := powerOfTwo_pos (unitExponent num den)
  refine { least, below, normal, near := ?_ }
  have near := abs_divideEven_sub_le (num * (powerOfTwo (unitExponent num den)).2)
    (Nat.mul_pos (Nat.pos_of_ne_zero hd) up)
  have scaled
      : ((num * (powerOfTwo (unitExponent num den)).2 : ℕ) : ℚ)
          / (den * (powerOfTwo (unitExponent num den)).1 : ℕ)
        = num / den / 2 ^ unitExponent num den := by
    rw [← powerOfTwo_div]
    push_cast
    field_simp
  rwa [scaled] at near

theorem round?_of_ne_zero {num : Nat} (hn : num ≠ 0) (negative : Bool) (den : Nat)
    : round? negative num den
      = if h
            : (unitExponent num den + 1074).toNat * perExponent
                + divideEven (num * (powerOfTwo (unitExponent num den)).2)
                  (den * (powerOfTwo (unitExponent num den)).1)
              < magnitudes then
          some { negative, rank := _, rank_lt := h }
        else none := by
  rw [round?, if_neg hn]

/-- The magnitude is the nearest one, by cases on whether there is anything to round. -/
theorem round?_magnitude_nearest {negative : Bool} {num den : Nat} (hd : den ≠ 0) {x : Binary64}
    (h : round? negative num den = some x)
    : x.negative = negative
      ∧ ∀ y : Binary64, |x.magnitude - num / den| ≤ |y.magnitude - num / den| := by
  by_cases hn : num = 0
  · rw [round?, if_pos hn] at h
    obtain rfl := Option.some.inj h
    refine ⟨rfl, fun y => ?_⟩
    rw [magnitude_zero, hn, Nat.cast_zero, zero_div, sub_zero, abs_zero]
    exact abs_nonneg _
  · rw [round?_of_ne_zero hn] at h
    split at h
    · obtain rfl := Option.some.inj h
      have rounds := roundsTo_unitExponent hn hd
      refine ⟨rfl, fun y => ?_⟩
      rw [magnitude_of_rank rounds.least rfl rounds.significand_le rounds.le_significand]
      exact rounds.nearest y
    · cases h

theorem abs_signed_sub_signed (negative : Bool) (v w : ℚ)
    : |signed negative v - signed negative w| = |v - w| := by
  cases negative with
  | false => rfl
  | true =>
      simp only [signed, if_true]
      rw [neg_sub_neg, abs_sub_comm]

/-- Numbers of different signs are as far from each other as they are from zero together. -/
theorem abs_signed_sub_of_ne {left right : Bool} (apart : left ≠ right) {v w : ℚ} (hv : 0 ≤ v)
    (hw : 0 ≤ w)
    : |signed left v - signed right w| = v + w := by
  cases left <;> cases right
  · exact absurd rfl apart
  · rw [signed, signed, if_neg Bool.false_ne_true, if_pos rfl, sub_neg_eq_add,
      abs_of_nonneg (add_nonneg hv hw)]
  · rw [signed, signed, if_neg Bool.false_ne_true, if_pos rfl, ← neg_add', abs_neg,
      abs_of_nonneg (add_nonneg hv hw)]
  · exact absurd rfl apart

/-- A quotient with a sign is rounded to the nearest double, by cases on the signs of the others. A
double of the other sign is no nearer than zero.
-/
theorem round?_nearest {negative : Bool} {num den : Nat} (hd : den ≠ 0) {x : Binary64}
    (h : round? negative num den = some x)
    : x.IsNearest (signed negative (num / den)) := by
  intro y
  obtain ⟨sign, nearest⟩ := round?_magnitude_nearest hd h
  have nonneg : (0 : ℚ) ≤ num / den := by positivity
  rw [value, sign, abs_signed_sub_signed]
  by_cases same : y.negative = negative
  · rw [value, same, abs_signed_sub_signed]
    exact nearest y
  · rw [value, abs_signed_sub_of_ne same y.magnitude_nonneg nonneg]
    calc
      |x.magnitude - num / den| ≤ |(zero negative).magnitude - num / den| := nearest _
      _ = num / den := by rw [magnitude_zero, zero_sub, abs_neg, abs_of_nonneg nonneg]
      _ ≤ y.magnitude + num / den := le_add_of_nonneg_left y.magnitude_nonneg

/-- A quotient that is not too large is rounded to something, by cases on how small it is. -/
theorem exists_round? (negative : Bool) {num den : Nat} (hd : den ≠ 0)
    (small : (num : ℚ) / den < 2 ^ (1023 : ℤ))
    : ∃ x, round? negative num den = some x := by
  by_cases hn : num = 0
  · exact ⟨_, by rw [round?, if_pos hn]⟩
  · have rounds := roundsTo_unitExponent hn hd
    have exponent : unitExponent num den ≤ 970 := by
      rcases rounds.normal with least | large
      · omega
      · have under := (zpow_lt_zpow_iff_right₀ one_lt_two).mp (large.trans_lt small)
        omega
    have significand := rounds.significand_le
    have least := rounds.least
    refine ⟨_, (round?_of_ne_zero hn negative den).trans (dif_pos ?_)⟩
    simp only [magnitudes, perExponent_eq]
    omega

-----------------------------------------------------------------------------------------
-- Integers that only an unsigned word holds
-----------------------------------------------------------------------------------------

theorem signed_natAbs (n : Int) : signed (n < 0) ((n.natAbs : ℚ) / (1 : ℕ)) = n := by
  rw [Nat.cast_one, div_one, Nat.cast_natAbs]
  by_cases negative : n < 0
  · rw [decide_eq_true negative, signed, if_pos rfl, abs_of_neg negative, Int.cast_neg, neg_neg]
  · rw [decide_eq_false negative, signed, if_neg Bool.false_ne_true,
      abs_of_nonneg (not_lt.mp negative)]

/-- An integer is rounded to the nearest double. -/
theorem ofInt?_nearest {n : Int} {x : Binary64} (h : ofInt? n = some x) : x.IsNearest n := by
  rw [← signed_natAbs n]
  exact round?_nearest one_ne_zero h

theorem exists_ofInt? {n : Int} (small : n.natAbs < 2 ^ 64) : ∃ x, ofInt? n = some x := by
  refine exists_round? _ one_ne_zero ?_
  have bound : (n.natAbs : ℚ) < 2 ^ (64 : ℤ) := by exact_mod_cast small
  rw [Nat.cast_one, div_one]
  exact bound.trans (zpow_lt_zpow_right₀ one_lt_two (by norm_num))

/-- Multiples of 2048 from the least to the greatest number of 64 bits are doubles, that number and
one unit more included.
-/
theorem exists_value_eq_mul {q : ℕ} (low : 2 ^ 52 ≤ q) (high : q ≤ 2 ^ 53)
    : ∃ x : Binary64, x.value = 2048 * q := by
  have rank_lt : (11 + 1074 : ℤ).toNat * perExponent + q < magnitudes := by
    simp only [magnitudes, perExponent_eq]
    omega
  refine ⟨{ negative := false, rank := _, rank_lt }, ?_⟩
  rw [value, signed, if_neg Bool.false_ne_true,
    magnitude_of_rank (by norm_num) rfl high (Or.inr low)]
  norm_num
  ring

variable {n : Int} {x : Binary64}

/-- Such an integer is rounded by at most 1024. -/
theorem IsNearest.error_le (nearest : x.IsNearest n) (low : 2 ^ 63 ≤ n) (high : n < 2 ^ 64)
    : |x.value - n| ≤ 1024 := by
  -- The multiple of 2048 nearest to the integer is a double.
  obtain ⟨q, middle⟩ := Int.eq_ofNat_of_zero_le (show 0 ≤ (n + 1024) / 2048 by omega)
  obtain ⟨y, own⟩ := exists_value_eq_mul (q := q) (by omega) (by omega)
  have near : |(2048 * q - n : ℤ)| ≤ 1024 := abs_le.mpr (by omega)
  calc
    |x.value - n| ≤ |y.value - n| := nearest y
    _ = (|(2048 * q - n : ℤ)| : ℤ) := by
      rw [own]
      push_cast
      rfl
    _ ≤ 1024 := by exact_mod_cast near

/-- Such an integer keeps its value exactly if it is a multiple of 2048: a double that large is a
whole number of units of 2048.
-/
theorem IsNearest.value_eq_iff (nearest : x.IsNearest n) (low : 2 ^ 63 ≤ n) (high : n < 2 ^ 64)
    : x.value = n ↔ 2048 ∣ n := by
  constructor
  · intro same
    have own : x.magnitude = n := by
      rw [← abs_value, same, abs_of_nonneg (by exact_mod_cast show (0 : ℤ) ≤ n by omega)]
    have large : (2 : ℚ) ^ (11 + 52 : ℤ) ≤ x.magnitude := by
      rw [own]
      exact_mod_cast low
    obtain ⟨j, whole⟩ := exists_magnitude_eq (by norm_num) (Or.inr large)
    refine ⟨j, ?_⟩
    have units : (n : ℚ) = 2048 * j := by
      rw [← own, whole, mul_comm]
      norm_num
    exact_mod_cast units
  · rintro ⟨k, rfl⟩
    obtain ⟨q, rfl⟩ := Int.eq_ofNat_of_zero_le (show 0 ≤ k by omega)
    obtain ⟨y, own⟩ := exists_value_eq_mul (q := q) (by omega) (by omega)
    have near := nearest y
    rw [own] at near
    push_cast at near ⊢
    rw [sub_self, abs_zero] at near
    exact sub_eq_zero.mp (abs_nonpos_iff.mp near)

/-- Two such integers that are rounded to one double are at most 2048 apart. -/
theorem IsNearest.distance_le {m : Int} (nearest : x.IsNearest n) (other : x.IsNearest m)
    (lowN : 2 ^ 63 ≤ n) (highN : n < 2 ^ 64) (lowM : 2 ^ 63 ≤ m) (highM : m < 2 ^ 64)
    : |n - m| ≤ 2048 := by
  have first := nearest.error_le lowN highN
  have second := other.error_le lowM highM
  have apart : |(n : ℚ) - m| ≤ 2048 := by
    calc
      |(n : ℚ) - m| ≤ |(n : ℚ) - x.value| + |x.value - m| := abs_sub_le _ _ _
      _ ≤ 1024 + 1024 := by
        rw [abs_sub_comm (n : ℚ)]
        exact add_le_add first second
      _ = 2048 := by norm_num
  exact_mod_cast apart

end FieldFilter.Binary64
