import FactLayout.Number.Decimal
import FactLayout.Proofs.Number.Rational
import Mathlib.Algebra.Order.Field.Power

/-
  Rounding to significant digits.

  A number is rounded to significant digits at the place
  that its magnitude gives.  If all digits are nines the
  rounding carries into a new digit, and the magnitude of
  the result is greater by one.  Rounding the number once
  more, at the place that the new magnitude gives, comes to
  the same digits.

  Key definitions include:
    * `decimalExponent`
    * `roundSignificant`
    * `Decimal.Scientific.rational`

  Main results:
    * `Decimal.Scientific.IsRounding`
    * `Decimal.Scientific.isRounding_ofQuotient`
    * `Decimal.fixed_eq_withPoint`
-/

------------------------------------------------------------
-- Significant Digits of Rational Numbers
------------------------------------------------------------

namespace FactLayout

/- The exponent of the first decimal digit of a number. -/
def decimalExponent (x : ℚ) : ℤ :=
  Int.log 10 |x|

/-
  The number with so many significant decimal digits that is
  nearest, ties to even.
-/
def roundSignificant
    (digits : ℕ)
    (x : ℚ) : ℚ :=
  nearestEven (x * 10 ^ (digits - 1 - decimalExponent x)) *
    10 ^ (decimalExponent x - (digits - 1))

theorem decimalExponent_neg
    (x : ℚ) :
    decimalExponent (-x) = decimalExponent x := by
  unfold decimalExponent
  rw [abs_neg]

/- Rounding to digits does not depend on the sign. -/
theorem roundSignificant_neg
    (digits : ℕ)
    (x : ℚ) :
    roundSignificant digits (-x) =
      -roundSignificant digits x := by
  unfold roundSignificant
  rw [decimalExponent_neg, neg_mul, nearestEven_neg]
  push_cast
  ring

theorem decimalExponent_abs
    (x : ℚ) :
    decimalExponent |x| = decimalExponent x := by
  unfold decimalExponent
  rw [abs_abs]

/- The sign of a number may be taken off before rounding. -/
theorem roundSignificant_eq_signed
    (digits : ℕ)
    (x : ℚ) :
    roundSignificant digits x =
      (if x < 0 then -1 else 1) *
        roundSignificant digits |x| := by
  by_cases hSign : x < 0
  · rw [if_pos hSign, abs_of_neg hSign,
      roundSignificant_neg, neg_one_mul, neg_neg]
  · rw [if_neg hSign, abs_of_nonneg (not_lt.mp hSign),
      one_mul]

/- Rounding does not pass an integer. -/
theorem le_nearestEven
    {x : ℚ}
    {m : ℤ}
    (hLow : (m : ℚ) ≤ x) :
    m ≤ nearestEven x := by
  have hHalf := (isNearestEven_nearestEven x).1
  have hNear := (abs_le.mp hHalf).2
  have hCast : (m : ℚ) - 1 < nearestEven x := by linarith
  have hInt : m - 1 < nearestEven x := by
    exact_mod_cast hCast
  omega

theorem nearestEven_le
    {x : ℚ}
    {m : ℤ}
    (hHigh : x ≤ m) :
    nearestEven x ≤ m := by
  have hHalf := (isNearestEven_nearestEven x).1
  have hNear := (abs_le.mp hHalf).1
  have hCast : (nearestEven x : ℚ) < m + 1 := by linarith
  have hInt : nearestEven x < m + 1 := by
    exact_mod_cast hCast
  omega

/- The magnitude of digits whose first one is in place. -/
theorem decimalExponent_mul_zpow
    {precision n : ℕ}
    (hLow : 10 ^ precision ≤ n)
    (hHigh : n < 10 ^ (precision + 1))
    (exponent : ℤ) :
    decimalExponent (n * 10 ^ (exponent - precision)) =
      exponent := by
  have hTen : (10 : ℚ) ≠ 0 := by norm_num
  have hLowCast : (10 : ℚ) ^ precision ≤ n := by
    exact_mod_cast hLow
  have hHighCast : (n : ℚ) < 10 ^ (precision + 1) := by
    exact_mod_cast hHigh
  have hUnit : (0 : ℚ) < 10 ^ (exponent - precision) := by
    positivity
  have hPos : (0 : ℚ) < n * 10 ^ (exponent - precision) := by
    have hFirst : (0 : ℚ) < 10 ^ precision := by positivity
    exact mul_pos (hFirst.trans_le hLowCast) hUnit
  have hLe :
      (10 : ℚ) ^ exponent ≤
        n * 10 ^ (exponent - precision) := by
    calc
      (10 : ℚ) ^ exponent
      _ = 10 ^ precision * 10 ^ (exponent - precision) := by
          rw [← zpow_natCast, ← zpow_add₀ hTen]
          congr 1
          ring
      _ ≤ n * 10 ^ (exponent - precision) := by gcongr
  have hLt :
      (n : ℚ) * 10 ^ (exponent - precision) <
        10 ^ (exponent + 1) := by
    calc
      (n : ℚ) * 10 ^ (exponent - precision)
      _ < 10 ^ (precision + 1) *
            10 ^ (exponent - precision) := by gcongr
      _ = 10 ^ (exponent + 1) := by
          rw [← zpow_natCast, ← zpow_add₀ hTen]
          congr 1
          push_cast
          ring
  have hAbove : exponent ≤
      Int.log 10 ((n : ℚ) * 10 ^ (exponent - precision)) :=
    (Int.zpow_le_iff_le_log (by decide) hPos).mp
      (by exact_mod_cast hLe)
  have hBelow :
      Int.log 10 ((n : ℚ) * 10 ^ (exponent - precision)) <
        exponent + 1 :=
    (Int.lt_zpow_iff_log_lt (by decide) hPos).mp
      (by exact_mod_cast hLt)
  unfold decimalExponent
  rw [abs_of_pos hPos]
  omega

------------------------------------------------------------
-- Significant Digits of Quotients
------------------------------------------------------------

namespace Decimal

namespace Scientific

/- The number that so many digits and their exponent mean. -/
def rational
    (precision : ℕ)
    (s : Scientific) : ℚ :=
  s.significand * 10 ^ (s.exponent - (precision - 1))

/-
  Digits that are a quotient rounded to so many of them, at
  the place that the exponent of the result gives.
-/
structure IsRounding
    (precision : ℕ)
    (q : Quotient)
    (s : Scientific) : Prop where
  low : 10 ^ (precision - 1) ≤ s.significand
  high : s.significand < 10 ^ precision
  value :
    s.rational precision =
      roundSignificant precision q.rational
  again :
    (q.shiftTen (precision - 1 - s.exponent)).round =
      s.significand

/- The exponent is the magnitude of the rounded number. -/
theorem IsRounding.exponent_eq
    {precision : ℕ}
    {q : Quotient}
    {s : Scientific}
    (hRounding : s.IsRounding precision q)
    (hPrecision : 0 < precision) :
    s.exponent =
      decimalExponent
        (roundSignificant precision q.rational) := by
  have hPlaces :
      ((precision - 1 : ℕ) : ℤ) = precision - 1 := by omega
  have hHigh : s.significand < 10 ^ (precision - 1 + 1) := by
    rw [Nat.sub_add_cancel hPrecision]
    exact hRounding.high
  have hLog :=
    decimalExponent_mul_zpow hRounding.low hHigh s.exponent
  rw [hPlaces] at hLog
  rw [← hRounding.value]
  exact hLog.symm

variable {precision : ℕ}
variable {q : Quotient}

/- A quotient at the place of its last significant digit. -/
theorem rational_shiftTen_bounds
    (hPrecision : 0 < precision)
    (hPos : 0 < q.num) :
    (10 : ℚ) ^ (precision - 1) ≤
        (q.shiftTen
          (precision - 1 - q.floorLogTen)).rational ∧
      (q.shiftTen
          (precision - 1 - q.floorLogTen)).rational <
        10 ^ precision := by
  have hRational := Quotient.rational_pos hPos
  have hTen : (10 : ℚ) ≠ 0 := by norm_num
  have hLow : (10 : ℚ) ^ q.floorLogTen ≤ q.rational := by
    rw [Quotient.floorLogTen_eq_log hPos]
    exact_mod_cast
      Int.zpow_log_le_self (by decide) hRational
  have hHigh :
      q.rational < (10 : ℚ) ^ (q.floorLogTen + 1) := by
    rw [Quotient.floorLogTen_eq_log hPos]
    exact_mod_cast
      Int.lt_zpow_succ_log_self (by decide) q.rational
  have hPlaces :
      ((precision - 1 : ℕ) : ℤ) = precision - 1 := by omega
  rw [Quotient.rational_shiftTen]
  constructor
  · calc
      (10 : ℚ) ^ (precision - 1)
      _ = 10 ^ q.floorLogTen *
            10 ^ ((precision : ℤ) - 1 - q.floorLogTen) := by
          rw [← zpow_natCast, ← zpow_add₀ hTen, hPlaces]
          congr 1
          ring
      _ ≤ q.rational *
            10 ^ ((precision : ℤ) - 1 - q.floorLogTen) := by
          gcongr
  · calc
      q.rational * 10 ^ ((precision : ℤ) - 1 - q.floorLogTen)
      _ < 10 ^ (q.floorLogTen + 1) *
            10 ^ ((precision : ℤ) - 1 - q.floorLogTen) := by
          gcongr
      _ = 10 ^ precision := by
          rw [← zpow_natCast, ← zpow_add₀ hTen]
          congr 1
          ring

/- The digits of a quotient, which may have carried. -/
theorem round_shiftTen_bounds
    (hPrecision : 0 < precision)
    (hPos : 0 < q.num) :
    10 ^ (precision - 1) ≤
        (q.shiftTen (precision - 1 - q.floorLogTen)).round ∧
      (q.shiftTen (precision - 1 - q.floorLogTen)).round ≤
        10 ^ precision := by
  rcases rational_shiftTen_bounds hPrecision hPos with
    ⟨hLow, hHigh⟩
  have hRoundLow :
      ((10 ^ (precision - 1) : ℕ) : ℤ) ≤
        (q.shiftTen (precision - 1 - q.floorLogTen)).round := by
    rw [← Quotient.nearestEven_rational]
    apply le_nearestEven
    exact_mod_cast hLow
  have hRoundHigh :
      ((q.shiftTen
          (precision - 1 - q.floorLogTen)).round : ℤ) ≤
        ((10 ^ precision : ℕ) : ℤ) := by
    rw [← Quotient.nearestEven_rational]
    apply nearestEven_le
    exact_mod_cast hHigh.le
  exact ⟨by exact_mod_cast hRoundLow,
    by exact_mod_cast hRoundHigh⟩

/- A quotient is rounded at the place that it gives. -/
theorem roundSignificant_rational
    (hPos : 0 < q.num)
    (precision : ℕ) :
    roundSignificant precision q.rational =
      (q.shiftTen (precision - 1 - q.floorLogTen)).round *
        10 ^ (q.floorLogTen - (precision - 1)) := by
  have hAbs := abs_of_pos (Quotient.rational_pos hPos)
  unfold roundSignificant decimalExponent
  rw [hAbs, ← Quotient.floorLogTen_eq_log hPos,
    ← Quotient.rational_shiftTen,
    Quotient.nearestEven_rational]
  norm_num

/-
  Digits that carried are rounded to a power of ten one
  place further to the left, too.
-/
theorem round_of_carry
    (hCarry :
      (q.shiftTen (precision - 1 - q.floorLogTen)).round =
        10 ^ precision)
    (hPrecision : 0 < precision) :
    (q.shiftTen
        (precision - 1 - (q.floorLogTen + 1))).round =
      10 ^ (precision - 1) := by
  have hTen : (10 : ℚ) ≠ 0 := by norm_num
  have hHalf :=
    (isNearestEven_nearestEven
      (q.shiftTen
        (precision - 1 - q.floorLogTen)).rational).1
  rw [Quotient.nearestEven_rational, hCarry] at hHalf
  have hTenth :
      (q.shiftTen
          (precision - 1 - (q.floorLogTen + 1))).rational =
        (q.shiftTen
          (precision - 1 - q.floorLogTen)).rational / 10 := by
    rw [Quotient.rational_shiftTen,
      Quotient.rational_shiftTen, mul_div_assoc]
    congr 1
    rw [← sub_sub, zpow_sub_one₀ hTen, div_eq_mul_inv]
  have hPower :
      (10 : ℚ) ^ precision = 10 * 10 ^ (precision - 1) := by
    rw [← pow_succ', Nat.sub_add_cancel hPrecision]
  have hNear :
      |(q.shiftTen
            (precision - 1 - (q.floorLogTen + 1))).rational -
          ((10 ^ (precision - 1) : ℤ) : ℚ)| < 1 / 2 := by
    push_cast at hHalf ⊢
    rw [abs_le, hPower] at hHalf
    rw [abs_lt, hTenth]
    constructor <;> linarith
  have hRound := nearestEven_of_abs_lt hNear
  rw [Quotient.nearestEven_rational] at hRound
  exact_mod_cast hRound

/- Rounding a quotient gives its significant digits. -/
theorem isRounding_ofQuotient
    (hPrecision : 0 < precision)
    (hPos : 0 < q.num) :
    (ofQuotient precision q).IsRounding precision q := by
  have hTen : (10 : ℚ) ≠ 0 := by norm_num
  have hPlaces :
      ((precision - 1 : ℕ) : ℤ) = precision - 1 := by omega
  have hValue := roundSignificant_rational hPos precision
  rcases round_shiftTen_bounds hPrecision hPos with
    ⟨hLow, hHigh⟩
  unfold ofQuotient
  simp only [Nat.pow_eq]
  split
  · rename_i hCarry
    refine ⟨le_rfl, ?_, ?_, round_of_carry hCarry hPrecision⟩
    · exact Nat.pow_lt_pow_right (by decide) (by omega)
    · rw [hValue, hCarry]
      unfold rational
      push_cast
      rw [← zpow_natCast, ← zpow_natCast, ← zpow_add₀ hTen,
        ← zpow_add₀ hTen, hPlaces]
      congr 1
      ring
  · rename_i hNoCarry
    refine ⟨hLow, lt_of_le_of_ne hHigh hNoCarry, ?_, rfl⟩
    rw [hValue]
    rfl

end Scientific

------------------------------------------------------------
-- Fixed Places
------------------------------------------------------------

/-
  Rounding to fixed places, as many as leave the significant
  digits of the rounded quotient, comes to these digits.
-/
theorem fixed_eq_withPoint
    {precision : ℕ}
    {q : Quotient}
    {s : Scientific}
    (hRounding : s.IsRounding precision q)
    (hExponent : s.exponent < precision) :
    fixed (precision - 1 - s.exponent).toNat q =
      withPoint (precision - 1 - s.exponent).toNat
        s.significand := by
  have hPlaces :
      ((precision - 1 - s.exponent).toNat : ℤ) =
        precision - 1 - s.exponent :=
    Int.toNat_of_nonneg (by omega)
  unfold fixed
  rw [hPlaces, hRounding.again]

end Decimal

end FactLayout
