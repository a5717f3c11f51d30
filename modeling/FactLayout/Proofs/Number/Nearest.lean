import FactLayout.Proofs.Number.General

/-
  The nearest patterns of a format.

  Without their signs, the patterns of a format count the
  values up from zero.  The values come in steps, and within
  a step they are multiples of one unit; the unit doubles
  from step to step.  Rounding takes the nearest multiple of
  the unit of its step, and no value outside the step is
  nearer.

  Key definitions include:
    * `BinaryFormat.unit`
    * `BinaryFormat.magnitude`
    * `BinaryFormat.overflow`
    * `BinaryFormat.Rounds`

  Main results:
    * `BinaryFormat.magnitude_strictMono`
    * `BinaryFormat.Rounds.abs_sub_le`
    * `BinaryFormat.Rounds.lt_infinity_iff`
    * `BinaryFormat.nearest_lt_infinity_iff`
    * `BinaryFormat.isNearest_withSign_nearest`
-/

------------------------------------------------------------
-- Patterns Without a Sign
------------------------------------------------------------

namespace FactLayout

namespace BinaryFormat

/- The distance of neighbouring values in a step. -/
def unit
    (f : BinaryFormat)
    (step : ℕ) : ℚ :=
  2 ^ (f.minExponent + step)

/-
  The number that a pattern without a sign stands for, as if
  none stood for infinity.
-/
def magnitude
    (f : BinaryFormat)
    (bits : ℕ) : ℚ :=
  if bits / 2 ^ f.fraction = 0 then
    ((bits % 2 ^ f.fraction : ℕ) : ℚ) * f.unit 0
  else
    ((2 ^ f.fraction + bits % 2 ^ f.fraction : ℕ) : ℚ) *
      f.unit (bits / 2 ^ f.fraction - 1)

section

variable {f : BinaryFormat}

theorem unit_pos
    (f : BinaryFormat)
    (step : ℕ) :
    0 < f.unit step := by
  unfold unit
  positivity

/- The unit doubles from step to step. -/
theorem unit_add
    (f : BinaryFormat)
    (step more : ℕ) :
    f.unit (step + more) = 2 ^ more * f.unit step := by
  have hTwo : (2 : ℚ) ≠ 0 := by norm_num
  unfold unit
  rw [← zpow_natCast, ← zpow_add₀ hTwo]
  congr 1
  push_cast
  ring

theorem unit_succ
    (f : BinaryFormat)
    (step : ℕ) :
    f.unit (step + 1) = 2 * f.unit step := by
  rw [unit_add, pow_one]

theorem unit_monotone
    (f : BinaryFormat) :
    Monotone f.unit := by
  apply monotone_nat_of_le_succ
  intro step
  rw [unit_succ]
  linarith [f.unit_pos step]

/-
  A pattern is a step and a number of units.  All steps but
  the first begin at the middle of their range.
-/
theorem magnitude_units
    {step units : ℕ}
    (hLow : step = 0 ∨ 2 ^ f.fraction ≤ units)
    (hHigh : units ≤ 2 ^ (f.fraction + 1)) :
    f.magnitude (step * 2 ^ f.fraction + units) =
      units * f.unit step := by
  have hPower : 0 < 2 ^ f.fraction := Nat.two_pow_pos _
  have hTwice : 2 ^ (f.fraction + 1) = 2 * 2 ^ f.fraction := by
    rw [pow_succ, mul_comm]
  rcases Nat.lt_or_ge units (2 ^ f.fraction) with
    hFew | hMany
  · have hStep : step = 0 := hLow.resolve_right (by omega)
    unfold magnitude
    rw [hStep, zero_mul, zero_add, Nat.div_eq_of_lt hFew,
      Nat.mod_eq_of_lt hFew, if_pos rfl]
  · rcases Nat.lt_or_ge units (2 ^ (f.fraction + 1)) with
      hInside | hOutside
    · have hBits :
          step * 2 ^ f.fraction + units =
            units - 2 ^ f.fraction +
              2 ^ f.fraction * (step + 1) := by
        rw [mul_add, mul_one, mul_comm step]
        omega
      have hRest : units - 2 ^ f.fraction < 2 ^ f.fraction := by
        omega
      unfold magnitude
      rw [hBits, Nat.add_mul_div_left _ _ hPower,
        Nat.add_mul_mod_self_left, Nat.div_eq_of_lt hRest,
        Nat.mod_eq_of_lt hRest, zero_add,
        if_neg (Nat.succ_ne_zero step),
        Nat.add_sub_cancel' hMany, Nat.add_sub_cancel]
    · -- The range is full, and the next step begins.
      have hUnits : units = 2 ^ (f.fraction + 1) :=
        le_antisymm hHigh hOutside
      have hBits :
          step * 2 ^ f.fraction + units =
            0 + 2 ^ f.fraction * (step + 2) := by
        rw [hUnits, hTwice]
        ring
      unfold magnitude
      rw [hBits, Nat.add_mul_div_left _ _ hPower,
        Nat.add_mul_mod_self_left, Nat.zero_div,
        Nat.zero_mod, zero_add,
        if_neg (Nat.succ_ne_zero (step + 1)), add_zero,
        Nat.add_sub_assoc (by decide), unit_succ, hUnits,
        hTwice]
      push_cast
      ring

/- Every pattern is a step and a number of units. -/
theorem exists_units
    (f : BinaryFormat)
    (bits : ℕ) :
    ∃ step units,
      bits = step * 2 ^ f.fraction + units ∧
        (step = 0 ∨ 2 ^ f.fraction ≤ units) ∧
        units < 2 ^ (f.fraction + 1) := by
  have hPower : 0 < 2 ^ f.fraction := Nat.two_pow_pos _
  have hTwice : 2 ^ (f.fraction + 1) = 2 * 2 ^ f.fraction := by
    rw [pow_succ, mul_comm]
  have hSplit := Nat.div_add_mod bits (2 ^ f.fraction)
  have hRest := Nat.mod_lt bits hPower
  cases hField : bits / 2 ^ f.fraction with
  | zero =>
      rw [hField, mul_zero, zero_add] at hSplit
      exact ⟨0, bits % 2 ^ f.fraction, by omega, .inl rfl,
        by omega⟩
  | succ step =>
      rw [hField, mul_add, mul_one] at hSplit
      refine ⟨step, 2 ^ f.fraction + bits % 2 ^ f.fraction,
        ?_, .inr (Nat.le_add_right _ _), by omega⟩
      rw [mul_comm step]
      omega

/- The patterns count the values up. -/
theorem magnitude_strictMono
    (f : BinaryFormat) :
    StrictMono f.magnitude := by
  apply strictMono_nat_of_lt_succ
  intro bits
  rcases f.exists_units bits with
    ⟨step, units, rfl, hLow, hHigh⟩
  have hNext :
      step * 2 ^ f.fraction + units + 1 =
        step * 2 ^ f.fraction + (units + 1) := rfl
  rw [hNext, magnitude_units hLow hHigh.le,
    magnitude_units (hLow.imp_right Nat.le_succ_of_le) hHigh]
  have hUnit := f.unit_pos step
  push_cast
  linarith

theorem magnitude_zero
    (f : BinaryFormat) :
    f.magnitude 0 = 0 := by
  simp [magnitude]

theorem magnitude_nonneg
    (f : BinaryFormat)
    (bits : ℕ) :
    0 ≤ f.magnitude bits := by
  rw [← f.magnitude_zero]
  exact f.magnitude_strictMono.monotone (Nat.zero_le bits)

------------------------------------------------------------
-- Rounding Within a Step
------------------------------------------------------------

/-
  A number in the range of a step, and the number of units
  that it is rounded to.
-/
structure Rounds
    (f : BinaryFormat)
    (x : ℚ)
    (step units : ℕ) : Prop where
  nearest : IsNearestEven (x / f.unit step) units
  low : step = 0 ∨ 2 ^ f.fraction * f.unit step ≤ x
  high : x < 2 ^ (f.fraction + 1) * f.unit step

/- Distances to multiples of a unit, in units. -/
theorem abs_sub_mul_unit
    (f : BinaryFormat)
    (x : ℚ)
    (step : ℕ)
    (k : ℤ) :
    |x - k * f.unit step| =
      |x / f.unit step - k| * f.unit step := by
  have hUnit := f.unit_pos step
  have hScale :
      x - k * f.unit step =
        (x / f.unit step - k) * f.unit step := by
    field_simp
  rw [hScale, abs_mul, abs_of_pos hUnit]

namespace Rounds

variable {x : ℚ}
variable {step units : ℕ}

/- Rounding does not leave the range of the step. -/
theorem units_bounds
    (hRounds : f.Rounds x step units) :
    (step = 0 ∨ 2 ^ f.fraction ≤ units) ∧
      units ≤ 2 ^ (f.fraction + 1) := by
  have hUnit := f.unit_pos step
  have hUnits := nearestEven_eq_iff.mpr hRounds.nearest
  constructor
  · apply hRounds.low.imp_right
    intro hLow
    have hScaled :
        (((2 ^ f.fraction : ℕ) : ℤ) : ℚ) ≤
          x / f.unit step := by
      rw [le_div_iff₀ hUnit]
      exact_mod_cast hLow
    have hInt := le_nearestEven hScaled
    rw [hUnits] at hInt
    exact_mod_cast hInt
  · have hScaled :
        x / f.unit step ≤
          (((2 ^ (f.fraction + 1) : ℕ) : ℤ) : ℚ) := by
      rw [div_le_iff₀ hUnit]
      exact_mod_cast hRounds.high.le
    have hInt := nearestEven_le hScaled
    rw [hUnits] at hInt
    exact_mod_cast hInt

/- The pattern that a number is rounded to. -/
theorem magnitude_eq
    (hRounds : f.Rounds x step units) :
    f.magnitude (step * 2 ^ f.fraction + units) =
      units * f.unit step :=
  magnitude_units hRounds.units_bounds.1
    hRounds.units_bounds.2

/-
  Any value is a multiple of the unit, unless it lies below
  the range of the step.
-/
theorem multiple_or_lt
    (hRounds : f.Rounds x step units)
    (bits : ℕ) :
    (∃ k : ℤ, f.magnitude bits = k * f.unit step) ∨
      f.magnitude bits < 2 ^ f.fraction * f.unit step ∧
        2 ^ f.fraction * f.unit step ≤ x := by
  rcases f.exists_units bits with
    ⟨other, count, rfl, hLow, hHigh⟩
  rw [magnitude_units hLow hHigh.le]
  rcases Nat.lt_or_ge other step with hBelow | hAbove
  · right
    refine ⟨?_, hRounds.low.resolve_left (by omega)⟩
    have hUnit := f.unit_pos other
    have hLater : f.unit (other + 1) ≤ f.unit step :=
      f.unit_monotone hBelow
    have hCount : (count : ℚ) < 2 ^ (f.fraction + 1) := by
      exact_mod_cast hHigh
    calc
      count * f.unit other
      _ < 2 ^ (f.fraction + 1) * f.unit other := by gcongr
      _ = 2 ^ f.fraction * f.unit (other + 1) := by
          rw [unit_succ]
          ring
      _ ≤ 2 ^ f.fraction * f.unit step := by gcongr
  · left
    rcases Nat.exists_eq_add_of_le hAbove with ⟨more, rfl⟩
    refine ⟨count * 2 ^ more, ?_⟩
    rw [unit_add]
    push_cast
    ring

/- No multiple of the unit is nearer. -/
theorem abs_sub_le_multiple
    (hRounds : f.Rounds x step units)
    (k : ℤ) :
    |x - f.magnitude (step * 2 ^ f.fraction + units)| ≤
      |x - k * f.unit step| := by
  have hUnit := f.unit_pos step
  have hUnits := f.abs_sub_mul_unit x step units
  have hNearest := hRounds.nearest.abs_sub_le_abs_sub k
  push_cast at hUnits hNearest
  rw [hRounds.magnitude_eq, hUnits, abs_sub_mul_unit]
  gcongr

/- A value below the range of the step is farther. -/
theorem abs_sub_lt_of_lt
    (hRounds : f.Rounds x step units)
    {y : ℚ}
    (hBelow : y < 2 ^ f.fraction * f.unit step)
    (hLow : 2 ^ f.fraction * f.unit step ≤ x) :
    |x - f.magnitude (step * 2 ^ f.fraction + units)| <
      |x - y| := by
  have hFirst := hRounds.abs_sub_le_multiple (2 ^ f.fraction)
  push_cast at hFirst
  calc
    |x - f.magnitude (step * 2 ^ f.fraction + units)|
    _ ≤ |x - 2 ^ f.fraction * f.unit step| := hFirst
    _ = x - 2 ^ f.fraction * f.unit step :=
        abs_of_nonneg (by linarith)
    _ < x - y := by linarith
    _ ≤ |x - y| := le_abs_self _

/- No value is nearer. -/
theorem abs_sub_le
    (hRounds : f.Rounds x step units)
    (bits : ℕ) :
    |x - f.magnitude (step * 2 ^ f.fraction + units)| ≤
      |x - f.magnitude bits| := by
  rcases hRounds.multiple_or_lt bits with
    ⟨k, hMultiple⟩ | ⟨hBelow, hLow⟩
  · rw [hMultiple]
    exact hRounds.abs_sub_le_multiple k
  · exact (hRounds.abs_sub_lt_of_lt hBelow hLow).le

/- If another value is as near, the pattern is even. -/
theorem even_of_tie
    (hRounds : f.Rounds x step units)
    (hFraction : 0 < f.fraction)
    {bits : ℕ}
    (hNe : bits ≠ step * 2 ^ f.fraction + units)
    (hTie :
      |x - f.magnitude bits| =
        |x - f.magnitude (step * 2 ^ f.fraction + units)|) :
    Even (step * 2 ^ f.fraction + units) := by
  have hUnit := f.unit_pos step
  rcases hRounds.multiple_or_lt bits with
    ⟨k, hMultiple⟩ | ⟨hBelow, hLow⟩
  · have hOther : k ≠ units := by
      intro hEq
      apply hNe
      apply f.magnitude_strictMono.injective
      rw [hMultiple, hRounds.magnitude_eq, hEq]
      push_cast
      rfl
    have hUnits := f.abs_sub_mul_unit x step units
    push_cast at hUnits
    rw [hRounds.magnitude_eq, hMultiple, hUnits,
      abs_sub_mul_unit] at hTie
    have hEven : Even (units : ℤ) := by
      apply hRounds.nearest.even_of_tie hOther
      push_cast
      exact mul_right_cancel₀ hUnit.ne' hTie
    have hPower : Even (2 ^ f.fraction) :=
      (Nat.even_pow.mpr ⟨by decide, hFraction.ne'⟩)
    exact (hPower.mul_left step).add (by exact_mod_cast hEven)
  · have hLess := hRounds.abs_sub_lt_of_lt hBelow hLow
    rw [hTie] at hLess
    exact absurd hLess (lt_irrefl _)

end Rounds

------------------------------------------------------------
-- Overflow
------------------------------------------------------------

/- The step of the greatest finite values. -/
def lastStep (f : BinaryFormat) : ℕ :=
  2 ^ f.exponent - 3

/-
  The number halfway between the greatest finite value and
  the one that would come next.
-/
def overflow (f : BinaryFormat) : ℚ :=
  (2 ^ (f.fraction + 1) - 1 / 2) * f.unit f.lastStep

/- Infinity comes next to the greatest finite value. -/
theorem infinity_eq
    (hExponent : 2 ≤ f.exponent) :
    f.infinity =
      f.lastStep * 2 ^ f.fraction + 2 ^ (f.fraction + 1) := by
  have hPower : 2 ^ 2 ≤ 2 ^ f.exponent :=
    Nat.pow_le_pow_right (by decide) hExponent
  have hField : 2 ^ f.exponent - 1 = f.lastStep + 2 := by
    unfold lastStep
    omega
  unfold infinity
  rw [Nat.pow_eq, Nat.pow_eq, hField, pow_succ]
  ring

/-
  Numbers round below an even integer exactly if they are
  more than half a unit below it.
-/
theorem lt_of_isNearestEven_iff
    {x : ℚ}
    {n k : ℤ}
    (hNearest : IsNearestEven x n)
    (hEven : Even k) :
    n < k ↔ x < k - 1 / 2 := by
  have hHalf := abs_le.mp hNearest.1
  constructor
  · intro hLess
    have hCast : (n : ℚ) ≤ k - 1 := by
      have hInt : n ≤ k - 1 := by omega
      exact_mod_cast hInt
    refine lt_of_le_of_ne (by linarith [hHalf.2]) ?_
    intro hEq
    have hTie : |x - n| = 1 / 2 := by
      rw [abs_of_nonneg (by linarith)]
      linarith [hHalf.2]
    have hNext : n = k - 1 := by
      have hLower : (k : ℚ) - 1 ≤ n := by linarith [hHalf.2]
      have hInt : k - 1 ≤ n := by exact_mod_cast hLower
      omega
    have hOne : Even (k - n) := hEven.sub (hNearest.2 hTie)
    rw [hNext, sub_sub_cancel] at hOne
    exact absurd hOne (by decide)
  · intro hLess
    have hCast : (n : ℚ) < k := by linarith [hHalf.1]
    exact_mod_cast hCast

/-
  The range of a step, and the numbers that round to finite
  patterns.
-/
theorem Rounds.lt_infinity_iff
    {x : ℚ}
    {step units : ℕ}
    (hRounds : f.Rounds x step units)
    (hExponent : 2 ≤ f.exponent) :
    step * 2 ^ f.fraction + units < f.infinity ↔
      x < f.overflow := by
  have hUnit := f.unit_pos step
  have hLast := f.unit_pos f.lastStep
  have hPower : 0 < 2 ^ f.fraction := Nat.two_pow_pos _
  have hRange : (1 : ℚ) ≤ 2 ^ f.fraction :=
    one_le_pow₀ (by norm_num)
  have hTwice : 2 ^ (f.fraction + 1) = 2 * 2 ^ f.fraction := by
    rw [pow_succ, mul_comm]
  rcases hRounds.units_bounds with ⟨hFew, hMany⟩
  rw [infinity_eq hExponent]
  unfold overflow
  rcases Nat.lt_trichotomy step f.lastStep with
    hBelow | rfl | hAbove
  · have hSteps :
        (step + 1) * 2 ^ f.fraction ≤
          f.lastStep * 2 ^ f.fraction :=
      Nat.mul_le_mul_right _ hBelow
    have hNext : f.unit (step + 1) ≤ f.unit f.lastStep :=
      f.unit_monotone hBelow
    have hHigh := hRounds.high
    rw [unit_succ] at hNext
    rw [add_mul, one_mul] at hSteps
    refine iff_of_true (by omega) ?_
    calc
      x
      _ < 2 ^ (f.fraction + 1) * f.unit step := hHigh
      _ = 2 ^ f.fraction * (2 * f.unit step) := by ring
      _ ≤ 2 ^ f.fraction * f.unit f.lastStep := by gcongr
      _ ≤ (2 ^ (f.fraction + 1) - 1 / 2) *
            f.unit f.lastStep := by
          gcongr
          rw [pow_succ]
          linarith
  · have hEven : Even (2 ^ (f.fraction + 1) : ℤ) :=
      Int.even_pow.mpr ⟨by decide, by omega⟩
    have hLess := lt_of_isNearestEven_iff hRounds.nearest hEven
    rw [div_lt_iff₀ hUnit] at hLess
    push_cast at hLess
    rw [Nat.add_lt_add_iff_left, ← hLess]
    exact_mod_cast Iff.rfl
  · have hSteps :
        (f.lastStep + 1) * 2 ^ f.fraction ≤
          step * 2 ^ f.fraction :=
      Nat.mul_le_mul_right _ hAbove
    have hNext : f.unit (f.lastStep + 1) ≤ f.unit step :=
      f.unit_monotone hAbove
    have hUnits := hFew.resolve_left (by omega)
    have hLow := hRounds.low.resolve_left (by omega)
    rw [unit_succ] at hNext
    rw [add_mul, one_mul] at hSteps
    refine iff_of_false (by omega) (not_lt.mpr ?_)
    calc
      (2 ^ (f.fraction + 1) - 1 / 2) * f.unit f.lastStep
      _ ≤ 2 ^ (f.fraction + 1) * f.unit f.lastStep := by
          gcongr
          linarith
      _ = 2 ^ f.fraction * (2 * f.unit f.lastStep) := by ring
      _ ≤ 2 ^ f.fraction * f.unit step := by gcongr
      _ ≤ x := hLow

------------------------------------------------------------
-- Rounding Quotients
------------------------------------------------------------

/- The step of a quotient follows from its magnitude. -/
theorem exists_rounds
    (f : BinaryFormat)
    (q : Quotient) :
    ∃ step units,
      f.Rounds q.rational step units ∧
        f.nearest q =
          min f.infinity (step * 2 ^ f.fraction + units) := by
  have hTwo : (2 : ℚ) ≠ 0 := by norm_num
  by_cases hNum : q.num = 0
  · have hZero : q.rational = 0 := by
      simp [Quotient.rational, hNum]
    refine ⟨0, 0, ⟨?_, .inl rfl, ?_⟩, ?_⟩
    · rw [hZero]
      simp [IsNearestEven]
    · rw [hZero]
      have hUnit := f.unit_pos 0
      positivity
    · simp [nearest, hNum]
  · have hPos : 0 < q.num := Nat.pos_of_ne_zero hNum
    have hRational := Quotient.rational_pos hPos
    have hLog := Quotient.floorLogTwo_eq_log hPos
    have hLow :
        (2 : ℚ) ^ q.floorLogTwo ≤ q.rational := by
      rw [hLog]
      exact_mod_cast
        Int.zpow_log_le_self (by decide) hRational
    have hHigh :
        q.rational < (2 : ℚ) ^ (q.floorLogTwo + 1) := by
      rw [hLog]
      exact_mod_cast
        Int.lt_zpow_succ_log_self (by decide) q.rational
    obtain ⟨step, hStep⟩ :
        ∃ step : ℕ,
          max f.minExponent (q.floorLogTwo - f.fraction) =
            f.minExponent + step := by
      refine ⟨(max f.minExponent
        (q.floorLogTwo - f.fraction) - f.minExponent).toNat,
        ?_⟩
      have hLeast :=
        le_max_left f.minExponent (q.floorLogTwo - f.fraction)
      omega
    refine ⟨step,
      (q.shiftTwo (-(f.minExponent + step))).round,
      ⟨?_, ?_, ?_⟩, ?_⟩
    · have hRound :=
        (q.shiftTwo (-(f.minExponent + step))).nearestEven_rational
      rw [nearestEven_eq_iff, Quotient.rational_shiftTwo,
        zpow_neg, ← div_eq_mul_inv] at hRound
      exact hRound
    · by_cases hFirst : step = 0
      · exact .inl hFirst
      · right
        refine le_trans (le_of_eq ?_) hLow
        unfold unit
        rw [← zpow_natCast, ← zpow_add₀ hTwo]
        congr 1
        omega
    · refine lt_of_lt_of_le hHigh ?_
      unfold unit
      rw [← zpow_natCast, ← zpow_add₀ hTwo]
      apply zpow_le_zpow_right₀ (by norm_num)
      push_cast
      omega
    · unfold nearest
      rw [if_neg hNum]
      simp only [hStep, add_sub_cancel_left, Int.toNat_natCast,
        Nat.pow_eq]

/- A quotient rounds to a finite pattern below the overflow. -/
theorem nearest_lt_infinity_iff
    (hExponent : 2 ≤ f.exponent)
    (q : Quotient) :
    f.nearest q < f.infinity ↔ q.rational < f.overflow := by
  rcases f.exists_rounds q with
    ⟨step, units, hRounds, hNearest⟩
  rw [hNearest, ← hRounds.lt_infinity_iff hExponent]
  omega

theorem nearest_le_infinity
    (f : BinaryFormat)
    (q : Quotient) :
    f.nearest q ≤ f.infinity := by
  rcases f.exists_rounds q with ⟨step, units, -, hNearest⟩
  rw [hNearest]
  exact min_le_left _ _

/-
  Below the overflow no value is nearer than the one that a
  quotient rounds to.
-/
theorem exists_rounds_of_lt
    (hExponent : 2 ≤ f.exponent)
    {q : Quotient}
    (hLess : q.rational < f.overflow) :
    ∃ step units,
      f.Rounds q.rational step units ∧
        f.nearest q = step * 2 ^ f.fraction + units := by
  rcases f.exists_rounds q with
    ⟨step, units, hRounds, hNearest⟩
  refine ⟨step, units, hRounds, ?_⟩
  have hFinite := (hRounds.lt_infinity_iff hExponent).mpr hLess
  rw [hNearest]
  exact min_eq_right hFinite.le

------------------------------------------------------------
-- Exact Values
------------------------------------------------------------

/- The finite patterns are those below the overflow. -/
theorem magnitude_lt_overflow_iff
    (hExponent : 2 ≤ f.exponent)
    (bits : ℕ) :
    f.magnitude bits < f.overflow ↔ bits < f.infinity := by
  have hLast := f.unit_pos f.lastStep
  have hPower : 0 < 2 ^ f.fraction := Nat.two_pow_pos _
  have hTwice : 2 ^ (f.fraction + 1) = 2 * 2 ^ f.fraction := by
    rw [pow_succ, mul_comm]
  rw [infinity_eq hExponent]
  unfold overflow
  constructor
  · intro hLess
    by_contra hNot
    have hInfinity :
        ((2 ^ (f.fraction + 1) : ℕ) : ℚ) * f.unit f.lastStep ≤
          f.magnitude bits := by
      rw [← magnitude_units (.inr (by omega)) le_rfl]
      exact f.magnitude_strictMono.monotone (not_lt.mp hNot)
    push_cast at hInfinity
    rw [sub_mul] at hLess
    linarith
  · intro hLess
    have hGreatest :
        f.magnitude bits ≤
          ((2 ^ (f.fraction + 1) - 1 : ℕ) : ℚ) *
            f.unit f.lastStep := by
      rw [← magnitude_units (.inr (by omega))
        (Nat.sub_le _ _)]
      exact f.magnitude_strictMono.monotone (by omega)
    rw [Nat.cast_sub (Nat.one_le_two_pow)] at hGreatest
    push_cast at hGreatest
    rw [sub_mul] at hGreatest ⊢
    linarith

/- A value rounds to its own pattern. -/
theorem nearest_of_rational_eq
    (hExponent : 2 ≤ f.exponent)
    {q : Quotient}
    {bits : ℕ}
    (hFinite : bits < f.infinity)
    (hValue : q.rational = f.magnitude bits) :
    f.nearest q = bits := by
  have hLess : q.rational < f.overflow := by
    rw [hValue]
    exact (magnitude_lt_overflow_iff hExponent bits).mpr hFinite
  rcases exists_rounds_of_lt hExponent hLess with
    ⟨step, units, hRounds, hNearest⟩
  have hNear := hRounds.abs_sub_le bits
  rw [← hValue, sub_self, abs_zero] at hNear
  have hSame :=
    sub_eq_zero.mp (abs_eq_zero.mp
      (le_antisymm hNear (abs_nonneg _)))
  rw [hNearest]
  apply f.magnitude_strictMono.injective
  rw [← hSame, hValue]

/- Few units of any step are a value. -/
theorem exists_magnitude_eq
    (f : BinaryFormat)
    (step : ℕ)
    {units : ℕ}
    (hUnits : units < 2 ^ (f.fraction + 1)) :
    ∃ bits, f.magnitude bits = units * f.unit step := by
  induction step generalizing units with
  | zero => exact ⟨_, magnitude_units (.inl rfl) hUnits.le⟩
  | succ step ih =>
      rcases Nat.lt_or_ge units (2 ^ f.fraction) with
        hFew | hMany
      · have hTwice : 2 * units < 2 ^ (f.fraction + 1) := by
          rw [pow_succ]
          omega
        rcases ih hTwice with ⟨bits, hBits⟩
        refine ⟨bits, ?_⟩
        rw [hBits, unit_succ]
        push_cast
        ring
      · exact ⟨_, magnitude_units (.inr hMany) hUnits.le⟩

/- A wider format has all values of a narrower one. -/
theorem exists_magnitude_widen
    {g : BinaryFormat}
    (hFraction : f.fraction ≤ g.fraction)
    (hExponent : g.minExponent ≤ f.minExponent)
    (bits : ℕ) :
    ∃ wide, g.magnitude wide = f.magnitude bits := by
  rcases f.exists_units bits with
    ⟨step, units, rfl, hLow, hHigh⟩
  have hUnits : units < 2 ^ (g.fraction + 1) :=
    hHigh.trans_le
      (Nat.pow_le_pow_right (by decide) (by omega))
  have hUnit :
      g.unit (step + (f.minExponent - g.minExponent).toNat) =
        f.unit step := by
    unfold unit
    congr 1
    omega
  rcases g.exists_magnitude_eq
      (step + (f.minExponent - g.minExponent).toNat) hUnits
    with ⟨wide, hWide⟩
  refine ⟨wide, ?_⟩
  rw [hWide, hUnit, magnitude_units hLow hHigh.le]

------------------------------------------------------------
-- Patterns With a Sign
------------------------------------------------------------

theorem infinity_lt_signBit
    (f : BinaryFormat) :
    f.infinity < f.signBit := by
  have hFraction : 0 < 2 ^ f.fraction := Nat.two_pow_pos _
  have hExponent : 0 < 2 ^ f.exponent := Nat.two_pow_pos _
  unfold infinity signBit
  simp only [Nat.pow_eq]
  rw [pow_add, mul_comm (2 ^ f.fraction)]
  exact Nat.mul_lt_mul_of_pos_right (by omega) hFraction

/- A finite pattern is its sign and its magnitude. -/
theorem exists_value_eq_finite
    {bits : ℕ}
    (hFinite : bits % f.signBit < f.infinity) :
    ∃ significand exponent,
      f.value bits =
          .finite (decide (f.signBit ≤ bits)) significand
            exponent ∧
        f.magnitude (bits % f.signBit) =
          (BinaryValue.quotient significand
            exponent).rational := by
  unfold value magnitude
  simp only [Nat.pow_eq]
  rw [if_neg (by omega), if_neg (by omega)]
  split
  · refine ⟨_, _, rfl, ?_⟩
    rw [BinaryValue.rational_quotient]
    unfold unit
    rw [Nat.cast_zero, add_zero]
  · rename_i hField
    refine ⟨_, _, rfl, ?_⟩
    rw [BinaryValue.rational_quotient]
    have hStep :
        ((bits % f.signBit / 2 ^ f.fraction - 1 : ℕ) : ℤ) =
          (bits % f.signBit / 2 ^ f.fraction : ℕ) - 1 :=
      Nat.cast_pred (Nat.pos_of_ne_zero hField)
    unfold unit
    rw [hStep, ← add_sub_assoc]

theorem isFinite_value_iff
    {bits : ℕ} :
    (f.value bits).isFinite = true ↔
      bits % f.signBit < f.infinity := by
  constructor
  · intro hFinite
    unfold value at hFinite
    simp only at hFinite
    split at hFinite
    · cases hFinite
    · split at hFinite
      · cases hFinite
      · omega
  · intro hLess
    rcases exists_value_eq_finite hLess with
      ⟨significand, exponent, hValue, -⟩
    rw [hValue]
    rfl

end

end BinaryFormat

namespace BinaryValue

/- The sign of a value. -/
def isNegative : BinaryValue → Bool
| finite negative .. => negative
| infinite negative => negative
| notNumber negative => negative

end BinaryValue

/- A magnitude with a sign. -/
def applySign
    (negative : Bool)
    (x : ℚ) : ℚ :=
  if negative then -x else x

section

variable {x y : ℚ}

@[simp]
theorem applySign_zero
    (negative : Bool) :
    applySign negative 0 = 0 := by
  cases negative <;> simp [applySign]

theorem abs_applySign
    (negative : Bool)
    (x : ℚ) :
    |applySign negative x| = |x| := by
  cases negative <;> simp [applySign]

/- One sign can be taken off both numbers. -/
theorem abs_sub_applySign
    (negative : Bool)
    (x y : ℚ) :
    |applySign negative x - applySign negative y| =
      |x - y| := by
  cases negative with
  | true =>
      unfold applySign
      rw [if_pos rfl, if_pos rfl, neg_sub_neg, abs_sub_comm]
  | false => rfl

/- Magnitudes of different signs lie on both sides of zero. -/
theorem abs_sub_applySign_of_ne
    {negative other : Bool}
    (hSign : other ≠ negative)
    (hx : 0 ≤ x)
    (hy : 0 ≤ y) :
    |applySign negative x - applySign other y| = x + y := by
  have hSum : 0 ≤ x + y := add_nonneg hx hy
  cases negative <;> cases other
  · exact absurd rfl hSign
  · simp [applySign, abs_of_nonneg hSum]
  · simp only [applySign, Bool.false_eq_true, if_true,
      if_false]
    rw [← neg_add', abs_neg, abs_of_nonneg hSum]
  · exact absurd rfl hSign

/- Signs never bring magnitudes nearer together. -/
theorem abs_sub_le_applySign
    (hx : 0 ≤ x)
    (hy : 0 ≤ y)
    (negative other : Bool) :
    |x - y| ≤
      |applySign negative x - applySign other y| := by
  by_cases hSign : other = negative
  · rw [hSign, abs_sub_applySign]
  · rw [abs_sub_applySign_of_ne hSign hx hy, abs_le]
    constructor <;> linarith

end

namespace BinaryFormat

/-
  A finite pattern that no finite pattern is nearer to a
  number than.  If another value is as near, the pattern is
  even.
-/
structure IsNearest
    (f : BinaryFormat)
    (x : ℚ)
    (bits : ℕ) : Prop where
  finite : (f.value bits).isFinite = true
  nearest : ∀ other, (f.value other).isFinite = true →
    |x - (f.value bits).rational| ≤
      |x - (f.value other).rational|
  even : ∀ other, (f.value other).isFinite = true →
    (f.value other).rational ≠ (f.value bits).rational →
    |x - (f.value other).rational| =
        |x - (f.value bits).rational| →
      Even bits

section

variable {f : BinaryFormat}

/- The sign and the magnitude of a finite pattern. -/
theorem value_of_isFinite
    {bits : ℕ}
    (hFinite : (f.value bits).isFinite = true) :
    (f.value bits).isNegative = decide (f.signBit ≤ bits) ∧
      (f.value bits).rational =
        applySign (f.value bits).isNegative
          (f.magnitude (bits % f.signBit)) := by
  rcases exists_value_eq_finite
      (isFinite_value_iff.mp hFinite) with
    ⟨significand, exponent, hValue, hMagnitude⟩
  rw [hValue, hMagnitude, BinaryValue.rational_quotient]
  refine ⟨rfl, ?_⟩
  unfold BinaryValue.rational BinaryValue.isNegative applySign
  cases decide (f.signBit ≤ bits) <;> simp

/- Signs are put on and taken off patterns. -/
theorem withSign_facts
    {bits : ℕ}
    (hBits : bits < f.signBit)
    (negative : Bool) :
    f.withSign negative bits % f.signBit = bits ∧
      decide (f.signBit ≤ f.withSign negative bits) =
        negative := by
  unfold withSign
  cases negative with
  | true => simp [Nat.mod_eq_of_lt hBits]
  | false => simpa [Nat.mod_eq_of_lt hBits] using hBits

/- A finite pattern with a sign put on it. -/
theorem value_withSign
    {bits : ℕ}
    (hFinite : bits < f.infinity)
    (negative : Bool) :
    (f.value (f.withSign negative bits)).isFinite = true ∧
      (f.value (f.withSign negative bits)).isNegative =
        negative ∧
      (f.value (f.withSign negative bits)).rational =
        applySign negative (f.magnitude bits) := by
  rcases withSign_facts
      (hFinite.trans f.infinity_lt_signBit) negative with
    ⟨hBits, hSign⟩
  have hValue :
      (f.value (f.withSign negative bits)).isFinite = true := by
    rw [isFinite_value_iff, hBits]
    exact hFinite
  rcases value_of_isFinite hValue with ⟨hNegative, hRational⟩
  rw [hSign] at hNegative
  rw [hNegative, hBits] at hRational
  exact ⟨hValue, hNegative, hRational⟩

/-
  Below the overflow the pattern that a quotient rounds to,
  with a sign, is the nearest one.
-/
theorem isNearest_withSign_nearest
    (hFraction : 0 < f.fraction)
    (hExponent : 2 ≤ f.exponent)
    {q : Quotient}
    (hLess : q.rational < f.overflow)
    (negative : Bool) :
    f.IsNearest (applySign negative q.rational)
      (f.withSign negative (f.nearest q)) := by
  have hQuotient : 0 ≤ q.rational := by
    unfold Quotient.rational
    positivity
  have hFinite :=
    (nearest_lt_infinity_iff hExponent q).mpr hLess
  rcases value_withSign hFinite negative with
    ⟨hValue, -, hRational⟩
  rcases exists_rounds_of_lt hExponent hLess with
    ⟨step, units, hRounds, hNearest⟩
  have hMagnitude : ∀ bits,
      |q.rational - f.magnitude (f.nearest q)| ≤
        |q.rational - f.magnitude bits| := by
    rw [hNearest]
    exact hRounds.abs_sub_le
  have hOther : ∀ other, (f.value other).isFinite = true →
      |q.rational - f.magnitude (other % f.signBit)| ≤
        |applySign negative q.rational -
          (f.value other).rational| := by
    intro other hFiniteOther
    rw [(value_of_isFinite hFiniteOther).2]
    exact abs_sub_le_applySign hQuotient
      (f.magnitude_nonneg _) _ _
  refine ⟨hValue, ?_, ?_⟩
  · intro other hFiniteOther
    rw [hRational, abs_sub_applySign]
    exact (hMagnitude _).trans (hOther other hFiniteOther)
  · intro other hFiniteOther hNe hTie
    rw [hRational] at hNe hTie
    have hOtherValue := (value_of_isFinite hFiniteOther).2
    have hBits : other % f.signBit ≠ f.nearest q := by
      intro hEq
      rw [hEq] at hOtherValue
      by_cases hSign :
          (f.value other).isNegative = negative
      · rw [hSign] at hOtherValue
        exact hNe hOtherValue
      · -- A tie across zero leaves no magnitude at all.
        have hZero := hMagnitude 0
        rw [hOtherValue, abs_sub_applySign,
          abs_sub_applySign_of_ne hSign hQuotient
            (f.magnitude_nonneg _)] at hTie
        rw [← hTie, magnitude_zero, sub_zero,
          abs_of_nonneg hQuotient] at hZero
        have hNone : f.magnitude (f.nearest q) = 0 :=
          le_antisymm (by linarith) (f.magnitude_nonneg _)
        rw [hNone, applySign_zero] at hOtherValue hNe
        exact hNe hOtherValue
    have hSame :
        |q.rational - f.magnitude (other % f.signBit)| =
          |q.rational - f.magnitude (f.nearest q)| := by
      apply le_antisymm _ (hMagnitude _)
      rw [abs_sub_applySign] at hTie
      rw [← hTie]
      exact hOther other hFiniteOther
    have hEven : Even (f.nearest q) := by
      rw [hNearest] at hBits hSame ⊢
      exact hRounds.even_of_tie hFraction hBits hSame
    unfold withSign signBit
    cases negative with
    | true =>
        have hPower : Even (2 ^ (f.fraction + f.exponent)) :=
          Nat.even_pow.mpr ⟨by decide, by omega⟩
        exact hPower.add hEven
    | false => exact hEven

/- A finite pattern is nearest to its own value. -/
theorem isNearest_self
    {bits : ℕ}
    (hFinite : (f.value bits).isFinite = true) :
    f.IsNearest (f.value bits).rational bits := by
  refine ⟨hFinite, ?_, ?_⟩
  · intro other _
    rw [sub_self, abs_zero]
    exact abs_nonneg _
  · intro other _ hNe hTie
    rw [sub_self, abs_zero, abs_eq_zero, sub_eq_zero] at hTie
    exact absurd hTie.symm hNe

end

end BinaryFormat

end FactLayout
