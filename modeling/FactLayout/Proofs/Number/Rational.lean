import FactLayout.Number.Rounding
import Mathlib.Data.Int.Log
import Mathlib.Data.Rat.Floor
import Mathlib.Tactic.FieldSimp
import Mathlib.Tactic.Linarith

/-
  Quotients as rational numbers.

  What the arithmetic on quotients computes is said here in
  terms of the rational numbers that quotients stand for:
  shifting multiplies by a power, rounding goes to a nearest
  integer and to the even one of two, and the magnitude is
  the integer part of the logarithm.

  Key definitions include:
    * `IsNearestEven`
    * `nearestEven`
    * `Quotient.rational`

  Main results:
    * `nearestEven_eq_iff`
    * `Quotient.rational_shiftTen`
    * `Quotient.nearestEven_rational`
    * `Quotient.floorLogTen_eq_log`
    * `Quotient.floorLogTwo_eq_log`
-/

------------------------------------------------------------
-- Nearest Integers
------------------------------------------------------------

namespace FactLayout

/-
  No integer is nearer to the number, and if another one is
  as near then this one is even.
-/
def IsNearestEven
    (x : ℚ)
    (n : ℤ) : Prop :=
  |x - n| ≤ 1 / 2 ∧ (|x - n| = 1 / 2 → Even n)

/- The nearest integer, ties to even. -/
def nearestEven (x : ℚ) : ℤ :=
  if x - ⌊x⌋ < 1 / 2 ∨ x - ⌊x⌋ = 1 / 2 ∧ Even ⌊x⌋ then ⌊x⌋
  else ⌊x⌋ + 1

section

variable {x : ℚ}
variable {m n : ℤ}

theorem isNearestEven_nearestEven
    (x : ℚ) :
    IsNearestEven x (nearestEven x) := by
  have hLow := Int.floor_le x
  have hHigh := Int.lt_floor_add_one x
  unfold IsNearestEven nearestEven
  split
  · rename_i hDown
    rw [abs_of_nonneg (by linarith)]
    constructor
    · rcases hDown with hLess | ⟨hTie, -⟩
      · exact hLess.le
      · exact hTie.le
    · intro hTie
      rcases hDown with hLess | ⟨-, hEven⟩
      · exact absurd hTie hLess.ne
      · exact hEven
  · rename_i hUp
    push Not at hUp
    rcases hUp with ⟨hHalf, hOdd⟩
    have hBelow : x - ((⌊x⌋ + 1 : ℤ) : ℚ) ≤ 0 := by
      push_cast
      linarith
    rw [abs_of_nonpos hBelow]
    push_cast
    constructor
    · linarith
    · intro hTie
      have hMiddle : x - ⌊x⌋ = 1 / 2 := by linarith
      exact (Int.not_even_iff_odd.mp (hOdd hMiddle)).add_one

/- Two integers are at least one unit apart. -/
theorem one_le_abs_sub
    (hNe : m ≠ n) :
    (1 : ℚ) ≤ |(m : ℚ) - n| := by
  have hInt : 1 ≤ |m - n| :=
    Int.one_le_abs (sub_ne_zero.mpr hNe)
  exact_mod_cast hInt

/- Two integers are not both nearer than half their gap. -/
theorem abs_sub_le_add
    (m n : ℤ)
    (x : ℚ) :
    |(m : ℚ) - n| ≤ |x - m| + |x - n| := by
  have hTriangle := abs_sub_le (m : ℚ) x n
  rwa [abs_sub_comm (m : ℚ) x] at hTriangle

/- No integer is nearer than the nearest one. -/
theorem IsNearestEven.abs_sub_le_abs_sub
    (hn : IsNearestEven x n)
    (m : ℤ) :
    |x - n| ≤ |x - m| := by
  by_cases hEq : m = n
  · rw [hEq]
  · have hGap := one_le_abs_sub hEq
    have hSplit := abs_sub_le_add m n x
    linarith [hn.1]

/- If another integer is as near, the nearest one is even. -/
theorem IsNearestEven.even_of_tie
    (hn : IsNearestEven x n)
    (hNe : m ≠ n)
    (hTie : |x - m| = |x - n|) :
    Even n := by
  have hGap := one_le_abs_sub hNe
  have hSplit := abs_sub_le_add m n x
  apply hn.2
  linarith [hn.1]

/- There is one nearest integer only. -/
theorem IsNearestEven.eq
    (hm : IsNearestEven x m)
    (hn : IsNearestEven x n) :
    m = n := by
  by_contra hNe
  have hGap := one_le_abs_sub hNe
  have hSplit := abs_sub_le_add m n x
  have hTie : |x - m| = |x - n| := by
    linarith [hm.1, hn.1]
  have hUnit : |m - n| = 1 := by
    have hLess : |(m : ℚ) - n| ≤ 1 := by
      linarith [hm.1, hn.1]
    have hOne : |m - n| ≤ 1 := by exact_mod_cast hLess
    have hSome : 1 ≤ |m - n| := by exact_mod_cast hGap
    omega
  have hEven : Even (m - n) :=
    (hm.even_of_tie (Ne.symm hNe) hTie.symm).sub
      (hn.even_of_tie hNe hTie)
  rw [← even_abs, hUnit] at hEven
  exact absurd hEven (by decide)

theorem nearestEven_eq_iff :
    nearestEven x = n ↔ IsNearestEven x n := by
  constructor
  · rintro rfl
    exact isNearestEven_nearestEven x
  · intro hNearest
    exact (isNearestEven_nearestEven x).eq hNearest

/- Less than half a unit decides. -/
theorem nearestEven_of_abs_lt
    (hNear : |x - n| < 1 / 2) :
    nearestEven x = n :=
  nearestEven_eq_iff.mpr
    ⟨hNear.le, fun hTie => absurd hTie hNear.ne⟩

/- Rounding does not depend on the sign. -/
theorem nearestEven_neg
    (x : ℚ) :
    nearestEven (-x) = -nearestEven x := by
  rcases isNearestEven_nearestEven x with ⟨hHalf, hEven⟩
  have hAbs :
      |-x - ((-nearestEven x : ℤ) : ℚ)| =
        |x - nearestEven x| := by
    rw [← abs_neg]
    congr 1
    push_cast
    ring
  apply nearestEven_eq_iff.mpr
  unfold IsNearestEven
  rw [hAbs]
  exact ⟨hHalf, fun hTie => (hEven hTie).neg⟩

end

------------------------------------------------------------
-- Division to the Nearest Integer
------------------------------------------------------------

/- Of two quotients that are as near the even one is taken. -/
theorem even_divNearest
    {num den : Nat}
    (hDen : 0 < den)
    (hTie :
      2 * num = (2 * divNearest num den + 1) * den ∨
        2 * num + den = 2 * divNearest num den * den) :
    Even (divNearest num den) := by
  have hDiv := Nat.div_add_mod num den
  have hMod := Nat.mod_lt num hDen
  unfold divNearest at *
  simp only at *
  split at hTie
  · rename_i hLow
    have hUnits :
        2 * (num / den) * den = 2 * (den * (num / den)) := by
      ring
    have hHalf : 2 * (num % den) = den := by
      rw [Nat.add_mul, hUnits] at hTie
      omega
    rw [if_pos hLow]
    rcases hLow with hLow | ⟨-, hEven⟩
    · omega
    · exact Nat.even_iff.mpr hEven
  · rename_i hHigh
    have hUnits :
        2 * (num / den + 1) * den =
          2 * (den * (num / den)) + 2 * den := by
      ring
    have hHalf : 2 * (num % den) = den := by
      rw [Nat.add_mul, hUnits] at hTie
      omega
    have hOdd : ¬ num / den % 2 = 0 := by
      intro hEven
      exact hHigh (.inr ⟨hHalf, hEven⟩)
    rw [if_neg hHigh]
    exact Nat.even_iff.mpr (by omega)

namespace Quotient

/- The rational number that a quotient stands for. -/
def rational (q : Quotient) : ℚ :=
  q.num / q.den

variable {q : Quotient}

theorem den_rational_pos
    (q : Quotient) :
    (0 : ℚ) < q.den := by
  exact_mod_cast q.den_pos

theorem rational_pos
    (hPos : 0 < q.num) :
    0 < q.rational := by
  have hNum : (0 : ℚ) < q.num := by exact_mod_cast hPos
  exact div_pos hNum q.den_rational_pos

@[simp]
theorem rational_ofNat
    (n : Nat) :
    (ofNat n).rational = n := by
  simp [rational, ofNat]

/- Rounding a quotient goes to the nearest integer. -/
theorem nearestEven_rational
    (q : Quotient) :
    nearestEven q.rational = q.round := by
  have hDen := q.den_rational_pos
  have hLow :
      2 * (q.num : ℚ) ≤ (2 * q.round + 1) * q.den := by
    exact_mod_cast two_mul_le_divNearest q.den_pos
  have hHigh :
      2 * (q.round : ℚ) * q.den ≤ 2 * q.num + q.den := by
    exact_mod_cast divNearest_le_two_mul q.den_pos
  have hSub :
      q.rational - ((q.round : ℤ) : ℚ) =
        (q.num - q.round * q.den) / q.den := by
    unfold rational
    field_simp
    push_cast
    ring
  apply nearestEven_eq_iff.mpr
  unfold IsNearestEven
  rw [hSub, abs_div, abs_of_pos hDen]
  constructor
  · rw [div_le_iff₀ hDen, abs_le]
    constructor <;> linarith
  · intro hTie
    rw [div_eq_iff hDen.ne'] at hTie
    have hEnds :
        2 * q.num = (2 * q.round + 1) * q.den ∨
          2 * q.num + q.den = 2 * q.round * q.den := by
      rcases abs_eq (by linarith) |>.mp hTie with
        hAbove | hBelow
      · left
        have hCast :
            2 * (q.num : ℚ) = (2 * q.round + 1) * q.den := by
          linarith
        exact_mod_cast hCast
      · right
        have hCast :
            2 * (q.num : ℚ) + q.den =
              2 * q.round * q.den := by
          linarith
        exact_mod_cast hCast
    exact_mod_cast even_divNearest q.den_pos hEnds

/- Shifting multiplies by a power of the base. -/
theorem rational_shift
    (q : Quotient)
    (base : Nat)
    (hBase : 0 < base)
    (exponent : Int) :
    (q.shift base hBase exponent).rational =
      q.rational * (base : ℚ) ^ exponent := by
  have hDen := q.den_rational_pos.ne'
  have hCast : (base : ℚ) ≠ 0 := by
    exact_mod_cast hBase.ne'
  rcases exponent.eq_nat_or_neg with ⟨n, rfl | rfl⟩
  · simp [rational, shift]
    ring
  · simp [rational, shift]
    field_simp

theorem rational_shiftTen
    (q : Quotient)
    (exponent : Int) :
    (q.shiftTen exponent).rational =
      q.rational * 10 ^ exponent := by
  have hShift := q.rational_shift 10 (by decide) exponent
  exact_mod_cast hShift

theorem rational_shiftTwo
    (q : Quotient)
    (exponent : Int) :
    (q.shiftTwo exponent).rational =
      q.rational * 2 ^ exponent := by
  have hShift := q.rational_shift 2 (by decide) exponent
  exact_mod_cast hShift

/- Quotients are compared as their numbers are. -/
theorem le_iff
    (p q : Quotient) :
    p.le q = true ↔ p.rational ≤ q.rational := by
  unfold le rational
  rw [div_le_div_iff₀ p.den_rational_pos q.den_rational_pos,
    decide_eq_true_iff]
  exact_mod_cast Iff.rfl

------------------------------------------------------------
-- Magnitude
------------------------------------------------------------

section

variable {base above below : ℕ}

/-
  The magnitudes above and below the line leave two
  candidates for the magnitude of a quotient.
-/
theorem rational_bounds
    (hBase : 0 < base)
    (hNum : base ^ above ≤ q.num ∧ q.num < base ^ (above + 1))
    (hDen :
      base ^ below ≤ q.den ∧ q.den < base ^ (below + 1)) :
    (base : ℚ) ^ ((above : ℤ) - below - 1) ≤ q.rational ∧
      q.rational < (base : ℚ) ^ ((above : ℤ) - below + 1) := by
  have hDenPos := q.den_rational_pos
  have hBasePos : (0 : ℚ) < base := by exact_mod_cast hBase
  have hNumLow : (base : ℚ) ^ above ≤ q.num := by
    exact_mod_cast hNum.1
  have hNumHigh : (q.num : ℚ) < base ^ (above + 1) := by
    exact_mod_cast hNum.2
  have hDenLow : (base : ℚ) ^ below ≤ q.den := by
    exact_mod_cast hDen.1
  have hDenHigh : (q.den : ℚ) < base ^ (below + 1) := by
    exact_mod_cast hDen.2
  have hLowPower :
      (base : ℚ) ^ ((above : ℤ) - below - 1) =
        base ^ above / base ^ (below + 1) := by
    rw [← zpow_natCast, ← zpow_natCast,
      ← zpow_sub₀ hBasePos.ne']
    congr 1
    push_cast
    ring
  have hHighPower :
      (base : ℚ) ^ ((above : ℤ) - below + 1) =
        base ^ (above + 1) / base ^ below := by
    rw [← zpow_natCast, ← zpow_natCast,
      ← zpow_sub₀ hBasePos.ne']
    congr 1
    push_cast
    ring
  rw [hLowPower, hHighPower]
  unfold rational
  constructor
  · gcongr
  · gcongr

/- One comparison decides between the candidates. -/
theorem log_eq_of_bounds
    (hBase : 1 < base)
    (hPos : 0 < q.num)
    {guess : ℤ}
    (hLow : (base : ℚ) ^ (guess - 1) ≤ q.rational)
    (hHigh : q.rational < (base : ℚ) ^ (guess + 1)) :
    (if le ((ofNat 1).shift base (by omega) guess) q then
        guess
      else guess - 1) =
      Int.log base q.rational := by
  have hRational := rational_pos hPos
  have hAbove : guess - 1 ≤ Int.log base q.rational :=
    (Int.zpow_le_iff_le_log hBase hRational).mp hLow
  have hBelow : Int.log base q.rational < guess + 1 :=
    (Int.lt_zpow_iff_log_lt hBase hRational).mp hHigh
  have hTest :
      le ((ofNat 1).shift base (by omega) guess) q = true ↔
        guess ≤ Int.log base q.rational := by
    rw [le_iff, rational_shift, rational_ofNat,
      ← Int.zpow_le_iff_le_log hBase hRational, Nat.cast_one,
      one_mul]
  split
  · rename_i hLe
    have hGuess := hTest.mp hLe
    omega
  · rename_i hGreater
    have hGuess : ¬ guess ≤ Int.log base q.rational := by
      intro hLe
      exact hGreater (hTest.mpr hLe)
    omega

end

/- A number has one digit more than its magnitude. -/
theorem exists_length_toDigits
    {n : ℕ}
    (hPos : 0 < n) :
    ∃ magnitude,
      (Nat.toDigits 10 n).length = magnitude + 1 ∧
        10 ^ magnitude ≤ n ∧ n < 10 ^ (magnitude + 1) := by
  have hLength : 0 < (Nat.toDigits 10 n).length :=
    Nat.length_toDigits_pos
  rcases Nat.exists_eq_succ_of_ne_zero hLength.ne' with
    ⟨magnitude, hMagnitude⟩
  refine ⟨magnitude, hMagnitude, ?_, ?_⟩
  · by_contra hLess
    push Not at hLess
    cases magnitude with
    | zero => omega
    | succ magnitude =>
        have hShort :=
          (Nat.length_toDigits_le_iff (by decide)
            (by omega)).mpr hLess
        omega
  · exact
      (Nat.length_toDigits_le_iff (by decide) (by omega)).mp
        hMagnitude.le

/- The magnitude of a quotient is its logarithm. -/
theorem floorLogTen_eq_log
    (hPos : 0 < q.num) :
    q.floorLogTen = Int.log 10 q.rational := by
  rcases exists_length_toDigits hPos with
    ⟨above, hAbove, hNum⟩
  rcases exists_length_toDigits q.den_pos with
    ⟨below, hBelow, hDen⟩
  have hGuess :
      ((Nat.toDigits 10 q.num).length : ℤ) -
          (Nat.toDigits 10 q.den).length =
        above - below := by
    rw [hAbove, hBelow]
    omega
  rcases rational_bounds (by decide) hNum hDen with
    ⟨hLow, hHigh⟩
  unfold floorLogTen
  simp only [hGuess]
  exact log_eq_of_bounds (by decide) hPos hLow hHigh

/- So is the magnitude in powers of two. -/
theorem floorLogTwo_eq_log
    (hPos : 0 < q.num) :
    q.floorLogTwo = Int.log 2 q.rational := by
  have hBounds :
      ∀ n, 0 < n →
        2 ^ Nat.log2 n ≤ n ∧ n < 2 ^ (Nat.log2 n + 1) :=
    fun n hn => ⟨Nat.log2_self_le hn.ne', Nat.lt_log2_self⟩
  rcases rational_bounds (by decide) (hBounds q.num hPos)
      (hBounds q.den q.den_pos) with
    ⟨hLow, hHigh⟩
  unfold floorLogTwo
  exact log_eq_of_bounds (by decide) hPos hLow hHigh

end Quotient

end FactLayout
