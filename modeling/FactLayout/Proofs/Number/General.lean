import FactLayout.Proofs.Number.Digits
import FactLayout.Proofs.Number.Significant
import Mathlib.Algebra.Order.Floor.Semifield

/-
  The general layout.

  A double in the general layout is read back as the number
  that it is, rounded to six significant digits.  The
  magnitude of the rounded number decides on the form.

  Key definitions include:
    * `BinaryValue.rational`
    * `Double.rational`

  Main results:
    * `Decimal.exists_general_eq`
    * `Double.generalText_roundSignificant`
-/

------------------------------------------------------------
-- Quotients in the General Layout
------------------------------------------------------------

namespace FactLayout

namespace Decimal

variable {precision : ℕ}
variable {q : Quotient}
variable {s : Scientific}

/- Digits in place are as many as are asked for. -/
theorem length_digits_of_isRounding
    (hPrecision : 0 < precision)
    (hRounding : s.IsRounding precision q) :
    (digits s.significand).length = precision := by
  have hLength : 0 < (digits s.significand).length :=
    Nat.length_toDigits_pos
  have hAtMost : (digits s.significand).length ≤ precision :=
    (Nat.length_toDigits_le_iff (by decide) hPrecision).mpr
      hRounding.high
  by_cases hOne : precision = 1
  · omega
  · have hMore :
        ¬ (digits s.significand).length ≤ precision - 1 := by
      intro hFew
      have hLess :=
        (Nat.length_toDigits_le_iff (by decide)
          (by omega)).mp hFew
      exact absurd hLess (not_lt.mpr hRounding.low)
    omega

/- With an exponent there is one digit before the point. -/
theorem exists_mantissa_eq
    (hPrecision : 0 < precision)
    (hRounding : s.IsRounding precision q) :
    ∃ w : Written,
      w.exponent = some s.exponent ∧
        w.whole.length = 1 ∧
        trimFraction s.mantissa ++
            'e' :: exponentText s.exponent =
          w.text ∧
        w.rational = s.rational precision := by
  have hLength :=
    length_digits_of_isRounding hPrecision hRounding
  have hPower :
      10 ^ precision = 10 ^ (precision - 1) * 10 := by
    rw [← pow_succ, Nat.sub_add_cancel hPrecision]
  rcases exists_trimFraction_withPoint (precision - 1)
      s.significand (some s.exponent) with
    ⟨w, hExponent, hWhole, hText, hRational⟩
  refine ⟨w, hExponent, ?_, ?_, ?_⟩
  · rw [hWhole]
    apply length_digits_of_lt
    apply Nat.div_lt_of_lt_mul
    rw [← hPower]
    exact hRounding.high
  · unfold Scientific.mantissa
    simp only
    rw [hLength, hText]
    unfold Written.text Written.tail
    rw [hExponent]
  · have hPlaces :
        ((precision - 1 : ℕ) : ℤ) = precision - 1 := by omega
    rw [hRational, hPlaces]
    rfl

/- Without an exponent the whole part is written in full. -/
theorem exists_fixed_eq
    (hRounding : s.IsRounding precision q)
    (hExponent : s.exponent < precision) :
    ∃ w : Written,
      w.exponent = none ∧
        w.whole = digits ⌊s.rational precision⌋₊ ∧
        trimFraction
            (fixed (precision - 1 - s.exponent).toNat q) =
          w.text ∧
        w.rational = s.rational precision := by
  have hPlaces :
      ((precision - 1 - s.exponent).toNat : ℤ) =
        precision - 1 - s.exponent :=
    Int.toNat_of_nonneg (by omega)
  have hValue :
      s.rational precision =
        s.significand *
          10 ^ (-((precision - 1 - s.exponent).toNat : ℤ)) := by
    unfold Scientific.rational
    rw [hPlaces]
    congr 2
    ring
  rcases exists_trimFraction_withPoint
      (precision - 1 - s.exponent).toNat s.significand
      none with
    ⟨w, hNone, hWhole, hText, hRational⟩
  refine ⟨w, hNone, ?_, ?_, ?_⟩
  · rw [hWhole, hValue, zpow_neg, zpow_natCast,
      ← div_eq_mul_inv]
    congr 1
    exact_mod_cast
      (Nat.floor_div_eq_div (K := ℚ) s.significand
        (10 ^ (precision - 1 - s.exponent).toNat)).symm
  · rw [fixed_eq_withPoint hRounding hExponent, hText]
    unfold Written.text Written.tail
    rw [hNone, List.append_nil]
  · rw [hRational, hValue]
    simp

/-
  A positive quotient is written as what it is rounded to,
  and the magnitude of the rounded number decides whether
  there is an exponent.
-/
theorem exists_general_eq
    (hPrecision : 0 < precision)
    (hPos : 0 < q.num) :
    ∃ w : Written,
      general precision q = w.text ∧
        w.rational = roundSignificant precision q.rational ∧
        if decimalExponent w.rational < -4 ∨
            precision ≤ decimalExponent w.rational then
          w.exponent = some (decimalExponent w.rational) ∧
            w.whole.length = 1
        else
          w.exponent = none ∧
            w.whole = digits ⌊w.rational⌋₊ := by
  have hRounding :=
    Scientific.isRounding_ofQuotient hPrecision hPos
  have hMagnitude := hRounding.exponent_eq hPrecision
  have hValue := hRounding.value
  unfold general
  simp only
  generalize Scientific.ofQuotient precision q = s at *
  by_cases hForm : s.exponent < -4 ∨ precision ≤ s.exponent
  · rcases exists_mantissa_eq hPrecision hRounding with
      ⟨w, hExponent, hWhole, hText, hRational⟩
    rw [hValue] at hRational
    refine ⟨w, ?_, hRational, ?_⟩
    · rw [if_pos hForm, hText]
    · rw [hRational, ← hMagnitude, if_pos hForm]
      exact ⟨hExponent, hWhole⟩
  · have hExponent : s.exponent < precision := by omega
    rcases exists_fixed_eq hRounding hExponent with
      ⟨w, hNone, hWhole, hText, hRational⟩
    rw [hValue] at hRational hWhole
    refine ⟨w, ?_, hRational, ?_⟩
    · rw [if_neg hForm, hText]
    · rw [hRational, ← hMagnitude, if_neg hForm]
      exact ⟨hNone, hWhole⟩

end Decimal

------------------------------------------------------------
-- Doubles
------------------------------------------------------------

namespace BinaryValue

/- The rational number that a finite value stands for. -/
def rational : BinaryValue → ℚ
| finite negative significand exponent =>
    (if negative then -1 else 1) *
      (significand * 2 ^ exponent)
| _ => 0

theorem rational_quotient
    (significand : ℕ)
    (exponent : ℤ) :
    (quotient significand exponent).rational =
      significand * 2 ^ exponent := by
  unfold quotient
  rw [Quotient.rational_shiftTwo, Quotient.rational_ofNat]

/- A magnitude that is not zero is above it. -/
theorem num_quotient_pos
    {significand : ℕ}
    (hNonzero : significand ≠ 0)
    (exponent : ℤ) :
    0 < (quotient significand exponent).num := by
  have hValue := rational_quotient significand exponent
  have hPos : (0 : ℚ) < significand * 2 ^ exponent := by
    have hSignificand : (0 : ℚ) < significand := by
      exact_mod_cast Nat.pos_of_ne_zero hNonzero
    positivity
  apply Nat.pos_of_ne_zero
  intro hZero
  unfold Quotient.rational at hValue
  rw [hZero, Nat.cast_zero, zero_div] at hValue
  exact absurd hValue hPos.ne

/- The sign is written apart from the magnitude. -/
theorem abs_rational_finite
    (negative : Bool)
    (significand : ℕ)
    (exponent : ℤ) :
    |(finite negative significand exponent).rational| =
      (quotient significand exponent).rational := by
  have hMagnitude :
      (0 : ℚ) ≤ significand * 2 ^ exponent := by
    positivity
  rw [rational_quotient]
  unfold rational
  cases negative with
  | true => simp [abs_of_nonneg hMagnitude]
  | false => simp [abs_of_nonneg hMagnitude]

theorem rational_finite_lt_zero_iff
    {significand : ℕ}
    (hNonzero : significand ≠ 0)
    (negative : Bool)
    (exponent : ℤ) :
    (finite negative significand exponent).rational < 0 ↔
      negative = true := by
  have hMagnitude :
      (0 : ℚ) < significand * 2 ^ exponent := by
    rw [← rational_quotient]
    exact Quotient.rational_pos
      (num_quotient_pos hNonzero exponent)
  unfold rational
  cases negative with
  | true => simpa using hMagnitude
  | false => simpa using hMagnitude.le

end BinaryValue

namespace Decimal.Written

/- The exponent mark is not a digit. -/
theorem mem_signed_text_iff
    (w : Written)
    (negative : Bool) :
    'e' ∈ signed negative w.text ↔ w.exponent ≠ none := by
  have hDigits : 'e' ∉ w.whole ++ w.fraction := by
    intro hMem
    exact absurd (w.isDigit_of_mem_append hMem) (by decide)
  have hText : 'e' ∈ w.text ↔ w.exponent ≠ none := by
    rw [List.mem_append, not_or] at hDigits
    unfold text pointed tail
    by_cases hNil : w.fraction = []
    · cases w.exponent <;> simp [hNil, hDigits]
    · cases w.exponent <;> simp [hNil, hDigits]
  unfold signed
  cases negative <;> simp [hText]

/- A minus sign is not a digit, either. -/
theorem head?_signed_text_iff
    (w : Written)
    (negative : Bool) :
    (signed negative w.text).head? = some '-' ↔
      negative = true := by
  rcases w.exists_text_eq_cons with ⟨c, rest, hText, hDigit⟩
  rw [hText]
  unfold signed
  cases negative with
  | true => simp
  | false =>
      simp only [Bool.false_eq_true, if_false, iff_false,
        List.head?_cons, Option.some.injEq]
      rintro rfl
      contradiction

end Decimal.Written

namespace Double

/- The rational number that a finite double stands for. -/
def rational (d : Double) : ℚ :=
  d.value.rational

/- A finite double that is not zero is a signed quotient. -/
theorem exists_generalText_eq
    {d : Double}
    (hFinite : d.isFinite = true)
    (hNonzero : d.rational ≠ 0) :
    ∃ q : Quotient,
      0 < q.num ∧
        q.rational = |d.rational| ∧
        d.generalText =
          Decimal.signed (decide (d.rational < 0))
            (Decimal.general 6 q) := by
  unfold isFinite at hFinite
  unfold rational generalText at *
  cases hValue : d.value with
  | infinite negative =>
      rw [hValue] at hFinite
      contradiction
  | notNumber negative =>
      rw [hValue] at hFinite
      contradiction
  | finite negative significand exponent =>
      rw [hValue] at hNonzero
      have hSignificand : significand ≠ 0 := by
        rintro rfl
        apply hNonzero
        simp [BinaryValue.rational]
      have hPos :=
        BinaryValue.num_quotient_pos hSignificand exponent
      have hSign :=
        BinaryValue.rational_finite_lt_zero_iff hSignificand
          negative exponent
      refine ⟨_, hPos, ?_, ?_⟩
      · rw [BinaryValue.abs_rational_finite]
      · simp [hSign, hSignificand]

/- Something is written for every double. -/
theorem generalText_ne_nil
    (d : Double) :
    d.generalText ≠ [] := by
  have hSigned :
      ∀ (negative : Bool) {text : List Char},
        text ≠ [] → Decimal.signed negative text ≠ [] := by
    intro negative text hText
    cases negative <;> simp [Decimal.signed, hText]
  unfold generalText
  cases d.value with
  | infinite negative => exact hSigned negative (by decide)
  | notNumber negative => exact hSigned negative (by decide)
  | finite negative significand exponent =>
      apply hSigned
      split
      · decide
      · rename_i hNonzero
        have hSix : 0 < 6 := by decide
        have hPos :=
          BinaryValue.num_quotient_pos hNonzero exponent
        rcases Decimal.exists_general_eq hSix hPos with
          ⟨w, hText, -⟩
        rcases w.exists_text_eq_cons with ⟨c, rest, hCons, -⟩
        rw [hText, hCons]
        exact List.cons_ne_nil c rest

/-
  The general layout of a double is the double rounded to
  six significant digits.  There is an exponent if the
  magnitude of the rounded number is below minus four or
  above five.
-/
theorem generalText_roundSignificant
    (d : Double)
    (hFinite : d.isFinite = true)
    (hNonzero : d.rational ≠ 0) :
    let rounded := roundSignificant 6 d.rational
    let magnitude := decimalExponent rounded
    Notation.rational? d.generalText = some rounded ∧
      (d.generalText.head? = some '-' ↔ d.rational < 0) ∧
      ('e' ∈ d.generalText ↔
        magnitude < -4 ∨ 6 ≤ magnitude) ∧
      ∃ w : Decimal.Written,
        d.generalText =
            Decimal.signed (decide (d.rational < 0))
              (Decimal.pointed w.whole w.fraction ++
                w.tail) ∧
          if magnitude < -4 ∨ 6 ≤ magnitude then
            w.whole.length = 1 ∧
              ∃ power,
                w.tail =
                    'e' :: (if magnitude < 0 then '-'
                      else '+') :: power ∧
                  2 ≤ power.length ∧
                  (∀ c ∈ power, c.isDigit = true) ∧
                  Nat.ofDigitChars 10 power 0 =
                    magnitude.natAbs
          else
            w.whole = Decimal.digits ⌊|rounded|⌋₊ ∧
              w.tail = [] := by
  intro rounded magnitude
  have hSix : 0 < 6 := by decide
  rcases exists_generalText_eq hFinite hNonzero with
    ⟨q, hPos, hRational, hText⟩
  rcases Decimal.exists_general_eq hSix hPos with
    ⟨w, hGeneral, hValue, hForm⟩
  rw [hGeneral] at hText
  rw [hRational] at hValue
  have hRounded :
      rounded =
        (if d.rational < 0 then -1 else 1) * w.rational := by
    rw [hValue]
    exact roundSignificant_eq_signed 6 d.rational
  have hAbs : w.rational = |rounded| := by
    rw [hRounded, abs_mul, abs_of_nonneg w.rational_nonneg]
    by_cases hSign : d.rational < 0
    · simp [hSign]
    · simp [hSign]
  have hRead :
      Notation.rational? d.generalText = some rounded := by
    rw [hText, Notation.rational?_signed, hRounded]
    simp
  have hMinus :
      d.generalText.head? = some '-' ↔ d.rational < 0 := by
    rw [hText, w.head?_signed_text_iff, decide_eq_true_iff]
  rw [hAbs, decimalExponent_abs] at hForm
  change if magnitude < -4 ∨ (6 : ℤ) ≤ magnitude then _
    else _ at hForm
  by_cases hFar : magnitude < -4 ∨ 6 ≤ magnitude
  · rw [if_pos hFar] at hForm
    rcases hForm with ⟨hExponent, hWhole⟩
    rcases Decimal.exists_exponentText_eq magnitude with
      ⟨power, hPower, hDigits⟩
    refine ⟨hRead, hMinus, ?_, w, hText, ?_⟩
    · rw [hText, w.mem_signed_text_iff]
      simp [hExponent, hFar]
    · rw [if_pos hFar]
      refine ⟨hWhole, power, ?_, hDigits⟩
      rw [← hPower]
      unfold Decimal.Written.tail
      rw [hExponent]
  · rw [if_neg hFar] at hForm
    rcases hForm with ⟨hExponent, hWhole⟩
    refine ⟨hRead, hMinus, ?_, w, hText, ?_⟩
    · rw [hText, w.mem_signed_text_iff]
      simp [hExponent, hFar]
    · rw [if_neg hFar]
      refine ⟨hWhole, ?_⟩
      unfold Decimal.Written.tail
      rw [hExponent]

/- Half a unit above six nines is the next power of ten. -/
theorem generalText_roundSignificant_carry :
    (⟨0x412E847F00000000⟩ : Double).rational =
        1999999 / 2 ∧
      (⟨0x412E847F00000000⟩ : Double).generalText =
        "1e+06".toList ∧
      roundSignificant 6 (1999999 / 2) = 1000000 := by
  have hFinite :
      (⟨0x412E847F00000000⟩ : Double).isFinite = true := by
    decide +kernel
  have hValue :
      (⟨0x412E847F00000000⟩ : Double).value =
        .finite false 8589930297032704 (-33) := by
    decide +kernel
  have hRational :
      (⟨0x412E847F00000000⟩ : Double).rational =
        1999999 / 2 := by
    unfold rational
    rw [hValue]
    norm_num [BinaryValue.rational]
  have hText :
      (⟨0x412E847F00000000⟩ : Double).generalText =
        "1e+06".toList := by
    decide +kernel
  have hNonzero :
      (⟨0x412E847F00000000⟩ : Double).rational ≠ 0 := by
    rw [hRational]
    norm_num
  have hRead :=
    (generalText_roundSignificant _ hFinite hNonzero).1
  have hNumber :
      Notation.rational? "1e+06".toList = some 1000000 := by
    decide +kernel
  rw [hText, hRational, hNumber] at hRead
  exact ⟨hRational, hText, (Option.some.inj hRead).symm⟩

end Double

end FactLayout
