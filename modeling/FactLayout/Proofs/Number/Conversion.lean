import FactLayout.Json.Value
import FactLayout.Proofs.Number.Nearest

/-
  Conversions between numbers.

  The numbers of JSON become doubles, and doubles become
  singles.  Both go to the nearest number and keep the sign.
  A single becomes a double without a loss, and comes back
  as it was.

  Key definitions include:
    * `Double.IsNearest`
    * `Single.IsNearest`
    * `Single.toDouble`
    * `Json.Number.rational`

  Main results:
    * `Double.isFinite_toSingle_iff`
    * `Double.isNearest_toSingle`
    * `Single.toSingle_toDouble`
    * `Json.Number.isNearest_toDouble`
-/

------------------------------------------------------------
-- Bounds of the Formats
------------------------------------------------------------

namespace FactLayout

namespace BinaryFormat

/- The greatest single and half a unit more. -/
theorem overflow_single :
    single.overflow = 2 ^ 128 - 2 ^ 103 := by
  norm_num [overflow, unit, minExponent, lastStep, single]

/- Doubles reach far beyond the greatest single. -/
theorem two_pow_lt_overflow_double :
    2 ^ 128 < double.overflow := by
  have hUnit : double.unit double.lastStep = 2 ^ 971 := by
    norm_num [unit, minExponent, lastStep, double]
  have hPower : (2 : ℚ) ^ 128 ≤ 2 ^ 971 :=
    pow_le_pow_right₀ (by norm_num) (by norm_num)
  have hPos : (0 : ℚ) < 2 ^ 971 := by positivity
  have hUnits :
      (1 : ℚ) < 2 ^ (double.fraction + 1) - 1 / 2 := by
    norm_num [double]
  unfold overflow
  rw [hUnit]
  exact hPower.trans_lt (lt_mul_of_one_lt_left hPos hUnits)

theorem withSign_lt
    {f : BinaryFormat}
    {bits : ℕ}
    (hBits : bits < f.signBit)
    (negative : Bool) :
    f.withSign negative bits < 2 * f.signBit := by
  unfold withSign
  split <;> omega

/- A pattern is put together from its sign and the rest. -/
theorem withSign_mod
    {f : BinaryFormat}
    {bits : ℕ}
    (hBits : bits < 2 * f.signBit) :
    f.withSign (decide (f.signBit ≤ bits))
        (bits % f.signBit) =
      bits := by
  unfold withSign
  simp only [decide_eq_true_eq]
  split
  · rename_i hSign
    rw [Nat.mod_eq_sub_mod hSign, Nat.mod_eq_of_lt (by omega)]
    omega
  · rename_i hSign
    exact Nat.mod_eq_of_lt (not_le.mp hSign)

end BinaryFormat

------------------------------------------------------------
-- Doubles
------------------------------------------------------------

namespace Double

/-
  The double nearest to a number, with the sign that the
  number is written with.
-/
structure IsNearest
    (d : Double)
    (negative : Bool)
    (x : ℚ) : Prop where
  pattern : BinaryFormat.double.IsNearest x d.bits.toNat
  sign : d.value.isNegative = negative

theorem toNat_bits_nearest
    (negative : Bool)
    (q : Quotient) :
    (nearest negative q).bits.toNat =
      BinaryFormat.double.withSign negative
        (BinaryFormat.double.nearest q) := by
  have hBits :=
    (BinaryFormat.double.nearest_le_infinity q).trans_lt
      BinaryFormat.double.infinity_lt_signBit
  exact UInt64.toNat_ofNat_of_lt'
    (BinaryFormat.withSign_lt hBits negative)

/- Below the overflow a quotient becomes a finite double. -/
theorem isNearest_nearest
    {q : Quotient}
    (hLess : q.rational < BinaryFormat.double.overflow)
    (negative : Bool) :
    (nearest negative q).IsNearest negative
      (applySign negative q.rational) := by
  have hFinite :=
    (BinaryFormat.nearest_lt_infinity_iff (by decide) q).mpr
      hLess
  constructor
  · rw [toNat_bits_nearest]
    exact BinaryFormat.isNearest_withSign_nearest (by decide)
      (by decide) hLess negative
  · unfold value
    rw [toNat_bits_nearest]
    exact (BinaryFormat.value_withSign hFinite negative).2.1

theorem IsNearest.isFinite
    {d : Double}
    {negative : Bool}
    {x : ℚ}
    (hNearest : d.IsNearest negative x) :
    d.isFinite = true :=
  hNearest.pattern.finite

/- A finite double is nearest to its own value. -/
theorem isNearest_self
    {d : Double}
    (hFinite : d.isFinite = true) :
    d.IsNearest d.value.isNegative d.rational :=
  ⟨BinaryFormat.isNearest_self hFinite, rfl⟩

end Double

------------------------------------------------------------
-- Singles
------------------------------------------------------------

namespace Single

/- The rational number that a finite single stands for. -/
def rational (s : Single) : ℚ :=
  s.value.rational

/-
  The single nearest to a number, with the sign that the
  number is written with.
-/
structure IsNearest
    (s : Single)
    (negative : Bool)
    (x : ℚ) : Prop where
  pattern : BinaryFormat.single.IsNearest x s.bits.toNat
  sign : s.value.isNegative = negative

/- The double of the same value. -/
def toDouble (s : Single) : Double :=
  let f := BinaryFormat.double
  match s.value with
  | .finite negative significand exponent =>
      .nearest negative
        (BinaryValue.quotient significand exponent)
  | .infinite negative =>
      ⟨UInt64.ofNat (f.withSign negative f.infinity)⟩
  | .notNumber negative =>
      ⟨UInt64.ofNat (f.withSign negative
        (f.infinity + Nat.pow 2 (f.fraction - 1)))⟩

end Single

namespace Double

variable {d : Double}

/- A finite double is rounded without its sign. -/
theorem exists_toSingle_eq
    (hFinite : d.isFinite = true) :
    ∃ q : Quotient,
      q.rational =
          BinaryFormat.double.magnitude
            (d.bits.toNat % BinaryFormat.double.signBit) ∧
        d.rational =
          applySign d.value.isNegative q.rational ∧
        d.toSingle.bits.toNat =
          BinaryFormat.single.withSign d.value.isNegative
            (BinaryFormat.single.nearest q) := by
  have hValue := BinaryFormat.value_of_isFinite hFinite
  rcases BinaryFormat.exists_value_eq_finite
      (BinaryFormat.isFinite_value_iff.mp hFinite) with
    ⟨significand, exponent, hFields, hMagnitude⟩
  refine ⟨BinaryValue.quotient significand exponent,
    hMagnitude.symm, ?_, ?_⟩
  · rw [← hMagnitude]
    exact hValue.2
  · have hBits :=
      (BinaryFormat.single.nearest_le_infinity
        (BinaryValue.quotient significand exponent)).trans_lt
        BinaryFormat.single.infinity_lt_signBit
    have hSign :
        d.value.isNegative =
          decide (BinaryFormat.double.signBit ≤
            d.bits.toNat) :=
      hValue.1
    unfold toSingle
    rw [hSign]
    unfold value
    rw [hFields]
    exact UInt32.toNat_ofNat_of_lt'
      (BinaryFormat.withSign_lt hBits _)

/- A double fits a single below the overflow of singles. -/
theorem isFinite_toSingle_iff
    (hFinite : d.isFinite = true) :
    d.toSingle.isFinite = true ↔
      |d.rational| < 2 ^ 128 - 2 ^ 103 := by
  rcases exists_toSingle_eq hFinite with
    ⟨q, hMagnitude, hRational, hBits⟩
  have hNonneg : 0 ≤ q.rational := by
    rw [hMagnitude]
    exact BinaryFormat.magnitude_nonneg _ _
  have hPattern :=
    (BinaryFormat.single.nearest_le_infinity q).trans_lt
      BinaryFormat.single.infinity_lt_signBit
  have hIff :=
    BinaryFormat.nearest_lt_infinity_iff
      (f := BinaryFormat.single) (by decide) q
  unfold Single.isFinite Single.value
  rw [BinaryFormat.isFinite_value_iff, hBits,
    (BinaryFormat.withSign_facts hPattern _).1, hIff,
    hRational, abs_applySign, abs_of_nonneg hNonneg,
    BinaryFormat.overflow_single]

/- Below the overflow it becomes the nearest single. -/
theorem isNearest_toSingle
    (hFinite : d.isFinite = true)
    (hSingle : d.toSingle.isFinite = true) :
    d.toSingle.IsNearest d.value.isNegative d.rational := by
  have hLess := (isFinite_toSingle_iff hFinite).mp hSingle
  rcases exists_toSingle_eq hFinite with
    ⟨q, hMagnitude, hRational, hBits⟩
  have hNonneg : 0 ≤ q.rational := by
    rw [hMagnitude]
    exact BinaryFormat.magnitude_nonneg _ _
  rw [hRational, abs_applySign, abs_of_nonneg hNonneg,
    ← BinaryFormat.overflow_single] at hLess
  have hPattern :=
    (BinaryFormat.nearest_lt_infinity_iff
      (f := BinaryFormat.single) (by decide) q).mpr hLess
  constructor
  · rw [hBits, hRational]
    exact BinaryFormat.isNearest_withSign_nearest (by decide)
      (by decide) hLess _
  · unfold Single.value
    rw [hBits]
    exact (BinaryFormat.value_withSign hPattern _).2.1

end Double

namespace Single

variable {s : Single}

/- A single becomes a double of the same value and sign. -/
theorem exists_toDouble_eq
    (hFinite : s.isFinite = true) :
    ∃ wide,
      wide < BinaryFormat.double.infinity ∧
        BinaryFormat.double.magnitude wide =
          BinaryFormat.single.magnitude
            (s.bits.toNat % BinaryFormat.single.signBit) ∧
        s.toDouble.bits.toNat =
          BinaryFormat.double.withSign s.value.isNegative
            wide := by
  have hBits := BinaryFormat.isFinite_value_iff.mp hFinite
  have hSign := (BinaryFormat.value_of_isFinite hFinite).1
  rcases BinaryFormat.exists_value_eq_finite hBits with
    ⟨significand, exponent, hFields, hMagnitude⟩
  rcases BinaryFormat.exists_magnitude_widen
      (f := BinaryFormat.single) (g := BinaryFormat.double)
      (by decide) (by decide)
      (s.bits.toNat % BinaryFormat.single.signBit) with
    ⟨wide, hWide⟩
  have hLess :
      BinaryFormat.double.magnitude wide <
        BinaryFormat.double.overflow := by
    have hSingle :=
      (BinaryFormat.magnitude_lt_overflow_iff
        (f := BinaryFormat.single) (by decide) _).mpr hBits
    rw [BinaryFormat.overflow_single] at hSingle
    rw [hWide]
    linarith [BinaryFormat.two_pow_lt_overflow_double]
  have hFiniteWide :=
    (BinaryFormat.magnitude_lt_overflow_iff (by decide)
      wide).mp hLess
  refine ⟨wide, hFiniteWide, hWide, ?_⟩
  have hNearest :
      BinaryFormat.double.nearest
          (BinaryValue.quotient significand exponent) =
        wide := by
    apply BinaryFormat.nearest_of_rational_eq (by decide)
      hFiniteWide
    rw [hWide, hMagnitude]
  rw [← hNearest, ← Double.toNat_bits_nearest]
  unfold toDouble value
  rw [hSign, hFields]

theorem isFinite_toDouble
    (hFinite : s.isFinite = true) :
    s.toDouble.isFinite = true := by
  rcases exists_toDouble_eq hFinite with
    ⟨wide, hWide, -, hBits⟩
  unfold Double.isFinite Double.value
  rw [hBits]
  exact (BinaryFormat.value_withSign hWide _).1

/- Nothing of a single is lost in a double. -/
theorem value_toDouble
    (hFinite : s.isFinite = true) :
    s.toDouble.value.isNegative = s.value.isNegative ∧
      s.toDouble.rational = s.rational := by
  rcases exists_toDouble_eq hFinite with
    ⟨wide, hWide, hMagnitude, hBits⟩
  rcases BinaryFormat.value_withSign hWide
      s.value.isNegative with
    ⟨-, hNegative, hRational⟩
  unfold Double.rational Double.value
  rw [hBits]
  refine ⟨hNegative, ?_⟩
  rw [hRational, hMagnitude]
  exact (BinaryFormat.value_of_isFinite hFinite).2.symm

/- A single comes back from a double as it was. -/
theorem toSingle_toDouble
    (hFinite : s.isFinite = true) :
    s.toDouble.toSingle = s := by
  rcases exists_toDouble_eq hFinite with
    ⟨wide, hWide, hMagnitude, hBits⟩
  rcases Double.exists_toSingle_eq
      (isFinite_toDouble hFinite) with
    ⟨q, hRational, -, hNarrow⟩
  have hSign := (BinaryFormat.value_of_isFinite hFinite).1
  have hPattern :=
    hWide.trans BinaryFormat.double.infinity_lt_signBit
  rw [hBits, (BinaryFormat.withSign_facts hPattern _).1,
    hMagnitude] at hRational
  have hNearest :
      BinaryFormat.single.nearest q =
        s.bits.toNat % BinaryFormat.single.signBit :=
    BinaryFormat.nearest_of_rational_eq (by decide)
      (BinaryFormat.isFinite_value_iff.mp hFinite) hRational
  rw [hNearest, (value_toDouble hFinite).1] at hNarrow
  unfold value at hNarrow
  rw [hSign, BinaryFormat.withSign_mod s.bits.toNat_lt]
    at hNarrow
  have hSame : s.toDouble.toSingle.bits = s.bits :=
    UInt32.toNat_inj.mp hNarrow
  calc
    s.toDouble.toSingle
    _ = ⟨s.toDouble.toSingle.bits⟩ := rfl
    _ = s := by rw [hSame]

end Single

------------------------------------------------------------
-- Numbers of JSON
------------------------------------------------------------

namespace Json.Number

/- The rational number that a JSON number stands for. -/
def rational : Json.Number → ℚ
| integer value => value.val
| float value _ => value.rational

/- The number is written with a minus sign. -/
def isNegative : Json.Number → Bool
| integer value => decide (value.val < 0)
| float value _ => value.value.isNegative

/- Every number of JSON becomes the nearest double. -/
theorem isNearest_toDouble
    (n : Json.Number) :
    n.toDouble.IsNearest n.isNegative n.rational := by
  cases n with
  | float value finite => exact Double.isNearest_self finite
  | integer value =>
      have hLower := value.lower
      have hUpper := value.upper
      have hSmall : value.val.natAbs < 2 ^ 64 := by omega
      have hLess :
          (Quotient.ofNat value.val.natAbs).rational <
            BinaryFormat.double.overflow := by
        have hCast : (value.val.natAbs : ℚ) < 2 ^ 64 := by
          exact_mod_cast hSmall
        rw [Quotient.rational_ofNat]
        refine hCast.trans
          (lt_trans ?_ BinaryFormat.two_pow_lt_overflow_double)
        norm_num
      have hRational :
          applySign (decide (value.val < 0))
              (Quotient.ofNat value.val.natAbs).rational =
            value.val := by
        rw [Quotient.rational_ofNat, Nat.cast_natAbs]
        unfold applySign
        by_cases hSign : value.val < 0
        · rw [decide_eq_true hSign, if_pos rfl,
            abs_of_neg hSign]
          push_cast
          ring
        · rw [decide_eq_false hSign,
            abs_of_nonneg (not_lt.mp hSign)]
          rfl
      have hNearest :=
        Double.isNearest_nearest hLess
          (decide (value.val < 0))
      rw [hRational] at hNearest
      exact hNearest

end Json.Number

end FactLayout
