import FactLayout.Number.Decimal
import FactLayout.Number.Notation
import FactLayout.Proofs.Text.Trim
import Mathlib.Algebra.Order.Field.Power
import Mathlib.Data.List.TakeWhile
import Mathlib.Tactic.FieldSimp
import Mathlib.Tactic.Positivity

/-
  Written decimals and what they stand for.

  A written decimal is digits with a point in front of the
  fraction, if there is one, and a power of ten behind it,
  if one is written.  Putting a point into an integer splits
  it into its whole part and as many places as are asked
  for, and trimming takes zeros off the places only.

  Key definitions include:
    * `Decimal.Written`
    * `Decimal.Written.text`
    * `Decimal.Written.rational`
    * `Notation.rational?`

  Main results:
    * `Decimal.exists_withPoint_eq`
    * `Decimal.trimFraction_pointed`
    * `Decimal.exists_trimFraction_withPoint`
    * `Notation.rational?_signed`
-/

------------------------------------------------------------
-- Digits
------------------------------------------------------------

namespace FactLayout

namespace Decimal

/- Only digits are used to write a number. -/
theorem isDigit_of_mem_digits
    {n : ℕ}
    {c : Char}
    (hDigit : c ∈ digits n) :
    c.isDigit = true :=
  Nat.isDigit_of_mem_toDigits (by decide) (by decide) hDigit

/- A number below ten has one digit. -/
theorem length_digits_of_lt
    {n : ℕ}
    (hSmall : n < 10) :
    (digits n).length = 1 := by
  unfold digits
  rw [Nat.toDigits_of_lt_base hSmall]
  rfl

/- Digits are read back as their number. -/
theorem ofDigitChars_digits
    (n : ℕ) :
    Nat.ofDigitChars 10 (digits n) 0 = n :=
  Nat.ofDigitChars_ten_toDigits

/- Digits behind others move those to the left. -/
theorem ofDigitChars_append
    (ds more : List Char) :
    Nat.ofDigitChars 10 (ds ++ more) 0 =
      10 ^ more.length * Nat.ofDigitChars 10 ds 0 +
        Nat.ofDigitChars 10 more 0 := by
  rw [Nat.ofDigitChars_append,
    Nat.ofDigitChars_eq_ofDigitChars_zero]

/- Zeros on the left do not count. -/
theorem ofDigitChars_padLeft
    (width : ℕ)
    (ds : List Char) :
    Nat.ofDigitChars 10 (padLeft width ds) 0 =
      Nat.ofDigitChars 10 ds 0 := by
  unfold padLeft
  rw [ofDigitChars_append, Nat.ofDigitChars_replicate_zero]
  simp

theorem isDigit_of_mem_padLeft
    {width : ℕ}
    {ds : List Char}
    (hDigits : ∀ c ∈ ds, c.isDigit = true)
    {c : Char}
    (hPadded : c ∈ padLeft width ds) :
    c.isDigit = true := by
  rcases List.mem_append.mp hPadded with hZero | hDigit
  · rw [List.eq_of_mem_replicate hZero]
    rfl
  · exact hDigits c hDigit

theorem le_length_padLeft
    (width : ℕ)
    (ds : List Char) :
    width ≤ (padLeft width ds).length := by
  unfold padLeft
  rw [List.length_append, List.length_replicate]
  omega

------------------------------------------------------------
-- Places Behind a Point
------------------------------------------------------------

/- Digits with a point in front of a fraction, if any. -/
def pointed
    (whole fraction : List Char) : List Char :=
  whole ++ if fraction = [] then [] else '.' :: fraction

/- The last digit of a padded number is its remainder. -/
theorem padLeft_succ
    {width : ℕ}
    (hWidth : 0 < width)
    (n : ℕ) :
    padLeft (width + 1) (digits n) =
      padLeft width (digits (n / 10)) ++
        digits (n % 10) := by
  have hOne := length_digits_of_lt (Nat.mod_lt n (by decide))
  by_cases hSmall : n < 10
  · have hSame : n % 10 = n := Nat.mod_eq_of_lt hSmall
    rcases Nat.exists_eq_succ_of_ne_zero hWidth.ne' with
      ⟨width, rfl⟩
    rw [Nat.div_eq_of_lt hSmall]
    rw [hSame] at hOne ⊢
    unfold padLeft
    rw [hOne]
    simp [digits, List.replicate_succ']
  · have hSplit :
        digits (n / 10) ++ digits (n % 10) = digits n := by
      have hAppend :=
        Nat.toDigits_append_toDigits (b := 10) (n := n / 10)
          (d := n % 10) (by decide) (by omega)
          (Nat.mod_lt n (by decide))
      rwa [Nat.div_add_mod] at hAppend
    unfold padLeft
    rw [← hSplit, List.length_append, hOne,
      Nat.add_sub_add_right, List.append_assoc]

/-
  A padded number is its whole part and as many places as
  are asked for.
-/
theorem exists_padLeft_eq
    (places n : ℕ) :
    ∃ fraction,
      padLeft (places + 1) (digits n) =
          digits (n / 10 ^ places) ++ fraction ∧
        fraction.length = places ∧
        (∀ c ∈ fraction, c.isDigit = true) := by
  induction places generalizing n with
  | zero =>
      have hLength : 0 < (digits n).length :=
        Nat.length_toDigits_pos
      have hPad : 0 + 1 - (digits n).length = 0 := by omega
      refine ⟨[], ?_, rfl, by simp⟩
      unfold padLeft
      rw [hPad]
      simp
  | succ places ih =>
      have hOne :=
        length_digits_of_lt (Nat.mod_lt n (by decide))
      rcases ih (n / 10) with
        ⟨fraction, hPad, hLength, hDigits⟩
      refine ⟨fraction ++ digits (n % 10), ?_, ?_, ?_⟩
      · rw [padLeft_succ places.succ_pos, hPad,
          Nat.div_div_eq_div_mul, ← pow_succ',
          List.append_assoc]
      · rw [List.length_append, hLength, hOne]
      · intro c hc
        rcases List.mem_append.mp hc with hc | hc
        · exact hDigits c hc
        · exact isDigit_of_mem_digits hc

/- Putting a point into a number keeps all of its digits. -/
theorem exists_withPoint_eq
    (places n : ℕ) :
    ∃ fraction,
      withPoint places n =
          pointed (digits (n / 10 ^ places)) fraction ∧
        fraction.length = places ∧
        (∀ c ∈ fraction, c.isDigit = true) ∧
        Nat.ofDigitChars 10
            (digits (n / 10 ^ places) ++ fraction) 0 =
          n := by
  rcases exists_padLeft_eq places n with
    ⟨fraction, hPad, hLength, hDigits⟩
  refine ⟨fraction, ?_, hLength, hDigits, ?_⟩
  · have hWhole :
        (digits (n / 10 ^ places) ++ fraction).length -
            places =
          (digits (n / 10 ^ places)).length := by
      rw [List.length_append, hLength, Nat.add_sub_cancel]
    unfold withPoint pointed
    simp only
    rw [hPad, hWhole, List.take_left, List.drop_left,
      ← hLength]
    cases fraction with
    | nil => simp
    | cons c fraction => simp
  · rw [← hPad, ofDigitChars_padLeft, ofDigitChars_digits]

------------------------------------------------------------
-- Trimming
------------------------------------------------------------

/- Only zeros are dropped. -/
theorem exists_eq_dropZeros_append
    (ds : List Char) :
    ∃ count,
      ds = dropZeros ds ++ List.replicate count '0' := by
  have hSplit :=
    List.takeWhile_append_dropWhile
      (p := (· == '0')) (l := ds.reverse)
  have hZeros :
      ds.reverse.takeWhile (· == '0') =
        List.replicate
          (ds.reverse.takeWhile (· == '0')).length '0' := by
    apply List.eq_replicate_of_mem
    intro c hc
    simpa using List.mem_takeWhile_imp hc
  refine ⟨(ds.reverse.takeWhile (· == '0')).length, ?_⟩
  calc
    ds
    _ = (ds.reverse.takeWhile (· == '0') ++
          ds.reverse.dropWhile (· == '0')).reverse := by
        rw [hSplit, List.reverse_reverse]
    _ = dropZeros ds ++ List.replicate _ '0' := by
        rw [List.reverse_append, hZeros,
          List.reverse_replicate, List.length_replicate]
        rfl

/- No zero is left at the end. -/
theorem getLast?_dropZeros
    (ds : List Char) :
    (dropZeros ds).getLast? ≠ some '0' := by
  unfold dropZeros
  rw [List.getLast?_reverse]
  intro hZero
  have hHead :=
    List.head?_dropWhile_not (fun c => c == '0') ds.reverse
  rw [hZero] at hHead
  simp at hHead

/- Trimming drops the zeros of a fraction only. -/
theorem trimFraction_pointed
    {whole fraction : List Char}
    (hWhole : '.' ∉ whole)
    (hFraction : '.' ∉ fraction) :
    trimFraction (pointed whole fraction) =
      pointed whole (dropZeros fraction) := by
  by_cases hNil : fraction = []
  · rw [hNil]
    unfold trimFraction pointed
    simp [hWhole, dropZeros]
  · have hReverse :
        (whole ++ '.' :: fraction).reverse =
          fraction.reverse ++ '.' :: whole.reverse := by
      simp
    unfold trimFraction pointed
    rw [if_neg hNil, if_pos (by simp), hReverse,
      List.dropWhile_append]
    unfold dropZeros
    cases hKept : fraction.reverse.dropWhile (· == '0') with
    | nil => simp
    | cons c kept =>
        have hMem : c ∈ fraction := by
          apply List.mem_reverse.mp
          apply List.dropWhile_sublist (· == '0') |>.subset
          rw [hKept]
          exact List.mem_cons_self
        have hHead : c ≠ '.' := by
          rintro rfl
          exact hFraction hMem
        simp [hHead]

------------------------------------------------------------
-- Exponents
------------------------------------------------------------

/- An exponent is a sign and two digits at least. -/
theorem exists_exponentText_eq
    (exponent : ℤ) :
    ∃ power,
      exponentText exponent =
          (if exponent < 0 then '-' else '+') :: power ∧
        2 ≤ power.length ∧
        (∀ c ∈ power, c.isDigit = true) ∧
        Nat.ofDigitChars 10 power 0 = exponent.natAbs := by
  refine ⟨padLeft 2 (digits exponent.natAbs), rfl,
    le_length_padLeft 2 _, ?_, ?_⟩
  · intro c hc
    exact isDigit_of_mem_padLeft
      (fun _ => isDigit_of_mem_digits) hc
  · rw [ofDigitChars_padLeft, ofDigitChars_digits]

------------------------------------------------------------
-- Written Numbers
------------------------------------------------------------

/-
  A number as it is written: the digits in front of a point,
  those behind it, which do not end in zero, and the
  exponent, if there is one.
-/
structure Written where
  whole : List Char
  fraction : List Char
  exponent : Option ℤ
  nonempty : whole ≠ []
  whole_digits : ∀ c ∈ whole, c.isDigit = true
  fraction_digits : ∀ c ∈ fraction, c.isDigit = true
  trimmed : fraction.getLast? ≠ some '0'

namespace Written

/- What is written behind the digits. -/
def tail (w : Written) : List Char :=
  match w.exponent with
  | some exponent => 'e' :: exponentText exponent
  | none => []

/- The number as text. -/
def text (w : Written) : List Char :=
  pointed w.whole w.fraction ++ w.tail

/- The number that the digits and the exponent mean. -/
def rational (w : Written) : ℚ :=
  Nat.ofDigitChars 10 (w.whole ++ w.fraction) 0 *
    10 ^ (w.exponent.getD 0 - w.fraction.length)

theorem rational_nonneg
    (w : Written) :
    0 ≤ w.rational := by
  unfold rational
  positivity

/- All digits in front of an exponent. -/
theorem isDigit_of_mem_append
    (w : Written)
    {c : Char}
    (hDigit : c ∈ w.whole ++ w.fraction) :
    c.isDigit = true := by
  rcases List.mem_append.mp hDigit with hWhole | hFraction
  · exact w.whole_digits c hWhole
  · exact w.fraction_digits c hFraction

/- A number starts with one of its digits. -/
theorem exists_text_eq_cons
    (w : Written) :
    ∃ c rest, w.text = c :: rest ∧ c.isDigit = true := by
  have hDigits := w.whole_digits
  have hNonempty := w.nonempty
  unfold text pointed
  cases hWhole : w.whole with
  | nil => contradiction
  | cons c rest =>
      rw [hWhole] at hDigits
      exact ⟨c, _, rfl, hDigits c List.mem_cons_self⟩

end Written

/-
  A trimmed number keeps its whole part and its value, and
  its places do not end in zero.
-/
theorem exists_trimFraction_withPoint
    (places n : ℕ)
    (exponent : Option ℤ) :
    ∃ w : Written,
      w.exponent = exponent ∧
        w.whole = digits (n / 10 ^ places) ∧
        trimFraction (withPoint places n) =
          pointed w.whole w.fraction ∧
        w.rational = n * 10 ^ (exponent.getD 0 - places) := by
  rcases exists_withPoint_eq places n with
    ⟨padded, hPoint, hLength, hDigits, hNumber⟩
  rcases exists_eq_dropZeros_append padded with
    ⟨count, hSplit⟩
  have hWhole : '.' ∉ digits (n / 10 ^ places) := by
    intro hMem
    exact absurd (isDigit_of_mem_digits hMem) (by decide)
  have hFraction : '.' ∉ padded := by
    intro hMem
    exact absurd (hDigits '.' hMem) (by decide)
  have hKept :
      ∀ c ∈ dropZeros padded, c.isDigit = true := by
    intro c hMem
    apply hDigits
    rw [hSplit]
    exact List.mem_append_left _ hMem
  refine
    ⟨⟨digits (n / 10 ^ places), dropZeros padded, exponent,
        Nat.toDigits_ne_nil, fun _ => isDigit_of_mem_digits,
        hKept, getLast?_dropZeros padded⟩,
      rfl, rfl, ?_, ?_⟩
  · rw [hPoint, trimFraction_pointed hWhole hFraction]
  · have hTen : (10 : ℚ) ≠ 0 := by norm_num
    have hPlaces :
        places = (dropZeros padded).length + count := by
      rw [← hLength]
      conv_lhs => rw [hSplit]
      rw [List.length_append, List.length_replicate]
    have hValue :
        n = 10 ^ count *
          Nat.ofDigitChars 10
            (digits (n / 10 ^ places) ++
              dropZeros padded) 0 := by
      conv_lhs =>
        rw [← hNumber, hSplit, ← List.append_assoc,
          ofDigitChars_append, List.length_replicate,
          Nat.ofDigitChars_replicate_zero, Nat.mul_zero,
          Nat.add_zero]
    unfold Written.rational
    simp only
    generalize
      Nat.ofDigitChars 10
        (digits (n / 10 ^ places) ++ dropZeros padded) 0 =
        kept at hValue ⊢
    rw [hValue, hPlaces]
    push_cast
    rw [← sub_sub, zpow_sub₀ hTen _ (count : ℤ),
      zpow_natCast]
    field_simp

end Decimal

------------------------------------------------------------
-- Reading
------------------------------------------------------------

namespace Notation

/-
  The rational number that a notation stands for.  Nothing
  is rounded here.
-/
def rational? (text : List Char) : Option ℚ := do
  let (negative, rest) := splitSign text
  let (whole, rest) := splitDigits rest
  let (fraction, rest) := splitFraction rest
  let exponent ← exponent? rest
  let digits ← natural? (whole ++ fraction)
  some ((if negative then -1 else 1) * digits *
    10 ^ (exponent - fraction.length))

theorem natural?_eq
    {ds : List Char}
    (hNonempty : ds ≠ [])
    (hDigits : ∀ c ∈ ds, c.isDigit = true) :
    natural? ds = some (Nat.ofDigitChars 10 ds 0) := by
  unfold natural?
  rw [if_pos ⟨hNonempty, List.all_eq_true.mpr hDigits⟩]

/- A written exponent is read back. -/
theorem exponent?_exponentText
    (exponent : ℤ) :
    exponent? ('e' :: Decimal.exponentText exponent) =
      some exponent := by
  rcases Decimal.exists_exponentText_eq exponent with
    ⟨power, hText, hLength, hDigits, hNumber⟩
  have hNonempty : power ≠ [] := by
    rintro rfl
    simp at hLength
  have hNatural := natural?_eq hNonempty hDigits
  rw [hText]
  by_cases hNegative : exponent < 0
  · rw [if_pos hNegative]
    simp [exponent?, splitSign, hNatural, hNumber,
      abs_of_neg hNegative]
  · rw [if_neg hNegative]
    simp [exponent?, splitSign, hNatural, hNumber,
      abs_of_nonneg (not_lt.mp hNegative)]

/- What follows the digits of a number is read back. -/
theorem exponent?_tail
    (w : Decimal.Written) :
    exponent? w.tail = some (w.exponent.getD 0) := by
  unfold Decimal.Written.tail
  cases w.exponent with
  | none => rfl
  | some exponent => exact exponent?_exponentText exponent

/- Digits are split off up to the first other character. -/
theorem splitDigits_append
    {ds tail : List Char}
    (hDigits : ∀ c ∈ ds, c.isDigit = true)
    (hTail : ∀ c ∈ tail.head?, c.isDigit = false) :
    splitDigits (ds ++ tail) = (ds, tail) := by
  rcases takeWhile_dropWhile_append hDigits hTail with
    ⟨hRun, hRest⟩
  unfold splitDigits
  rw [hRun, hRest]

/- The digits of a number are split off at the point. -/
theorem splitDigits_text
    (w : Decimal.Written) :
    splitDigits w.text =
      (w.whole,
        (if w.fraction = [] then []
          else '.' :: w.fraction) ++ w.tail) := by
  unfold Decimal.Written.text Decimal.pointed
  rw [List.append_assoc]
  apply splitDigits_append w.whole_digits
  unfold Decimal.Written.tail
  by_cases hNil : w.fraction = []
  · cases w.exponent <;> simp [hNil]
  · simp [hNil]

/- A fraction is split off together with its point. -/
theorem splitFraction_append
    (w : Decimal.Written) :
    splitFraction
        ((if w.fraction = [] then []
          else '.' :: w.fraction) ++ w.tail) =
      (w.fraction, w.tail) := by
  by_cases hNil : w.fraction = []
  · rw [if_pos hNil, List.nil_append, hNil]
    unfold Decimal.Written.tail
    cases w.exponent <;> rfl
  · rw [if_neg hNil]
    apply splitDigits_append w.fraction_digits
    unfold Decimal.Written.tail
    cases w.exponent <;> simp

/- A sign is split off in front of a digit. -/
theorem splitSign_signed
    {c : Char}
    (hDigit : c.isDigit = true)
    (negative : Bool)
    (rest : List Char) :
    splitSign (Decimal.signed negative (c :: rest)) =
      (negative, c :: rest) := by
  have hMinus : c ≠ '-' := by
    rintro rfl
    contradiction
  have hPlus : c ≠ '+' := by
    rintro rfl
    contradiction
  cases negative with
  | true => rfl
  | false =>
      unfold Decimal.signed splitSign
      split <;> simp_all

/- A written number is read as its digits say. -/
theorem rational?_signed
    (negative : Bool)
    (w : Decimal.Written) :
    rational? (Decimal.signed negative w.text) =
      some ((if negative then -1 else 1) * w.rational) := by
  have hNatural :
      natural? (w.whole ++ w.fraction) =
        some
          (Nat.ofDigitChars 10 (w.whole ++ w.fraction) 0) := by
    apply natural?_eq
    · simp [w.nonempty]
    · exact fun _ => w.isDigit_of_mem_append
  have hSign :
      splitSign (Decimal.signed negative w.text) =
        (negative, w.text) := by
    rcases w.exists_text_eq_cons with
      ⟨c, rest, hText, hDigit⟩
    rw [hText]
    exact splitSign_signed hDigit negative rest
  unfold rational? Decimal.Written.rational
  rw [hSign]
  simp only
  rw [splitDigits_text]
  simp only
  rw [splitFraction_append]
  simp [exponent?_tail, hNatural]

end Notation

end FactLayout
