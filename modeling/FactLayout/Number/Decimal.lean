import FactLayout.Number.Binary

/-
  Decimal text of binary numbers.

  Two layouts are written here.  The fixed layout has a
  given number of decimal places.  The general layout has
  a given number of significant digits, drops the zeros at
  the end of its fraction, and turns to an exponent for
  magnitudes far from one.  Both round the exact value, and
  a tie goes to the even digit.

  Key definitions include:
    * `Decimal.fixed`
    * `Decimal.Scientific`
    * `Decimal.Scientific.ofQuotient`
    * `Decimal.general`
    * `Single.fixedText`
    * `Double.generalText`
-/

------------------------------------------------------------
-- Digits
------------------------------------------------------------

namespace FactLayout

namespace Decimal

/- The decimal digits of a number. -/
def digits (n : Nat) : List Char :=
  Nat.toDigits 10 n

/- Fill up with zeros on the left to a given width. -/
def padLeft
    (width : Nat)
    (ds : List Char) : List Char :=
  List.replicate (width - ds.length) '0' ++ ds

/- Put a point before the last places. -/
def withPoint
    (places : Nat)
    (n : Nat) : List Char :=
  let ds := padLeft (places + 1) (digits n)
  let whole := ds.take (ds.length - places)
  if places = 0 then whole
  else whole ++ '.' :: ds.drop (ds.length - places)

/- Write a minus sign before a negative number. -/
def signed
    (negative : Bool)
    (text : List Char) : List Char :=
  if negative then '-' :: text else text

/- Drop the zeros at the end of a list of digits. -/
def dropZeros (ds : List Char) : List Char :=
  (ds.reverse.dropWhile (· == '0')).reverse

/-
  Drop the zeros that end a fraction, and the point if
  nothing is left behind it.
-/
def trimFraction (text : List Char) : List Char :=
  if text.contains '.' then
    let kept := text.reverse.dropWhile (· == '0')
    (if kept.head? = some '.' then kept.drop 1
      else kept).reverse
  else text

------------------------------------------------------------
-- Fixed Places
------------------------------------------------------------

/- Write a quotient with a fixed number of places. -/
def fixed
    (places : Nat)
    (q : Quotient) : List Char :=
  withPoint places (q.shiftTen places).round

------------------------------------------------------------
-- Significant Digits
------------------------------------------------------------

/-
  Significant digits, as one integer, and the exponent of
  the first of them.
-/
structure Scientific where
  significand : Nat
  exponent : Int
deriving DecidableEq, Repr

namespace Scientific

/-
  Round a positive quotient to a number of significant
  digits.  A carry out of the first digit raises the
  exponent.
-/
def ofQuotient
    (precision : Nat)
    (q : Quotient) : Scientific :=
  let e := q.floorLogTen
  let n := (q.shiftTen (precision - 1 - e)).round
  if n = Nat.pow 10 precision then
    ⟨Nat.pow 10 (precision - 1), e + 1⟩
  else ⟨n, e⟩

/- One digit, a point and the other digits. -/
def mantissa (s : Scientific) : List Char :=
  let ds := digits s.significand
  withPoint (ds.length - 1) s.significand

end Scientific

/- A sign and at least two digits. -/
def exponentText (exponent : Int) : List Char :=
  (if exponent < 0 then '-' else '+') ::
    padLeft 2 (digits exponent.natAbs)

/-
  The general layout of a positive quotient.  An exponent
  is written below `10 ^ (-4)` and from `10 ^ precision`
  on.  In between the quotient is rounded a second time, to
  as many places as leave that many significant digits.
-/
def general
    (precision : Nat)
    (q : Quotient) : List Char :=
  let s := Scientific.ofQuotient precision q
  if s.exponent < -4 ∨ precision ≤ s.exponent then
    trimFraction s.mantissa ++
      'e' :: exponentText s.exponent
  else
    trimFraction
      (fixed (precision - 1 - s.exponent).toNat q)

/- Values that no digits are written for. -/
def specialText : BinaryValue → List Char
| .infinite negative => signed negative ['i', 'n', 'f']
| .notNumber negative => signed negative ['n', 'a', 'n']
| .finite .. => []

end Decimal

------------------------------------------------------------
-- Layouts in Use
------------------------------------------------------------

/- Six places, whatever the magnitude. -/
def Single.fixedText (s : Single) : List Char :=
  match s.value with
  | .finite negative significand exponent =>
      Decimal.signed negative
        (Decimal.fixed 6
          (BinaryValue.quotient significand exponent))
  | special => Decimal.specialText special

/- Up to six significant digits. -/
def Double.generalText (d : Double) : List Char :=
  match d.value with
  | .finite negative significand exponent =>
      Decimal.signed negative
        (if significand = 0 then ['0']
        else
          Decimal.general 6
            (BinaryValue.quotient significand exponent))
  | special => Decimal.specialText special

end FactLayout
