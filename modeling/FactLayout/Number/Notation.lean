import FactLayout.Number.Binary

/-
  Reading decimal notation.

  A notation has a sign, digits around a point, and a power
  of ten, of which most may be missing.  It stands for the
  nearest double, rounded once.

  Key definitions include:
    * `Notation.split`
    * `Notation.exponent?`
    * `Double.ofNotation?`
-/

------------------------------------------------------------
-- Parts
------------------------------------------------------------

namespace FactLayout

namespace Notation

/- Split off a sign, and tell whether it is a minus. -/
def splitSign : List Char → Bool × List Char
| '-' :: rest => (true, rest)
| '+' :: rest => (false, rest)
| rest => (false, rest)

/- Split off leading digits. -/
def splitDigits
    (text : List Char) : List Char × List Char :=
  (text.takeWhile Char.isDigit, text.dropWhile Char.isDigit)

/- Split off a point and the digits behind it, if any. -/
def splitFraction : List Char → List Char × List Char
| '.' :: rest => splitDigits rest
| rest => ([], rest)

/- A nonempty list of digits as a number. -/
def natural? (digits : List Char) : Option Nat :=
  if digits ≠ [] ∧ digits.all Char.isDigit then
    some (Nat.ofDigitChars 10 digits 0)
  else none

/- The power of ten at the end, if it is well formed. -/
def exponent? : List Char → Option Int
| [] => some 0
| mark :: rest =>
    if mark = 'e' ∨ mark = 'E' then
      let (negative, digits) := splitSign rest
      (fun n : Nat => if negative then -(n : Int) else n) <$>
        natural? digits
    else none

end Notation

------------------------------------------------------------
-- Values
------------------------------------------------------------

namespace Double

/-
  The finite double nearest to digits times a power of ten.
  Far from one, the power decides by itself.
-/
def ofScientific?
    (negative : Bool)
    (digits : Nat)
    (exponent : Int) : Option Double :=
  let magnitude :=
    exponent + (Nat.toDigits 10 digits).length
  let d :=
    if digits = 0 ∨ magnitude < -400 then
      nearest negative (.ofNat 0)
    else if 400 < magnitude then
      nearest negative ((Quotient.ofNat 1).shiftTen 400)
    else
      nearest negative
        ((Quotient.ofNat digits).shiftTen exponent)
  if d.isFinite then some d else none

/- The finite double that a notation stands for. -/
def ofNotation? (text : List Char) : Option Double := do
  let (negative, rest) := Notation.splitSign text
  let (whole, rest) := Notation.splitDigits rest
  let (fraction, rest) := Notation.splitFraction rest
  let exponent ← Notation.exponent? rest
  let digits ← Notation.natural? (whole ++ fraction)
  ofScientific? negative digits (exponent - fraction.length)

end Double

end FactLayout
