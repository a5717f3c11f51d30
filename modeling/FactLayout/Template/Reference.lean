/-
  References to arguments by number.

  A reference is blank space, an optional plus sign and a
  run of decimal digits; whatever follows the digits is
  ignored.  Numbering starts at one, and the largest number
  is the largest 32-bit word.

  Key definitions include:
    * `Reference.IsBlank`
    * `Reference.position?`
-/

------------------------------------------------------------
-- Argument References
------------------------------------------------------------

namespace FactLayout

namespace Reference

/- The blank characters a reference may begin with. -/
def isBlank (c : Char) : Bool :=
  c == ' ' || c == '\t' || c == '\n' ||
    c == '\x0c' || c == '\r'

/- Drop one leading plus sign. -/
def dropPlus : List Char → List Char
| '+' :: rest => rest
| text => text

/- The digits that a reference is read from. -/
def digits (text : List Char) : List Char :=
  (dropPlus (text.dropWhile isBlank)).takeWhile
    Char.isDigit

/-
  The largest argument number.
-/
def maxNumber : Nat := 4294967295

/-
  The position, counted from zero, of the argument that a
  reference names.  A leading minus sign, a missing number,
  zero and a number that is too large name no argument.
-/
def position? (text : List Char) : Option Nat :=
  if text.head? = some '-' then none
  else
    let ds := digits text
    let n := Nat.ofDigitChars 10 ds 0
    if ds ≠ [] ∧ 0 < n ∧ n ≤ maxNumber then
      some (n - 1)
    else none

end Reference

end FactLayout
