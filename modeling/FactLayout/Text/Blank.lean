/-
  Blank text.

  Key definitions include:
    * `Blank.isBlank`
    * `Blank.trim`
    * `Blank.dropLastWhile`
-/

------------------------------------------------------------
-- Blanks
------------------------------------------------------------

namespace FactLayout

namespace Blank

/- The characters that Unicode calls white space. -/
def isBlank (c : Char) : Bool :=
  let n := c.toNat
  9 ≤ n && n ≤ 13 || n == 0x20 || n == 0x85 || n == 0xa0 ||
    n == 0x1680 || 0x2000 ≤ n && n ≤ 0x200a ||
    n == 0x2028 || n == 0x2029 || n == 0x202f ||
    n == 0x205f || n == 0x3000

/- Drop characters of a class from the end. -/
def dropLastWhile
    (p : Char → Bool)
    (text : List Char) : List Char :=
  (text.reverse.dropWhile p).reverse

/- Drop blanks from both ends. -/
def trim (text : List Char) : List Char :=
  dropLastWhile isBlank (text.dropWhile isBlank)

end Blank

end FactLayout
