/-
  Exact quotients and their decimal magnitude.

  A nonnegative quotient is kept as a numerator and a
  denominator, so every rounding below is of the exact
  value.

  Key definitions include:
    * `divNearest`
    * `Quotient`
    * `Quotient.shift`
    * `Quotient.round`
    * `Quotient.floorLog`
-/

------------------------------------------------------------
-- Division to the Nearest Integer
------------------------------------------------------------

namespace FactLayout

/-
  Divide and round to the nearest integer.  A quotient
  halfway between two integers goes to the even one.
-/
def divNearest
    (num den : Nat) : Nat :=
  let low := num / den
  let twice := 2 * (num % den)
  if twice < den ∨ twice = den ∧ low % 2 = 0 then low
  else low + 1

/- Rounding loses at most half a unit downwards. -/
theorem two_mul_le_divNearest
    {num den : Nat}
    (hDen : 0 < den) :
    2 * num ≤ (2 * divNearest num den + 1) * den := by
  have hDiv := Nat.div_add_mod num den
  have hMod := Nat.mod_lt num hDen
  unfold divNearest
  simp only
  split
  · rename_i hLow
    have hLe : 2 * (num % den) ≤ den := by omega
    have hMul :
        (2 * (num / den) + 1) * den =
          2 * (den * (num / den)) + den := by
      rw [Nat.add_mul, Nat.one_mul, Nat.mul_assoc,
        Nat.mul_comm (num / den)]
    omega
  · have hMul :
        (2 * (num / den + 1) + 1) * den =
          2 * (den * (num / den)) + 3 * den := by
      rw [Nat.add_mul, Nat.one_mul, Nat.mul_assoc,
        Nat.add_mul, Nat.mul_comm (num / den)]
      omega
    omega

/- Rounding gains at most half a unit. -/
theorem divNearest_le_two_mul
    {num den : Nat}
    (hDen : 0 < den) :
    2 * divNearest num den * den ≤ 2 * num + den := by
  have hDiv := Nat.div_add_mod num den
  have hMod := Nat.mod_lt num hDen
  unfold divNearest
  simp only
  split
  · have hMul :
        2 * (num / den) * den =
          2 * (den * (num / den)) := by
      rw [Nat.mul_assoc, Nat.mul_comm (num / den)]
    omega
  · rename_i hHigh
    have hMul :
        2 * (num / den + 1) * den =
          2 * (den * (num / den)) + 2 * den := by
      rw [Nat.mul_assoc, Nat.add_mul,
        Nat.mul_comm (num / den)]
      omega
    omega

------------------------------------------------------------
-- Quotients
------------------------------------------------------------

/- A nonnegative rational number. -/
structure Quotient where
  num : Nat
  den : Nat
  den_pos : 0 < den
deriving DecidableEq, Repr

namespace Quotient

/- Multiply by a power of a positive base. -/
def shift
    (q : Quotient)
    (base : Nat)
    (hBase : 0 < base)
    (exponent : Int) : Quotient where
  num := q.num * Nat.pow base exponent.toNat
  den := q.den * Nat.pow base (-exponent).toNat
  den_pos :=
    Nat.mul_pos q.den_pos (Nat.pow_pos hBase)

/- Multiply by a power of ten. -/
def shiftTen
    (q : Quotient)
    (exponent : Int) : Quotient :=
  q.shift 10 (by decide) exponent

/- Multiply by a power of two. -/
def shiftTwo
    (q : Quotient)
    (exponent : Int) : Quotient :=
  q.shift 2 (by decide) exponent

/- The nearest integer, ties to even. -/
def round (q : Quotient) : Nat :=
  divNearest q.num q.den

/- The largest integer that is not above. -/
def floor (q : Quotient) : Nat :=
  q.num / q.den

/- A natural number as a quotient. -/
def ofNat (n : Nat) : Quotient where
  num := n
  den := 1
  den_pos := by decide

/- Quotients are compared by cross multiplication. -/
def le (p q : Quotient) : Bool :=
  p.num * q.den ≤ q.num * p.den

/-
  The exponent `e` with `10 ^ e ≤ q < 10 ^ (e + 1)` of a
  positive quotient.  The numbers of digits above and below
  the line leave only two candidates.
-/
def floorLogTen (q : Quotient) : Int :=
  let guess : Int :=
    (Nat.toDigits 10 q.num).length -
      (Nat.toDigits 10 q.den).length
  if le ((ofNat 1).shiftTen guess) q then guess
  else guess - 1

/- The exponent `e` with `2 ^ e ≤ q < 2 ^ (e + 1)`. -/
def floorLogTwo (q : Quotient) : Int :=
  let guess : Int :=
    (Nat.log2 q.num : Int) - (Nat.log2 q.den : Int)
  if le ((ofNat 1).shiftTwo guess) q then guess
  else guess - 1

end Quotient

end FactLayout
