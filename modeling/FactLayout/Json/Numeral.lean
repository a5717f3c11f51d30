import FactLayout.Json.Value

/-
  Reading the numerals of JSON.

  A numeral without fraction and exponent is an exact
  integer as long as it fits.  Every other numeral is read
  as a double, in three roundings: its leading digits as far
  as they fit an unsigned word, a power of ten, and their
  product or quotient.

  Key definitions include:
    * `Numeral`
    * `Numeral.takeFitting`
    * `Double.scaleTen?`
    * `Numeral.number?`
-/

------------------------------------------------------------
-- Scaling by Powers of Ten
------------------------------------------------------------

namespace FactLayout

namespace Quotient

/- The product of two quotients. -/
def mul (p q : Quotient) : Quotient where
  num := p.num * q.num
  den := p.den * q.den
  den_pos := Nat.mul_pos p.den_pos q.den_pos

/- The ratio of two quotients, the second not zero. -/
def div (p q : Quotient) : Quotient :=
  if hNum : 0 < q.num then
    { num := p.num * q.den
      den := p.den * q.num
      den_pos := Nat.mul_pos p.den_pos hNum }
  else p

end Quotient

namespace Double

/- The magnitude of a finite double. -/
def magnitude (d : Double) : Quotient :=
  match d.value with
  | .finite _ significand exponent =>
      BinaryValue.quotient significand exponent
  | _ => .ofNat 0

/- The double nearest to a power of ten. -/
def powerTen (exponent : Nat) : Double :=
  nearest false
    ((Quotient.ofNat 1).shiftTen exponent)

/-
  Multiply a positive double by a power of ten, rounding
  after every step.  The largest power used is `10 ^ 308`;
  smaller results are reached by dividing repeatedly.  A
  result that is too large is refused.
-/
def scaleTen?
    (d : Double)
    (exponent : Int) : Option Double :=
  if exponent < -308 then
    if d.magnitude.num = 0 then some d
    else
      scaleTen?
        (nearest false
          (d.magnitude.div (powerTen 308).magnitude))
        (exponent + 308)
  else if exponent < 0 then
    some (nearest false
      (d.magnitude.div
        (powerTen exponent.natAbs).magnitude))
  else if exponent ≤ 308 then
    let product :=
      nearest false
        (d.magnitude.mul
          (powerTen exponent.natAbs).magnitude)
    if product.isFinite then some product else none
  else if d.magnitude.num = 0 then some d
  else none
termination_by (-exponent).toNat
decreasing_by omega

/- Give a positive double a sign. -/
def withSign
    (negative : Bool)
    (d : Double) : Double :=
  nearest negative d.magnitude

end Double

------------------------------------------------------------
-- Numerals
------------------------------------------------------------

/-
  The parts of a numeral: its sign, the digits before the
  point, the digits behind it, and a signed exponent.
-/
structure Numeral where
  negative : Bool
  whole : List Char
  fraction : Option (List Char)
  exponent : Option (Bool × List Char)
deriving DecidableEq, Repr

namespace Numeral

/- The value of a list of decimal digits. -/
def digitsValue (ds : List Char) : Nat :=
  Nat.ofDigitChars 10 ds 0

/-
  Append digits to a number while it fits an unsigned word,
  and count the digits that found room.
-/
def takeFitting : Nat → List Char → Nat × Nat
| n, [] => (n, 0)
| n, d :: ds =>
    let longer := digitsValue [d] + 10 * n
    if longer < 18446744073709551616 then
      let (value, count) := takeFitting longer ds
      (value, count + 1)
    else (n, 0)

/- The largest exponent that is not out of range. -/
def maxExponent : Nat := 2147483647

/- Read a numeral as a double. -/
def double? (n : Numeral) : Option Double := do
  let (leading, used) := takeFitting 0 n.whole
  let (significand, places) :=
    takeFitting leading (n.fraction.getD [])
  let shift : Int := (n.whole.length : Int) - used - places
  let start := Double.nearest false (.ofNat significand)
  let result ←
    match n.exponent with
    | none => start.scaleTen? shift
    | some (below, ds) =>
        let e := digitsValue ds
        if e ≤ maxExponent then
          start.scaleTen? (if below then shift - e else shift + e)
        else if significand = 0 ∨ below then
          some (Double.nearest false (.ofNat 0))
        else none
  pure (result.withSign n.negative)

/-
  Read a numeral.  Minus zero is a double, and so is an
  integer that does not fit.
-/
def number? (n : Numeral) : Option Json.Number :=
  let i := digitsValue n.whole
  let exact : Option Json.Number :=
    if n.fraction.isSome ∨ n.exponent.isSome ∨
        n.negative ∧ i = 0 then none
    else
      Json.Number.ofInt? (if n.negative then -i else i)
  match exact with
  | some number => some number
  | none => n.double?.bind Json.Number.ofDouble?

end Numeral

end FactLayout
