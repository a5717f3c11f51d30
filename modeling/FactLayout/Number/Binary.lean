import FactLayout.Number.Rounding

/-
  Binary floating point numbers as bit patterns.

  A format is given by the widths of its fraction and of its
  exponent.  Reading a pattern and rounding a quotient to
  the nearest pattern are exact.

  Key definitions include:
    * `BinaryFormat`
    * `BinaryFormat.value`
    * `BinaryFormat.nearest`
    * `Single`
    * `Double`
-/

------------------------------------------------------------
-- Formats
------------------------------------------------------------

namespace FactLayout

/- The widths of the fields of a pattern, in bits. -/
structure BinaryFormat where
  fraction : Nat
  exponent : Nat
deriving DecidableEq, Repr

/-
  What a pattern stands for.  A finite value is its
  significand times a power of two.
-/
inductive BinaryValue where
| finite (negative : Bool)
    (significand : Nat) (exponent : Int)
| infinite (negative : Bool)
| notNumber (negative : Bool)
deriving DecidableEq, Repr

namespace BinaryFormat

/- Thirty-two bits. -/
def single : BinaryFormat := ⟨23, 8⟩

/- Sixty-four bits. -/
def double : BinaryFormat := ⟨52, 11⟩

/- The exponent of the last place of the least values. -/
def minExponent (f : BinaryFormat) : Int :=
  2 - (Nat.pow 2 (f.exponent - 1) : Nat) - f.fraction

/- The pattern of infinity, without a sign. -/
def infinity (f : BinaryFormat) : Nat :=
  (Nat.pow 2 f.exponent - 1) * Nat.pow 2 f.fraction

/- The weight of the sign bit. -/
def signBit (f : BinaryFormat) : Nat :=
  Nat.pow 2 (f.fraction + f.exponent)

/- The pattern of a magnitude with a sign. -/
def withSign
    (f : BinaryFormat)
    (negative : Bool)
    (magnitude : Nat) : Nat :=
  if negative then f.signBit + magnitude else magnitude

/- Read a pattern. -/
def value
    (f : BinaryFormat)
    (bits : Nat) : BinaryValue :=
  let negative := decide (f.signBit ≤ bits)
  let magnitude := bits % f.signBit
  let fraction := magnitude % Nat.pow 2 f.fraction
  let field := magnitude / Nat.pow 2 f.fraction
  if f.infinity < magnitude then .notNumber negative
  else if magnitude = f.infinity then .infinite negative
  else if field = 0 then
    .finite negative fraction f.minExponent
  else
    .finite negative (Nat.pow 2 f.fraction + fraction)
      (f.minExponent + field - 1)

/-
  The pattern of the value nearest to a quotient, ties to
  the even pattern.  Rounding is done at the last place the
  quotient's magnitude allows; a carry moves on to the next
  pattern by itself, and the patterns that are left over
  stand for infinity.
-/
def nearest
    (f : BinaryFormat)
    (q : Quotient) : Nat :=
  if q.num = 0 then 0
  else
    let place :=
      max f.minExponent (q.floorLogTwo - f.fraction)
    let units := (q.shiftTwo (-place)).round
    let steps := (place - f.minExponent).toNat
    min f.infinity (steps * Nat.pow 2 f.fraction + units)

end BinaryFormat

namespace BinaryValue

/- A finite magnitude as a quotient. -/
def quotient
    (significand : Nat)
    (exponent : Int) : Quotient :=
  (Quotient.ofNat significand).shiftTwo exponent

/- The value has an end. -/
def isFinite : BinaryValue → Bool
| finite .. => true
| _ => false

end BinaryValue

------------------------------------------------------------
-- Single and Double Precision
------------------------------------------------------------

/- A number in thirty-two bits. -/
structure Single where
  bits : UInt32
deriving DecidableEq, Repr

/- A number in sixty-four bits. -/
structure Double where
  bits : UInt64
deriving DecidableEq, Repr

namespace Single

/- What the pattern stands for. -/
def value (s : Single) : BinaryValue :=
  BinaryFormat.single.value s.bits.toNat

/- The pattern stands for a finite value. -/
def isFinite (s : Single) : Bool :=
  s.value.isFinite

end Single

namespace Double

/- What the pattern stands for. -/
def value (d : Double) : BinaryValue :=
  BinaryFormat.double.value d.bits.toNat

/- The pattern stands for a finite value. -/
def isFinite (d : Double) : Bool :=
  d.value.isFinite

/- The number nearest to a quotient with a sign. -/
def nearest
    (negative : Bool)
    (q : Quotient) : Double :=
  ⟨UInt64.ofNat (BinaryFormat.double.withSign negative
    (BinaryFormat.double.nearest q))⟩

/- The number nearest to an integer. -/
def ofInt (i : Int) : Double :=
  nearest (decide (i < 0)) (.ofNat i.natAbs)

/-
  The value is above zero.  The patterns of the positive
  values lie between those of zero and of infinity.
-/
def isPositive (d : Double) : Bool :=
  0 < d.bits.toNat &&
    d.bits.toNat ≤ BinaryFormat.double.infinity

/- The nearest number in thirty-two bits. -/
def toSingle (d : Double) : Single :=
  let f := BinaryFormat.single
  let bits :=
    match d.value with
    | .finite negative significand exponent =>
        f.withSign negative
          (f.nearest
            (BinaryValue.quotient significand exponent))
    | .infinite negative => f.withSign negative f.infinity
    | .notNumber negative =>
        f.withSign negative
          (f.infinity + Nat.pow 2 (f.fraction - 1))
  ⟨UInt32.ofNat bits⟩

end Double

end FactLayout
