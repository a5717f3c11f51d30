import FactLayout.Number.Decimal

/-
  The shortest decimal that reads back.

  Around a finite number lie the reals that round to it.
  The text of the number has the fewest digits with which a
  decimal lies among them; of two such decimals the nearer
  one is written.

  Key definitions include:
    * `Shortest.Neighbourhood`
    * `Shortest.candidate?`
    * `Double.shortest`
    * `Double.shortestText`
-/

------------------------------------------------------------
-- The Reals That Round to a Number
------------------------------------------------------------

namespace FactLayout

namespace Shortest

/-
  The interval around a value, counted in quarters of its
  last place.  The ends belong to it if the significand is
  even.
-/
structure Neighbourhood where
  low : Quotient
  value : Quotient
  high : Quotient
  closed : Bool
deriving DecidableEq, Repr

/-
  The interval of a finite number.  Below a power of two
  the numbers lie twice as dense, unless that power is the
  least that has a full significand.
-/
def Neighbourhood.ofFinite
    (f : BinaryFormat)
    (significand : Nat)
    (exponent : Int) : Neighbourhood :=
  let atPower :=
    significand = Nat.pow 2 f.fraction ∧
      f.minExponent < exponent
  let below := if atPower then 1 else 2
  let quarters (n : Nat) :=
    (Quotient.ofNat n).shiftTwo (exponent - 2)
  { low := quarters (4 * significand - below)
    value := quarters (4 * significand)
    high := quarters (4 * significand + 2)
    closed := significand % 2 = 0 }

/- A quotient lies in the interval. -/
def Neighbourhood.contains
    (n : Neighbourhood)
    (q : Quotient) : Bool :=
  if n.closed then n.low.le q && q.le n.high
  else !q.le n.low && !n.high.le q

/- An integer as a multiple of a power of ten. -/
def onGrid
    (unit : Int)
    (n : Nat) : Quotient :=
  (Quotient.ofNat n).shiftTen unit

/-
  The best decimal with a given number of digits, counted
  from the first digit of the value.  Only the neighbours of
  the value on that grid can be nearest to it.
-/
def candidate?
    (n : Neighbourhood)
    (count : Nat) : Option Decimal.Scientific :=
  let unit := n.value.floorLogTen - count + 1
  let scaled := n.value.shiftTen (-unit)
  let low := scaled.floor
  let pick (k : Nat) : Option Decimal.Scientific :=
    some ⟨k, unit⟩
  match n.contains (onGrid unit low),
      n.contains (onGrid unit (low + 1)) with
  | false, false => none
  | true, false => pick low
  | false, true => pick (low + 1)
  | true, true => pick scaled.round

/-
  The shortest decimal in an interval.  Seventeen digits
  tell all doubles apart.
-/
def ofNeighbourhood
    (n : Neighbourhood) : Decimal.Scientific :=
  match (List.range' 1 17).findSome? (candidate? n) with
  | some s => s
  | none =>
      let unit := n.value.floorLogTen - 16
      ⟨(n.value.shiftTen (-unit)).round, unit⟩

end Shortest

------------------------------------------------------------
-- Text of a Finite Double
------------------------------------------------------------

/-
  Write significant digits, given with the exponent of the
  last of them.  Positions from the fifth decimal place up
  to the sixteenth digit before the point are written out,
  with at least one digit behind the point.
-/
def Shortest.layout
    (s : Decimal.Scientific) : List Char :=
  let all := Decimal.digits s.significand
  let ds := Decimal.dropZeros all
  let lead : Int := s.exponent + all.length - 1
  if -5 ≤ lead ∧ lead ≤ 15 then
    let places := (ds.length - 1 - lead).toNat
    if places = 0 then
      ds ++ List.replicate (lead + 1 - ds.length).toNat '0' ++
        ['.', '0']
    else
      Decimal.withPoint places (Nat.ofDigitChars 10 ds 0)
  else
    let fraction :=
      match ds.drop 1 with
      | [] => []
      | rest => '.' :: rest
    ds.take 1 ++ fraction ++
      'e' :: (if lead < 0 then '-' else '+') ::
        Decimal.digits lead.natAbs

/- The shortest text that reads back as the same number. -/
def Double.shortestText (d : Double) : List Char :=
  match d.value with
  | .finite negative significand exponent =>
      Decimal.signed negative
        (if significand = 0 then ['0', '.', '0']
        else
          Shortest.layout
            (Shortest.ofNeighbourhood
              (Shortest.Neighbourhood.ofFinite
                BinaryFormat.double significand exponent)))
  | special => Decimal.specialText special

end FactLayout
