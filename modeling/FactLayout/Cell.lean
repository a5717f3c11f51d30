import FactLayout.Number.Decimal

/-
  The typed arguments of a template.

  A cell holds one fact.  It has a text, which a placeholder
  writes, and it is set or not, which decides whether a
  guarded block is kept.

  Key definitions include:
    * `Cell`
    * `Cell.text`
    * `Cell.isSet`
-/

------------------------------------------------------------
-- Cells
------------------------------------------------------------

namespace FactLayout

/-
  A fact of one of the supported kinds, the absence of a
  fact, or a fact of a kind that has no text.
-/
inductive Cell where
| int (value : Int32)
| uint (value : UInt32)
| uint64 (value : UInt64)
| uint16 (value : UInt16)
| uint8 (value : UInt8)
| string (value : String)
| strbuf (value : String)
| float (value : Single)
| double (value : Double)
| bool (value : Bool)
| list (items : List String)
| null
| unsupported (kind : String)
deriving DecidableEq, Repr

namespace Cell

/- An integer in decimal. -/
def integerText (i : Int) : String :=
  String.ofList
    (Decimal.signed (decide (i < 0))
      (Decimal.digits i.natAbs))

/- A natural number in decimal. -/
def naturalText (n : Nat) : String :=
  String.ofList (Decimal.digits n)

/-
  The text of a fact.  An absent fact and a fact of an
  unsupported kind have none.
-/
def text : Cell → String
| int value => integerText value.toInt
| uint value => naturalText value.toNat
| uint64 value => naturalText value.toNat
| uint16 value => naturalText value.toNat
| uint8 value => naturalText value.toNat
| string value => value
| strbuf value => value
| float value => String.ofList value.fixedText
| double value => String.ofList value.generalText
| bool true => "true"
| bool false => "false"
| list items => ", ".intercalate items
| null => ""
| unsupported _ => ""

/-
  Numbers are set above zero and text if it is not empty.  A
  truth value is set whichever it is.  Numbers of single
  precision, lists, absent facts and facts of unsupported
  kinds are never set.
-/
def isSet : Cell → Bool
| int value => 0 < value.toInt
| uint value => 0 < value.toNat
| uint64 value => 0 < value.toNat
| uint16 value => 0 < value.toNat
| uint8 value => 0 < value.toNat
| double value => value.isPositive
| string value => value != ""
| strbuf value => value != ""
| bool _ => true
| float _ => false
| list _ => false
| null => false
| unsupported _ => false

end Cell

end FactLayout
