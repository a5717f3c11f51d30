import FactLayout.Cell
import FactLayout.Fault

/-
  Typed entries and the cells they stand for.

  An entry pairs the name of a type with a JSON value.  If
  the type is known the value must fit it; an entry of an
  unknown type is kept as a cell without text.

  Key definitions include:
    * `Entry`
    * `EntryType`
    * `EntryType.ofName?`
    * `EntryType.read?`
    * `Entry.toCell`
    * `Entry.toCells`
-/

------------------------------------------------------------
-- Types of Entries
------------------------------------------------------------

namespace FactLayout

/- An argument as it is written in a document. -/
structure Entry where
  kind : String
  value : Json
deriving Repr

/- The known types. -/
inductive EntryType where
| int
| uint
| uint64
| uint16
| uint8
| string
| strbuf
| float
| double
| bool
| list
| null
deriving DecidableEq, Repr

namespace EntryType

/- The name of a type. -/
def name : EntryType → String
| int => "int"
| uint => "uint"
| uint64 => "uint64"
| uint16 => "uint16"
| uint8 => "uint8"
| string => "string"
| strbuf => "strbuf"
| float => "float"
| double => "double"
| bool => "bool"
| list => "list"
| null => "null"

/- Every known type. -/
def all : List EntryType :=
  [int, uint, uint64, uint16, uint8, string, strbuf,
    float, double, bool, list, null]

/- The type of a name, if it is known. -/
def ofName? (name : String) : Option EntryType :=
  all.find? fun t => t.name == name

/- Every type is found by its name. -/
@[simp]
theorem ofName?_name
    (t : EntryType) :
    ofName? t.name = some t := by
  cases t <;> decide

------------------------------------------------------------
-- Values That Fit
------------------------------------------------------------

/- The exact integer of a value, within bounds. -/
def intWithin?
    (lower upper : Int) : Json → Option Int
| .number n => do
    let i ← n.int?
    if lower ≤ i ∧ i < upper then some i else none
| _ => none

/- The natural number of a value, below a power of two. -/
def wordOf?
    (width : Nat)
    (value : Json) : Option Nat :=
  Int.toNat <$> intWithin? 0 (Nat.pow 2 width) value

/- The text of a value. -/
def textOf? : Json → Option String
| .text s => some s
| _ => none

/- The number of a value, rounded to a double. -/
def doubleOf? : Json → Option Double
| .number n => some n.toDouble
| _ => none

/-
  The number of a value, rounded twice.  A number too large
  for single precision does not fit.
-/
def singleOf? (value : Json) : Option Single := do
  let d ← doubleOf? value
  if d.toSingle.isFinite then some d.toSingle else none

/- The truth value of a value. -/
def boolOf? : Json → Option Bool
| .bool b => some b
| _ => none

/- The texts of a value, which must be all its items. -/
def textsOf? : Json → Option (List String)
| .array items => items.mapM textOf?
| _ => none

/- The cell that a value of a known type stands for. -/
def read?
    (t : EntryType)
    (value : Json) : Option Cell :=
  match t with
  | int =>
      (fun i => .int (Int32.ofInt i)) <$>
        intWithin? (-2147483648) 2147483648 value
  | uint =>
      (fun n => .uint (UInt32.ofNat n)) <$> wordOf? 32 value
  | uint64 =>
      (fun n => .uint64 (UInt64.ofNat n)) <$>
        wordOf? 64 value
  | uint16 =>
      (fun n => .uint16 (UInt16.ofNat n)) <$>
        wordOf? 16 value
  | uint8 =>
      (fun n => .uint8 (UInt8.ofNat n)) <$> wordOf? 8 value
  | string => .string <$> textOf? value
  | strbuf => .strbuf <$> textOf? value
  | float => .float <$> singleOf? value
  | double => .double <$> doubleOf? value
  | bool => .bool <$> boolOf? value
  | list => .list <$> textsOf? value
  | null => some .null

end EntryType

------------------------------------------------------------
-- Conversion
------------------------------------------------------------

namespace Entry

/- The cell that an entry stands for. -/
def toCell (e : Entry) : Attempt Cell :=
  match EntryType.ofName? e.kind with
  | some t =>
      match t.read? e.value with
      | some cell => pure cell
      | none => .fail (.argument (.mismatch e.value e.kind))
  | none => do
      Attempt.report (.unknownType e.kind)
      pure (.unsupported e.kind)

/- The cells of entries in order, up to the first fault. -/
def toCells (entries : List Entry) : Attempt (List Cell) :=
  entries.mapM toCell

end Entry

end FactLayout
