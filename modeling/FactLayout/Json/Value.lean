import FactLayout.Number.Shortest

/-
  JSON values and their compact text.

  Integers keep their exact value within the range of signed
  and unsigned 64-bit words together; all other numbers are
  finite doubles.  The fields of an object are kept in the
  order of their keys.

  Key definitions include:
    * `Json.Integer`
    * `Json.Number`
    * `Json`
    * `Json.put`
    * `Json.compact`
-/

------------------------------------------------------------
-- Numbers
------------------------------------------------------------

namespace FactLayout

/- An integer that fits a 64-bit word, signed or unsigned. -/
structure Json.Integer where
  val : Int
  lower : -9223372036854775808 ≤ val
  upper : val < 18446744073709551616
deriving DecidableEq, Repr

/- An exact integer, or a finite double. -/
inductive Json.Number where
| integer (value : Json.Integer)
| float (value : Double) (finite : value.isFinite = true)
deriving DecidableEq, Repr

namespace Json.Number

/- An integer, if it fits. -/
def ofInt? (i : Int) : Option Json.Number :=
  if hRange :
      -9223372036854775808 ≤ i ∧
        i < 18446744073709551616 then
    some (.integer ⟨i, hRange.1, hRange.2⟩)
  else none

/- A double, if it is finite. -/
def ofDouble? (d : Double) : Option Json.Number :=
  if hFinite : d.isFinite = true then
    some (.float d hFinite)
  else none

/- The exact integer, if the number is one. -/
def int? : Json.Number → Option Int
| integer value => some value.val
| float .. => none

/- The nearest double. -/
def toDouble : Json.Number → Double
| integer value => Double.ofInt value.val
| float value _ => value

/- The text of a number. -/
def text : Json.Number → List Char
| integer value =>
    Decimal.signed (decide (value.val < 0))
      (Decimal.digits value.val.natAbs)
| float value _ => value.shortestText

end Json.Number

------------------------------------------------------------
-- Values
------------------------------------------------------------

/- A JSON value. -/
inductive Json where
| null
| bool (value : Bool)
| number (value : Json.Number)
| text (value : String)
| array (items : List Json)
| object (fields : List (String × Json))
deriving Repr

namespace Json

/- A double as a value; what is not finite becomes null. -/
def ofDouble (d : Double) : Json :=
  match Number.ofDouble? d with
  | some n => .number n
  | none => .null

/-
  Put a field among fields that are ordered by key.  A field
  of the same key is replaced.
-/
def put
    (key : String)
    (value : Json) :
    List (String × Json) → List (String × Json)
| [] => [(key, value)]
| (k, v) :: rest =>
    if key < k then (key, value) :: (k, v) :: rest
    else if key = k then (key, value) :: rest
    else (k, v) :: put key value rest

/- An object from fields in any order; the last one wins. -/
def ofFields
    (fields : List (String × Json)) : Json :=
  .object
    (fields.foldl (fun kept (k, v) => put k v kept) [])

------------------------------------------------------------
-- Compact Text
------------------------------------------------------------

/- A control character by its number, in four digits. -/
def controlText (c : Char) : List Char :=
  ['\\', 'u'] ++
    Decimal.padLeft 4 (Nat.toDigits 16 c.toNat)

/- A character of a quoted text. -/
def charText (c : Char) : List Char :=
  if c = '"' then ['\\', '"']
  else if c = '\\' then ['\\', '\\']
  else if c = '\x08' then ['\\', 'b']
  else if c = '\x0c' then ['\\', 'f']
  else if c = '\n' then ['\\', 'n']
  else if c = '\r' then ['\\', 'r']
  else if c = '\t' then ['\\', 't']
  else if c < ' ' then controlText c
  else [c]

/- A quoted text. -/
def quotedText (s : String) : List Char :=
  '"' :: s.toList.flatMap charText ++ ['"']

mutual

/- The text of a value, without any blanks. -/
def compact : Json → List Char
| null => ['n', 'u', 'l', 'l']
| bool true => ['t', 'r', 'u', 'e']
| bool false => ['f', 'a', 'l', 's', 'e']
| number value => value.text
| text value => quotedText value
| array items => '[' :: compactItems items ++ [']']
| object fields => '{' :: compactFields fields ++ ['}']

/- The texts of items, with commas between them. -/
def compactItems : List Json → List Char
| [] => []
| [item] => compact item
| item :: rest => compact item ++ ',' :: compactItems rest

/- The texts of fields, with commas between them. -/
def compactFields : List (String × Json) → List Char
| [] => []
| [(key, value)] =>
    quotedText key ++ ':' :: compact value
| (key, value) :: rest =>
    quotedText key ++ ':' :: compact value ++
      ',' :: compactFields rest

end

end Json

end FactLayout
