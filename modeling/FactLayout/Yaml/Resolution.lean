import FactLayout.Json.Value
import FactLayout.Number.Notation
import FactLayout.Yaml.Document

/-
  What scalars stand for.

  The text of a plain scalar may be a truth value, a number
  or nothing.  A tag of the standard prescribes one of these;
  with any other tag, and without plain style, a scalar is a
  text.

  Key definitions include:
    * `Yaml.Resolution.isNull`
    * `Yaml.Resolution.bool?`
    * `Yaml.Resolution.integer?`
    * `Yaml.Resolution.float?`
    * `Yaml.Resolution.plain?`
    * `Yaml.Resolution.scalar?`
-/

------------------------------------------------------------
-- Notations
------------------------------------------------------------

namespace FactLayout

namespace Yaml

namespace Resolution

/- The notations of nothing. -/
def isNull (text : String) : Bool :=
  ["null", "Null", "NULL", "~"].contains text

/- The notations of truth values. -/
def bool? (text : String) : Option Bool :=
  if ["true", "True", "TRUE"].contains text then some true
  else if ["false", "False", "FALSE"].contains text then
    some false
  else none

/- A digit of a base. -/
def digit?
    (base : Nat)
    (c : Char) : Option Nat :=
  (Json.Token.hexValue? c).filter (· < base)

/- A nonempty list of digits as a number. -/
def digits?
    (base : Nat)
    (text : List Char) : Option Nat :=
  if text = [] then none
  else
    (text.mapM (digit? base)).map fun ds =>
      ds.foldl (fun n d => n * base + d) 0

/-
  Digits without a sign.  A mark in front gives the base; in
  base ten there is no idle zero in front.
-/
def magnitude? (text : List Char) : Option Nat :=
  match text with
  | '0' :: 'x' :: rest => digits? 16 rest
  | '0' :: 'o' :: rest => digits? 8 rest
  | '0' :: 'b' :: rest => digits? 2 rest
  | '0' :: _ :: _ => none
  | _ => digits? 10 text

/- The notations of integers, up to 128 bits. -/
def integer? (text : List Char) : Option Int := do
  let (negative, rest) := Notation.splitSign text
  let n ← magnitude? rest
  if negative then
    if n ≤ Nat.pow 2 127 then some (-(n : Int)) else none
  else if n < Nat.pow 2 128 then some n
  else none

/- The notations of what is not finite. -/
def isNotFinite (text : String) : Bool :=
  [".inf", ".Inf", ".INF", "+.inf", "+.Inf", "+.INF",
    "-.inf", "-.Inf", "-.INF", ".nan", ".NaN",
    ".NAN"].contains text

/- The notations of floating point numbers. -/
def float? (text : String) : Option Json :=
  if isNotFinite text then some .null
  else Json.ofDouble <$> Double.ofNotation? text.toList

/- Digits with an idle zero in front, possibly signed. -/
def hasIdleZero (text : List Char) : Bool :=
  let (_, rest) := Notation.splitSign text
  rest.head? == some '0' && 1 < rest.length &&
    rest.all Char.isDigit

/- Integers must fit a 64-bit word. -/
def integerValue? (i : Int) : Option Json :=
  Json.number <$> Json.Number.ofInt? i

------------------------------------------------------------
-- Scalars
------------------------------------------------------------

/- The value of a plain scalar. -/
def plain? (text : String) : Option Json :=
  if text = "" ∨ isNull text then some .null
  else
    match bool? text, integer? text.toList with
    | some b, _ => some (.bool b)
    | none, some i => integerValue? i
    | none, none =>
        if hasIdleZero text.toList then some (.text text)
        else (float? text).or (some (.text text))

/- A tag of the standard. -/
def standardTag (name : String) : Tag :=
  ("tag:yaml.org,2002:" ++ name).toUTF8.toList

/- A tag begins with the mark of private tags. -/
def isPrivate (tag : Tag) : Bool :=
  tag.head? == some TagName.mark

/-
  A tag that names a private kind of node.  Its octets must
  stand for text.
-/
def namesKind (tag : Tag) : Bool :=
  isPrivate tag &&
    (ByteArray.mk tag.tail.toArray).validateUTF8

/- The value of a scalar.  Private kinds have no values. -/
def scalar?
    (tag : Option Tag)
    (plain : Bool)
    (text : String) : Option Json :=
  match tag with
  | none => if plain then plain? text else some (.text text)
  | some tag =>
      if namesKind tag then none
      else if tag = standardTag "bool" then
        Json.bool <$> bool? text
      else if tag = standardTag "int" then
        (integer? text.toList).bind integerValue?
      else if tag = standardTag "float" then float? text
      else if tag = standardTag "null" then
        if isNull text then some .null else none
      else if isPrivate tag && plain then plain? text
      else some (.text text)

end Resolution

end Yaml

end FactLayout
