import FactLayout.Json.Token
import FactLayout.Remainder

/-
  JSON text as a tree.

  A source tree has the shape of a JSON value, but its texts
  and numerals are still as they are written.  Parts of a
  document that nobody asks for are checked for their shape
  only, so reading the scalars is left to whoever does ask.

  Key definitions include:
    * `Json.Source`
    * `Json.Source.ofTokens?`
    * `Json.Source.ofString?`
    * `Json.Source.value?`
    * `Json.ofString?`
-/

------------------------------------------------------------
-- Trees
------------------------------------------------------------

namespace FactLayout

/- A document, or a part of one, as it is written. -/
inductive Json.Source where
| null
| bool (value : Bool)
| numeral (value : Numeral)
| text (units : List TextUnit)
| array (items : List Json.Source)
| object (fields : List (List TextUnit × Json.Source))
deriving Repr

namespace Json.Source

mutual

/- Read one value off the front. -/
def read?
    (ts : List Token) : Option (Source × Shorter ts) :=
  match ts with
  | .null :: left => some (null, ⟨left, by simp⟩)
  | .bool b :: left => some (bool b, ⟨left, by simp⟩)
  | .numeral n :: left => some (numeral n, ⟨left, by simp⟩)
  | .text units :: left =>
      some (text units, ⟨left, by simp⟩)
  | .openArray :: .closeArray :: left =>
      some (array [],
        ⟨left, by simp only [List.length_cons]; omega⟩)
  | .openArray :: left => do
      let (items, ⟨left, hLess⟩) ← readItems? left
      some (array items,
        ⟨left, by simp only [List.length_cons]; omega⟩)
  | .openObject :: .closeObject :: left =>
      some (object [],
        ⟨left, by simp only [List.length_cons]; omega⟩)
  | .openObject :: left => do
      let (fields, ⟨left, hLess⟩) ← readFields? left
      some (object fields,
        ⟨left, by simp only [List.length_cons]; omega⟩)
  | _ => none
termination_by 2 * ts.length

/- Read the items of an array up to its end. -/
def readItems?
    (ts : List Token) :
    Option (List Source × Shorter ts) := do
  let (item, ⟨left, hItem⟩) ← read? ts
  match left, hItem with
  | .closeArray :: left, hItem =>
      some ([item],
        ⟨left, by
          simp only [List.length_cons] at hItem
          omega⟩)
  | .comma :: left, hItem =>
      let (items, ⟨left, hItems⟩) ← readItems? left
      some (item :: items,
        ⟨left, by
          simp only [List.length_cons] at hItem
          omega⟩)
  | _, _ => none
termination_by 2 * ts.length + 1
decreasing_by
  · omega
  · simp only [List.length_cons] at hItem
    omega

/- Read the fields of an object up to its end. -/
def readFields?
    (ts : List Token) :
    Option
      (List (List TextUnit × Source) × Shorter ts) :=
  match ts with
  | .text key :: .colon :: rest => do
      let (value, ⟨left, hValue⟩) ← read? rest
      match left, hValue with
      | .closeObject :: left, hValue =>
          some ([(key, value)],
            ⟨left, by
              simp only [List.length_cons] at hValue ⊢
              omega⟩)
      | .comma :: left, hValue =>
          let (fields, ⟨left, hFields⟩) ← readFields? left
          some ((key, value) :: fields,
            ⟨left, by
              simp only [List.length_cons] at hValue ⊢
              omega⟩)
      | _, _ => none
  | _ => none
termination_by 2 * ts.length
decreasing_by
  all_goals simp only [List.length_cons] at *
  all_goals omega

end

/- The tree of a whole list of tokens. -/
def ofTokens? (ts : List Token) : Option Source :=
  match read? ts with
  | some (source, ⟨[], _⟩) => some source
  | _ => none

/- The tree of a document. -/
def ofString? (document : String) : Option Source :=
  (Token.ofChars? document.toList).bind ofTokens?

------------------------------------------------------------
-- Values
------------------------------------------------------------

/- The text that the units of a quoted text stand for. -/
def string? (units : List TextUnit) : Option String :=
  String.ofList <$> TextUnit.decode? units

/-
  The value of a tree that nests no deeper than a given
  number of arrays and objects.
-/
def value? : Nat → Source → Option Json
| _, null => some .null
| _, bool b => some (.bool b)
| _, numeral n => Json.number <$> n.number?
| _, text units => Json.text <$> string? units
| 0, array _ => none
| 0, object _ => none
| depth + 1, array items =>
    Json.array <$> items.mapM (value? depth)
| depth + 1, object fields =>
    Json.ofFields <$>
      fields.mapM fun (key, value) => do
        pure (← string? key, ← value? depth value)

/- Arrays and objects of a document nest at most so deep. -/
def maxDepth : Nat := 127

end Json.Source

/- The value of a document. -/
def Json.ofString? (document : String) : Option Json :=
  (Source.ofString? document).bind
    (Source.value? Source.maxDepth)

end FactLayout
