import FactLayout.Json.Source
import FactLayout.Layout.Source

/-
  JSON as a dialect of entries and layouts.

  A record is an object, or an array of its fields in the
  order of their declaration.

  Key definitions include:
    * `Json.Source.record?`
    * `Json.dialect`
-/

------------------------------------------------------------
-- Records
------------------------------------------------------------

namespace FactLayout

namespace Json.Source

/- The fields of an object by name. -/
def pairs? : Source → Option (List (String × Source))
| object fields =>
    fields.mapM fun (key, value) => do
      pure (← string? key, value)
| _ => none

/- Match the items of an array with fields in order. -/
def positional? :
    List Field → List Source →
      Option (List (Option Source))
| [], [] => some []
| [], _ :: _ => none
| field :: fields, [] =>
    if field.defaulted then
      (none :: ·) <$> positional? fields []
    else none
| _ :: fields, item :: items =>
    (some item :: ·) <$> positional? fields items

/- The fields of a record. -/
def record?
    (fields : List Field) :
    Source → Option (List (Option Source))
| array items => positional? fields items
| source => (pairs? source).bind (Field.select? fields)

end Json.Source

------------------------------------------------------------
-- The Dialect
------------------------------------------------------------

/- Entries and layouts in JSON. -/
def Json.dialect : Dialect Option Json.Source where
  text
  | .text units => Source.string? units
  | _ => none
  present?
  | .null => some none
  | source => some (some source)
  items
  | .array items => some items
  | _ => none
  record := Source.record?
  pairs := Source.pairs?
  value := fun enclosing =>
    Source.value? (Source.maxDepth - enclosing)

end FactLayout
