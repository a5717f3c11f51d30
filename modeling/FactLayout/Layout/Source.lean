import FactLayout.Entry

/-
  Entries and layouts as documents hold them.

  A dialect says how texts, lists, records and values are
  read off the nodes of a document.  What an entry and a
  layout consist of is written down once, for every dialect.

  Key definitions include:
    * `ModuleSource`
    * `LayoutSource`
    * `Dialect`
    * `Dialect.entries`
    * `Dialect.layout`
-/

------------------------------------------------------------
-- Sources
------------------------------------------------------------

namespace FactLayout

/- A module before its entries are converted. -/
structure ModuleSource where
  key : Option String
  format : Option String
  entries : List Entry
  help : List String
deriving Repr

/- A layout before its entries are converted. -/
structure LayoutSource where
  modules : List (String × ModuleSource)
  separator : Option String
deriving Repr

/-
  Put a pair among pairs that are ordered by first
  appearance.  A pair of the same name is replaced where it
  stands.
-/
def putByName
    {α : Type}
    (name : String)
    (content : α) :
    List (String × α) → List (String × α)
| [] => [(name, content)]
| (n, c) :: rest =>
    if n = name then (n, content) :: rest
    else (n, c) :: putByName name content rest

/- Every name once, with its last content. -/
def distinctByName
    {α : Type}
    (pairs : List (String × α)) : List (String × α) :=
  pairs.foldl (fun kept (n, c) => putByName n c kept) []

------------------------------------------------------------
-- Dialects
------------------------------------------------------------

/-
  A field of a record, and whether a record written without
  names may end before it.
-/
structure Field where
  name : String
  defaulted : Bool
deriving DecidableEq, Repr

namespace Field

/-
  The nodes of known fields among named nodes.  Unknown
  names are passed over, and no known name may come twice.
-/
def select?
    {N : Type}
    (fields : List Field)
    (pairs : List (String × N)) :
    Option (List (Option N)) :=
  fields.mapM fun field =>
    match pairs.filter fun (name, _) => name == field.name with
    | [] => some none
    | [(_, node)] => some (some node)
    | _ => none

end Field

/- How to read the nodes of a document. -/
structure Dialect
    (m : Type → Type)
    (N : Type) where
  text : N → m String
  present? : N → m (Option N)
  items : N → m (List N)
  record : List Field → N → m (List (Option N))
  pairs : N → m (List (String × N))
  value : Nat → N → m Json

namespace Dialect

variable {m : Type → Type} {N : Type}
variable [Monad m] [MonadExceptOf Unit m]

/- A text that may be missing. -/
def optionalText
    (d : Dialect m N)
    (node : Option N) : m (Option String) :=
  match node with
  | none => pure none
  | some node => do
      match ← d.present? node with
      | none => pure none
      | some node => some <$> d.text node

/- A list that may be missing. -/
def optionalItems
    (d : Dialect m N)
    (node : Option N) : m (List N) :=
  match node with
  | none => pure []
  | some node => d.items node

/-
  An entry has a type and may have a value.  The number of
  containers around it limits how deep the value nests.
-/
def entry
    (d : Dialect m N)
    (enclosing : Nat)
    (node : N) : m Entry := do
  let fields : List Field :=
    [⟨"type", false⟩, ⟨"value", true⟩]
  match ← d.record fields node with
  | [some kind, value] => do
      let kind ← d.text kind
      match value with
      | none => pure ⟨kind, .null⟩
      | some value => do
          let value ← d.value (enclosing + 1) value
          pure ⟨kind, value⟩
  | _ => throw ()

/- A list of entries, which is a document by itself. -/
def entries
    (d : Dialect m N)
    (node : N) : m (List Entry) := do
  (← d.items node).mapM (d.entry 1)

/- A module may have each of its four fields. -/
def moduleSource
    (d : Dialect m N)
    (node : N) : m ModuleSource := do
  let fields : List Field :=
    [⟨"key", false⟩, ⟨"format", false⟩,
      ⟨"args", true⟩, ⟨"help", true⟩]
  match ← d.record fields node with
  | [key, format, args, help] => do
      let key ← d.optionalText key
      let format ← d.optionalText format
      let entries ←
        (← d.optionalItems args).mapM (d.entry 4)
      let help ← (← d.optionalItems help).mapM d.text
      pure ⟨key, format, entries, help⟩
  | _ => throw ()

/- A layout may have modules and a separator. -/
def layout
    (d : Dialect m N)
    (node : N) : m LayoutSource := do
  let fields : List Field :=
    [⟨"modules", true⟩, ⟨"separator", false⟩]
  match ← d.record fields node with
  | [modules, separator] => do
      let pairs ←
        match modules with
        | none => pure []
        | some modules => d.pairs modules
      let modules ←
        pairs.mapM fun (name, content) => do
          pure (name, ← d.moduleSource content)
      let separator ← d.optionalText separator
      pure ⟨distinctByName modules, separator⟩
  | _ => throw ()

end Dialect

end FactLayout
