import FactLayout.Json.Dialect
import FactLayout.Layout
import FactLayout.Yaml.Dialect

/-
  Reading arguments and layouts from text.

  Text is read as JSON first, and if that fails in any way,
  as YAML.  Entries are converted in order, and the first
  one that does not fit is reported with its module.

  Key definitions include:
    * `readEntries?`
    * `readLayoutSource?`
    * `readArguments`
    * `readLayout`
    * `readInput`
-/

------------------------------------------------------------
-- Documents
------------------------------------------------------------

namespace FactLayout

/- Read a document by one of the dialects. -/
def readDocument?
    {α : Type}
    (json : Json.Source → Option α)
    (yaml : Yaml.Document → Yaml.Following α)
    (text : String) : Option α :=
  match (Json.Source.ofString? text).bind json with
  | some a => some a
  | none => do
      let d ← Yaml.Document.ofString? text
      StateT.run' (yaml d) 0

/- Read a list of entries. -/
def readEntries? (text : String) : Option (List Entry) :=
  readDocument? Json.dialect.entries
    (fun d => (Yaml.dialect d).entries d.root) text

/- Read a layout, without converting its entries. -/
def readLayoutSource?
    (text : String) : Option LayoutSource :=
  readDocument? Json.dialect.layout
    (fun d => (Yaml.dialect d).layout d.root) text

------------------------------------------------------------
-- Conversion
------------------------------------------------------------

/- Name the module of an argument that does not fit. -/
def Fault.inModule
    (name : String) : Fault → Fault
| .argument cause => .argument (.inModule name cause)
| fault => fault

/- Convert the entries of a module. -/
def ModuleSource.toModule
    (m : ModuleSource)
    (name : String) : Attempt Module := do
  let cells ←
    (Entry.toCells m.entries).mapFault (.inModule name)
  pure ⟨m.key, m.format, cells, m.help⟩

/- Convert the entries of all modules in order. -/
def LayoutSource.toLayout
    (l : LayoutSource) : Attempt Layout := do
  let modules ←
    l.modules.mapM fun (name, m) => do
      pure (name, ← m.toModule name)
  pure ⟨modules, l.separator.getD defaultSeparator⟩

------------------------------------------------------------
-- Arguments and Layouts
------------------------------------------------------------

/- Read a list of arguments. -/
def readArguments (text : String) : Attempt (List Cell) :=
  match readEntries? text with
  | some entries => Entry.toCells entries
  | none => .fail (.layout .invalidArguments)

/- Read a layout. -/
def readLayout (text : String) : Attempt Layout :=
  match readLayoutSource? text with
  | some source => source.toLayout
  | none => .fail (.layout .invalidLayout)

/- The text of content, which must be UTF-8. -/
def decode (content : ByteArray) : Attempt String :=
  match String.fromUTF8? content with
  | some text => pure text
  | none => .fail (.file .notText)

/-
  Read arguments from input.  Blanks around them do not
  count, and blank input holds none.
-/
def readInput
    (input : Except FileFault ByteArray) :
    Attempt (List Cell) := do
  match input with
  | .error cause => .fail (.file cause)
  | .ok content => do
      let text ← decode content
      match Blank.trim text.toList with
      | [] => pure []
      | trimmed => readArguments (String.ofList trimmed)

end FactLayout
