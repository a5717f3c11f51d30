import FactLayout.Template.Block
import FactLayout.Template.Token
import FactLayout.Text.Quoted

/-
  Diagnostics.

  A record says what happened; its level and its wording
  follow from that.

  Key definitions include:
    * `Level`
    * `Record`
    * `Record.level`
    * `Record.message`
    * `Record.lines`
-/

------------------------------------------------------------
-- Records
------------------------------------------------------------

namespace FactLayout

/- How much attention a record asks for. -/
inductive Level where
| error
| debug
| trace
deriving DecidableEq, Repr

/- The name of a level. -/
def Level.name : Level → String
| error => "ERROR"
| debug => "DEBUG"
| trace => "TRACE"

/-
  Events worth reporting.  A draw of a cell of an
  unsupported kind carries the output before it.
-/
inductive Record where
| unsupportedCell (kind output : String)
| unclosedBlock (block : Block) (body : List Char)
| unknownType (kind : String)
| renderingTemplate (template : String) (count : Nat)
| renderingModule (name : String)
| loading (path : String)
deriving DecidableEq, Repr

namespace Record

/- The level of a record. -/
def level : Record → Level
| unsupportedCell .. => .error
| unclosedBlock .. => .trace
| _ => .debug

/- The wording of a record. -/
def message : Record → String
| unsupportedCell kind output =>
    "Format argument is not implemented: " ++ kind ++
      " (output so far: " ++ Quoted.encode output ++ ")"
| unclosedBlock block body =>
    "No " ++ String.ofList block.marker ++ " closes '" ++
      String.ofList (echo body true) ++
      "', dropping the rest"
| unknownType kind =>
    "Keeping argument of unknown type '" ++ kind ++ "'"
| renderingTemplate template count =>
    "Rendering '" ++ template ++ "' with " ++
      String.ofList (Nat.toDigits 10 count) ++
      " argument(s)"
| renderingModule name =>
    "Rendering module '" ++ name ++ "'"
| loading path =>
    "Loading configuration from " ++ path

/-
  The lines of the wording.  All but the first of them are
  indented.
-/
def lines (r : Record) : List String :=
  match r.message.toList.splitOn '\n' with
  | [] => []
  | first :: rest =>
      String.ofList first ::
        rest.map fun line => "    " ++ String.ofList line

end Record

end FactLayout
