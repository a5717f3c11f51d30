import FactLayout.Render.Engine
import FactLayout.Text.Blank

/-
  Layouts and the reports they render to.

  A layout lists modules in the order they are printed.  Each
  module has a label, a template, and the cells its template
  refers to.

  Key definitions include:
    * `Module`
    * `Layout`
    * `Layout.render`
    * `formatHelp`
    * `Layout.formatHelp`
-/

------------------------------------------------------------
-- Modules
------------------------------------------------------------

namespace FactLayout

/- One part of a report. -/
structure Module where
  key : Option String
  format : Option String
  cells : List Cell
  help : List String
deriving DecidableEq, Repr

namespace Module

/- The text in front of a module's output. -/
def label
    (m : Module)
    (name : String) : String :=
  m.key.getD name

/- An empty placeholder. -/
def placeholder : String := "\x7b\x7d"

/-
  The template of a module.  Unless one is given, it draws
  every cell once, in order.
-/
def template (m : Module) : String :=
  m.format.getD
    (" ".intercalate
      (List.replicate (max m.cells.length 1) placeholder))

/- The output of a module. -/
def render (m : Module) : Sink :=
  Render.render m.template m.cells

end Module

------------------------------------------------------------
-- Layouts
------------------------------------------------------------

/- Modules by name, and what follows each label. -/
structure Layout where
  modules : List (String × Module)
  separator : String
deriving DecidableEq, Repr

/- The separator of layouts that give none. -/
def defaultSeparator : String := ": "

namespace Layout

/- The line, or lines, of a module in a report. -/
def line
    (l : Layout)
    (name : String)
    (m : Module) : String :=
  m.label name ++ l.separator ++ m.render.output

/- A report has a line for each module. -/
def render (l : Layout) : Sink where
  output :=
    "\n".intercalate
      (l.modules.map fun (name, m) => l.line name m)
  log :=
    l.modules.flatMap fun (name, m) =>
      .renderingModule name :: m.render.log

end Layout

------------------------------------------------------------
-- Format Help
------------------------------------------------------------

/- A line of help about one placeholder. -/
def helpLine
    (number : Nat)
    (description : String) : String :=
  "  \x7b" ++ String.ofList (Nat.toDigits 10 number) ++
    "\x7d: " ++ description ++ "\n"

/- Lines of help, numbered from a given number on. -/
def helpLines : Nat → List String → String
| _, [] => ""
| number, description :: rest =>
    helpLine number description ++
      helpLines (number + 1) rest

/-
  Describe the placeholders of one module: its label, its
  template, and a line for each cell that is described.
-/
def formatHelp
    (label template : String)
    (descriptions : List String) : String :=
  label ++ " format:\n" ++
    "  default: " ++ template ++ "\n" ++
    helpLines 1 descriptions

namespace Layout

/- Describe every module.  No line break ends the text. -/
def formatHelp (l : Layout) : String :=
  let text :=
    String.join
      (l.modules.map fun (name, m) =>
        FactLayout.formatHelp (m.label name) m.template
          m.help)
  String.ofList (Blank.dropLastWhile (· == '\n') text.toList)

end Layout

end FactLayout
