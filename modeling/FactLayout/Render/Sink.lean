import FactLayout.Cell
import FactLayout.Log

/-
  The text and the diagnostics a rendering leaves behind.

  A sink only grows.  Styles are switched by escape
  sequences.

  Key definitions include:
    * `Sink`
    * `Sink.write`
    * `Sink.writeCell`
    * `Sink.startStyle`
    * `Sink.reset`
-/

------------------------------------------------------------
-- Sinks
------------------------------------------------------------

namespace FactLayout

/- The output so far and the records so far. -/
structure Sink where
  output : String := ""
  log : List Record := []
deriving DecidableEq, Repr

namespace Sink

/- Write text. -/
def write
    (s : Sink)
    (text : List Char) : Sink :=
  { s with output := s.output ++ String.ofList text }

/- Report an event. -/
def report
    (s : Sink)
    (record : Record) : Sink :=
  { s with log := s.log ++ [record] }

/-
  Write the text of a cell.  A cell of an unsupported kind
  is reported instead.
-/
def writeCell
    (s : Sink)
    (cell : Cell) : Sink :=
  match cell with
  | .unsupported kind =>
      s.report (.unsupportedCell kind s.output)
  | _ => { s with output := s.output ++ cell.text }

/- The sequence that switches to a style. -/
def styleSequence (code : List Char) : List Char :=
  ['\x1b', '['] ++ code ++ ['m']

/- The sequence that restores the default style. -/
def resetSequence : List Char :=
  styleSequence ['0']

/- Switch to a style.  The code is not checked. -/
def startStyle
    (s : Sink)
    (code : List Char) : Sink :=
  s.write (styleSequence code)

/- Restore the default style. -/
def reset (s : Sink) : Sink :=
  s.write resetSequence

------------------------------------------------------------
-- Output After a Step
------------------------------------------------------------

@[simp]
theorem output_write
    (s : Sink)
    (text : List Char) :
    (s.write text).output =
      s.output ++ String.ofList text := rfl

@[simp]
theorem log_write
    (s : Sink)
    (text : List Char) :
    (s.write text).log = s.log := rfl

/- Writing no text changes nothing. -/
@[simp]
theorem write_nil
    (s : Sink) :
    s.write [] = s := by
  simp [write]

/- Texts are written one behind the other. -/
theorem write_append
    (s : Sink)
    (text more : List Char) :
    s.write (text ++ more) = (s.write text).write more := by
  simp [write, String.append_assoc]

@[simp]
theorem output_report
    (s : Sink)
    (record : Record) :
    (s.report record).output = s.output := rfl

@[simp]
theorem log_report
    (s : Sink)
    (record : Record) :
    (s.report record).log = s.log ++ [record] := rfl

/- Whatever its kind, a cell contributes its text. -/
@[simp]
theorem output_writeCell
    (s : Sink)
    (cell : Cell) :
    (s.writeCell cell).output = s.output ++ cell.text := by
  cases cell <;> simp [writeCell, Cell.text]

end Sink

end FactLayout
