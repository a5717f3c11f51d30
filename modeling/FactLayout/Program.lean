import FactLayout.CommandLine
import FactLayout.Files.View

/-
  The program.

  A run reads the command line, and then either renders the
  format it holds or a layout.  It writes all of its output
  or nothing, and says why.

  Key definitions include:
    * `Surroundings`
    * `Program.report`
    * `Outcome`
    * `Program.run`
-/

------------------------------------------------------------
-- Surroundings
------------------------------------------------------------

namespace FactLayout

/-
  The files and the input that a run may look at.  Neither
  depends on the other: it is assumed that no path leads to
  the input, so that a file which is read takes nothing away
  from it.
-/
structure Surroundings where
  files : FileView
  input : Except FileFault ByteArray

namespace Program

/- The current directory. -/
def currentDirectory : String := "."

/-
  The layout to print: the one that was asked for, or the one
  in the current directory.
-/
def layout
    (files : FileView) :
    Option String → Attempt Layout
| some path => files.layout path
| none =>
    match files.findLayout? currentDirectory with
    | some path => files.layout path
    | none => .fail .nothingToRender

/- The text a sink holds, with its records. -/
def ofSink (s : Sink) : Attempt String :=
  ⟨s.log, .ok s.output⟩

/- Render a format against texts and arguments from input. -/
def renderFormat
    (w : Surroundings)
    (o : Options)
    (format : String) : Attempt String := do
  let texts := o.args.map Cell.string
  let cells ←
    if o.stdin then (texts ++ ·) <$> readInput w.input
    else pure texts
  Attempt.report (.renderingTemplate format cells.length)
  ofSink (Render.render format cells)

/- Render a layout, or the help about it. -/
def renderLayout
    (w : Surroundings)
    (o : Options) : Attempt String := do
  let l ← layout w.files o.config
  if l.modules = [] then .fail .nothingToRender
  else if o.formatHelp then pure l.formatHelp
  else ofSink l.render

/- What is asked for, without a line break at the end. -/
def report
    (w : Surroundings)
    (o : Options) : Attempt String :=
  match o.format, o.formatHelp with
  | some format, false => renderFormat w o format
  | _, _ => renderLayout w o

/- The input is looked at. -/
def usesInput (o : Options) : Bool :=
  o.stdin && o.format.isSome && !o.formatHelp

/- The paths that are looked at. -/
def usedPaths (o : Options) : List String :=
  if o.format.isSome && !o.formatHelp then []
  else
    match o.config with
    | some path => path :: layoutPaths path
    | none => layoutPaths currentDirectory

end Program

------------------------------------------------------------
-- Outcomes
------------------------------------------------------------

/-
  What a run leaves behind: its exit code, its output, what
  it says in case of a failure, and its records.
-/
structure Outcome where
  code : Nat
  output : String := ""
  complaint : String := ""
  log : List Record := []
deriving DecidableEq, Repr

namespace Program

/- Records below a level are not shown. -/
def isShown
    (verbose : Bool)
    (r : Record) : Bool :=
  match r.level with
  | .error => true
  | .debug => verbose
  | .trace => false

/- The outcome of options. -/
def execute
    (w : Surroundings)
    (o : Options) : Outcome :=
  let x := report w o
  let log := x.log.filter (isShown o.verbose)
  match x.result with
  | .ok text =>
      { code := 0
        output := if o.noNewline then text else text ++ "\n"
        log }
  | .error fault =>
      { code := 1
        complaint := fault.message ++ "\n"
        log }

/- The name and version of the program. -/
def versionText : String := "fetchfmt 0.1.0\n"

/- How the program is used. -/
def helpText : String :=
  "fetchfmt: render system facts through " ++
    "placeholder format strings\n" ++
  "\n" ++
  "Usage: fetchfmt [OPTIONS] [FORMAT] [ARGS]...\n" ++
  "\n" ++
  "Arguments:\n" ++
  "  [FORMAT]   Format string to render, e.g. " ++
    "\"\x7b1\x7d (\x7b2\x7d)\". Without it the configured " ++
    "modules are rendered\n" ++
  "  [ARGS]...  Text arguments referenced by the format " ++
    "string as \x7b1\x7d, \x7b2\x7d, …\n" ++
  "\n" ++
  "Options:\n" ++
  "  -c, --config <PATH>  Layout file, or a directory " ++
    "containing fetchfmt.json, fetchfmt.yml or " ++
    "fetchfmt.yaml\n" ++
  "  -s, --stdin          Read a JSON or YAML list of " ++
    "typed arguments from stdin. They are appended after " ++
    "the text ARGS. Requires FORMAT\n" ++
  "      --format-help    Print the placeholders understood " ++
    "by each configured module\n" ++
  "  -n, --no-newline     Do not print a trailing newline\n" ++
  "  -v, --verbose        Enable verbose logging output\n" ++
  "  -h, --help           Print help\n" ++
  "  -V, --version        Print version\n"

/- What is wrong with a command line. -/
def usageText : UsageFault → String
| .unknownArgument => "unexpected argument found"
| .missingRequiredArgument =>
    "the following required arguments were not provided:\n" ++
      "  <FORMAT>"
| .invalidValue =>
    "a value is required for '--config <PATH>' " ++
      "but none was supplied"
| .argumentConflict =>
    "an argument cannot be used multiple times"
| .tooManyValues => "unexpected value for a flag found"

/- The outcome of a command line without options. -/
def interrupt : Interruption → Outcome
| .help => { code := 0, output := helpText }
| .version => { code := 0, output := versionText }
| .usage cause =>
    { code := 2
      complaint :=
        "error: " ++ usageText cause ++ "\n\n" ++
        "Usage: fetchfmt [OPTIONS] [FORMAT] [ARGS]...\n\n" ++
        "For more information, try '--help'.\n" }

/- The outcome of a command line. -/
def run
    (w : Surroundings)
    (words : List String) : Outcome :=
  match CommandLine.parse words with
  | .ok options => execute w options
  | .error interruption => interrupt interruption

end Program

end FactLayout
