/-
  The command line.

  Words are read from left to right.  A word may be a flag, a
  cluster of short flags, an option with its value, or a
  positional text.  An option whose value is the next word is
  settled as late as the next word that needs it to be.

  The program only declares its options.  How words are read
  follows the documented behaviour of clap 4.5, a library that
  is not part of the program.

  Key definitions include:
    * `Options`
    * `UsageFault`
    * `Interruption`
    * `CommandLine.Progress`
    * `CommandLine.step`
    * `CommandLine.parse`
-/

------------------------------------------------------------
-- Options
------------------------------------------------------------

namespace FactLayout

/- What the command line asks for. -/
structure Options where
  format : Option String := none
  args : List String := []
  config : Option String := none
  stdin : Bool := false
  formatHelp : Bool := false
  noNewline : Bool := false
  verbose : Bool := false
deriving DecidableEq, Repr

/- Why a command line cannot be understood. -/
inductive UsageFault where
| unknownArgument
| missingRequiredArgument
| invalidValue
| argumentConflict
| tooManyValues
deriving DecidableEq, Repr

/- Why there are no options. -/
inductive Interruption where
| usage (cause : UsageFault)
| help
| version
deriving DecidableEq, Repr

namespace CommandLine

/- What a flag stands for, or an option with a value. -/
inductive Switch where
| stdin
| formatHelp
| noNewline
| verbose
| config
| help
| version
deriving DecidableEq, Repr

namespace Switch

/- The long name of a switch. -/
def longName : Switch → String
| stdin => "stdin"
| formatHelp => "format-help"
| noNewline => "no-newline"
| verbose => "verbose"
| config => "config"
| help => "help"
| version => "version"

/- The short name of a switch, if it has one. -/
def shortName? : Switch → Option Char
| stdin => some 's'
| formatHelp => none
| noNewline => some 'n'
| verbose => some 'v'
| config => some 'c'
| help => some 'h'
| version => some 'V'

/- Every switch. -/
def all : List Switch :=
  [stdin, formatHelp, noNewline, verbose, config, help,
    version]

/- The switch of a long name. -/
def ofLong? (name : String) : Option Switch :=
  all.find? fun s => s.longName == name

/- The switch of a short name. -/
def ofShort? (name : Char) : Option Switch :=
  all.find? fun s => s.shortName? == some name

end Switch

------------------------------------------------------------
-- Progress
------------------------------------------------------------

/- The value of an option that is not settled yet. -/
inductive Pending where
| nothing
| awaited
| given (value : String)
deriving DecidableEq, Repr

/- The options so far, and what the next word may be. -/
structure Progress where
  options : Options := {}
  pending : Pending := .nothing
  trailing : Bool := false
deriving DecidableEq, Repr

/- Reading words, which may be interrupted. -/
abbrev Reading : Type → Type := Except Interruption

/- Give up. -/
def refuse
    {α : Type}
    (cause : UsageFault) : Reading α :=
  .error (.usage cause)

/- Set the path of the layout, which is given once. -/
def setConfig
    (o : Options)
    (value : String) : Reading Options :=
  if o.config.isSome then refuse .argumentConflict
  else if value = "" then refuse .invalidValue
  else pure { o with config := some value }

/- Raise a flag, which is raised once. -/
def setFlag
    (o : Options) : Switch → Reading Options
| .stdin =>
    if o.stdin then refuse .argumentConflict
    else pure { o with stdin := true }
| .formatHelp =>
    if o.formatHelp then refuse .argumentConflict
    else pure { o with formatHelp := true }
| .noNewline =>
    if o.noNewline then refuse .argumentConflict
    else pure { o with noNewline := true }
| .verbose =>
    if o.verbose then refuse .argumentConflict
    else pure { o with verbose := true }
| .help => .error .help
| .version => .error .version
| .config => pure o

/- The first text is the format; the others are arguments. -/
def addText
    (o : Options)
    (text : String) : Options :=
  match o.format with
  | none => { o with format := some text }
  | some _ => { o with args := o.args ++ [text] }

namespace Progress

/- Settle the value of an option. -/
def settle (p : Progress) : Reading Progress :=
  match p.pending with
  | .nothing => pure p
  | .awaited => refuse .invalidValue
  | .given value => do
      let options ← setConfig p.options value
      pure { p with options, pending := .nothing }

/- Take in a positional text. -/
def text
    (p : Progress)
    (word : String) : Reading Progress := do
  let p ← p.settle
  pure { p with options := addText p.options word }

/- Take in a flag. -/
def flag
    (p : Progress)
    (s : Switch) : Reading Progress := do
  let p ← p.settle
  pure { p with options := ← setFlag p.options s }

/- Take in an option with its value. -/
def option
    (p : Progress)
    (value : String) : Reading Progress := do
  let p ← p.settle
  pure { p with options := ← setConfig p.options value }

/- Take in an option whose value is the next word. -/
def await (p : Progress) : Reading Progress := do
  let p ← p.settle
  pure { p with pending := .awaited }

end Progress

------------------------------------------------------------
-- Words
------------------------------------------------------------

/- Split at the first equals sign. -/
def splitValue
    (text : List Char) : List Char × Option (List Char) :=
  let name := text.takeWhile (· != '=')
  match text.dropWhile (· != '=') with
  | _ :: value => (name, some value)
  | [] => (name, none)

/- Take in a long flag or option, without its dashes. -/
def long
    (p : Progress)
    (word : List Char) : Reading Progress :=
  let (name, value) := splitValue word
  match Switch.ofLong? (String.ofList name), value with
  | none, _ => refuse .unknownArgument
  | some .config, none => p.await
  | some .config, some value => p.option (String.ofList value)
  | some s, none => p.flag s
  | some _, some _ => refuse .tooManyValues

/-
  Take in a cluster of short flags.  The rest of a cluster
  behind an option is its value, possibly behind an equals
  sign.
-/
def cluster
    (p : Progress) : List Char → Reading Progress
| [] => pure p
| c :: rest =>
    match Switch.ofShort? c with
    | none => refuse .unknownArgument
    | some .config =>
        match rest with
        | [] => p.await
        | '=' :: value => p.option (String.ofList value)
        | value => p.option (String.ofList value)
    | some s => do cluster (← p.flag s) rest

/- Take in a word. -/
def step
    (p : Progress)
    (word : String) : Reading Progress :=
  if p.trailing then p.text word
  else if word = "--" then pure { p with trailing := true }
  else
    match word.toList with
    | '-' :: '-' :: rest => long p rest
    | '-' :: c :: rest => cluster p (c :: rest)
    | _ =>
        if p.pending = .awaited then
          pure { p with pending := .given word }
        else p.text word

/- Settle what is left, and check what belongs together. -/
def finish (p : Progress) : Reading Options := do
  let p ← p.settle
  if p.options.stdin ∧ p.options.format.isNone then
    refuse .missingRequiredArgument
  else pure p.options

/- Read a command line. -/
def parse (words : List String) : Reading Options := do
  finish (← words.foldlM step {})

end CommandLine

end FactLayout
