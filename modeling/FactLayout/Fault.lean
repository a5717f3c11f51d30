import FactLayout.Json.Value
import FactLayout.Log

/-
  Why a request cannot be answered.

  A fault is a cause; its wording follows from it.  Work that
  may fail keeps the records made before the failure.

  Key definitions include:
    * `FileFault`
    * `LayoutFault`
    * `ArgumentFault`
    * `Fault`
    * `Fault.message`
    * `Attempt`
-/

------------------------------------------------------------
-- Causes
------------------------------------------------------------

namespace FactLayout

/- Why content cannot be read. -/
inductive FileFault where
| notFound
| notDirectory
| isDirectory
| nameTooLong
| invalidName
| notText
| other (text : String)
deriving DecidableEq, Repr

/- Why there is no layout or no list of arguments. -/
inductive LayoutFault where
| notInDirectory (directory : String) (tried : List String)
| invalidArguments
| invalidLayout
| other (text : String)
deriving DecidableEq, Repr

/- Why an entry is not an argument. -/
inductive ArgumentFault where
| mismatch (value : Json) (kind : String)
| inModule (name : String) (fault : ArgumentFault)
| other (text : String)
deriving Repr

/- Everything that can go wrong. -/
inductive Fault where
| file (cause : FileFault)
| layout (cause : LayoutFault)
| argument (cause : ArgumentFault)
| nothingToRender
deriving Repr

------------------------------------------------------------
-- Wording
------------------------------------------------------------

/- The wording of a cause. -/
def FileFault.text : FileFault → String
| notFound => "No such file or directory (os error 2)"
| notDirectory => "Not a directory (os error 20)"
| isDirectory => "Is a directory (os error 21)"
| nameTooLong => "File name too long (os error 36)"
| invalidName =>
    "file name contained an unexpected NUL byte"
| notText => "stream did not contain valid UTF-8"
| other text => text

/- The wording of a cause. -/
def LayoutFault.text : LayoutFault → String
| notInDirectory directory tried =>
    "No configuration file found in '" ++ directory ++
      "' (tried: " ++ ", ".intercalate tried ++ ")"
| invalidArguments =>
    "Invalid argument list: " ++
      "neither JSON nor YAML entries"
| invalidLayout =>
    "Invalid configuration format: " ++
      "neither a JSON nor a YAML layout"
| other text => text

/- The wording of a cause. -/
def ArgumentFault.text : ArgumentFault → String
| mismatch value kind =>
    "value " ++ String.ofList value.compact ++
      " is not a valid " ++ kind
| inModule name fault =>
    "module '" ++ name ++ "': " ++ fault.text
| other text => text

/- What the user is told. -/
def Fault.message : Fault → String
| file cause => "IO error: " ++ cause.text ++ "."
| layout cause =>
    "Configuration error: " ++ cause.text ++ "."
| argument cause =>
    "Argument error: " ++ cause.text ++ "."
| nothingToRender =>
    "Nothing to render: pass a format string " ++
      "or a configuration with modules."

------------------------------------------------------------
-- Work That May Fail
------------------------------------------------------------

/- The records made on the way to a result or a fault. -/
structure Attempt (α : Type) where
  log : List Record
  result : Except Fault α

namespace Attempt

variable {α β : Type}

/- Go on after a success, keeping the records of both. -/
def bind
    (x : Attempt α)
    (f : α → Attempt β) : Attempt β :=
  match x.result with
  | .ok a => ⟨x.log ++ (f a).log, (f a).result⟩
  | .error fault => ⟨x.log, .error fault⟩

instance : Monad Attempt where
  pure a := ⟨[], .ok a⟩
  bind := bind

/- Fail. -/
def fail (fault : Fault) : Attempt α :=
  ⟨[], .error fault⟩

/- Report an event. -/
def report (record : Record) : Attempt Unit :=
  ⟨[record], .ok ()⟩

/- Reword the fault of a failure. -/
def mapFault
    (f : Fault → Fault)
    (x : Attempt α) : Attempt α :=
  ⟨x.log, x.result.mapError f⟩

@[simp]
theorem log_pure
    (a : α) :
    (pure a : Attempt α).log = [] := rfl

@[simp]
theorem result_pure
    (a : α) :
    (pure a : Attempt α).result = .ok a := rfl

/- A success hands its result on. -/
theorem bind_of_ok
    {x : Attempt α}
    {a : α}
    (f : α → Attempt β)
    (hOk : x.result = .ok a) :
    x >>= f = ⟨x.log ++ (f a).log, (f a).result⟩ := by
  change bind x f = _
  simp [bind, hOk]

/- A failure ends the work. -/
theorem bind_of_error
    {x : Attempt α}
    {fault : Fault}
    (f : α → Attempt β)
    (hError : x.result = .error fault) :
    x >>= f = ⟨x.log, .error fault⟩ := by
  change bind x f = _
  simp [bind, hError]

end Attempt

end FactLayout
