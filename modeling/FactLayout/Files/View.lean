import FactLayout.Layout.Reading

/-
  Finding and loading layout files.

  All that matters about files is what stands at a path.  A
  directory is searched for the known file names in order,
  and the first file found is the one to load.

  Key definitions include:
    * `PathState`
    * `FileView`
    * `FileView.findLayout?`
    * `FileView.load`
    * `FileView.layout`
-/

------------------------------------------------------------
-- Paths
------------------------------------------------------------

namespace FactLayout

/- What stands at a path. -/
inductive PathState where
| file (content : Except FileFault ByteArray)
| directory
| absent (cause : FileFault)

/- What stands at every path. -/
abbrev FileView : Type := String → PathState

/- A path within a directory. -/
def joinPath (directory name : String) : String :=
  if directory = "" ∨ directory.toList.getLast? = some '/'
  then directory ++ name
  else directory ++ "/" ++ name

/- The names of layout files, in the order of precedence. -/
def layoutNames : List String :=
  ["fetchfmt.json", "fetchfmt.yml", "fetchfmt.yaml"]

/- The paths of layout files in a directory. -/
def layoutPaths (directory : String) : List String :=
  layoutNames.map (joinPath directory)

namespace PathState

/- A file stands there. -/
def isFile : PathState → Bool
| file _ => true
| _ => false

end PathState

------------------------------------------------------------
-- Loading
------------------------------------------------------------

namespace FileView

/- The first layout file in a directory. -/
def findLayout?
    (view : FileView)
    (directory : String) : Option String :=
  (layoutPaths directory).find? fun path =>
    (view path).isFile

/- The text of a file. -/
def loadFile
    (view : FileView)
    (path : String) : Attempt String := do
  Attempt.report (.loading path)
  match view path with
  | .file (.ok content) => decode content
  | .file (.error cause) => .fail (.file cause)
  | .directory => .fail (.file .isDirectory)
  | .absent cause => .fail (.file cause)

/- The text of a file, or of the layout in a directory. -/
def load
    (view : FileView)
    (path : String) : Attempt String :=
  match view path with
  | .directory =>
      match view.findLayout? path with
      | some found => view.loadFile found
      | none =>
          .fail (.layout (.notInDirectory path layoutNames))
  | _ => view.loadFile path

/- The layout at a path. -/
def layout
    (view : FileView)
    (path : String) : Attempt Layout := do
  readLayout (← view.load path)

end FileView

end FactLayout
