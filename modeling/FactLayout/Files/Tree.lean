import FactLayout.Files.View

/-
  Files and directories as a value.

  A tree holds what stands below one directory, which is the
  current one.  A path is followed part by part: every part
  but the last has to lead to a directory.  It is assumed that
  there are no links, so nothing stands at two places.

  Key definitions include:
    * `FileNode`
    * `FileTree`
    * `FileTree.state`
    * `FileTree.view`
    * `FileTree.write`
    * `FileTree.remove`
-/

------------------------------------------------------------
-- Trees
------------------------------------------------------------

namespace FactLayout

/- A file or a directory. -/
inductive FileNode where
| directory
| file (content : ByteArray)

/- The names that lead to a place, the last one first. -/
abbrev Place : Type := List String

/-
  What stands below the current directory: files and
  directories, and no links.
-/
structure FileTree where
  nodes : List (Place × FileNode) := []

namespace FileTree

/- What stands at a place. -/
def node?
    (t : FileTree)
    (place : Place) : Option FileNode :=
  if place = [] then some .directory
  else t.nodes.lookup place

/- Put a node at a place. -/
def put
    (t : FileTree)
    (place : Place)
    (node : FileNode) : FileTree where
  nodes :=
    (place, node) ::
      t.nodes.filter fun (other, _) => other != place

/- Remove a place and everything below it. -/
def drop
    (t : FileTree)
    (place : Place) : FileTree where
  nodes :=
    t.nodes.filter fun (other, _) =>
      !(place.isSuffixOf other)

------------------------------------------------------------
-- Following Paths
------------------------------------------------------------

/- A name has at most so many bytes. -/
def maxNameSize : Nat := 255

/- A path has fewer bytes than this. -/
def maxPathSize : Nat := 4096

/-
  Follow the parts of a path from a place.  Nothing is known
  about what lies outside of the tree, except that it has
  directories.
-/
def walk
    (t : FileTree) :
    Option Place → List String → PathState
| place, [] =>
    match place.map t.node? with
    | none => .directory
    | some (some .directory) => .directory
    | some (some (.file content)) => .file (.ok content)
    | some none => .absent .notFound
| place, part :: rest =>
    match place.map t.node? with
    | some (some (.file _)) => .absent .notDirectory
    | some none => .absent .notFound
    | _ =>
        if part = "" ∨ part = "." then walk t place rest
        else if part = ".." then
          match place with
          | some (_ :: above) => walk t (some above) rest
          | _ => walk t none rest
        else if maxNameSize < part.utf8ByteSize then
          .absent .nameTooLong
        else
          match place with
          | some place => walk t (some (part :: place)) rest
          | none => .absent .notFound

/- The parts of a path. -/
def parts (path : String) : List String :=
  (path.toList.splitOn '/').map String.ofList

/- What stands at a path. -/
def state
    (t : FileTree)
    (path : String) : PathState :=
  if path.toList.contains '\x00' then .absent .invalidName
  else if path = "" then .absent .notFound
  else if maxPathSize ≤ path.utf8ByteSize then
    .absent .nameTooLong
  else
    let outside := path.toList.head? = some '/'
    t.walk (if outside then none else some []) (parts path)

/- The view of the files of a tree. -/
def view (t : FileTree) : FileView := t.state

------------------------------------------------------------
-- Changing Trees
------------------------------------------------------------

/- The place that the parts of a path lead to. -/
def placeOf : Place → List String → Place
| place, [] => place
| place, part :: rest =>
    if part = "" ∨ part = "." then placeOf place rest
    else if part = ".." then placeOf place.tail rest
    else placeOf (part :: place) rest

/- Make the directories that lead to a place. -/
def makeDirectories
    (t : FileTree) : Place → FileTree
| [] => t
| name :: above =>
    let t := t.makeDirectories above
    match t.node? (name :: above) with
    | some _ => t
    | none => t.put (name :: above) .directory

/- Write a file, or without content make a directory. -/
def write
    (t : FileTree)
    (path : String)
    (content : Option ByteArray) : FileTree :=
  let place := placeOf [] (parts path)
  match content with
  | none => t.makeDirectories place
  | some content =>
      (t.makeDirectories place.tail).put place
        (.file content)

/- Remove a file, or a directory and all it holds. -/
def remove
    (t : FileTree)
    (path : String) : FileTree :=
  t.drop (placeOf [] (parts path))

end FileTree

end FactLayout
