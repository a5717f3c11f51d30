import FactLayout.Layout.Source
import FactLayout.Yaml.Resolution

/-
  YAML as a dialect of entries and layouts.

  Records are mappings.  An alias is followed where its node
  is needed, and the number of times that happens is limited
  by the size of the document.

  Key definitions include:
    * `Yaml.Following`
    * `Yaml.Document.follow`
    * `Yaml.Document.value`
    * `Yaml.dialect`
-/

------------------------------------------------------------
-- Aliases
------------------------------------------------------------

namespace FactLayout

namespace Yaml

/- Work that may fail, and that counts followed aliases. -/
abbrev Following : Type → Type := StateT Nat Option

namespace Document

/- How many aliases may be followed. -/
def limit (d : Document) : Nat :=
  100 * d.root.size

/- The node an alias refers to; any other node is itself. -/
def follow
    (d : Document) : Node Nat → Following (Node Nat)
| .reference target => do
    let count ← get
    if d.limit ≤ count then failure
    else
      set (count + 1)
      match d.targets.lookup target with
      | some node => pure node
      | none => failure
| node => pure node

------------------------------------------------------------
-- Reading Nodes
------------------------------------------------------------

/- A plain scalar without text stands for no collection. -/
def isVoid
    (plain : Bool)
    (text : String) : Bool :=
  plain && text == ""

/- Every scalar is a text. -/
def text
    (d : Document)
    (node : Node Nat) : Following String := do
  match ← d.follow node with
  | .scalar _ _ text => pure text
  | _ => failure

/-
  A node, unless it says that nothing is there.  A plain
  scalar tagged as nothing has to be one of its notations.
-/
def present?
    (d : Document)
    (node : Node Nat) :
    Following (Option (Node Nat)) := do
  match ← d.follow node with
  | .scalar label true text =>
      let node := Node.scalar label true text
      match label.tag with
      | none =>
          if text == "" || Resolution.isNull text then
            pure none
          else pure (some node)
      | some tag =>
          if tag = Resolution.standardTag "null" then
            if Resolution.isNull text then pure none
            else failure
          else pure (some node)
  | node => pure (some node)

/- The items of a sequence. -/
def items
    (d : Document)
    (node : Node Nat) : Following (List (Node Nat)) := do
  match ← d.follow node with
  | .sequence _ items => pure items
  | .scalar _ plain text =>
      if isVoid plain text then pure [] else failure
  | _ => failure

/- The pairs of a mapping, whose keys are texts. -/
def pairs
    (d : Document)
    (node : Node Nat) :
    Following (List (String × Node Nat)) := do
  match ← d.follow node with
  | .mapping _ pairs =>
      pairs.mapM fun (key, value) => do
        pure (← d.text key, value)
  | .scalar _ plain text =>
      if isVoid plain text then pure [] else failure
  | _ => failure

/- The fields of a record. -/
def record
    (d : Document)
    (fields : List Field)
    (node : Node Nat) :
    Following (List (Option (Node Nat))) := do
  liftM (Field.select? fields (← d.pairs node))

/- Collections of a private kind have no values. -/
def refuseKind (label : Label Nat) : Following Unit :=
  if label.tag.any Resolution.namesKind then failure
  else pure ()

/-
  The value of a node that nests no deeper than a given
  number of collections.
-/
def value
    (d : Document)
    (depth : Nat)
    (node : Node Nat) : Following Json := do
  match ← d.follow node with
  | .reference _ => failure
  | .scalar label plain text =>
      liftM (Resolution.scalar? label.tag plain text)
  | .sequence label items =>
      refuseKind label
      match depth with
      | 0 => failure
      | depth + 1 =>
          Json.array <$> items.mapM (d.value depth)
  | .mapping label pairs =>
      refuseKind label
      match depth with
      | 0 => failure
      | depth + 1 =>
          Json.ofFields <$>
            pairs.mapM fun (key, value) => do
              pure (← d.text key, ← d.value depth value)

/- Collections of a document nest at most so deep. -/
def maxDepth : Nat := 128

end Document

------------------------------------------------------------
-- The Dialect
------------------------------------------------------------

/- Entries and layouts in YAML. -/
def dialect (d : Document) : Dialect Following (Node Nat) where
  text := d.text
  present? := d.present?
  items := d.items
  record := d.record
  pairs := d.pairs
  value := fun enclosing =>
    d.value (Document.maxDepth - enclosing)

end Yaml

end FactLayout
