import FactLayout.Yaml.Node

/-
  Documents of YAML text.

  A document is one node.  Anchors are numbered as they
  appear, and an alias refers to the number its name has at
  that place.

  Key definitions include:
    * `Yaml.Prologue`
    * `Yaml.Numbering`
    * `Yaml.Node.number?`
    * `Yaml.Document`
    * `Yaml.Document.ofString?`
-/

------------------------------------------------------------
-- Directives
------------------------------------------------------------

namespace FactLayout

namespace Yaml

/- What the directives before a document have said. -/
structure Prologue where
  versioned : Bool := false
  shorthands : Shorthands := []
deriving DecidableEq, Repr

namespace Prologue

/-
  Take in a directive.  There is at most one version, and
  one shorthand for each handle.
-/
def add?
    (p : Prologue) : Pragma → Option Prologue
| .version major minor =>
    if !p.versioned ∧ major = 1 ∧
        (minor = 1 ∨ minor = 2) then
      some { p with versioned := true }
    else none
| .shorthand handle start =>
    if (p.shorthands.lookup handle).isNone then
      some { p with
        shorthands := (handle, start) :: p.shorthands }
    else none

/-
  Read directives up to the mark that begins the document.
-/
def read? :
    Prologue → List Token →
      Option (Shorthands × List Token)
| p, .pragma content :: ts =>
    (p.add? content).bind fun p => read? p ts
| p, .documentStart :: ts =>
    some (p.shorthands ++ Shorthands.standard, ts)
| _, _ => none

end Prologue

------------------------------------------------------------
-- Anchors
------------------------------------------------------------

/-
  The numbers of the names so far.  A name that comes again
  takes a new number, which is the count of names.
-/
abbrev Numbering : Type := List (String × Nat)

namespace Numbering

/- Number a name. -/
def add
    (names : Numbering)
    (name : String) : Numbering :=
  (name, names.length) ::
    names.filter fun (other, _) => other != name

/- Number the anchor of a node, if it has one. -/
def addLabel
    (names : Numbering)
    (label : Label String) : Label Nat × Numbering :=
  match label.anchor with
  | none => (⟨none, label.tag⟩, names)
  | some name =>
      (⟨some names.length, label.tag⟩, names.add name)

end Numbering

namespace Node

mutual

/-
  Number the anchors of a node in the order of the text.  An
  alias must name an anchor that comes before it.
-/
def number? :
    Numbering → Node String →
      Option (Node Nat × Numbering)
| names, reference name => do
    pure (reference (← names.lookup name), names)
| names, scalar label plain text =>
    let (label, names) := names.addLabel label
    some (scalar label plain text, names)
| names, sequence label items => do
    let (label, names) := names.addLabel label
    let (items, names) ← numberItems? names items
    pure (sequence label items, names)
| names, mapping label pairs => do
    let (label, names) := names.addLabel label
    let (pairs, names) ← numberPairs? names pairs
    pure (mapping label pairs, names)

/- Number the anchors of nodes in order. -/
def numberItems? :
    Numbering → List (Node String) →
      Option (List (Node Nat) × Numbering)
| names, [] => some ([], names)
| names, item :: rest => do
    let (item, names) ← number? names item
    let (rest, names) ← numberItems? names rest
    pure (item :: rest, names)

/- Number the anchors of pairs in order. -/
def numberPairs? :
    Numbering → List (Node String × Node String) →
      Option (List (Node Nat × Node Nat) × Numbering)
| names, [] => some ([], names)
| names, (key, value) :: rest => do
    let (key, names) ← number? names key
    let (value, names) ← number? names value
    let (rest, names) ← numberPairs? names rest
    pure ((key, value) :: rest, names)

end

variable {α : Type}

/- A node under its anchor. -/
def named
    (label : Label α)
    (node : Node α) : List (α × Node α) :=
  label.anchor.toList.map fun name => (name, node)

mutual

/- The nodes with anchors, in the order of the text. -/
def anchored : Node α → List (α × Node α)
| reference _ => []
| scalar label plain text =>
    named label (scalar label plain text)
| sequence label items =>
    named label (sequence label items) ++
      anchoredItems items
| mapping label pairs =>
    named label (mapping label pairs) ++ anchoredPairs pairs

/- The nodes with anchors among nodes. -/
def anchoredItems : List (Node α) → List (α × Node α)
| [] => []
| item :: rest => anchored item ++ anchoredItems rest

/- The nodes with anchors among pairs. -/
def anchoredPairs :
    List (Node α × Node α) → List (α × Node α)
| [] => []
| (key, value) :: rest =>
    anchored key ++ anchored value ++ anchoredPairs rest

end

mutual

/- How many times a node begins or ends a collection, or
  stands by itself. -/
def size : Node α → Nat
| reference _ => 1
| scalar .. => 1
| sequence _ items => 2 + sizeItems items
| mapping _ pairs => 2 + sizePairs pairs

/- The sizes of nodes together. -/
def sizeItems : List (Node α) → Nat
| [] => 0
| item :: rest => size item + sizeItems rest

/- The sizes of pairs together. -/
def sizePairs : List (Node α × Node α) → Nat
| [] => 0
| (key, value) :: rest =>
    size key + size value + sizePairs rest

end

end Node

------------------------------------------------------------
-- Documents
------------------------------------------------------------

/- A node, and the nodes that its aliases refer to. -/
structure Document where
  root : Node Nat
  targets : List (Nat × Node Nat)
deriving Repr

namespace Document

/-
  The document of a node.  Of several nodes under one number
  the last one counts.
-/
def ofNode? (node : Node String) : Option Document := do
  let (root, _) ← node.number? []
  pure ⟨root, root.anchored.reverse⟩

/- The root of a document is missing before these. -/
def endsRoot : Token → Bool
| .pragma _ | .documentStart | .documentEnd => true
| _ => false

/-
  Read the root of a document.  Without a mark at its
  beginning there are no directives, and without any tokens
  the document is an empty scalar.
-/
def readRoot?
    (ts : List Token) :
    Option (Node String × List Token) :=
  match ts with
  | [] => some (.missing, [])
  | .pragma _ :: _ | .documentStart :: _ => do
      let (shorthands, ts) ← Prologue.read? {} ts
      if ts.head?.all endsRoot then pure (.missing, ts)
      else
        let (node, ⟨left, _⟩) ←
          Node.read? shorthands true false ts
        pure (node, left)
  | ts => do
      let (node, ⟨left, _⟩) ←
        Node.read? .standard true false ts
      pure (node, left)

/- The only document of a list of tokens. -/
def ofTokens? (ts : List Token) : Option Document := do
  let (node, left) ← readRoot? ts
  if left.all (· == .documentEnd) then ofNode? node
  else none

/- The only document of a text. -/
def ofString? (text : String) : Option Document :=
  (Token.ofChars? text.toList).bind ofTokens?

end Document

end Yaml

end FactLayout
