import FactLayout.Remainder
import FactLayout.Yaml.Token

/-
  The nodes of YAML text.

  A node is a scalar, a sequence, a mapping, or an alias of
  another node.  Tokens are read as nodes by what stands at
  their front; where a node may be missing, an empty scalar
  takes its place.

  Key definitions include:
    * `Yaml.Label`
    * `Yaml.Node`
    * `Yaml.Shorthands`
    * `Yaml.Node.read?`
-/

------------------------------------------------------------
-- Nodes
------------------------------------------------------------

namespace FactLayout

namespace Yaml

/- The octets of a tag without shorthands. -/
abbrev Tag : Type := List UInt8

/- What is said about a node. -/
structure Label (α : Type) where
  anchor : Option α := none
  tag : Option Tag := none
deriving DecidableEq, Repr

/- A node whose anchors are names of some kind. -/
inductive Node (α : Type) where
| reference (target : α)
| scalar (label : Label α) (plain : Bool) (text : String)
| sequence (label : Label α) (items : List (Node α))
| mapping
    (label : Label α)
    (pairs : List (Node α × Node α))
deriving Repr

namespace Node

variable {α : Type}

/- The node that stands for a missing one. -/
def missing : Node α := scalar {} true ""

end Node

------------------------------------------------------------
-- Tags
------------------------------------------------------------

/- The first parts of tags by their handles. -/
abbrev Shorthands : Type := List (String × Tag)

namespace Shorthands

/- The shorthands every document has. -/
def standard : Shorthands :=
  [("!", "!".toUTF8.toList),
    ("!!", "tag:yaml.org,2002:".toUTF8.toList)]

/- The tag of a name.  Its handle must be known. -/
def tag?
    (shorthands : Shorthands) : TagName → Option Tag
| .full octets => some octets
| .short handle rest =>
    (· ++ rest) <$> shorthands.lookup handle

end Shorthands

------------------------------------------------------------
-- Reading
------------------------------------------------------------

namespace Node

/- Read what is said about a node, in either order. -/
def readLabel?
    (shorthands : Shorthands)
    (ts : List Token) :
    Option (Label String × Remainder ts) :=
  match ts with
  | .anchor name :: .tag tag :: left => do
      let tag ← shorthands.tag? tag
      some (⟨some name, some tag⟩,
        ⟨left, by simp only [List.length_cons]; omega⟩)
  | .tag tag :: .anchor name :: left => do
      let tag ← shorthands.tag? tag
      some (⟨some name, some tag⟩,
        ⟨left, by simp only [List.length_cons]; omega⟩)
  | .anchor name :: left =>
      some (⟨some name, none⟩, ⟨left, by simp⟩)
  | .tag tag :: left => do
      let tag ← shorthands.tag? tag
      some (⟨none, some tag⟩, ⟨left, by simp⟩)
  | left => some ({}, ⟨left, by simp⟩)

/- A label alone belongs to an empty scalar. -/
def onlyLabel?
    (ts : List Token)
    (label : Label String)
    (left : List Token) :
    Option (Node String × Shorter ts) :=
  if hLess : left.length < ts.length then
    some (scalar label true "", ⟨left, hLess⟩)
  else none

/- An item of a block sequence is missing before these. -/
def endsItem (t : Token) : Bool :=
  t == .entry || t == .blockEnd

/- As before, for a sequence without indentation. -/
def endsUnindented (t : Token) : Bool :=
  endsItem t || t == .key || t == .value

/- As before, for a key or value of a block mapping. -/
def endsPart (t : Token) : Bool :=
  t == .key || t == .value || t == .blockEnd

/- As before, for a value in a flow collection. -/
def endsFlowValue (close t : Token) : Bool :=
  t == .comma || t == close

/- As before, for a key in a flow collection. -/
def endsFlowKey (close t : Token) : Bool :=
  t == .value || endsFlowValue close t

/- Pass over a token that shows a key to be missing. -/
def passMissing?
    (close : Token)
    (ts : List Token) :
    Option (Remainder ts) :=
  match ts with
  | t :: left =>
      if endsFlowKey close t then some ⟨left, by simp⟩
      else none
  | [] => none

mutual

/-
  Read a node.  Block collections may begin where a block is
  allowed, and a sequence may do so without indentation where
  it is a key or a value.
-/
def read?
    (shorthands : Shorthands)
    (block unindented : Bool)
    (ts : List Token) :
    Option (Node String × Shorter ts) :=
  match ts with
  | .reference name :: left =>
      some (reference name, ⟨left, by simp⟩)
  | ts => do
      let (label, ⟨after, hLabel⟩) ←
        readLabel? shorthands ts
      match after, hLabel with
      | .scalar style text :: left, hLabel =>
          some (scalar label (style == .plain) text,
            ⟨left, by
              simp only [List.length_cons] at hLabel
              omega⟩)
      | .openSequence :: left, hLabel =>
          let (items, ⟨left, hItems⟩) ←
            readFlowItems? shorthands left
          some (sequence label items,
            ⟨left, by
              simp only [List.length_cons] at hLabel
              omega⟩)
      | .openMapping :: left, hLabel =>
          let (pairs, ⟨left, hPairs⟩) ←
            readFlowPairs? shorthands left
          some (mapping label pairs,
            ⟨left, by
              simp only [List.length_cons] at hLabel
              omega⟩)
      | .blockSequence :: .entry :: left, hLabel =>
          if block then
            let (items, ⟨left, hItems⟩) ←
              readItems? shorthands left
            some (sequence label items,
              ⟨left, by
                simp only [List.length_cons] at hLabel
                omega⟩)
          else none
      | .blockMapping :: left, hLabel =>
          if block then
            let (pairs, ⟨left, hPairs⟩) ←
              readPairs? shorthands left
            some (mapping label pairs,
              ⟨left, by
                simp only [List.length_cons] at hLabel
                omega⟩)
          else none
      | .entry :: left, hLabel =>
          if unindented then
            let (items, ⟨left, hItems⟩) ←
              readUnindented? shorthands left
            some (sequence label items,
              ⟨left, by
                simp only [List.length_cons] at hLabel
                omega⟩)
          else onlyLabel? ts label (.entry :: left)
      | left, _ => onlyLabel? ts label left
termination_by 4 * ts.length
decreasing_by
  all_goals simp only [List.length_cons] at *
  all_goals omega

/- Read a node, or nothing before certain tokens. -/
def readOrMissing?
    (shorthands : Shorthands)
    (ends : Token → Bool)
    (block unindented : Bool)
    (ts : List Token) :
    Option (Node String × Remainder ts) := do
  if ts.head?.any ends then
    some (missing, ⟨ts, by simp⟩)
  else
    let (node, ⟨left, hLess⟩) ←
      read? shorthands block unindented ts
    some (node, ⟨left, Nat.le_of_lt hLess⟩)
termination_by 4 * ts.length + 1

/- Read the items of a block sequence behind an entry mark. -/
def readItems?
    (shorthands : Shorthands)
    (ts : List Token) :
    Option (List (Node String) × Shorter ts) := do
  let (item, ⟨left, hItem⟩) ←
    readOrMissing? shorthands endsItem true false ts
  match left, hItem with
  | .blockEnd :: left, hItem =>
      some ([item],
        ⟨left, by
          simp only [List.length_cons] at hItem
          omega⟩)
  | .entry :: left, hItem =>
      let (items, ⟨left, hItems⟩) ←
        readItems? shorthands left
      some (item :: items,
        ⟨left, by
          simp only [List.length_cons] at hItem
          omega⟩)
  | _, _ => none
termination_by 4 * ts.length + 2
decreasing_by
  · omega
  · simp only [List.length_cons] at hItem
    omega

/-
  Read the items of a sequence without indentation behind an
  entry mark.
-/
def readUnindented?
    (shorthands : Shorthands)
    (ts : List Token) :
    Option (List (Node String) × Remainder ts) := do
  let (item, ⟨left, hItem⟩) ←
    readOrMissing? shorthands endsUnindented true false ts
  match left, hItem with
  | .entry :: left, hItem =>
      let (items, ⟨left, hItems⟩) ←
        readUnindented? shorthands left
      some (item :: items,
        ⟨left, by
          simp only [List.length_cons] at hItem
          omega⟩)
  | left, hItem => some ([item], ⟨left, hItem⟩)
termination_by 4 * ts.length + 2
decreasing_by
  · omega
  · simp only [List.length_cons] at hItem
    omega

/- Read the pairs of a block mapping. -/
def readPairs?
    (shorthands : Shorthands)
    (ts : List Token) :
    Option
      (List (Node String × Node String) × Shorter ts) :=
  match ts with
  | .blockEnd :: left => some ([], ⟨left, by simp⟩)
  | .key :: rest => do
      let (key, ⟨left, hKey⟩) ←
        readOrMissing? shorthands endsPart true true rest
      let (value, ⟨left, hValue⟩) ←
        readValue? shorthands endsPart true left
      let (pairs, ⟨left, hPairs⟩) ←
        readPairs? shorthands left
      some ((key, value) :: pairs,
        ⟨left, by simp only [List.length_cons]; omega⟩)
  | _ => none
termination_by 4 * ts.length
decreasing_by
  all_goals simp only [List.length_cons]
  all_goals omega

/- Read the value of a pair, which may be missing. -/
def readValue?
    (shorthands : Shorthands)
    (ends : Token → Bool)
    (block : Bool)
    (ts : List Token) :
    Option (Node String × Remainder ts) :=
  match ts with
  | .value :: rest => do
      let (node, ⟨left, hLess⟩) ←
        readOrMissing? shorthands ends block block rest
      some (node,
        ⟨left, by simp only [List.length_cons]; omega⟩)
  | ts => some (missing, ⟨ts, by simp⟩)
termination_by 4 * ts.length

/- Read the items of a flow sequence. -/
def readFlowItems?
    (shorthands : Shorthands)
    (ts : List Token) :
    Option (List (Node String) × Shorter ts) :=
  match ts with
  | .closeSequence :: left => some ([], ⟨left, by simp⟩)
  | ts => do
      let (item, ⟨left, hItem⟩) ← readFlowItem? shorthands ts
      match left, hItem with
      | .closeSequence :: left, hItem =>
          some ([item],
            ⟨left, by
              simp only [List.length_cons] at hItem
              omega⟩)
      | .comma :: left, hItem =>
          let (items, ⟨left, hItems⟩) ←
            readFlowItems? shorthands left
          some (item :: items,
            ⟨left, by
              simp only [List.length_cons] at hItem
              omega⟩)
      | _, _ => none
termination_by 4 * ts.length + 2
decreasing_by
  · omega
  · simp only [List.length_cons] at hItem
    omega

/- Read an item of a flow sequence, or a single pair. -/
def readFlowItem?
    (shorthands : Shorthands)
    (ts : List Token) :
    Option (Node String × Shorter ts) :=
  match ts with
  | .key :: rest => do
      let (key, ⟨left, hKey⟩) ←
        readSingleKey? shorthands rest
      let (value, ⟨left, hValue⟩) ←
        readValue? shorthands
          (endsFlowValue .closeSequence) false left
      some (mapping {} [(key, value)],
        ⟨left, by simp only [List.length_cons]; omega⟩)
  | ts => read? shorthands false false ts
termination_by 4 * ts.length + 1
decreasing_by
  · simp only [List.length_cons]
    omega
  · simp only [List.length_cons]
    omega
  · omega

/-
  Read the key of a single pair.  Where it is missing, the
  token that shows so is passed over.
-/
def readSingleKey?
    (shorthands : Shorthands)
    (ts : List Token) :
    Option (Node String × Remainder ts) :=
  match passMissing? .closeSequence ts with
  | some left => some (missing, left)
  | none => do
      let (node, ⟨left, hLess⟩) ←
        read? shorthands false false ts
      some (node, ⟨left, Nat.le_of_lt hLess⟩)
termination_by 4 * ts.length + 1

/- Read the pairs of a flow mapping. -/
def readFlowPairs?
    (shorthands : Shorthands)
    (ts : List Token) :
    Option
      (List (Node String × Node String) × Shorter ts) :=
  match ts with
  | .closeMapping :: left => some ([], ⟨left, by simp⟩)
  | ts => do
      let (pair, ⟨left, hPair⟩) ← readFlowPair? shorthands ts
      match left, hPair with
      | .closeMapping :: left, hPair =>
          some ([pair],
            ⟨left, by
              simp only [List.length_cons] at hPair
              omega⟩)
      | .comma :: left, hPair =>
          let (pairs, ⟨left, hPairs⟩) ←
            readFlowPairs? shorthands left
          some (pair :: pairs,
            ⟨left, by
              simp only [List.length_cons] at hPair
              omega⟩)
      | _, _ => none
termination_by 4 * ts.length + 2
decreasing_by
  · omega
  · simp only [List.length_cons] at hPair
    omega

/- Read a pair of a flow mapping. -/
def readFlowPair?
    (shorthands : Shorthands)
    (ts : List Token) :
    Option ((Node String × Node String) × Shorter ts) :=
  match ts with
  | .key :: rest => do
      let (key, ⟨left, hKey⟩) ←
        readOrMissing? shorthands
          (endsFlowKey .closeMapping) false false rest
      let (value, ⟨left, hValue⟩) ←
        readValue? shorthands
          (endsFlowValue .closeMapping) false left
      some ((key, value),
        ⟨left, by simp only [List.length_cons]; omega⟩)
  | ts => do
      let (key, ⟨left, hKey⟩) ←
        read? shorthands false false ts
      some ((key, missing), ⟨left, hKey⟩)
termination_by 4 * ts.length + 1
decreasing_by
  · simp only [List.length_cons]
    omega
  · simp only [List.length_cons]
    omega
  · omega

end

end Node

end Yaml

end FactLayout
