import FactLayout.Yaml.Property
import FactLayout.Yaml.Scalar

/-
  The lexical units of YAML text.

  A token is read off the text by its first characters.  What
  the text says by indentation, and which tokens are keys, is
  found out by a context that takes in one token after the
  other.

  This module and the others on YAML follow the documented
  behaviour of serde_yaml 0.9, a library that is not part of
  the program.

  Key definitions include:
    * `Yaml.Token`
    * `Yaml.Lexeme`
    * `Yaml.lexeme?`
    * `Yaml.Context`
    * `Yaml.Context.accept?`
    * `Yaml.Token.ofChars?`
-/

------------------------------------------------------------
-- Tokens
------------------------------------------------------------

namespace FactLayout

namespace Yaml

/- The three ways to write a scalar. -/
inductive Style where
| plain
| quoted
| block
deriving DecidableEq, Repr

/-
  A lexical unit.  The first three are not written in the
  text, but follow from its indentation.
-/
inductive Token where
| blockSequence
| blockMapping
| blockEnd
| pragma (content : Pragma)
| documentStart
| documentEnd
| openSequence
| closeSequence
| openMapping
| closeMapping
| comma
| entry
| key
| value
| reference (name : String)
| anchor (name : String)
| tag (name : TagName)
| scalar (style : Style) (text : String)
deriving DecidableEq, Repr

/-
  A token as it is written, and what follows it.  Only plain
  scalars may end behind the line they end on.
-/
structure Lexeme where
  token : Token
  broken : Bool := false
  next : Cursor
deriving DecidableEq, Repr

/- A character that begins no plain scalar. -/
def isMark (c : Char) : Bool :=
  isBlank c || isBreak c ||
    "-?:,[]\x7b\x7d#&*!|>'\"%@\x60".contains c

/- Read a plain scalar from its first character on. -/
def plainLexeme?
    (flow : Bool)
    (indent : Nat)
    (first : Char)
    (c : Cursor) : Option Lexeme := do
  let p ← plain? flow indent first (c.skip 1)
  pure ⟨.scalar .plain (String.ofList p.text), p.broken,
    p.next⟩

/- Read a quoted scalar from its first quote on. -/
def quotedLexeme?
    (single : Bool)
    (c : Cursor) : Option Lexeme := do
  let (text, next) ← quoted? single (c.skip 1)
  pure ⟨.scalar .quoted (String.ofList text), false, next⟩

/- Read a block scalar from its first mark on. -/
def blockLexeme?
    (folded : Bool)
    (indent : Nat)
    (c : Cursor) : Option Lexeme := do
  let (text, next) ← block? folded indent (c.skip 1)
  pure ⟨.scalar .block (String.ofList text), false, next⟩

/-
  Read one token off the front.  Plain scalars go on over
  lines that are indented far enough.
-/
def lexeme?
    (flow : Bool)
    (indent : Nat)
    (c : Cursor) : Option Lexeme :=
  match c.rest with
  | [] => none
  | first :: rest =>
      let next := c.skip 1
      let single (t : Token) := some ⟨t, false, next⟩
      let plain := plainLexeme? flow indent first c
      if c.mark.column = 0 ∧ first = '%' then do
        let (content, next) ← pragma? next
        pure ⟨.pragma content, false, next⟩
      else if c.atDocumentMarker then
        let token :=
          if first = '-' then .documentStart
          else .documentEnd
        some ⟨token, false, c.skip 3⟩
      else
        match first with
        | '[' => single .openSequence
        | '{' => single .openMapping
        | ']' => single .closeSequence
        | '}' => single .closeMapping
        | ',' => single .comma
        | '-' => if atGap rest then single .entry else plain
        | '?' =>
            if flow || atGap rest then single .key else plain
        | ':' =>
            if flow || atGap rest then single .value
            else plain
        | '*' => do
            let (name, next) ← anchor? next
            pure ⟨.reference name, false, next⟩
        | '&' => do
            let (name, next) ← anchor? next
            pure ⟨.anchor name, false, next⟩
        | '!' => do
            let (name, next) ← tag? flow next
            pure ⟨.tag name, false, next⟩
        | '|' =>
            if flow then none else blockLexeme? false indent c
        | '>' =>
            if flow then none else blockLexeme? true indent c
        | '\'' => quotedLexeme? true c
        | '"' => quotedLexeme? false c
        | _ => if isMark first then none else plain

theorem length_le_of_plainLexeme?
    {flow : Bool}
    {indent : Nat}
    {first : Char}
    {c : Cursor}
    {l : Lexeme}
    (hLexeme : plainLexeme? flow indent first c = some l) :
    l.next.rest.length ≤ (c.skip 1).rest.length := by
  unfold plainLexeme? at hLexeme
  obtain ⟨p, hPlain, hPure⟩ :=
    Option.bind_eq_some_iff.mp hLexeme
  cases hPure
  exact length_le_of_plainFrom? hPlain

theorem length_le_of_quotedLexeme?
    {single : Bool}
    {c : Cursor}
    {l : Lexeme}
    (hLexeme : quotedLexeme? single c = some l) :
    l.next.rest.length ≤ (c.skip 1).rest.length := by
  unfold quotedLexeme? at hLexeme
  obtain ⟨⟨_, _⟩, hQuoted, hPure⟩ :=
    Option.bind_eq_some_iff.mp hLexeme
  cases hPure
  exact length_le_of_quotedFrom? hQuoted

theorem length_le_of_blockLexeme?
    {folded : Bool}
    {indent : Nat}
    {c : Cursor}
    {l : Lexeme}
    (hLexeme : blockLexeme? folded indent c = some l) :
    l.next.rest.length ≤ (c.skip 1).rest.length := by
  unfold blockLexeme? at hLexeme
  obtain ⟨⟨_, _⟩, hBlock, hPure⟩ :=
    Option.bind_eq_some_iff.mp hLexeme
  cases hPure
  exact length_le_of_block? hBlock

/- A token is never empty. -/
theorem length_lt_of_lexeme?
    {flow : Bool}
    {indent : Nat}
    {c : Cursor}
    {l : Lexeme}
    (hLexeme : lexeme? flow indent c = some l) :
    l.next.rest.length < c.rest.length := by
  unfold lexeme? at hLexeme
  cases hRest : c.rest with
  | nil => simp [hRest] at hLexeme
  | cons first rest =>
      simp only [hRest] at hLexeme
      suffices hLess :
          l.next.rest.length ≤ (c.skip 1).rest.length by
        simp [hRest] at hLess ⊢
        omega
      have hPlain :=
        @length_le_of_plainLexeme? flow indent first c l
      split at hLexeme
      · obtain ⟨⟨_, _⟩, hPragma, hPure⟩ :=
          Option.bind_eq_some_iff.mp hLexeme
        cases hPure
        exact length_le_of_pragma? hPragma
      · split at hLexeme
        · cases hLexeme
          simp
          omega
        · split at hLexeme
          · cases hLexeme
            exact Nat.le_refl _
          · cases hLexeme
            exact Nat.le_refl _
          · cases hLexeme
            exact Nat.le_refl _
          · cases hLexeme
            exact Nat.le_refl _
          · cases hLexeme
            exact Nat.le_refl _
          · split at hLexeme
            · cases hLexeme
              exact Nat.le_refl _
            · exact hPlain hLexeme
          · split at hLexeme
            · cases hLexeme
              exact Nat.le_refl _
            · exact hPlain hLexeme
          · split at hLexeme
            · cases hLexeme
              exact Nat.le_refl _
            · exact hPlain hLexeme
          · obtain ⟨⟨_, _⟩, hName, hPure⟩ :=
              Option.bind_eq_some_iff.mp hLexeme
            cases hPure
            exact length_le_of_anchor? hName
          · obtain ⟨⟨_, _⟩, hName, hPure⟩ :=
              Option.bind_eq_some_iff.mp hLexeme
            cases hPure
            exact length_le_of_anchor? hName
          · obtain ⟨⟨_, _⟩, hName, hPure⟩ :=
              Option.bind_eq_some_iff.mp hLexeme
            cases hPure
            exact length_le_of_tag? hName
          · split at hLexeme
            · cases hLexeme
            · exact length_le_of_blockLexeme? hLexeme
          · split at hLexeme
            · cases hLexeme
            · exact length_le_of_blockLexeme? hLexeme
          · exact length_le_of_quotedLexeme? hLexeme
          · exact length_le_of_quotedLexeme? hLexeme
          · split at hLexeme
            · cases hLexeme
            · exact hPlain hLexeme

------------------------------------------------------------
-- Contexts
------------------------------------------------------------

/-
  A place where a key would begin, if a value mark follows
  its text.  The number says how many tokens lie before.
-/
structure PendingKey where
  required : Bool
  number : Nat
  mark : Mark
deriving DecidableEq, Repr

/-
  What the tokens so far say about the next one.  The tokens
  are in reverse.  Every flow collection around the next
  token sets a pending key aside.
-/
structure Context where
  tokens : List Token := []
  count : Nat := 0
  columns : List Nat := []
  keyAllowed : Bool := true
  key : Option PendingKey := none
  outer : List (Option PendingKey) := []
deriving DecidableEq, Repr

namespace PendingKey

/-
  A key ends on the line it begins on, and does not extend
  over more than 1024 characters.
-/
def isStale
    (key : PendingKey)
    (mark : Mark) : Bool :=
  key.mark.line < mark.line ||
    key.mark.index + 1024 < mark.index

/-
  Give up a key that has become too long.  One that had to
  be a key is refused.
-/
def refresh?
    (mark : Mark) :
    Option PendingKey → Option (Option PendingKey)
| some key =>
    if !key.isStale mark then some (some key)
    else if key.required then none
    else some none
| none => some none

end PendingKey

namespace Context

/- The next token stands within a flow collection. -/
def inFlow (x : Context) : Bool :=
  !x.outer.isEmpty

/- The least column of a text within the current block. -/
def indent (x : Context) : Nat :=
  match x.columns with
  | [] => 0
  | column :: _ => column + 1

/- Add a token. -/
def push
    (x : Context)
    (t : Token) : Context :=
  { x with tokens := t :: x.tokens, count := x.count + 1 }

/- Add tokens where a key began. -/
def insert
    (x : Context)
    (number : Nat)
    (ts : List Token) : Context :=
  let after := x.count - number
  { x with
    tokens :=
      x.tokens.take after ++ ts.reverse ++
        x.tokens.drop after
    count := x.count + ts.length }

/- Say whether a key may begin at the next token. -/
def allowKey
    (x : Context)
    (keyAllowed : Bool) : Context :=
  { x with keyAllowed }

/- Give up keys that have become too long. -/
def refresh?
    (x : Context)
    (mark : Mark) : Option Context := do
  let key ← PendingKey.refresh? mark x.key
  let outer ← x.outer.mapM (PendingKey.refresh? mark)
  pure { x with key, outer }

/- Give up the pending key. -/
def dropKey? (x : Context) : Option Context :=
  if x.key.any (·.required) then none
  else some { x with key := none }

/- Remember that a key may begin here. -/
def saveKey?
    (x : Context)
    (mark : Mark) : Option Context :=
  if x.keyAllowed then do
    let required :=
      !x.inFlow && x.columns.head? == some mark.column
    let x ← x.dropKey?
    pure { x with key := some ⟨required, x.count, mark⟩ }
  else some x

/- End the blocks whose column is not kept. -/
def closeBlocks
    (x : Context)
    (keep : Nat → Bool) : Context :=
  if x.inFlow then x
  else
    let closed := x.columns.takeWhile (!keep ·)
    let ends := List.replicate closed.length Token.blockEnd
    { x with
      tokens := ends ++ x.tokens
      count := x.count + closed.length
      columns := x.columns.drop closed.length }

/- A block at a column would be inside of the current one. -/
def isInner
    (x : Context)
    (column : Nat) : Bool :=
  !x.inFlow && x.indent ≤ column

/-
  Begin a block, unless one of this column is open.  Within
  flow collections there are no blocks.
-/
def openBlock?
    (x : Context)
    (column : Nat)
    (t : Token) : Option Context :=
  if x.inFlow then some x
  else if !x.keyAllowed then none
  else if x.isInner column then
    some { x.push t with columns := column :: x.columns }
  else some x

/- Begin the block mapping of a key, unless it is open. -/
def openAtKey
    (x : Context)
    (key : PendingKey) : Context :=
  let column := key.mark.column
  if x.isInner column then
    { x.insert key.number [.blockMapping, .key] with
      columns := column :: x.columns }
  else x.insert key.number [.key]

/- Take in a token that stands at a mark. -/
def accept?
    (x : Context)
    (mark : Mark)
    (l : Lexeme) : Option Context := do
  match l.token with
  | .pragma _ | .documentStart | .documentEnd => do
      let x ← (x.closeBlocks fun _ => false).dropKey?
      pure ((x.push l.token).allowKey false)
  | .openSequence | .openMapping => do
      let x ← x.saveKey? mark
      let outer := x.key :: x.outer
      pure ({ x.push l.token with
        key := none, outer }.allowKey true)
  | .closeSequence | .closeMapping => do
      let x ← x.dropKey?
      let key := x.outer.head?.join
      let outer := x.outer.tail
      pure ({ x.push l.token with key, outer }.allowKey false)
  | .comma => do
      let x ← x.dropKey?
      pure ((x.push l.token).allowKey true)
  | .entry => do
      let x ← x.openBlock? mark.column .blockSequence
      let x ← x.dropKey?
      pure ((x.push l.token).allowKey true)
  | .key => do
      let x ← x.openBlock? mark.column .blockMapping
      let x ← x.dropKey?
      pure ((x.push l.token).allowKey (!x.inFlow))
  | .value => do
      match x.key with
      | some key =>
          let x := { x.openAtKey key with key := none }
          pure ((x.push l.token).allowKey false)
      | none =>
          let x ← x.openBlock? mark.column .blockMapping
          pure ((x.push l.token).allowKey (!x.inFlow))
  | .scalar .block _ => do
      let x ← x.dropKey?
      pure ((x.push l.token).allowKey true)
  | .reference _ | .anchor _ | .tag _ | .scalar _ _ => do
      let x ← x.saveKey? mark
      pure ((x.push l.token).allowKey l.broken)
  | .blockSequence | .blockMapping | .blockEnd => pure x

/- The tokens of a text that ends here. -/
def finish? (x : Context) : Option (List Token) := do
  let x ← (x.closeBlocks fun _ => false).dropKey?
  pure x.tokens.reverse

end Context

------------------------------------------------------------
-- Tokens of a Text
------------------------------------------------------------

namespace Token

/- Read all further tokens. -/
def readFrom?
    (x : Context)
    (c : Cursor) : Option (List Token) :=
  let found := c.toToken x.inFlow x.keyAllowed
  let here := found.2
  match (x.allowKey found.1).refresh? here.mark with
  | none => none
  | some y =>
      let y := y.closeBlocks (· ≤ here.mark.column)
      if here.rest = [] then y.finish?
      else
        match _hLexeme : lexeme? y.inFlow y.indent here with
        | none => none
        | some l =>
            match y.accept? here.mark l with
            | none => none
            | some y => readFrom? y l.next
termination_by c.rest.length
decreasing_by
  have hHere :=
    Cursor.length_toToken_le x.inFlow x.keyAllowed c
  exact Nat.lt_of_lt_of_le
    (length_lt_of_lexeme? _hLexeme) hHere

/- The tokens of a text. -/
def ofChars? (text : List Char) : Option (List Token) :=
  if text.all isAllowed then
    readFrom? {} ⟨unifyBreaks text, {}⟩
  else none

end Token

end Yaml

end FactLayout
