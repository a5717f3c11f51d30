import FactLayout.Json.Token
import FactLayout.Yaml.Cursor

/-
  The text of scalars.

  Scalars come in three styles.  Plain and quoted ones fold
  the gaps between their words; block scalars keep or fold
  whole lines.

  Key definitions include:
    * `Yaml.Gap`
    * `Yaml.plain?`
    * `Yaml.quoted?`
    * `Yaml.block?`
-/

------------------------------------------------------------
-- Gaps Between Words
------------------------------------------------------------

namespace FactLayout

namespace Yaml

/-
  What stands between two words: blanks on one line, or line
  breaks.  The first break is kept apart from the others.
-/
structure Gap where
  blanks : List Char := []
  broken : Bool := false
  first : List Char := []
  others : List Char := []
deriving DecidableEq, Repr

namespace Gap

/- No gap. -/
def none : Gap := {}

/- A gap after an escaped line break. -/
def escapedBreak : Gap := { broken := true }

/- Blanks next to a line break do not count. -/
def addBlank
    (g : Gap)
    (c : Char) : Gap :=
  if g.broken then g
  else { g with blanks := g.blanks ++ [c] }

/- Add a line break. -/
def addBreak
    (g : Gap)
    (c : Char) : Gap :=
  if g.broken then { g with others := g.others ++ [c] }
  else { blanks := [], broken := true, first := [c] }

/-
  The text a gap is folded to.  A single line feed becomes a
  space, and a first line feed among several is dropped.
-/
def text (g : Gap) : List Char :=
  if !g.broken then g.blanks
  else if g.first = ['\n'] then
    if g.others = [] then [' '] else g.others
  else g.first ++ g.others

end Gap

------------------------------------------------------------
-- Plain Scalars
------------------------------------------------------------

/- A character with a meaning in flow collections. -/
def isFlowMark (c : Char) : Bool :=
  c == ',' || c == '[' || c == ']' || c == '{' || c == '}'

/- The text of a plain scalar, and what was found out. -/
structure Plain where
  text : List Char
  broken : Bool
  next : Cursor
deriving DecidableEq, Repr

/-
  Read a plain scalar behind the characters already read,
  which are in reverse.  It ends at a comment, at a mark of
  its surroundings, and outside of flow collections at a
  line that is indented too little.
-/
def plainFrom?
    (flow : Bool)
    (indent : Nat) :
    List Char → Mark → Gap → List Char → Option Plain
| [], mark, gap, read =>
    some ⟨read.reverse, gap.broken, ⟨[], mark⟩⟩
| c :: rest, mark, gap, read =>
    let here : Cursor := ⟨c :: rest, mark⟩
    let outside := mark.column < indent
    if isBlank c then
      if gap.broken && outside && c == '\t' then Option.none
      else
        plainFrom? flow indent rest (mark.forward 1)
          (gap.addBlank c) read
    else if isBreak c then
      plainFrom? flow indent rest mark.nextLine
        (gap.addBreak c) read
    else if
        gap.broken &&
            (!flow && outside || here.atDocumentMarker) ||
          gap != .none && c == '#' then
      some ⟨read.reverse, gap.broken, here⟩
    else if
        flow && c == ':' &&
          rest.head?.any fun x =>
            x == '?' || isFlowMark x then
      Option.none
    else if
        c == ':' && atGap rest || flow && isFlowMark c then
      some ⟨read.reverse, gap.broken, here⟩
    else
      plainFrom? flow indent rest (mark.forward 1) .none
        (c :: gap.text.reverse ++ read)

/- Read a plain scalar behind its first character. -/
def plain?
    (flow : Bool)
    (indent : Nat)
    (first : Char)
    (c : Cursor) : Option Plain :=
  plainFrom? flow indent c.rest c.mark .none [first]

theorem length_le_of_plainFrom?
    {flow : Bool}
    {indent : Nat}
    {rest read : List Char}
    {mark : Mark}
    {gap : Gap}
    {p : Plain}
    (hPlain :
      plainFrom? flow indent rest mark gap read = some p) :
    p.next.rest.length ≤ rest.length := by
  fun_induction plainFrom? flow indent rest mark gap read with
  | case1 | case5 | case7 =>
      cases hPlain
      exact Nat.le_refl _
  | case2 | case6 => cases hPlain
  | case3 | case4 | case8 =>
      rename_i ih
      exact Nat.le_succ_of_le (ih hPlain)

------------------------------------------------------------
-- Quoted Scalars
------------------------------------------------------------

/-
  How far an escape sequence has been read: not at all, its
  backslash, or its kind and some of its digits.
-/
inductive Escape where
| none
| begun
| digits (left value : Nat)
deriving DecidableEq, Repr

/- The number of digits that follow a kind of escape. -/
def escapeWidth? : Char → Option Nat
| 'x' => some 2
| 'u' => some 4
| 'U' => some 8
| _ => Option.none

/- The character of a kind of escape without digits. -/
def escapeChar? : Char → Option Char
| '0' => some '\x00'
| 'a' => some '\x07'
| 'b' => some '\x08'
| 't' => some '\t'
| '\t' => some '\t'
| 'n' => some '\n'
| 'v' => some '\x0b'
| 'f' => some '\x0c'
| 'r' => some '\r'
| 'e' => some '\x1b'
| ' ' => some ' '
| '"' => some '"'
| '/' => some '/'
| '\\' => some '\\'
| 'N' => some '\x85'
| '_' => some '\xa0'
| 'L' => some '\u2028'
| 'P' => some '\u2029'
| _ => Option.none

/- The character of a number, if it stands for one. -/
def charOf? (n : Nat) : Option Char :=
  if 0xd800 ≤ n ∧ n ≤ 0xdfff ∨ 0x10ffff < n then
    Option.none
  else some (Char.ofNat n)

/-
  Read a quoted scalar behind the characters already read,
  which are in reverse.  Within single quotes a doubled
  quote stands for one; within double quotes there are
  escape sequences.
-/
def quotedFrom?
    (single : Bool) :
    List Char → Mark → Escape → Gap → List Char →
      Option (List Char × Cursor)
| [], _, _, _, _ => Option.none
| c :: rest, mark, .none, gap, read =>
    let here : Cursor := ⟨c :: rest, mark⟩
    let next := mark.forward 1
    let before := gap.text.reverse ++ read
    if here.atDocumentMarker then Option.none
    else if isBlank c then
      quotedFrom? single rest next .none
        (gap.addBlank c) read
    else if isBreak c then
      quotedFrom? single rest mark.nextLine .none
        (gap.addBreak c) read
    else if single && c == '\'' then
      match rest with
      | '\'' :: rest =>
          quotedFrom? single rest (mark.forward 2) .none
            .none ('\'' :: before)
      | _ => some (before.reverse, ⟨rest, next⟩)
    else if !single && c == '"' then
      some (before.reverse, ⟨rest, next⟩)
    else if !single && c == '\\' then
      quotedFrom? single rest next .begun .none before
    else
      quotedFrom? single rest next .none .none (c :: before)
| c :: rest, mark, .begun, _, read =>
    let next := mark.forward 1
    if isBreak c then
      quotedFrom? single rest mark.nextLine .none
        .escapedBreak read
    else
      match escapeWidth? c, escapeChar? c with
      | some width, _ =>
          quotedFrom? single rest next (.digits width 0)
            .none read
      | _, some value =>
          quotedFrom? single rest next .none .none
            (value :: read)
      | _, _ => Option.none
| c :: rest, mark, .digits left value, _, read =>
    let next := mark.forward 1
    match Json.Token.hexValue? c with
    | Option.none => Option.none
    | some digit =>
        let value := value * 16 + digit
        if 1 < left then
          quotedFrom? single rest next
            (.digits (left - 1) value) .none read
        else
          match charOf? value with
          | Option.none => Option.none
          | some value =>
              quotedFrom? single rest next .none .none
                (value :: read)

/- Read a quoted scalar behind its opening quote. -/
def quoted?
    (single : Bool)
    (c : Cursor) : Option (List Char × Cursor) :=
  quotedFrom? single c.rest c.mark .none .none []

theorem length_le_of_quotedFrom?
    {single : Bool}
    {rest read text : List Char}
    {mark : Mark}
    {escape : Escape}
    {gap : Gap}
    {next : Cursor}
    (hQuoted :
      quotedFrom? single rest mark escape gap read =
        some (text, next)) :
    next.rest.length ≤ rest.length := by
  fun_induction
    quotedFrom? single rest mark escape gap read with
  | case1 | case2 | case13 | case14 | case16 =>
      cases hQuoted
  | case6 | case7 =>
      cases hQuoted
      simp
  | case5 =>
      rename_i ih
      exact Nat.le_succ_of_le
        (Nat.le_succ_of_le (ih hQuoted))
  | case3 | case4 | case8 | case9 | case10 | case11
  | case12 | case15 | case17 =>
      rename_i ih
      exact Nat.le_succ_of_le (ih hQuoted)

------------------------------------------------------------
-- Block Scalars
------------------------------------------------------------

/- What happens to the line breaks at the end. -/
inductive Chomping where
| strip
| clip
| keep
deriving DecidableEq, Repr

/- Read a mark for the breaks at the end. -/
def chomping? (c : Cursor) : Option (Chomping × Cursor) :=
  match c.rest with
  | '+' :: _ => some (.keep, c.skip 1)
  | '-' :: _ => some (.strip, c.skip 1)
  | _ => Option.none

/- Read a digit that fixes the indentation, if any. -/
def increment? (c : Cursor) : Option (Nat × Cursor) :=
  match c.rest with
  | '0' :: _ => Option.none
  | d :: _ =>
      if d.isDigit then
        some (d.toNat - '0'.toNat, c.skip 1)
      else some (0, c)
  | [] => some (0, c)

/-
  Read the rest of the first line of a block scalar.  The
  two marks may come in either order.
-/
def blockHeader?
    (c : Cursor) : Option (Chomping × Nat × Cursor) := do
  match chomping? c with
  | some (chomping, c) =>
      let (increment, c) ← increment? c
      pure (chomping, increment, ← c.endLine?)
  | Option.none =>
      let (increment, c) ← increment? c
      match chomping? c with
      | some (chomping, c) =>
          pure (chomping, increment, ← c.endLine?)
      | Option.none =>
          pure (.clip, increment, ← c.endLine?)

/- Line breaks, and the widest indentation among them. -/
structure Breaks where
  widest : Nat
  breaks : List Char
  next : Cursor
deriving DecidableEq, Repr

/-
  Read indentation and empty lines, up to a line with text.
  As long as the indentation is not known, which is written
  as zero, all spaces belong to it.
-/
def breaksFrom?
    (indent : Nat) :
    List Char → Mark → Nat → List Char → Option Breaks
| [], mark, widest, read =>
    some ⟨max widest mark.column, read.reverse, ⟨[], mark⟩⟩
| c :: rest, mark, widest, read =>
    let inside := indent == 0 || mark.column < indent
    if inside && c == ' ' then
      breaksFrom? indent rest (mark.forward 1) widest read
    else if inside && c == '\t' then Option.none
    else if isBreak c then
      breaksFrom? indent rest mark.nextLine
        (max widest mark.column) (c :: read)
    else
      some ⟨max widest mark.column, read.reverse,
        ⟨c :: rest, mark⟩⟩

/- Read indentation and empty lines. -/
def breaks?
    (indent : Nat)
    (c : Cursor) : Option Breaks :=
  breaksFrom? indent c.rest c.mark 0 []

theorem length_le_of_breaksFrom?
    {indent widest : Nat}
    {rest read : List Char}
    {mark : Mark}
    {b : Breaks}
    (hBreaks :
      breaksFrom? indent rest mark widest read = some b) :
    b.next.rest.length ≤ rest.length := by
  fun_induction breaksFrom? indent rest mark widest read with
  | case1 | case5 =>
      cases hBreaks
      simp
  | case3 => cases hBreaks
  | case2 | case4 =>
      rename_i ih
      exact Nat.le_succ_of_le (ih hBreaks)

/-
  The lines of a block scalar: their text, the break behind
  the last of them, and the empty lines after that.
-/
structure Lines where
  text : List Char
  last : List Char
  empty : List Char
  next : Cursor
deriving DecidableEq, Repr

/-
  Read lines of a given indentation.  When folding, a line
  feed between two lines that do not begin with a blank
  becomes a space, or nothing if empty lines follow it.
-/
def lines?
    (folded : Bool)
    (indent : Nat)
    (afterBlank : Bool)
    (last empty : List Char)
    (c : Cursor) : Option Lines :=
  match c.rest with
  | [] => some ⟨[], last, empty, c⟩
  | x :: _ =>
      if c.mark.column != indent then
        some ⟨[], last, empty, c⟩
      else
        let blank := isBlank x
        let joint :=
          if folded && last == ['\n'] && !afterBlank &&
              !blank then
            if empty = [] then [' '] else empty
          else last ++ empty
        let line := c.rest.takeWhile isInline
        let after := c.skipWhile isInline
        if _hBreak : after.atBreak then
          match _hBreaks : breaks? indent after.skipLine with
          | Option.none => Option.none
          | some b => do
              let lines ←
                lines? folded indent blank
                  (after.rest.take 1) b.breaks b.next
              pure { lines with
                text := joint ++ line ++ lines.text }
        else some ⟨joint ++ line, [], [], after⟩
termination_by c.rest.length
decreasing_by
  have hLine := Cursor.length_skipLine_lt _hBreak
  have hLess := length_le_of_breaksFrom? _hBreaks
  have hAfter := Cursor.length_skipWhile_le c isInline
  exact Nat.lt_of_le_of_lt hLess
    (Nat.lt_of_lt_of_le hLine hAfter)

theorem length_le_of_lines?
    {folded afterBlank : Bool}
    {indent : Nat}
    {last empty : List Char}
    {c : Cursor}
    {l : Lines}
    (hLines :
      lines? folded indent afterBlank last empty c =
        some l) :
    l.next.rest.length ≤ c.rest.length := by
  fun_induction lines? folded indent afterBlank last empty c
    generalizing l with
  | case1 | case2 =>
      cases hLines
      exact Nat.le_refl _
  | case3 => cases hLines
  | case4 =>
      rename_i c _ _ _ _ _ _ _ after hBreak b hBreaks ih
      obtain ⟨tail, hTail, hPure⟩ :=
        Option.bind_eq_some_iff.mp hLines
      cases hPure
      have hRest := ih hTail
      have hLine := Cursor.length_skipLine_lt hBreak
      have hNext : b.next.rest.length ≤
          after.skipLine.rest.length :=
        length_le_of_breaksFrom? hBreaks
      have hAfter : after.rest.length ≤ c.rest.length :=
        Cursor.length_skipWhile_le _ isInline
      exact Nat.le_trans hRest
        (Nat.le_trans hNext
          (Nat.le_trans (Nat.le_of_lt hLine) hAfter))
  | case5 =>
      cases hLines
      exact Cursor.length_skipWhile_le _ isInline

/-
  Read a block scalar behind its first mark.  Its text is
  indented at least as far as its surroundings demand.
-/
def block?
    (folded : Bool)
    (least : Nat)
    (c : Cursor) : Option (List Char × Cursor) := do
  let (chomping, increment, c) ← blockHeader? c
  let given :=
    if increment = 0 then 0
    else least - 1 + increment
  let b ← breaks? given c
  let indent :=
    if given = 0 then max b.widest (max least 1)
    else given
  let lines ←
    lines? folded indent false [] b.breaks b.next
  let ending :=
    match chomping with
    | .strip => []
    | .clip => lines.last
    | .keep => lines.last ++ lines.empty
  pure (lines.text ++ ending, lines.next)

theorem length_le_of_chomping?
    {c next : Cursor}
    {chomping : Chomping}
    (hChomping : chomping? c = some (chomping, next)) :
    next.rest.length ≤ c.rest.length := by
  unfold chomping? at hChomping
  split at hChomping <;> cases hChomping <;> simp

theorem length_le_of_increment?
    {c next : Cursor}
    {increment : Nat}
    (hIncrement :
      increment? c = some (increment, next)) :
    next.rest.length ≤ c.rest.length := by
  unfold increment? at hIncrement
  split at hIncrement
  · cases hIncrement
  · split at hIncrement <;> cases hIncrement <;> simp
  · cases hIncrement
    exact Nat.le_refl _

theorem length_le_of_blockHeader?
    {c next : Cursor}
    {chomping : Chomping}
    {increment : Nat}
    (hHeader :
      blockHeader? c = some (chomping, increment, next)) :
    next.rest.length ≤ c.rest.length := by
  unfold blockHeader? at hHeader
  simp only [Option.bind_eq_bind, Option.pure_def]
    at hHeader
  split at hHeader
  · rename_i hChomping
    simp only [Option.bind_eq_some_iff, Option.some.injEq,
      Prod.mk.injEq, Prod.exists] at hHeader
    obtain ⟨_, _, hIncrement, _, hEnd, _, _, rfl⟩ := hHeader
    have hFirst := length_le_of_chomping? hChomping
    have hSecond := length_le_of_increment? hIncrement
    have hThird := Cursor.length_le_of_endLine? hEnd
    omega
  · simp only [Option.bind_eq_some_iff, Prod.exists]
      at hHeader
    obtain ⟨_, _, hIncrement, hHeader⟩ := hHeader
    have hFirst := length_le_of_increment? hIncrement
    split at hHeader
    · rename_i hChomping
      simp only [Option.bind_eq_some_iff,
        Option.some.injEq, Prod.mk.injEq] at hHeader
      obtain ⟨_, hEnd, _, _, rfl⟩ := hHeader
      have hSecond := length_le_of_chomping? hChomping
      have hThird := Cursor.length_le_of_endLine? hEnd
      omega
    · simp only [Option.bind_eq_some_iff,
        Option.some.injEq, Prod.mk.injEq] at hHeader
      obtain ⟨_, hEnd, _, _, rfl⟩ := hHeader
      have hThird := Cursor.length_le_of_endLine? hEnd
      omega

theorem length_le_of_block?
    {folded : Bool}
    {least : Nat}
    {c next : Cursor}
    {text : List Char}
    (hBlock : block? folded least c = some (text, next)) :
    next.rest.length ≤ c.rest.length := by
  unfold block? at hBlock
  simp only [Option.bind_eq_bind, Option.pure_def,
    Option.bind_eq_some_iff, Option.some.injEq,
    Prod.mk.injEq, Prod.exists] at hBlock
  obtain ⟨_, _, _, hHeader, _, hBreaks, _, hLines, _,
    rfl⟩ := hBlock
  have hFirst := length_le_of_blockHeader? hHeader
  have hSecond := length_le_of_breaksFrom? hBreaks
  have hThird := length_le_of_lines? hLines
  omega

end Yaml

end FactLayout
