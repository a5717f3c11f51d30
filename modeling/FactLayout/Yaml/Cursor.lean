/-
  Positions in YAML text.

  A cursor is the text that is still unread, together with
  where it begins.  Columns and lines decide what the text
  means, so every step keeps track of them.

  Key definitions include:
    * `Yaml.isAllowed`
    * `Yaml.unifyBreaks`
    * `Yaml.Mark`
    * `Yaml.Cursor`
    * `Yaml.Cursor.toToken`
-/

------------------------------------------------------------
-- Characters
------------------------------------------------------------

namespace FactLayout

namespace Yaml

/- The characters that YAML text may hold. -/
def isAllowed (c : Char) : Bool :=
  let n := c.toNat
  n == 0x09 || n == 0x0a || n == 0x0d ||
    0x20 ≤ n && n ≤ 0x7e || n == 0x85 ||
    0xa0 ≤ n && n ≤ 0xfffd || 0x10000 ≤ n

/-
  Write every ordinary line break as a line feed.  The line
  and paragraph separators remain.
-/
def unifyBreaks : List Char → List Char
| [] => []
| '\r' :: '\n' :: rest => '\n' :: unifyBreaks rest
| c :: rest =>
    (if c = '\r' ∨ c = '\x85' then '\n' else c) ::
      unifyBreaks rest

/- A character that ends a line. -/
def isBreak (c : Char) : Bool :=
  c == '\n' || c == '\u2028' || c == '\u2029'

/- A character within a line. -/
def isInline (c : Char) : Bool :=
  !isBreak c

/- A blank within a line. -/
def isBlank (c : Char) : Bool :=
  c == ' ' || c == '\t'

/- A character of a name. -/
def isWord (c : Char) : Bool :=
  c.isAlphanum || c == '_' || c == '-'

/- A blank, a line break or the end is next. -/
def atGap : List Char → Bool
| [] => true
| c :: _ => isBlank c || isBreak c

/- The mark some editors put before a text. -/
def byteOrderMark : Char := '\ufeff'

------------------------------------------------------------
-- Marks
------------------------------------------------------------

/- How many characters, lines and columns lie before. -/
structure Mark where
  index : Nat := 0
  line : Nat := 0
  column : Nat := 0
deriving DecidableEq, Repr

namespace Mark

/- Move on within a line. -/
def forward
    (m : Mark)
    (n : Nat) : Mark :=
  { m with index := m.index + n, column := m.column + n }

/- Move on to the start of the next line. -/
def nextLine (m : Mark) : Mark :=
  ⟨m.index + 1, m.line + 1, 0⟩

end Mark

------------------------------------------------------------
-- Cursors
------------------------------------------------------------

/- The unread text and where it begins. -/
structure Cursor where
  rest : List Char
  mark : Mark := {}
deriving DecidableEq, Repr

namespace Cursor

/- Skip characters of a line. -/
def skip
    (c : Cursor)
    (n : Nat) : Cursor :=
  ⟨c.rest.drop n, c.mark.forward n⟩

/- Skip a line break. -/
def skipLine (c : Cursor) : Cursor :=
  ⟨c.rest.drop 1, c.mark.nextLine⟩

/- Skip the characters of a class. -/
def skipWhile
    (c : Cursor)
    (p : Char → Bool) : Cursor :=
  c.skip (c.rest.takeWhile p).length

/- Skip blanks. -/
def skipBlanks (c : Cursor) : Cursor :=
  c.skipWhile isBlank

/- Skip a comment, if there is one. -/
def skipComment (c : Cursor) : Cursor :=
  if c.rest.head? = some '#' then
    c.skipWhile isInline
  else c

/- A line break is next. -/
def atBreak (c : Cursor) : Bool :=
  c.rest.head?.any isBreak

/-
  Skip what may end a line: blanks, a comment and the
  break.  Anything else is refused.
-/
def endLine? (c : Cursor) : Option Cursor :=
  let c := c.skipBlanks.skipComment
  if c.atBreak then some c.skipLine
  else if c.rest = [] then some c
  else none

@[simp]
theorem rest_skip
    (c : Cursor)
    (n : Nat) :
    (c.skip n).rest = c.rest.drop n := rfl

@[simp]
theorem rest_skipLine
    (c : Cursor) :
    c.skipLine.rest = c.rest.drop 1 := rfl

theorem length_skipWhile_le
    (c : Cursor)
    (p : Char → Bool) :
    (c.skipWhile p).rest.length ≤ c.rest.length := by
  simp [skipWhile]

theorem length_skipComment_le
    (c : Cursor) :
    c.skipComment.rest.length ≤ c.rest.length := by
  unfold skipComment
  split
  · exact length_skipWhile_le c _
  · exact Nat.le_refl _

theorem length_skipLine_lt
    {c : Cursor}
    (hBreak : c.atBreak = true) :
    c.skipLine.rest.length < c.rest.length := by
  cases hRest : c.rest with
  | nil => simp [atBreak, hRest] at hBreak
  | cons x rest => simp [hRest]

theorem length_le_of_endLine?
    {c next : Cursor}
    (hEnd : c.endLine? = some next) :
    next.rest.length ≤ c.rest.length := by
  have hBlanks := length_skipWhile_le c isBlank
  have hComment :=
    length_skipComment_le (c.skipWhile isBlank)
  unfold endLine? skipBlanks at hEnd
  simp only at hEnd
  split at hEnd
  · rename_i hBreak
    have hLine := length_skipLine_lt hBreak
    cases hEnd
    omega
  · split at hEnd <;> cases hEnd
    omega

------------------------------------------------------------
-- Between Tokens
------------------------------------------------------------

/- Skip a byte order mark at the start of a line. -/
def skipByteOrderMark (c : Cursor) : Cursor :=
  if c.mark.column = 0 ∧
      c.rest.head? = some byteOrderMark then
    c.skip 1
  else c

/-
  Skip blanks and a comment within a line.  Tabs are blanks
  only where no key can begin.
-/
def skipGap
    (tabs : Bool)
    (c : Cursor) : Cursor :=
  (c.skipByteOrderMark.skipWhile fun x =>
    x == ' ' || tabs && x == '\t').skipComment

theorem length_skipGap_le
    (tabs : Bool)
    (c : Cursor) :
    (c.skipGap tabs).rest.length ≤ c.rest.length := by
  refine Nat.le_trans (length_skipComment_le _) ?_
  refine Nat.le_trans (length_skipWhile_le _ _) ?_
  unfold skipByteOrderMark
  split <;> simp

/-
  Skip to the next token, and tell whether a key may begin
  there.  Outside of flow collections a new line lets one
  begin.
-/
def toToken
    (flow keyAllowed : Bool)
    (c : Cursor) : Bool × Cursor :=
  let next := c.skipGap (flow || !keyAllowed)
  if _hBreak : next.atBreak then
    toToken flow (keyAllowed || !flow) next.skipLine
  else (keyAllowed, next)
termination_by c.rest.length
decreasing_by
  exact Nat.lt_of_lt_of_le (length_skipLine_lt _hBreak)
    (length_skipGap_le _ c)

theorem length_toToken_le
    (flow keyAllowed : Bool)
    (c : Cursor) :
    (c.toToken flow keyAllowed).2.rest.length ≤
      c.rest.length := by
  fun_induction toToken flow keyAllowed c with
  | case1 keyAllowed c next hBreak ih =>
      have hLine := length_skipLine_lt hBreak
      have hGap : next.rest.length ≤ c.rest.length :=
        length_skipGap_le (flow || !keyAllowed) c
      omega
  | case2 keyAllowed c =>
      exact length_skipGap_le (flow || !keyAllowed) c

/-
  A document marker is next: three dashes or three points at
  the start of a line, before a gap.
-/
def atDocumentMarker (c : Cursor) : Bool :=
  c.mark.column == 0 &&
    match c.rest with
    | '-' :: '-' :: '-' :: rest => atGap rest
    | '.' :: '.' :: '.' :: rest => atGap rest
    | _ => false

end Cursor

end Yaml

end FactLayout
