import FactLayout.Proofs.Render.Diagnostics
import FactLayout.Proofs.Render.Turns
import FactLayout.Proofs.Template.Reference

/-
  Numbers in place of empty placeholders.

  The empty placeholders of a template can be given their
  numbers.  The numbered template has the same tokens apart
  from that.  As long as nothing is skipped and there are
  cells enough, it is rendered to the same output, with the
  same records.

  Key definitions include:
    * `Token.numbered`
    * `Token.number`
    * `numberPlaceholders`
    * `Token.isNumberedGuard`

  Main results:
    * `Scanner.next?_numberText`
    * `Scanner.tokens_numberText`
    * `Render.run_numberText`
    * `Render.render_numberPlaceholders`
-/

------------------------------------------------------------
-- Numbered Tokens
------------------------------------------------------------

namespace FactLayout

namespace Token

/-
  An empty placeholder refers to the argument behind a number
  of others; any other token is as it was.
-/
def numbered
    (drawn : Nat) : Token → Token
| empty _ => placeholder (Nat.toDigits 10 (drawn + 1)) true
| token => token

/- Number the empty placeholders among tokens in order. -/
def number : Nat → List Token → List Token
| _, [] => []
| drawn, token :: rest =>
    token.numbered drawn ::
      number (drawn + if token.isEmpty then 1 else 0) rest

/- How many empty placeholders are among tokens. -/
def countEmpty (tokens : List Token) : Nat :=
  tokens.countP isEmpty

/-
  A token that opens a block on the condition of an argument,
  which it refers to by number.
-/
def isNumberedGuard : Token → Bool
| placeholder body _ =>
    match Directive.ofBody body with
    | .guard reference _ =>
        (Reference.position? reference).isSome
    | _ => false
| _ => false

end Token

/- The text of a template with numbered placeholders. -/
def Scanner.numberText
    (drawn : Nat)
    (text : List Char) : List Char :=
  (Token.number drawn (tokens text)).flatMap Token.source

/- Give the empty placeholders of a template numbers. -/
def numberPlaceholders (template : String) : String :=
  String.ofList (Scanner.numberText 0 template.toList)

------------------------------------------------------------
-- Tokens of Numbered Templates
------------------------------------------------------------

namespace Token

theorem numbered_of_isEmpty_eq_false
    {token : Token}
    (hOther : token.isEmpty = false)
    (drawn : Nat) :
    token.numbered drawn = token := by
  cases token with
  | empty closed => cases hOther
  | literal text => rfl
  | brace => rfl
  | placeholder body closed => rfl

/- Numbering makes lexemes of lexemes. -/
theorem isLexeme_numbered
    {token : Token}
    (hLexeme : token.IsLexeme)
    (drawn : Nat) :
    (token.numbered drawn).IsLexeme := by
  cases token with
  | empty closed =>
      exact Directive.isLexeme_body
        (Reference.isSound_toDigits (drawn + 1)) true
  | literal text => exact hLexeme
  | brace => exact hLexeme
  | placeholder body closed => exact hLexeme

/- All but literal text begins with an opening brace. -/
theorem head?_source_numbered
    {token : Token}
    (hLiteral : token.isLiteral = false)
    (drawn : Nat) :
    (token.numbered drawn).source.head? = some '{' := by
  cases token with
  | literal text => cases hLiteral
  | empty closed => rfl
  | brace => rfl
  | placeholder body closed => rfl

end Token

namespace Scanner

@[simp]
theorem numberText_nil
    (drawn : Nat) :
    numberText drawn [] = [] := by
  rw [numberText, tokens_nil]
  rfl

theorem numberText_of_next?
    {text rest : List Char}
    {token : Token}
    (hNext : next? text = some (token, rest))
    (drawn : Nat) :
    numberText drawn text =
      (token.numbered drawn).source ++
        numberText (drawn + if token.isEmpty then 1 else 0)
          rest := by
  unfold numberText
  rw [tokens_of_next? hNext, Token.number, List.flatMap_cons]

/- What begins with a brace does not begin with a run. -/
theorem isLiteral_eq_false_of_next?
    {text rest : List Char}
    {token : Token}
    (hNext : next? text = some (token, rest))
    (hText : ∀ c ∈ text.head?, c = '{') :
    token.isLiteral = false := by
  cases token with
  | literal run =>
      rcases (isLexeme_of_next? hNext).1 with
        ⟨hNonempty, hRun⟩
      have hSource := source_append_of_next? hNext
      cases run with
      | nil => exact absurd rfl hNonempty
      | cons c run =>
          rw [← hSource] at hText
          rw [hText c rfl] at hRun
          exact absurd List.mem_cons_self hRun
  | brace => rfl
  | empty closed => rfl
  | placeholder body closed => rfl

/- What begins with a brace still does. -/
theorem eq_brace_of_mem_head?_numberText
    {text : List Char}
    (hText : ∀ c ∈ text.head?, c = '{')
    (drawn : Nat) :
    ∀ c ∈ (numberText drawn text).head?, c = '{' := by
  intro c hHead
  cases hNext : next? text with
  | none =>
      rw [next?_eq_none_iff.mp hNext, numberText_nil] at hHead
      cases hHead
  | some taken =>
      have hLiteral := isLiteral_eq_false_of_next? hNext hText
      rw [numberText_of_next? hNext, List.head?_append,
        Token.head?_source_numbered hLiteral] at hHead
      exact (Option.some.inj hHead).symm

/- The numbered token is taken off the numbered text. -/
theorem next?_numberText
    {text rest : List Char}
    {token : Token}
    (hNext : next? text = some (token, rest))
    (drawn : Nat) :
    next? (numberText drawn text) =
      some (token.numbered drawn,
        numberText (drawn + if token.isEmpty then 1 else 0)
          rest) := by
  rcases isLexeme_of_next? hNext with ⟨hLexeme, hOpen, hLiteral⟩
  rw [numberText_of_next? hNext]
  apply next?_source_append
    (Token.isLexeme_numbered hLexeme drawn)
  cases token with
  | empty closed =>
      constructor
      · intro hClosed
        cases hClosed
      · intro hRun
        cases hRun
  | literal run =>
      constructor
      · intro hClosed
        cases hClosed
      · intro _
        exact eq_brace_of_mem_head?_numberText
          (hLiteral rfl) _
  | brace =>
      constructor
      · intro hClosed
        cases hClosed
      · intro hRun
        cases hRun
  | placeholder body closed =>
      constructor
      · intro hClosed
        rw [hOpen hClosed, numberText_nil]
      · intro hRun
        cases hRun

/- The tokens of the numbered text are numbered tokens. -/
theorem tokens_numberText
    (drawn : Nat)
    (text : List Char) :
    tokens (numberText drawn text) =
      Token.number drawn (tokens text) := by
  induction text using tokens.induct generalizing drawn with
  | case1 text hNone =>
      rw [next?_eq_none_iff.mp hNone, numberText_nil,
        tokens_nil]
      rfl
  | case2 text token rest hNext ih =>
      rw [tokens_of_next? (next?_numberText hNext drawn), ih,
        tokens_of_next? hNext, Token.number]

end Scanner

namespace Render

------------------------------------------------------------
-- Visits in Front of Other Text
------------------------------------------------------------

namespace Visit

/- A visit with other text behind it. -/
def inFrontOf
    (rest : List Char)
    (v : Visit) : Visit :=
  { v with unread := rest }

section

variable {v : Visit}

/- Without numbered guards nothing is skipped. -/
theorem move_ne_skip
    (cells : List Cell)
    (hGuard : v.token.isNumberedGuard = false)
    (block : Block) :
    v.move cells ≠ .skip block := by
  intro hSkip
  rcases v with ⟨token, unread, tracker⟩
  cases token with
  | placeholder body closed =>
      rcases directiveMove_eq_skip_iff.mp hSkip with
        ⟨reference, negated, cell, hDirective, hCell, -, -⟩
      rcases Option.bind_eq_some_iff.mp hCell with
        ⟨position, hPosition, -⟩
      simp [Token.isNumberedGuard, hDirective, hPosition]
        at hGuard
  | literal text => cases hSkip
  | brace => cases hSkip
  | empty closed => cases hSkip

/- What does not skip goes on with the text behind it. -/
theorem next?_inFrontOf
    (cells : List Cell)
    (hGuard : v.token.isNumberedGuard = false)
    (rest : List Char) :
    (v.inFrontOf rest).next? cells =
      (v.next? cells).map fun left => (rest, left.2) := by
  have hMove :
      (v.inFrontOf rest).move cells = v.move cells := rfl
  have hSkip := move_ne_skip cells hGuard
  unfold next?
  rw [hMove]
  cases hCase : v.move cells with
  | skip block => exact absurd hCase (hSkip block)
  | stay => rfl
  | advance => rfl
  | enter block => rfl
  | leave block => rfl
  | stop => rfl

theorem unread_of_next?
    {cells : List Cell}
    {rest : List Char}
    {tracker' : Tracker}
    (hGuard : v.token.isNumberedGuard = false)
    (hNext : v.next? cells = some (rest, tracker')) :
    rest = v.unread := by
  have hSame := next?_inFrontOf cells hGuard v.unread
  have hSelf : v.inFrontOf v.unread = v := rfl
  rw [hSelf, hNext] at hSame
  exact (Prod.mk.inj (Option.some.inj hSame)).1

/- It makes the same of a sink, too. -/
theorem act_inFrontOf
    (cells : List Cell)
    (hGuard : v.token.isNumberedGuard = false)
    (rest : List Char)
    (sink : Sink) :
    (v.inFrontOf rest).act cells sink = v.act cells sink := by
  have hSkip := move_ne_skip cells hGuard
  have hRecords : ∀ unread,
      (v.inFrontOf unread).records cells = [] := by
    intro unread
    unfold records
    split
    · rename_i hMove
      exact absurd hMove (hSkip _)
    · rfl
  have hNone : v.records cells = [] := hRecords v.unread
  unfold act
  rw [hRecords rest, hNone]
  rfl

/-
  Any visit but one of an empty placeholder is the same at
  another position in front of another text.
-/
theorem next?_shift_inFrontOf
    (cells : List Cell)
    (hGuard : v.token.isNumberedGuard = false)
    (hOther : v.isEmpty = false)
    (position : Nat)
    (rest : List Char) :
    ((v.shift (Tracker.withPosition position)).inFrontOf
        rest).next? cells =
      (v.next? cells).map fun left =>
        (rest, left.2.withPosition position) := by
  rw [next?_inFrontOf
    (v := v.shift (Tracker.withPosition position)) cells
    hGuard, inStep_withPosition hOther position,
    Option.map_map]
  rfl

theorem act_shift_inFrontOf
    (cells : List Cell)
    (hGuard : v.token.isNumberedGuard = false)
    (hOther : v.isEmpty = false)
    (position : Nat)
    (rest : List Char)
    (sink : Sink) :
    ((v.shift (Tracker.withPosition position)).inFrontOf
        rest).act cells sink =
      v.act cells sink := by
  rw [act_inFrontOf
    (v := v.shift (Tracker.withPosition position)) cells
    hGuard, act_withPosition hOther position]

end

end Visit

------------------------------------------------------------
-- Runs of Numbered Templates
------------------------------------------------------------

section

variable {cells : List Cell}
variable {text unread rest : List Char}
variable {tracker tracker' : Tracker}
variable {token : Token}

/- A number draws what an empty placeholder draws. -/
theorem run_number
    (hCell : tracker.position < cells.length)
    (hWord : tracker.position < Reference.maxNumber)
    (hNext :
      Scanner.next? text =
        some (.placeholder
          (Nat.toDigits 10 (tracker.position + 1)) true, rest))
    (closed : Bool)
    (position : Nat)
    (sink : Sink) :
    run cells text (tracker.withPosition position) sink =
      run cells rest (tracker.withPosition position)
        (Visit.act cells ⟨.empty closed, unread, tracker⟩
          sink) := by
  have hDirective :
      Directive.ofBody
          (Nat.toDigits 10 (tracker.position + 1)) =
        .argument (Nat.toDigits 10 (tracker.position + 1)) :=
    Directive.ofBody_body (Reference.isSound_toDigits _)
  have hMore :
      Visit.next? cells
          ⟨.placeholder
            (Nat.toDigits 10 (tracker.position + 1)) true,
            rest, tracker.withPosition position⟩ =
        some (rest, tracker.withPosition position) := by
    simp only [Visit.next?, Visit.move, hDirective]
    rfl
  rw [run_of_more hNext hMore]
  congr 1
  simp only [Visit.act, Visit.records, Visit.segments,
    Visit.move, hDirective, Visit.directiveMove,
    Visit.directiveSegments,
    Reference.position?_toDigits hWord, Visit.drawn,
    if_pos hCell]

/-
  With cells enough, and without numbered guards, a numbered
  text makes of a sink what the text makes of it, wherever
  its tracker is.
-/
theorem run_numberText
    (hGuards :
      ∀ token ∈ Scanner.tokens text,
        token.isNumberedGuard = false)
    (hCells :
      tracker.position +
          Token.countEmpty (Scanner.tokens text) ≤
        cells.length)
    (hWord :
      tracker.position +
          Token.countEmpty (Scanner.tokens text) ≤
        Reference.maxNumber)
    (position : Nat)
    (sink : Sink) :
    run cells (Scanner.numberText tracker.position text)
        (tracker.withPosition position) sink =
      ((run cells text tracker sink).1.withPosition position,
        (run cells text tracker sink).2) := by
  induction text, tracker using run_induction cells
    generalizing sink with
  | nil tracker => simp
  | stop text tracker token unread hNext hStop =>
      rw [Scanner.tokens_of_next? hNext] at hGuards
      have hGuard := hGuards token List.mem_cons_self
      have hOther : token.isEmpty = false :=
        Visit.isEmpty_of_next?_eq_none hStop
      have hNumbered :=
        Scanner.next?_numberText hNext tracker.position
      rw [Token.numbered_of_isEmpty_eq_false hOther]
        at hNumbered
      have hMoved :=
        Visit.next?_shift_inFrontOf cells
          (v := ⟨token, unread, tracker⟩) hGuard hOther
          position
      rw [hStop] at hMoved
      rw [run_of_stop hNext hStop]
      refine (run_of_stop hNumbered (hMoved _) sink).trans ?_
      congr 1
      exact Visit.act_shift_inFrontOf cells
        (v := ⟨token, unread, tracker⟩) hGuard hOther position
        _ sink
  | more text tracker token unread rest tracker' hNext
      hMore ih =>
      rw [Scanner.tokens_of_next? hNext] at hGuards hCells hWord
      have hGuard := hGuards token List.mem_cons_self
      have hLater : ∀ later ∈ Scanner.tokens unread,
          later.isNumberedGuard = false :=
        fun later hMember =>
          hGuards later (List.mem_cons_of_mem _ hMember)
      have hRest : rest = unread :=
        Visit.unread_of_next?
          (v := ⟨token, unread, tracker⟩) hGuard hMore
      have hNumbered :=
        Scanner.next?_numberText hNext tracker.position
      have hPosition :
          tracker'.position =
            tracker.position +
              if token.isEmpty then 1 else 0 :=
        Visit.position_of_next? hMore
      subst hRest
      rw [Token.countEmpty, List.countP_cons,
        Nat.add_comm (List.countP _ _), ← Nat.add_assoc,
        ← hPosition] at hCells hWord
      rw [← hPosition] at hNumbered
      have hRun := ih hLater hCells hWord
      rw [run_of_more hNext hMore, ← hRun]
      cases hEmpty : token.isEmpty with
      | true =>
          rcases Token.eq_empty_of_isEmpty hEmpty with
            ⟨closed, rfl⟩
          cases hMore
          exact run_number (Nat.le_of_add_right_le hCells)
            (Nat.le_of_add_right_le hWord) hNumbered
            closed position sink
      | false =>
          rw [Token.numbered_of_isEmpty_eq_false hEmpty]
            at hNumbered
          have hMoved :=
            Visit.next?_shift_inFrontOf cells
              (v := ⟨token, rest, tracker⟩) hGuard hEmpty
              position
              (Scanner.numberText tracker'.position rest)
          rw [hMore] at hMoved
          rw [← Visit.act_shift_inFrontOf cells
            (v := ⟨token, rest, tracker⟩) hGuard hEmpty
            position
            (Scanner.numberText tracker'.position rest)]
          exact run_of_more hNumbered hMoved sink

end

------------------------------------------------------------
-- Numbered Templates
------------------------------------------------------------

/-
  A template without numbered guards, and with no more empty
  placeholders than there are cells, means the same with
  numbers in place of them.  Its tokens are the same, too,
  apart from the numbers.
-/
theorem render_numberPlaceholders
    (template : String)
    (cells : List Cell)
    (hGuards :
      ∀ token ∈ Scanner.tokens template.toList,
        token.isNumberedGuard = false)
    (hCells :
      Token.countEmpty (Scanner.tokens template.toList) ≤
        cells.length)
    (hWord :
      Token.countEmpty (Scanner.tokens template.toList) <
        UInt32.size) :
    Scanner.tokens (numberPlaceholders template).toList =
        Token.number 0 (Scanner.tokens template.toList) ∧
      render (numberPlaceholders template) cells =
        render template cells := by
  have hFresh :
      Tracker.fresh.withPosition 0 = Tracker.fresh := rfl
  have hText :
      (numberPlaceholders template).toList =
        Scanner.numberText 0 template.toList :=
    String.toList_ofList
  have hStart :
      Tracker.fresh.position +
          Token.countEmpty
            (Scanner.tokens template.toList) =
        Token.countEmpty
          (Scanner.tokens template.toList) :=
    Nat.zero_add _
  rw [hText]
  refine ⟨Scanner.tokens_numberText 0 _, ?_⟩
  have hRun :
      run cells (Scanner.numberText 0 template.toList)
          (Tracker.fresh.withPosition 0) {} =
        _ :=
    run_numberText hGuards (hStart.trans_le hCells)
      (hStart.trans_le (Nat.le_of_lt_succ hWord)) 0 {}
  rw [hFresh] at hRun
  unfold render renderInto
  rw [hText]
  exact congrArg (fun left => left.2.reset) hRun

/-
  Doubled braces, a style, a guard without a number, a number
  that is given, and a lone brace at the end.
-/
theorem render_numberPlaceholders_lone_brace :
    let template :=
      "\x7b\x7b\x7d\x7b\x7d\x7b#31\x7d\x7b\x7d\x7b#\x7d\x7b?a\x7d\x7b2\x7db\x7b"
    let cells : List Cell :=
      [.unsupported "a", .string "\x7b\x7d", .null]
    (∀ token ∈ Scanner.tokens template.toList,
        token.isNumberedGuard = false) ∧
      Token.countEmpty (Scanner.tokens template.toList) =
        cells.length ∧
      numberPlaceholders template =
        "\x7b\x7b\x7d\x7b1\x7d\x7b#31\x7d\x7b2\x7d\x7b#\x7d\x7b?a\x7d\x7b2\x7db\x7b3\x7d" ∧
      render (numberPlaceholders template) cells =
        render template cells := by
  intro template cells
  have hGuards :
      ∀ token ∈ Scanner.tokens template.toList,
        token.isNumberedGuard = false := by
    decide +kernel
  have hCount :
      Token.countEmpty (Scanner.tokens template.toList) =
        cells.length := by
    decide +kernel
  have hText :
      numberPlaceholders template =
        "\x7b\x7b\x7d\x7b1\x7d\x7b#31\x7d\x7b2\x7d\x7b#\x7d\x7b?a\x7d\x7b2\x7db\x7b3\x7d" := by
    decide +kernel
  have hWord :
      Token.countEmpty (Scanner.tokens template.toList) <
        UInt32.size := by
    rw [hCount]
    decide
  exact ⟨hGuards, hCount, hText,
    (render_numberPlaceholders template cells hGuards
      hCount.le hWord).2⟩

end Render

end FactLayout
