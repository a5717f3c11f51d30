import FactLayout.Proofs.Template.Lexeme
import Mathlib.Data.List.Chain

/-
  Templates as lists of items.

  An item is a token whose body has been understood.  Every
  text reads as a well-formed list of items and is written
  back from it, and every well-formed list is read back from
  what it is written as.

  Key definitions include:
    * `Item`
    * `Item.WellFormed`
    * `Item.read`
    * `Item.print`

  Main results:
    * `Item.wellFormed_read`
    * `Item.print_read`
    * `Item.read_print`
    * `Item.read_print_inverse`
-/

------------------------------------------------------------
-- Items
------------------------------------------------------------

namespace FactLayout

/-
  A run of literal text, a doubled brace, an empty
  placeholder, a lone brace at the end of the template, or a
  directive.
-/
inductive Item where
| literal (text : List Char)
| brace
| auto
| lone
| directive (directive : Directive) (closed : Bool)
deriving DecidableEq, Repr

/-
  A directive whose parts can be told apart once it is
  written: no part is empty or closes the placeholder, and a
  reference does not read as any other directive.
-/
def Directive.IsSound : Directive → Prop
| .stop => True
| .close _ => True
| .guard reference _ => reference ≠ [] ∧ '}' ∉ reference
| .color code => code ≠ [] ∧ '}' ∉ code
| .argument reference =>
    reference ≠ [] ∧ '}' ∉ reference ∧
      reference ≠ ['-'] ∧
      reference.head? ∉
        [some '{', some '?', some '/', some '#']

instance (d : Directive) : Decidable d.IsSound := by
  cases d <;> unfold Directive.IsSound <;> infer_instance

namespace Item

/- A token with its body understood. -/
def ofToken : Token → Item
| .literal text => literal text
| .brace => brace
| .empty true => auto
| .empty false => lone
| .placeholder body closed =>
    directive (Directive.ofBody body) closed

/- The template text of an item. -/
def source : Item → List Char
| literal text => text
| brace => ['{', '{']
| auto => ['{', '}']
| lone => ['{']
| directive d closed => echo d.body closed

/- Only the end of the template leaves an item open. -/
def isClosed : Item → Bool
| lone => false
| directive _ closed => closed
| _ => true

/- Tell runs of literal text from all else. -/
def isLiteral : Item → Bool
| literal _ => true
| _ => false

/- An item that can be told from what it is written as. -/
def IsSound : Item → Prop
| literal text => text ≠ [] ∧ '{' ∉ text
| directive d _ => d.IsSound
| _ => True

instance (item : Item) : Decidable item.IsSound := by
  cases item <;> unfold IsSound <;> infer_instance

/-
  An open item is the last one, and runs of literal text are
  never adjacent.
-/
def CanPrecede
    (item next : Item) : Prop :=
  item.isClosed = true ∧
    ¬ (item.isLiteral = true ∧ next.isLiteral = true)

instance (item next : Item) :
    Decidable (item.CanPrecede next) := by
  unfold CanPrecede
  infer_instance

/- A list of items that stands for a template. -/
def WellFormed (items : List Item) : Prop :=
  (∀ item ∈ items, item.IsSound) ∧
    items.IsChain CanPrecede

instance (items : List Item) :
    Decidable (WellFormed items) := by
  unfold WellFormed
  infer_instance

/- Read a template as items. -/
def read (text : List Char) : List Item :=
  (Scanner.tokens text).map ofToken

/- Write items one behind the other. -/
def print (items : List Item) : List Char :=
  items.flatMap source

end Item

------------------------------------------------------------
-- Directives and Bodies
------------------------------------------------------------

namespace Directive

/- A sound directive is read from its body. -/
theorem ofBody_body
    {d : Directive}
    (hSound : d.IsSound) :
    ofBody d.body = d := by
  cases d with
  | stop => rfl
  | close b => cases b <;> rfl
  | guard reference negated =>
      rcases hSound with ⟨hNonempty, -⟩
      cases reference with
      | nil => exact absurd rfl hNonempty
      | cons c tail => cases negated <;> rfl
  | color code =>
      rcases hSound with ⟨hNonempty, -⟩
      cases code with
      | nil => exact absurd rfl hNonempty
      | cons c tail => rfl
  | argument reference =>
      rcases hSound with ⟨-, -, hStop, hHead⟩
      unfold body ofBody
      split <;> simp_all

/- A body that stands in a template reads soundly. -/
theorem isSound_ofBody
    {text : List Char}
    (hNonempty : text ≠ [])
    (hBody : '}' ∉ text)
    (hHead : text.head? ≠ some '{') :
    (ofBody text).IsSound := by
  unfold ofBody
  split
  case h_8 hStop _ _ _ hSet hUnset hColor =>
    refine ⟨hNonempty, hBody, hStop, ?_⟩
    intro hFirst
    cases text with
    | nil => exact hNonempty rfl
    | cons c tail =>
        simp only [List.head?_cons, List.mem_cons,
          Option.some.injEq, List.not_mem_nil,
          or_false] at hFirst
        rcases hFirst with rfl | rfl | rfl | rfl
        · exact hHead rfl
        · exact hSet tail rfl
        · exact hUnset tail rfl
        · exact hColor tail rfl
  all_goals simp_all [IsSound]

/- The body of a sound directive stands in a template. -/
theorem isLexeme_body
    {d : Directive}
    (hSound : d.IsSound)
    (closed : Bool) :
    (Token.placeholder d.body closed).IsLexeme := by
  cases d with
  | stop => exact ⟨by decide, by decide, by decide⟩
  | close b =>
      cases b <;> exact ⟨by decide, by decide, by decide⟩
  | guard reference negated =>
      rcases hSound with ⟨-, hBody⟩
      cases negated <;>
        simp [Token.IsLexeme, body, hBody]
  | color code =>
      rcases hSound with ⟨-, hBody⟩
      simp [Token.IsLexeme, body, hBody]
  | argument reference =>
      rcases hSound with ⟨hNonempty, hBody, -, hHead⟩
      refine ⟨hNonempty, hBody, ?_⟩
      intro (hBrace : reference.head? = some '{')
      exact hHead (by simp [hBrace])

end Directive

------------------------------------------------------------
-- Items and Tokens
------------------------------------------------------------

namespace Item

/- The token that an item is. -/
def token : Item → Token
| literal text => .literal text
| brace => .brace
| auto => .empty true
| lone => .empty false
| directive d closed => .placeholder d.body closed

@[simp]
theorem source_token
    (item : Item) :
    item.token.source = item.source := by
  cases item <;> rfl

@[simp]
theorem isClosed_token
    (item : Item) :
    item.token.isClosed = item.isClosed := by
  cases item <;> rfl

@[simp]
theorem isLiteral_token
    (item : Item) :
    item.token.isLiteral = item.isLiteral := by
  cases item <;> rfl

/- Understanding a body loses none of its text. -/
@[simp]
theorem token_ofToken
    (t : Token) :
    (ofToken t).token = t := by
  cases t with
  | literal text => rfl
  | brace => rfl
  | empty closed => cases closed <;> rfl
  | placeholder body closed =>
      simp [ofToken, token]

/- A sound item is told from its token. -/
theorem ofToken_token
    {item : Item}
    (hSound : item.IsSound) :
    ofToken item.token = item := by
  cases item with
  | directive d closed =>
      simp only [token, ofToken]
      rw [Directive.ofBody_body hSound]
  | literal text => rfl
  | brace => rfl
  | auto => rfl
  | lone => rfl

/- Lexemes are sound items. -/
theorem isSound_ofToken
    {t : Token}
    (hLexeme : t.IsLexeme) :
    (ofToken t).IsSound := by
  cases t with
  | literal text => exact hLexeme
  | brace => trivial
  | empty closed => cases closed <;> trivial
  | placeholder body closed =>
      rcases hLexeme with ⟨hNonempty, hBody, hHead⟩
      exact Directive.isSound_ofBody hNonempty hBody hHead

/- Sound items are lexemes. -/
theorem isLexeme_token
    {item : Item}
    (hSound : item.IsSound) :
    item.token.IsLexeme := by
  cases item with
  | literal text => exact hSound
  | directive d closed =>
      exact Directive.isLexeme_body hSound closed
  | brace => trivial
  | auto => trivial
  | lone => trivial

/- Literal text is all that can begin without a brace. -/
theorem eq_brace_of_mem_head?_source
    {item : Item}
    (hLiteral : item.isLiteral = false)
    {c : Char}
    (hHead : c ∈ item.source.head?) :
    c = '{' := by
  cases item with
  | literal text => cases hLiteral
  | brace => simpa [source, eq_comm] using hHead
  | auto => simpa [source, eq_comm] using hHead
  | lone => simpa [source, eq_comm] using hHead
  | directive d closed =>
      simpa [source, echo, eq_comm] using hHead

/- Literal text that is sound begins without a brace. -/
theorem isLiteral_eq_false_of_head?
    {item : Item}
    (hSound : item.IsSound)
    (hHead : item.source.head? = some '{') :
    item.isLiteral = false := by
  cases item with
  | literal text =>
      rcases hSound with ⟨-, hText⟩
      exact absurd (List.mem_of_head? hHead) hText
  | brace => rfl
  | auto => rfl
  | lone => rfl
  | directive d closed => rfl

end Item

------------------------------------------------------------
-- Reading and Writing
------------------------------------------------------------

namespace Item

@[simp]
theorem read_nil : read [] = [] := by
  simp [read]

@[simp]
theorem print_cons
    (item : Item)
    (items : List Item) :
    print (item :: items) = item.source ++ print items := rfl

/- Only a list without items is written as no text. -/
theorem source_ne_nil
    {item : Item}
    (hSound : item.IsSound) :
    item.source ≠ [] := by
  cases item with
  | literal text => exact hSound.1
  | brace => simp [source]
  | auto => simp [source]
  | lone => simp [source]
  | directive d closed => simp [source, echo]

/- The items of a text are the first one and the rest. -/
theorem read_of_next?
    {text rest : List Char}
    {t : Token}
    (hNext : Scanner.next? text = some (t, rest)) :
    read text = ofToken t :: read rest := by
  unfold read
  rw [Scanner.tokens_of_next? hNext]
  rfl

/- The item that comes next may stand where it stands. -/
theorem canPrecede_of_next?
    {text rest : List Char}
    {t : Token}
    (hNext : Scanner.next? text = some (t, rest)) :
    ∀ item ∈ (read rest).head?,
      (ofToken t).CanPrecede item := by
  intro item hItem
  rcases (Scanner.isLexeme_of_next? hNext).2 with
    ⟨hOpen, hLiteral⟩
  cases hRest : Scanner.next? rest with
  | none =>
      rw [Scanner.next?_eq_none_iff.mp hRest] at hItem
      simp at hItem
  | some step =>
      rcases step with ⟨t', rest'⟩
      rw [read_of_next? hRest] at hItem
      simp only [List.head?_cons, Option.mem_def,
        Option.some.injEq] at hItem
      subst hItem
      have hSound :=
        isSound_ofToken (Scanner.isLexeme_of_next? hRest).1
      have hSource := Scanner.source_append_of_next? hRest
      rw [← token_ofToken t] at hOpen hLiteral
      rw [← token_ofToken t', source_token] at hSource
      rw [isClosed_token] at hOpen
      rw [isLiteral_token] at hLiteral
      constructor
      · cases hClosed : (ofToken t).isClosed with
        | true => rfl
        | false =>
            rw [hOpen hClosed] at hSource
            exact absurd
              (List.append_eq_nil_iff.mp hSource).1
              (source_ne_nil hSound)
      · rintro ⟨hFirst, hSecond⟩
        have hHead : (ofToken t').source.head? = some '{' := by
          cases hText : (ofToken t').source with
          | nil => exact absurd hText (source_ne_nil hSound)
          | cons c tail =>
              rw [hText, List.cons_append] at hSource
              rw [List.head?_cons,
                hLiteral hFirst c (by simp [← hSource])]
        rw [isLiteral_eq_false_of_head? hSound hHead]
          at hSecond
        cases hSecond

/- Every text reads as a well-formed list of items. -/
theorem wellFormed_read
    (text : List Char) :
    WellFormed (read text) := by
  induction text using Scanner.tokens.induct with
  | case1 text hNone =>
      rw [Scanner.next?_eq_none_iff.mp hNone]
      simp [WellFormed]
  | case2 text t rest hNext ih =>
      rcases ih with ⟨hSound, hChain⟩
      rw [read_of_next? hNext]
      constructor
      · intro item hItem
        rcases List.mem_cons.mp hItem with rfl | hItem
        · exact isSound_ofToken
            (Scanner.isLexeme_of_next? hNext).1
        · exact hSound item hItem
      · exact List.isChain_cons.mpr
          ⟨canPrecede_of_next? hNext, hChain⟩

/- Every text is written back from its items. -/
theorem print_read
    (text : List Char) :
    print (read text) = text := by
  induction text using Scanner.tokens.induct with
  | case1 text hNone =>
      rw [Scanner.next?_eq_none_iff.mp hNone]
      simp [print]
  | case2 text t rest hNext ih =>
      rw [read_of_next? hNext, print_cons, ih,
        ← source_token, token_ofToken]
      exact Scanner.source_append_of_next? hNext

/- A written item is taken off in front of what follows. -/
theorem next?_print_cons
    {item : Item}
    {items : List Item}
    (hFormed : WellFormed (item :: items)) :
    Scanner.next? (print (item :: items)) =
      some (item.token, print items) := by
  rcases hFormed with ⟨hSound, hChain⟩
  have hNext := (List.isChain_cons.mp hChain).1
  have hItem := hSound item (by simp)
  rw [print_cons, ← source_token]
  apply Scanner.next?_source_append
  · exact isLexeme_token hItem
  · cases items with
    | nil => simp [Token.CanPrecede, print]
    | cons next tail =>
        rcases hNext next rfl with ⟨hClosed, hLiteral⟩
        constructor
        · intro hOpen
          rw [isClosed_token, hClosed] at hOpen
          cases hOpen
        · intro hFirst c hc
          rw [isLiteral_token] at hFirst
          have hSecond : next.isLiteral = false := by
            cases hKind : next.isLiteral with
            | false => rfl
            | true => exact absurd ⟨hFirst, hKind⟩ hLiteral
          have hSource :=
            source_ne_nil (hSound next (by simp))
          apply eq_brace_of_mem_head?_source hSecond
          rw [print_cons, List.head?_append] at hc
          cases hText : next.source with
          | nil => exact absurd hText hSource
          | cons d rest =>
              rw [hText] at hc
              exact hc

/- A well-formed list is read back from its text. -/
theorem read_print
    {items : List Item}
    (hFormed : WellFormed items) :
    read (print items) = items := by
  induction items with
  | nil => simp [print]
  | cons item items ih =>
      have hRest : WellFormed items :=
        ⟨fun next hNext =>
          hFormed.1 next (List.mem_cons_of_mem _ hNext),
          (List.isChain_cons.mp hFormed.2).2⟩
      rw [read_of_next? (next?_print_cons hFormed),
        ofToken_token (hFormed.1 item (by simp)), ih hRest]

/-
  Templates and well-formed lists of items stand for each
  other.
-/
theorem read_print_inverse :
    (∀ text : List Char,
      WellFormed (read text) ∧ print (read text) = text) ∧
      ∀ items : List Item,
        WellFormed items → read (print items) = items := by
  constructor
  · intro text
    exact ⟨wellFormed_read text, print_read text⟩
  · intro items hFormed
    exact read_print hFormed

/-
  Braces next to literal text, a brace in a reference, and a
  placeholder that the template cuts off.
-/
theorem read_print_adjacent_braces :
    WellFormed
      [.brace, .literal ['}', 'a'],
        .directive (.guard ['{', '1'] false) true,
        .auto, .directive (.argument ['-', '1']) false] ∧
    read (print
      [.brace, .literal ['}', 'a'],
        .directive (.guard ['{', '1'] false) true,
        .auto, .directive (.argument ['-', '1']) false]) =
      [.brace, .literal ['}', 'a'],
        .directive (.guard ['{', '1'] false) true,
        .auto, .directive (.argument ['-', '1']) false] := by
  have hFormed :
      WellFormed
        [.brace, .literal ['}', 'a'],
          .directive (.guard ['{', '1'] false) true,
          .auto, .directive (.argument ['-', '1']) false] := by
    decide
  exact ⟨hFormed, read_print_inverse.2 _ hFormed⟩

end Item

end FactLayout
