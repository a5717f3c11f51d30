import FactLayout.Proofs.Text.Trim
import FactLayout.Template.Scanner

/-
  Which token the scanner takes off which text.

  A token is taken off exactly the texts that begin with its
  source, if the source can stand in a template and what is
  behind it does not belong to the token.

  Key definitions include:
    * `Token.IsLexeme`
    * `Token.CanPrecede`

  Main results:
    * `Scanner.next?_eq_none_iff`
    * `Scanner.next?_eq_some_iff`
-/

------------------------------------------------------------
-- Lexemes
------------------------------------------------------------

namespace FactLayout

namespace Token

/- Only the end of the template leaves a token open. -/
def isClosed : Token → Bool
| literal _ => true
| brace => true
| empty closed => closed
| placeholder _ closed => closed

/- Tell runs of literal text from all else. -/
def isLiteral : Token → Bool
| literal _ => true
| _ => false

/- Tell empty placeholders from all else. -/
def isEmpty : Token → Bool
| empty _ => true
| _ => false

/-
  A run of literal text has no opening brace, and a body has
  no closing brace.  Neither is empty, and a body does not
  begin like a doubled brace.
-/
def IsLexeme : Token → Prop
| literal text => text ≠ [] ∧ '{' ∉ text
| brace => True
| empty _ => True
| placeholder body _ =>
    body ≠ [] ∧ '}' ∉ body ∧ body.head? ≠ some '{'

/-
  Nothing follows an open token, and what follows a run of
  literal text begins with an opening brace.
-/
def CanPrecede
    (token : Token)
    (rest : List Char) : Prop :=
  (token.isClosed = false → rest = []) ∧
    (token.isLiteral = true → ∀ c ∈ rest.head?, c = '{')

/- There is but one kind of empty placeholder. -/
theorem eq_empty_of_isEmpty
    {token : Token}
    (hEmpty : token.isEmpty = true) :
    ∃ closed, token = .empty closed := by
  cases token with
  | empty closed => exact ⟨closed, rfl⟩
  | literal text => cases hEmpty
  | brace => cases hEmpty
  | placeholder body closed => cases hEmpty

/- The source of a closed placeholder. -/
theorem source_placeholder_closed
    (body : List Char) :
    (placeholder body true).source =
      '{' :: body ++ ['}'] := rfl

/- The source of an open placeholder. -/
theorem source_placeholder_open
    (body : List Char) :
    (placeholder body false).source = '{' :: body := by
  simp [source, echo]

end Token

------------------------------------------------------------
-- Reading Lexemes
------------------------------------------------------------

namespace Scanner

/- The scanner stops exactly at the end of the text. -/
@[simp]
theorem next?_eq_none_iff
    {text : List Char} :
    next? text = none ↔ text = [] := by
  constructor
  · intro hNone
    unfold next? at hNone
    split at hNone
    · rfl
    all_goals cases hNone
  · intro hNil
    rw [hNil]
    rfl

/- A run of characters ends where the first one stops it. -/
theorem span_append
    {stop : Char}
    {text : List Char}
    (rest : List Char)
    (hText : stop ∉ text)
    (hRest : ∀ c ∈ rest.head?, c = stop) :
    (text ++ rest).takeWhile (· != stop) = text ∧
      (text ++ rest).dropWhile (· != stop) = rest := by
  have hAll : ∀ c ∈ text, (c != stop) = true := by
    intro c hc
    simp only [bne_iff_ne]
    intro hEq
    exact hText (hEq ▸ hc)
  apply takeWhile_dropWhile_append hAll
  intro c hc
  simp [hRest c hc]

/- No character before the stop is the stop. -/
theorem not_mem_takeWhile
    (stop : Char)
    (text : List Char) :
    stop ∉ text.takeWhile (· != stop) := by
  intro hMem
  have hAll := List.all_takeWhile (p := (· != stop)) (l := text)
  simp only [List.all_eq_true] at hAll
  simpa using hAll stop hMem

/- What is left of a run begins with the stop. -/
theorem eq_of_mem_head?_dropWhile
    {stop c : Char}
    {text : List Char}
    (hHead : c ∈ (text.dropWhile (· != stop)).head?) :
    c = stop := by
  have hNot :=
    List.head?_dropWhile_not (fun c => c != stop) text
  rw [Option.mem_def.mp hHead] at hNot
  simpa using hNot

/- A body ends before the first closing brace. -/
theorem placeholder_append
    {body : List Char}
    (hBody : '}' ∉ body)
    (rest : List Char) :
    placeholder (body ++ '}' :: rest) =
      (.placeholder body true, rest) := by
  have hSpan := span_append ('}' :: rest) hBody (by simp)
  unfold placeholder
  rw [hSpan.1, hSpan.2]

/- A body without a closing brace runs to the end. -/
theorem placeholder_of_not_mem
    {body : List Char}
    (hBody : '}' ∉ body) :
    placeholder body = (.placeholder body false, []) := by
  have hSpan := span_append [] hBody (by simp)
  rw [List.append_nil] at hSpan
  unfold placeholder
  rw [hSpan.1, hSpan.2]

/- An opening brace in front of a body. -/
theorem next?_open_cons
    {c : Char}
    (hOpen : c ≠ '{')
    (hClose : c ≠ '}')
    (text : List Char) :
    next? ('{' :: c :: text) =
      some (placeholder (c :: text)) := by
  unfold next?
  split <;> simp_all

/- Anything but an opening brace begins literal text. -/
theorem next?_literal_cons
    {c : Char}
    (hOpen : c ≠ '{')
    (text : List Char) :
    next? (c :: text) =
      some (.literal ((c :: text).takeWhile (· != '{')),
        (c :: text).dropWhile (· != '{')) := by
  unfold next?
  split <;> simp_all

/- A lexeme is read back from what begins with its source. -/
theorem next?_source_append
    {token : Token}
    {rest : List Char}
    (hLexeme : token.IsLexeme)
    (hRest : token.CanPrecede rest) :
    next? (token.source ++ rest) = some (token, rest) := by
  rcases hRest with ⟨hOpen, hLiteral⟩
  cases token with
  | literal text =>
      rcases hLexeme with ⟨hNonempty, hText⟩
      have hSpan := span_append rest hText (hLiteral rfl)
      cases text with
      | nil => exact absurd rfl hNonempty
      | cons c tail =>
          have hc : c ≠ '{' := fun hEq =>
            hText (by simp [hEq])
          rw [Token.source, List.cons_append,
            next?_literal_cons hc, ← List.cons_append,
            hSpan.1, hSpan.2]
  | brace => rfl
  | empty closed =>
      cases closed with
      | true => rfl
      | false =>
          rw [hOpen rfl]
          rfl
  | placeholder body closed =>
      rcases hLexeme with ⟨hNonempty, hBody, hHead⟩
      cases body with
      | nil => exact absurd rfl hNonempty
      | cons c tail =>
          have hBrace : c ≠ '{' := fun hEq =>
            hHead (by simp [hEq])
          have hClose : c ≠ '}' := fun hEq =>
            hBody (by simp [hEq])
          cases closed with
          | true =>
              have hRead := placeholder_append hBody rest
              rw [List.cons_append] at hRead
              simp only [Token.source_placeholder_closed,
                List.cons_append, List.append_assoc,
                List.nil_append]
              rw [next?_open_cons hBrace hClose, hRead]
          | false =>
              rw [hOpen rfl, List.append_nil,
                Token.source_placeholder_open,
                next?_open_cons hBrace hClose,
                placeholder_of_not_mem hBody]

/- A placeholder that is neither empty nor a brace. -/
theorem isLexeme_placeholder
    {c : Char}
    (hOpen : c ≠ '{')
    (hClose : c ≠ '}')
    (text : List Char) :
    (placeholder (c :: text)).1.IsLexeme ∧
      (placeholder (c :: text)).1.CanPrecede
        (placeholder (c :: text)).2 := by
  have hBody :
      (c :: text).takeWhile (· != '}') =
        c :: text.takeWhile (· != '}') := by
    simp [hClose]
  have hNotMem := not_mem_takeWhile '}' (c :: text)
  rw [hBody] at hNotMem
  unfold placeholder
  rw [hBody]
  split
  · exact ⟨⟨by simp, hNotMem, by simpa using hOpen⟩,
      by simp [Token.CanPrecede, Token.isLiteral]⟩
  · exact ⟨⟨by simp, hNotMem, by simpa using hOpen⟩,
      by simp [Token.CanPrecede, Token.isLiteral,
        Token.isClosed]⟩

/- The scanner only takes lexemes off. -/
theorem isLexeme_of_next?
    {text rest : List Char}
    {token : Token}
    (hNext : next? text = some (token, rest)) :
    token.IsLexeme ∧ token.CanPrecede rest := by
  have hSource := source_ne_nil_of_next? hNext
  unfold next? at hNext
  split at hNext
  · cases hNext
  · cases hNext
    simp [Token.IsLexeme, Token.CanPrecede, Token.isLiteral]
  · cases hNext
    simp [Token.IsLexeme, Token.CanPrecede,
      Token.isLiteral, Token.isClosed]
  · cases hNext
    simp [Token.IsLexeme, Token.CanPrecede,
      Token.isLiteral, Token.isClosed]
  · rename_i tail hLone hBrace hEmpty
    cases tail with
    | nil => exact absurd rfl hLone
    | cons c tail =>
        have hOpen : c ≠ '{' := fun hEq =>
          hBrace tail (by rw [hEq])
        have hClose : c ≠ '}' := fun hEq =>
          hEmpty tail (by rw [hEq])
        have hPlace := isLexeme_placeholder hOpen hClose tail
        rw [Option.some.inj hNext] at hPlace
        exact hPlace
  · cases hNext
    exact ⟨⟨hSource, not_mem_takeWhile '{' text⟩,
      by simp [Token.isClosed],
      fun _ c hc => eq_of_mem_head?_dropWhile hc⟩

/-
  A token is taken off exactly the texts that begin with it.
-/
theorem next?_eq_some_iff
    {text rest : List Char}
    {token : Token} :
    next? text = some (token, rest) ↔
      token.IsLexeme ∧ token.CanPrecede rest ∧
        text = token.source ++ rest := by
  constructor
  · intro hNext
    have hLexeme := isLexeme_of_next? hNext
    exact ⟨hLexeme.1, hLexeme.2,
      (source_append_of_next? hNext).symm⟩
  · rintro ⟨hLexeme, hRest, rfl⟩
    exact next?_source_append hLexeme hRest

/- There is no token in the empty text. -/
@[simp]
theorem tokens_nil : tokens [] = [] := by
  unfold tokens
  split
  · rfl
  · rename_i hNext
    cases hNext

/- The tokens of a text are the first one and the rest. -/
theorem tokens_of_next?
    {text rest : List Char}
    {token : Token}
    (hNext : next? text = some (token, rest)) :
    tokens text = token :: tokens rest := by
  rw [tokens]
  split
  · rename_i hNone
    rw [hNext] at hNone
    cases hNone
  · rename_i hSome
    rw [hNext] at hSome
    cases hSome
    rfl

end Scanner

end FactLayout
