import FactLayout.Template.Token

/-
  Reading a template from left to right.

  The scanner is a function on the text that is still
  unread.  It either takes one token off the front, or
  skips to just behind the next occurrence of a marker.

  Main results:
    * `Scanner.source_append_of_next?`
    * `Scanner.length_lt_of_next?`
    * `Scanner.length_skipPast_le`
-/

------------------------------------------------------------
-- Tokens off the Front
------------------------------------------------------------

namespace FactLayout

namespace Scanner

/- Read a placeholder whose opening brace is gone. -/
def placeholder
    (text : List Char) : Token × List Char :=
  let body := text.takeWhile (· != '}')
  match text.dropWhile (· != '}') with
  | [] => (.placeholder body false, [])
  | _ :: rest => (.placeholder body true, rest)

/- Take the next token off the unread text. -/
def next? : List Char → Option (Token × List Char)
| [] => none
| ['{'] => some (.empty false, [])
| '{' :: '{' :: rest => some (.brace, rest)
| '{' :: '}' :: rest => some (.empty true, rest)
| '{' :: rest => some (placeholder rest)
| text =>
    some (.literal (text.takeWhile (· != '{')),
      text.dropWhile (· != '{'))

/- A placeholder and the text behind it make up the text. -/
theorem source_append_placeholder
    (text : List Char) :
    (placeholder text).1.source ++ (placeholder text).2 =
      '{' :: text := by
  have hSplit :=
    List.takeWhile_append_dropWhile
      (p := fun c : Char => c != '}') (l := text)
  have hHead :=
    List.head?_dropWhile_not
      (fun c : Char => c != '}') text
  unfold placeholder
  cases hRest : text.dropWhile (fun c => c != '}') with
  | nil =>
      simp only [hRest, List.append_nil] at hSplit
      simp [Token.source, echo, hSplit]
  | cons c rest =>
      simp only [hRest, List.head?_cons] at hHead
      simp only [hRest] at hSplit
      have hc : c = '}' := by simpa using hHead
      subst hc
      simp [Token.source, echo, hSplit]

/- A token and the text behind it make up the text. -/
theorem source_append_of_next?
    {text rest : List Char}
    {token : Token}
    (hNext : next? text = some (token, rest)) :
    token.source ++ rest = text := by
  unfold next? at hNext
  split at hNext
  · cases hNext
  · cases hNext; rfl
  · cases hNext; rfl
  · cases hNext; rfl
  · rename_i tail _ _ _
    have hSource := source_append_placeholder tail
    rw [Option.some.inj hNext] at hSource
    exact hSource
  · cases hNext
    simp [Token.source]

/- No token stands for the empty text. -/
theorem source_ne_nil_of_next?
    {text rest : List Char}
    {token : Token}
    (hNext : next? text = some (token, rest)) :
    token.source ≠ [] := by
  unfold next? at hNext
  split at hNext
  · cases hNext
  · cases hNext; simp [Token.source, echo]
  · cases hNext; simp [Token.source]
  · cases hNext; simp [Token.source, echo]
  · rename_i tail _ _ _
    have hPlace := Option.some.inj hNext
    unfold placeholder at hPlace
    split at hPlace <;> cases hPlace <;>
      simp [Token.source, echo]
  · rename_i hNil hLone _ _ hOpen
    cases hNext
    cases text with
    | nil => exact absurd rfl hNil
    | cons c tail =>
        have hc : c ≠ '{' := fun h =>
          hOpen tail (by rw [h])
        simp [Token.source, hc]

/- Taking a token leaves less unread text. -/
theorem length_lt_of_next?
    {text rest : List Char}
    {token : Token}
    (hNext : next? text = some (token, rest)) :
    rest.length < text.length := by
  have hSource := source_append_of_next? hNext
  have hNonempty :=
    List.length_pos_iff.mpr
      (source_ne_nil_of_next? hNext)
  rw [← hSource, List.length_append]
  omega

/- All tokens of a template, in order. -/
def tokens
    (text : List Char) : List Token :=
  match _hNext : next? text with
  | none => []
  | some (token, rest) => token :: tokens rest
termination_by text.length
decreasing_by exact length_lt_of_next? _hNext

------------------------------------------------------------
-- Skipping
------------------------------------------------------------

/- The text behind the leftmost occurrence of a marker. -/
def behind?
    (marker : List Char) : List Char → Option (List Char)
| [] => if marker = [] then some [] else none
| c :: rest =>
    if marker.isPrefixOf (c :: rest) then
      some ((c :: rest).drop marker.length)
    else behind? marker rest

/-
  Skip past the next occurrence of a marker, or to the end
  of the text if there is none, and tell which happened.
-/
def skipPast
    (marker text : List Char) : Bool × List Char :=
  match behind? marker text with
  | some rest => (true, rest)
  | none => (false, [])

/- The text behind a marker is no longer than the text. -/
theorem length_le_of_behind?
    {marker text rest : List Char}
    (hBehind : behind? marker text = some rest) :
    rest.length ≤ text.length := by
  induction text with
  | nil =>
      unfold behind? at hBehind
      split at hBehind <;> simp_all
  | cons c tail ih =>
      unfold behind? at hBehind
      split at hBehind
      · cases hBehind
        simp only [List.length_drop]
        omega
      · have hTail := ih hBehind
        simp only [List.length_cons]
        omega

/- Skipping never adds unread text. -/
theorem length_skipPast_le
    (marker text : List Char) :
    (skipPast marker text).2.length ≤ text.length := by
  unfold skipPast
  split
  · rename_i hBehind
    exact length_le_of_behind? hBehind
  · simp

end Scanner

end FactLayout
