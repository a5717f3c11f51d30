import FactLayout.Text.Blank

/-
  Runs of characters, and text and the blanks around it.

  A run of a class ends where something outside it stands.
  Trimming splits a text into the blanks before it, what is
  left of it, and the blanks behind it.

  Key definitions include:
    * `Blank.leading`
    * `Blank.trailing`

  Main results:
    * `takeWhile_dropWhile_append`
    * `Blank.leading_append_trim`
    * `Blank.trim_append`
-/

------------------------------------------------------------
-- Runs of Characters
------------------------------------------------------------

namespace FactLayout

/- The longest run in front ends where it has to. -/
theorem takeWhile_dropWhile_append
    {α : Type}
    {p : α → Bool}
    {front back : List α}
    (hFront : ∀ x ∈ front, p x = true)
    (hBack : ∀ x ∈ back.head?, p x = false) :
    (front ++ back).takeWhile p = front ∧
      (front ++ back).dropWhile p = back := by
  rw [List.takeWhile_append_of_pos hFront,
    List.dropWhile_append_of_pos hFront]
  cases back with
  | nil => exact ⟨List.append_nil front, rfl⟩
  | cons x back =>
      have hNot : ¬ p x = true := by
        simp [hBack x rfl]
      rw [List.takeWhile_cons_of_neg hNot,
        List.dropWhile_cons_of_neg hNot]
      exact ⟨List.append_nil front, rfl⟩

namespace Blank

------------------------------------------------------------
-- Both Ends
------------------------------------------------------------

/- The blanks before a text. -/
def leading (text : List Char) : List Char :=
  text.takeWhile isBlank

/- The blanks behind a text that is not blank. -/
def trailing (text : List Char) : List Char :=
  ((text.dropWhile isBlank).reverse.takeWhile isBlank).reverse

section

variable (text : List Char)

theorem leading_append_trim :
    leading text ++ (trim text ++ trailing text) = text := by
  unfold leading trim trailing dropLastWhile
  rw [← List.reverse_append, List.takeWhile_append_dropWhile,
    List.reverse_reverse, List.takeWhile_append_dropWhile]

/- What is left neither begins nor ends with a blank. -/
theorem isBlank_of_mem_getLast?_trim :
    ∀ x ∈ (trim text).getLast?, isBlank x = false := by
  intro x hLast
  unfold trim dropLastWhile at hLast
  rw [List.getLast?_reverse] at hLast
  have hNot := List.head?_dropWhile_not isBlank
    (text.dropWhile isBlank).reverse
  rw [hLast] at hNot
  exact hNot

theorem isBlank_of_mem_head?_trim :
    ∀ x ∈ (trim text).head?, isBlank x = false := by
  intro x hFirst
  have hNot :=
    List.head?_dropWhile_not isBlank text
  have hHead : (text.dropWhile isBlank).head? = some x := by
    have hSplit : trim text ++ trailing text =
        text.dropWhile isBlank := by
      unfold trim trailing dropLastWhile
      rw [← List.reverse_append,
        List.takeWhile_append_dropWhile, List.reverse_reverse]
    rw [← hSplit, List.head?_append, hFirst]
    rfl
  rw [hHead] at hNot
  exact hNot

end

/- The three parts are found again in a text made of them. -/
theorem trim_append
    {lead body tail : List Char}
    (hLead : ∀ x ∈ lead, isBlank x = true)
    (hTail : ∀ x ∈ tail, isBlank x = true)
    (hFirst : ∀ x ∈ body.head?, isBlank x = false)
    (hLast : ∀ x ∈ body.getLast?, isBlank x = false)
    (hBody : body ≠ []) :
    leading (lead ++ (body ++ tail)) = lead ∧
      trim (lead ++ (body ++ tail)) = body ∧
      trailing (lead ++ (body ++ tail)) = tail := by
  have hHead :
      ∀ x ∈ (body ++ tail).head?, isBlank x = false := by
    rw [List.head?_append, List.head?_eq_some_head hBody]
    rw [List.head?_eq_some_head hBody] at hFirst
    exact hFirst
  have hReverse :
      ∀ x ∈ body.reverse.head?, isBlank x = false := by
    rw [List.head?_reverse]
    exact hLast
  have hBack :
      ∀ x ∈ tail.reverse, isBlank x = true := fun x hx =>
    hTail x (List.mem_reverse.mp hx)
  rcases takeWhile_dropWhile_append hLead hHead with
    ⟨hTaken, hLeft⟩
  rcases takeWhile_dropWhile_append hBack hReverse with
    ⟨hBlanks, hText⟩
  unfold leading trim trailing dropLastWhile
  rw [hTaken, hLeft, List.reverse_append, hBlanks, hText,
    List.reverse_reverse, List.reverse_reverse]
  exact ⟨rfl, rfl, rfl⟩

end Blank

end FactLayout
