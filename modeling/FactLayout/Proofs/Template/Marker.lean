import FactLayout.Template.Scanner

/-
  Skipping in front of more text.

  A marker that is found stays the first one when text is
  added behind.  Text that does not hold a marker is skipped
  up to the marker behind it.

  Main results:
    * `Scanner.exists_eq_append_of_behind?`
    * `Scanner.behind?_append`
    * `Scanner.behind?_marker_append`
    * `Scanner.skipPast_append`
    * `Scanner.skipPast_marker_append`
-/

------------------------------------------------------------
-- Markers That Are Found
------------------------------------------------------------

namespace FactLayout

namespace Scanner

/- The empty marker is found at once. -/
@[simp]
theorem behind?_nil
    (text : List Char) :
    behind? [] text = some text := by
  cases text with
  | nil => rfl
  | cons c tail => simp [behind?]

/-
  The text behind a marker follows the leftmost place where
  the marker stands.
-/
theorem exists_eq_append_of_behind?
    {marker text rest : List Char}
    (hBehind : behind? marker text = some rest) :
    ∃ before,
      text = before ++ marker ++ rest ∧
        ∀ shorter longer,
          text = shorter ++ marker ++ longer →
          before.length ≤ shorter.length := by
  induction text with
  | nil =>
      unfold behind? at hBehind
      split at hBehind
      · rename_i hNil
        cases hBehind
        exact ⟨[], by simp [hNil], by simp⟩
      · cases hBehind
  | cons c tail ih =>
      unfold behind? at hBehind
      split at hBehind
      · rename_i hHere
        cases hBehind
        rcases List.isPrefixOf_iff_prefix.mp hHere with
          ⟨rest, hRest⟩
        refine ⟨[], ?_, by simp⟩
        rw [← hRest, List.drop_left]
        rfl
      · rename_i hHere
        rcases ih hBehind with ⟨before, hText, hLeft⟩
        refine ⟨c :: before, by simp [hText], ?_⟩
        intro shorter longer hOther
        cases shorter with
        | nil =>
            exfalso
            apply hHere
            apply List.isPrefixOf_iff_prefix.mpr
            exact ⟨longer, by simpa using hOther.symm⟩
        | cons d shorter =>
            have hLess :=
              hLeft shorter longer (List.cons.inj hOther).2
            simp only [List.length_cons]
            omega

/- A marker that stands in a text is found. -/
theorem not_infix_of_behind?
    {marker text : List Char}
    (hBehind : behind? marker text = none) :
    ¬ marker <:+: text := by
  induction text with
  | nil =>
      unfold behind? at hBehind
      split at hBehind
      · cases hBehind
      · rename_i hMarker
        simpa using hMarker
  | cons c tail ih =>
      unfold behind? at hBehind
      split at hBehind
      · cases hBehind
      · rename_i hHere
        intro hInfix
        rcases List.infix_cons_iff.mp hInfix with
          hPrefix | hLater
        · exact hHere (List.isPrefixOf_iff_prefix.mpr hPrefix)
        · exact ih hBehind hLater

/- A text with a marker is long enough for it. -/
theorem length_marker_le_of_behind?
    {marker text rest : List Char}
    (hBehind : behind? marker text = some rest) :
    marker.length ≤ text.length := by
  induction text with
  | nil =>
      unfold behind? at hBehind
      split at hBehind
      · rename_i hNil
        simp [hNil]
      · cases hBehind
  | cons c tail ih =>
      unfold behind? at hBehind
      split at hBehind
      · rename_i hHere
        exact (List.isPrefixOf_iff_prefix.mp hHere).length_le
      · have hTail := ih hBehind
        simp only [List.length_cons]
        omega

/- A marker that is found is found in front of more text. -/
theorem behind?_append
    {marker text rest : List Char}
    (hBehind : behind? marker text = some rest)
    (more : List Char) :
    behind? marker (text ++ more) = some (rest ++ more) := by
  induction text with
  | nil =>
      unfold behind? at hBehind
      split at hBehind
      · rename_i hNil
        cases hBehind
        simp [hNil]
      · cases hBehind
  | cons c tail ih =>
      rw [behind?] at hBehind
      rw [List.cons_append, behind?, ← List.cons_append]
      by_cases hHere : marker.isPrefixOf (c :: tail) = true
      · have hPrefix := List.isPrefixOf_iff_prefix.mp hHere
        have hMore :
            marker.isPrefixOf (c :: tail ++ more) = true :=
          List.isPrefixOf_iff_prefix.mpr
            (hPrefix.trans (List.prefix_append _ _))
        rw [if_pos hHere] at hBehind
        cases hBehind
        rw [if_pos hMore,
          List.drop_append_of_le_length hPrefix.length_le]
      · rw [if_neg hHere] at hBehind
        -- A marker that starts here would end within the
        -- old text, which is long enough for one.
        have hLength := length_marker_le_of_behind? hBehind
        have hMore :
            ¬ marker.isPrefixOf (c :: tail ++ more) =
              true := by
          intro hMore
          apply hHere
          apply List.isPrefixOf_iff_prefix.mpr
          apply List.prefix_of_prefix_length_le
            (List.isPrefixOf_iff_prefix.mp hMore)
            (List.prefix_append _ _)
          simp only [List.length_cons]
          omega
        rw [if_neg hMore]
        exact ih hBehind

/-
  A marker whose first character does not come again in it
  is found where it is written, unless it stands in the text
  in front.
-/
theorem behind?_marker_append
    {d : Char}
    {ds text : List Char}
    (hFirst : d ∉ ds)
    (hText : ¬ (d :: ds) <:+: text)
    (more : List Char) :
    behind? (d :: ds) (text ++ (d :: ds) ++ more) =
      some more := by
  induction text with
  | nil =>
      have hHere :
          (d :: ds).isPrefixOf (d :: ds ++ more) = true :=
        List.isPrefixOf_iff_prefix.mpr
          (List.prefix_append _ _)
      rw [List.nil_append, List.cons_append, behind?,
        ← List.cons_append, if_pos hHere, List.drop_left]
  | cons c tail ih =>
      have hLater :
          ¬ (d :: ds).isPrefixOf
            (c :: tail ++ (d :: ds) ++ more) = true := by
        intro hHere
        have hPrefix := List.isPrefixOf_iff_prefix.mp hHere
        rw [List.append_assoc] at hPrefix
        rcases List.prefix_or_prefix_of_prefix hPrefix
            (List.prefix_append _ _) with hShort | hLong
        · exact hText hShort.isInfix
        · -- The marker would begin in the text and go on
          -- into itself, with its first character inside.
          rcases hLong with ⟨overlap, hOverlap⟩
          rw [← hOverlap, List.prefix_append_right_inj,
            hOverlap] at hPrefix
          cases overlap with
          | nil =>
              rw [List.append_nil] at hOverlap
              exact hText (hOverlap ▸ List.infix_rfl)
          | cons e overlap =>
              have hSame : e = d :=
                (List.cons_prefix_cons.mp hPrefix).1
              have hTail : tail ++ e :: overlap = ds :=
                (List.cons.inj hOverlap).2
              apply hFirst
              rw [← hTail, hSame]
              simp
      rw [List.cons_append, List.cons_append, behind?,
        ← List.cons_append, ← List.cons_append,
        if_neg hLater]
      apply ih
      intro hInfix
      exact hText (hInfix.trans (List.suffix_cons _ _).isInfix)

------------------------------------------------------------
-- Skipping in Front of More Text
------------------------------------------------------------

/- A skip that finds its marker finds it in longer text. -/
theorem skipPast_append
    {marker text : List Char}
    (hFound : (skipPast marker text).1 = true)
    (more : List Char) :
    skipPast marker (text ++ more) =
      (true, (skipPast marker text).2 ++ more) := by
  unfold skipPast at hFound ⊢
  cases hBehind : behind? marker text with
  | none =>
      rw [hBehind] at hFound
      cases hFound
  | some rest => rw [behind?_append hBehind more]

/- Text without a marker is skipped up to the marker. -/
theorem skipPast_marker_append
    {b : Block}
    {text : List Char}
    (hText : ¬ b.marker <:+: text)
    (more : List Char) :
    skipPast b.marker (text ++ b.marker ++ more) =
      (true, more) := by
  have hFirst : '{' ∉ [b.sigil, '}'] := by
    cases b <;> decide
  have hBehind :
      behind? b.marker (text ++ b.marker ++ more) =
        some more :=
    behind?_marker_append hFirst hText more
  unfold skipPast
  rw [hBehind]

end Scanner

end FactLayout
