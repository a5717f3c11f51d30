import FactLayout.Layout
import FactLayout.Proofs.Render.Directive
import FactLayout.Proofs.Template.Reference

/-
  The placeholders that format help lists.

  Format help has a line for each description, and shows in
  it the placeholder of the argument that is described.  The
  number in the placeholder is read back as the position of
  that argument.

  Key definitions include:
    * `helpPlaceholder`

  Main results:
    * `formatHelp_eq_join`
    * `Render.output_render_helpPlaceholder`
    * `Reference.position?_grammar`
-/

------------------------------------------------------------
-- Lines of Help
------------------------------------------------------------

namespace FactLayout

/- The placeholder that help shows for an argument. -/
def helpPlaceholder (number : ℕ) : String :=
  "\x7b" ++ String.ofList (Nat.toDigits 10 number) ++ "\x7d"

/- It is a reference by number. -/
theorem toList_helpPlaceholder
    (number : ℕ) :
    (helpPlaceholder number).toList =
      (Directive.argument
        (Nat.toDigits 10 number)).source := by
  simp [helpPlaceholder, Directive.source, Directive.body,
    echo]

/- A line shows the placeholder in front of its text. -/
theorem helpLine_eq
    (number : ℕ)
    (description : String) :
    helpLine number description =
      "  " ++ helpPlaceholder number ++ ": " ++
        description ++ "\n" := by
  apply String.toList_injective
  simp [helpLine, helpPlaceholder]

theorem helpLines_eq_join
    (number : ℕ)
    (descriptions : List String) :
    helpLines number descriptions =
      String.join
        (descriptions.mapIdx fun i description =>
          helpLine (number + i) description) := by
  induction descriptions generalizing number with
  | nil => rfl
  | cons description rest ih =>
      rw [helpLines, ih, List.mapIdx_cons, String.join_cons]
      simp only [Nat.add_zero, Nat.add_assoc,
        Nat.add_comm 1]

/- Help is a head and a numbered line for each text. -/
theorem formatHelp_eq_join
    (label template : String)
    (descriptions : List String) :
    formatHelp label template descriptions =
      label ++ " format:\n" ++
        "  default: " ++ template ++ "\n" ++
        String.join
          (descriptions.mapIdx fun i description =>
            "  " ++ helpPlaceholder (i + 1) ++ ": " ++
              description ++ "\n") := by
  unfold formatHelp
  rw [helpLines_eq_join]
  simp only [helpLine_eq, Nat.add_comm 1]

------------------------------------------------------------
-- Placeholders as Templates
------------------------------------------------------------

/-
  A placeholder shown by help is rendered as the text of its
  argument, and as itself if there is no such argument.
-/
theorem Render.output_render_helpPlaceholder
    {k : ℕ}
    (hWord : k < Reference.maxNumber)
    (cells : List Cell) :
    (render (helpPlaceholder (k + 1)) cells).output =
      ((cells[k]?).map Cell.text).getD
          (helpPlaceholder (k + 1)) ++
        String.ofList Sink.resetSequence := by
  have hReferent :
      referent? cells (Nat.toDigits 10 (k + 1)) =
        cells[k]? := by
    unfold referent?
    rw [Reference.position?_toDigits hWord]
    rfl
  have hSound := Reference.isSound_toDigits (k + 1)
  unfold render renderInto Sink.reset
  rw [toList_helpPlaceholder, ← List.append_nil
      (Directive.argument _).source,
    run_reference hSound, run_nil, hReferent,
    Sink.output_write, ← toList_helpPlaceholder]
  cases cells[k]? with
  | none => simp
  | some cell => simp

namespace Reference

/-
  A reference names an argument exactly if it begins with no
  minus sign and has the parts of one: blank space, a plus
  sign or none, the digits of a number from one to the
  largest word, and anything that is no digit.  The argument
  is that of the number.  Format help shows the placeholder
  of every number in turn, and as a template the placeholder
  is rendered as the text of its argument, or as itself if
  there is none.
-/
theorem position?_grammar :
    (∀ (text : List Char) (position : ℕ),
      position? text = some position ↔
        text.head? ≠ some '-' ∧
          ∃ w : Parts,
            w.text = text ∧ 1 ≤ w.value ∧
              w.value ≤ 2 ^ 32 - 1 ∧
              position = w.value - 1) ∧
      (∀ text : List Char,
        position? text = none ↔
          text.head? = some '-' ∨
            ∀ w : Parts, w.text = text →
              w.value = 0 ∨ 2 ^ 32 - 1 < w.value) ∧
      (∀ label template descriptions,
        formatHelp label template descriptions =
          label ++ " format:\n" ++
            "  default: " ++ template ++ "\n" ++
            String.join
              (descriptions.mapIdx fun i description =>
                "  " ++ helpPlaceholder (i + 1) ++ ": " ++
                  description ++ "\n")) ∧
      ∀ k, 1 ≤ k → k < 2 ^ 32 →
        ∀ cells,
          (Render.render (helpPlaceholder k) cells).output =
            ((cells[k - 1]?).map Cell.text).getD
                (helpPlaceholder k) ++
              String.ofList Sink.resetSequence := by
  have hLargest : 2 ^ 32 - 1 = maxNumber := by
    norm_num [maxNumber]
  refine ⟨?_, ?_, formatHelp_eq_join, ?_⟩
  · intro text position
    rw [position?_eq_some_iff, hLargest]
    constructor
    · rintro ⟨w, rfl, hNumber⟩
      exact ⟨w.head?_text_ne (by simp), w, rfl, hNumber⟩
    · rintro ⟨-, hParts⟩
      exact hParts
  · intro text
    rw [position?_eq_none_iff, hLargest]
    constructor
    · exact Or.inr
    · rintro (hMinus | hNumber)
      · -- What has parts does not begin with a minus sign.
        rintro w rfl
        exact absurd hMinus (w.head?_text_ne (by simp))
      · exact hNumber
  · intro k hPositive hWord cells
    rcases Nat.exists_eq_add_of_le' hPositive with ⟨n, rfl⟩
    apply Render.output_render_helpPlaceholder
    omega

/-
  Blank space, a sign, leading zeros and a fraction around
  the largest word; the next number; and the placeholder of
  an argument that is there and of one that is not.
-/
theorem position?_grammar_largest_word :
    position? "\t\r+004294967295.5".toList =
        some 4294967294 ∧
      position? "4294967296".toList = none ∧
      (Render.render (helpPlaceholder 2)
          [.null, .string "\x7b1\x7d"]).output =
        "\x7b1\x7d" ++ String.ofList Sink.resetSequence ∧
      (Render.render (helpPlaceholder 4294967295)
          [.null]).output =
        "\x7b4294967295\x7d" ++
          String.ofList Sink.resetSequence := by
  rcases position?_grammar with ⟨hSome, hNone, -, hRender⟩
  refine ⟨?_, ?_, ?_, ?_⟩
  · apply (hSome _ _).mpr
    refine ⟨by decide, ⟨['\t', '\r'], ['+'],
      "004294967295".toList, ['.', '5'], by simp [blanks],
      Or.inr rfl, List.cons_ne_nil _ _,
      List.all_eq_true.mp rfl, ?_⟩, ?_⟩
    · rintro c ⟨⟩
      rfl
    · decide +kernel
  · apply (hNone _).mpr
    refine Or.inr ?_
    intro w hText
    have hDigits := w.digits_text
    rw [hText] at hDigits
    have hValue : w.value = 4294967296 := by
      unfold Parts.value
      rw [← hDigits]
      decide +kernel
    omega
  · rw [hRender 2 (by decide) (by decide)]
    rfl
  · rw [hRender 4294967295 (by decide) (by decide)]
    decide +kernel

end Reference

end FactLayout
