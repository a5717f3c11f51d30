import FactLayout.Proofs.Number.General
import FactLayout.Proofs.Render.Blocks
import FactLayout.Proofs.Template.Reference

/-
  One text for an argument that is set, another for one that
  is not.

  A block kept if an argument is set, with a reference to the
  argument inside, and behind it a block kept if it is not:
  exactly one of the two is written.  What decides whether a
  cell is set and what its text is are defined apart, and
  agree in that no cell that is set has an empty text.

  Key definitions include:
    * `alternative`

  Main results:
    * `Cell.text_ne_empty_of_isSet`
    * `run_guarded_of_inert`
    * `run_alternative_of_isSet`
    * `run_alternative_of_not_isSet`
    * `render_alternative`
-/

------------------------------------------------------------
-- Texts of Cells That Are Set
------------------------------------------------------------

namespace FactLayout

namespace Cell

theorem naturalText_ne_empty
    (n : Nat) :
    naturalText n ≠ "" := by
  rw [naturalText, Ne, String.ofList_eq_empty_iff]
  exact List.ne_nil_of_length_pos Nat.length_toDigits_pos

theorem integerText_ne_empty
    (i : Int) :
    integerText i ≠ "" := by
  rw [integerText, Ne, String.ofList_eq_empty_iff]
  have hDigits : Decimal.digits i.natAbs ≠ [] :=
    List.ne_nil_of_length_pos Nat.length_toDigits_pos
  unfold Decimal.signed
  split
  · exact List.cons_ne_nil _ _
  · exact hDigits

/- No cell that is set has an empty text. -/
theorem text_ne_empty_of_isSet
    {cell : Cell}
    (hSet : cell.isSet = true) :
    cell.text ≠ "" := by
  cases cell with
  | int value => exact integerText_ne_empty value.toInt
  | uint value => exact naturalText_ne_empty value.toNat
  | uint64 value => exact naturalText_ne_empty value.toNat
  | uint16 value => exact naturalText_ne_empty value.toNat
  | uint8 value => exact naturalText_ne_empty value.toNat
  | string value => simpa [isSet, text] using hSet
  | strbuf value => simpa [isSet, text] using hSet
  | double value =>
      rw [text, Ne, String.ofList_eq_empty_iff]
      exact value.generalText_ne_nil
  | bool value => cases value <;> decide
  | float value => cases hSet
  | list items => cases hSet
  | null => cases hSet
  | unsupported kind => cases hSet

end Cell

/- A cell that is set is written and not reported. -/
theorem Sink.writeCell_of_isSet
    {cell : Cell}
    (hSet : cell.isSet = true)
    (sink : Sink) :
    sink.writeCell cell = sink.write cell.text.toList := by
  cases cell with
  | unsupported kind => cases hSet
  | _ => simp [writeCell, write]

namespace Render

------------------------------------------------------------
-- Texts Without Markers
------------------------------------------------------------

/- A marker begins with a brace. -/
theorem not_marker_infix_of_not_mem
    {text : List Char}
    (hText : '{' ∉ text)
    (block : Block) :
    ¬ block.marker <:+: text := by
  intro hMarker
  exact hText (hMarker.subset List.mem_cons_self)

/-
  The only brace that opens in front of a reference and
  behind literal text is that of the reference, which is no
  marker.
-/
theorem not_marker_infix_of_reference
    {reference left right : List Char}
    (hSound : (Directive.argument reference).IsSound)
    (hReference : '{' ∉ reference)
    (hLeft : '{' ∉ left)
    (hRight : '{' ∉ right)
    (block : Block) :
    ¬ block.marker <:+:
      left ++ (Directive.argument reference).source ++
        right := by
  rintro ⟨front, back, hText⟩
  have hEqual :
      left ++ '{' :: (reference ++ '}' :: right) =
        front ++ '{' :: (block.sigil :: '}' :: back) := by
    simpa [Block.marker, Directive.source, Directive.body,
      echo] using hText.symm
  have hBehind : '{' ∉ reference ++ '}' :: right := by
    simp [hReference, hRight]
  -- With one brace only, the marker begins at the reference.
  rcases (List.append_cons_inj_of_notMem hLeft hBehind).mp
      hEqual with
    ⟨-, -, hBody⟩
  rcases hSound with ⟨hNonempty, -, -, hHead⟩
  rcases List.exists_cons_of_ne_nil hNonempty with
    ⟨c, tail, rfl⟩
  apply hHead
  rw [List.head?_cons, (List.cons.inj hBody).1]
  cases block <;> simp [Block.sigil]

------------------------------------------------------------
-- Alternatives
------------------------------------------------------------

/-
  A text for an argument that is set, with the argument in
  it, and another text for one that is not.
-/
def alternative
    (reference left right otherwise : List Char) :
    List Char :=
  guarded reference false
      (left ++ (Directive.argument reference).source ++
        right) ++
    guarded reference true otherwise

section

variable {cells : List Cell}
variable {tracker : Tracker}
variable {reference left right otherwise : List Char}
variable {cell : Cell}

/-
  What leaves the tracker as it is does so inside a guard
  that holds.  It opens nothing, so that its length is not
  bounded as it is in `run_guarded_of_holds`.
-/
theorem run_guarded_of_inert
    {inner : List Char}
    {negated : Bool}
    {act : Sink → Sink}
    (hReference : '}' ∉ reference)
    (hCell : referent? cells reference = some cell)
    (hHolds : cell.isSet ≠ negated)
    (hInner :
      ∀ more tracker sink,
        run cells (inner ++ more) tracker sink =
          run cells more tracker (act sink))
    (hCount :
      tracker.openCount (guardBlock negated) <
        Tracker.maxCount)
    (more : List Char)
    (sink : Sink) :
    run cells (guarded reference negated inner ++ more)
        tracker sink =
      run cells more tracker (act sink) := by
  unfold guarded
  rw [List.append_assoc, List.append_assoc,
    run_guard_of_holds hReference hCell hHolds, hInner,
    run_marker hCount, closeSink_guardBlock]

/-
  The first text is written for an argument that is set, and
  the second one is skipped.
-/
theorem run_alternative_of_isSet
    (hSound : (Directive.argument reference).IsSound)
    (hCell : referent? cells reference = some cell)
    (hSet : cell.isSet = true)
    (hLeft : '{' ∉ left)
    (hRight : '{' ∉ right)
    (hOtherwise : '{' ∉ otherwise)
    (hCount :
      tracker.openCount .whenSet < Tracker.maxCount)
    (more : List Char)
    (sink : Sink) :
    run cells
        (alternative reference left right otherwise ++ more)
        tracker sink =
      run cells more tracker
        (((sink.write left).write cell.text.toList).write
          right) := by
  have hClosing : '}' ∉ reference := hSound.2.1
  have hHolds : cell.isSet ≠ false := by simp [hSet]
  have hInner :
      ∀ more tracker sink,
        run cells
            (left ++ (Directive.argument reference).source ++
              right ++ more)
            tracker sink =
          run cells more tracker
            (((sink.write left).write
              cell.text.toList).write right) := by
    intro more tracker sink
    rw [List.append_assoc, List.append_assoc,
      run_literal_append hLeft, run_reference hSound, hCell,
      run_literal_append hRight]
    simp only [Sink.writeCell_of_isSet hSet]
  have hSkipped :=
    not_marker_infix_of_not_mem hOtherwise (guardBlock true)
  unfold alternative
  rw [List.append_assoc,
    run_guarded_of_inert hClosing hCell hHolds hInner hCount,
    run_guarded_of_fails hClosing hCell hSet hSkipped]

/-
  The first text is skipped for an argument that is not set,
  and the second one is written.
-/
theorem run_alternative_of_not_isSet
    (hSound : (Directive.argument reference).IsSound)
    (hReference : '{' ∉ reference)
    (hCell : referent? cells reference = some cell)
    (hUnset : cell.isSet = false)
    (hLeft : '{' ∉ left)
    (hRight : '{' ∉ right)
    (hOtherwise : '{' ∉ otherwise)
    (hCount :
      tracker.openCount .whenUnset < Tracker.maxCount)
    (more : List Char)
    (sink : Sink) :
    run cells
        (alternative reference left right otherwise ++ more)
        tracker sink =
      run cells more tracker (sink.write otherwise) := by
  have hClosing : '}' ∉ reference := hSound.2.1
  have hHolds : cell.isSet ≠ true := by simp [hUnset]
  have hSkipped :=
    not_marker_infix_of_reference hSound hReference hLeft
      hRight (guardBlock false)
  unfold alternative
  rw [List.append_assoc,
    run_guarded_of_fails hClosing hCell hUnset hSkipped,
    run_guarded_of_inert hClosing hCell hHolds
      (run_literal_append hOtherwise) hCount]

end

/-
  Exactly one of the two texts is written.  That of an
  argument that is set has the text of the argument in it,
  which is not empty.
-/
theorem render_alternative
    (cells : List Cell)
    (reference left right otherwise : List Char)
    (k : Nat)
    (hOpening : '{' ∉ reference)
    (hClosing : '}' ∉ reference)
    (hPosition : Reference.position? reference = some k)
    (hCell : k < cells.length)
    (hLeft : '{' ∉ left)
    (hRight : '{' ∉ right)
    (hOtherwise : '{' ∉ otherwise) :
    (cells[k].isSet = true →
      cells[k].text ≠ "" ∧
        render
            (String.ofList
              (alternative reference left right otherwise))
            cells =
          { output :=
              String.ofList left ++ cells[k].text ++
                String.ofList right ++
                String.ofList Sink.resetSequence }) ∧
      (cells[k].isSet = false →
        render
            (String.ofList
              (alternative reference left right otherwise))
            cells =
          { output :=
              String.ofList otherwise ++
                String.ofList Sink.resetSequence }) := by
  have hReferent :
      referent? cells reference = some cells[k] := by
    unfold referent?
    rw [hPosition]
    exact List.getElem?_eq_getElem hCell
  have hSound :=
    Reference.isSound_argument hPosition hClosing
  have hCount :
      ∀ block,
        Tracker.fresh.openCount block < Tracker.maxCount := by
    intro block
    cases block <;> decide
  unfold render renderInto
  rw [String.toList_ofList,
    ← List.append_nil (alternative _ _ _ _)]
  constructor
  · intro hSet
    refine ⟨Cell.text_ne_empty_of_isSet hSet, ?_⟩
    rw [run_alternative_of_isSet hSound hReferent hSet hLeft
      hRight hOtherwise (hCount _), run_nil]
    simp [Sink.reset, Sink.write]
  · intro hUnset
    rw [run_alternative_of_not_isSet hSound hOpening
      hReferent hUnset hLeft hRight hOtherwise (hCount _),
      run_nil]
    simp [Sink.reset, Sink.write]

/-
  The least double above zero, by a reference with more than
  a number in it, and a cell of an unsupported kind, which is
  not reported.
-/
theorem render_alternative_least_double :
    render
          "\x7b? +01x\x7da\x7d\x7b +01x\x7db\x7b?\x7d\x7b/ +01x\x7dc\x7b/\x7d"
          [.double ⟨1⟩] =
        { output :=
            "a\x7d4.94066e-324b" ++
              String.ofList Sink.resetSequence } ∧
      render
          "\x7b?2\x7da\x7d\x7b2\x7db\x7b?\x7d\x7b/2\x7dc\x7b/\x7d"
          [.null, .unsupported "d"] =
        { output :=
            "c" ++ String.ofList Sink.resetSequence } := by
  have hText :
      (Cell.double ⟨1⟩).text = "4.94066e-324" := by
    decide +kernel
  constructor
  · have hRendered :=
      ((render_alternative [.double ⟨1⟩]
        [' ', '+', '0', '1', 'x'] ['a', '}'] ['b'] ['c'] 0
        (by decide) (by decide) (by decide) (by decide)
        (by decide) (by decide) (by decide)).1
          (by decide)).2
    refine Eq.trans hRendered ?_
    simp only [List.getElem_cons_zero, hText]
    rfl
  · exact
      (render_alternative [.null, .unsupported "d"] ['2']
        ['a', '}'] ['b'] ['c'] 1 (by decide) (by decide)
        (by decide) (by decide) (by decide) (by decide)
        (by decide)).2 rfl

end Render

end FactLayout
