import FactLayout.Proofs.Render.Prefix
import FactLayout.Proofs.Template.Item

/-
  Running the directives of a template.

  A directive in front of any text is carried out first, and
  the text behind it goes on from there.

  Key definitions include:
    * `Directive.source`
    * `closeSink`

  Main results:
    * `run_directive`
    * `run_marker`
    * `run_guard_of_holds`
    * `run_guard_of_fails`
    * `run_style`
    * `run_reference`
-/

------------------------------------------------------------
-- Directives in Front of Text
------------------------------------------------------------

namespace FactLayout

/- The template text of a directive. -/
def Directive.source (d : Directive) : List Char :=
  echo d.body true

/- A sound directive is taken off what begins with it. -/
theorem Directive.next?_source_append
    {d : Directive}
    (hSound : d.IsSound)
    (rest : List Char) :
    Scanner.next? (d.source ++ rest) =
      some (.placeholder d.body true, rest) := by
  have hLexeme := isLexeme_body hSound true
  apply Scanner.next?_source_append hLexeme
  constructor
  · intro hOpen
    cases hOpen
  · intro hLiteral
    cases hLiteral

/- The marker of a block is the directive that closes it. -/
theorem Directive.source_close
    (block : Block) :
    (close block).source = block.marker := rfl

namespace Render

section

variable {cells : List Cell}
variable {tracker : Tracker}

/-
  A directive with a move that settles puts its segments and
  leaves the rest of the text behind.
-/
theorem run_directive
    {d : Directive}
    {rest left : List Char}
    {tracker' : Tracker}
    (hSound : d.IsSound)
    (hSettles :
      (Visit.directiveMove cells tracker d).Settles rest)
    (hMore :
      (Visit.directiveMove cells tracker d).next? rest
          tracker =
        some (left, tracker'))
    (sink : Sink) :
    run cells (d.source ++ rest) tracker sink =
      run cells left tracker'
        ((Visit.directiveSegments cells tracker d.source
          d).foldl (Segment.put cells) sink) := by
  have hBody := Directive.ofBody_body hSound
  have hMove :
      Visit.move cells
          ⟨.placeholder d.body true, rest, tracker⟩ =
        Visit.directiveMove cells tracker d :=
    congrArg (Visit.directiveMove cells tracker) hBody
  have hSegments :
      Visit.segments cells
          ⟨.placeholder d.body true, rest, tracker⟩ =
        Visit.directiveSegments cells tracker d.source d :=
    congrArg
      (Visit.directiveSegments cells tracker d.source) hBody
  have hSettled :
      Visit.IsSettled cells
        ⟨.placeholder d.body true, rest, tracker⟩ := by
    refine ⟨rfl, ?_⟩
    rw [hMove]
    exact hSettles
  rw [← hMove] at hMore
  rw [run_of_more (Directive.next?_source_append hSound rest)
    hMore]
  unfold Visit.act
  rw [Visit.records_of_isSettled hSettled, hSegments]
  rfl

------------------------------------------------------------
-- Markers
------------------------------------------------------------

/- What a marker makes of a sink when it closes a block. -/
def closeSink
    (block : Block)
    (sink : Sink) : Sink :=
  if block = .color then sink.reset else sink

/- The marker of a guard writes nothing. -/
@[simp]
theorem closeSink_guardBlock
    (negated : Bool)
    (sink : Sink) :
    closeSink (guardBlock negated) sink = sink := by
  cases negated <;> rfl

/- A marker closes a block of its kind that is open. -/
theorem run_marker
    {block : Block}
    (hCount : tracker.openCount block < Tracker.maxCount)
    (more : List Char)
    (sink : Sink) :
    run cells (block.marker ++ more) (tracker.open block)
        sink =
      run cells more tracker (closeSink block sink) := by
  have hSound : (Directive.close block).IsSound := trivial
  have hOpen : (tracker.open block).openCount block ≠ 0 := by
    rw [Tracker.openCount_open hCount]
    simp
  have hMove :
      Visit.directiveMove cells (tracker.open block)
          (.close block) =
        .leave block :=
    if_neg hOpen
  have hSettles :
      (Visit.directiveMove cells (tracker.open block)
        (.close block)).Settles more := by
    rw [hMove]
    trivial
  have hMore :
      (Visit.directiveMove cells (tracker.open block)
          (.close block)).next? more (tracker.open block) =
        some (more, tracker) := by
    rw [hMove]
    simp only [Move.next?, Tracker.close?_open hCount,
      Option.getD_some]
  rw [← Directive.source_close,
    run_directive hSound hSettles hMore]
  simp only [Visit.directiveSegments, if_neg hOpen]
  cases block <;> rfl

------------------------------------------------------------
-- Guards
------------------------------------------------------------

/- A reference that names a cell is not empty. -/
theorem isSound_guard
    {reference : List Char}
    {cell : Cell}
    (hReference : '}' ∉ reference)
    (hCell : referent? cells reference = some cell)
    (negated : Bool) :
    (Directive.guard reference negated).IsSound := by
  refine ⟨?_, hReference⟩
  intro hNil
  rw [hNil] at hCell
  cases hCell

/- A guard that holds opens its block and writes nothing. -/
theorem run_guard_of_holds
    {reference : List Char}
    {negated : Bool}
    {cell : Cell}
    (hReference : '}' ∉ reference)
    (hCell : referent? cells reference = some cell)
    (hHolds : cell.isSet ≠ negated)
    (rest : List Char)
    (sink : Sink) :
    run cells
        ((Directive.guard reference negated).source ++ rest)
        tracker sink =
      run cells rest (tracker.open (guardBlock negated))
        sink := by
  have hMove :
      Visit.directiveMove cells tracker
          (.guard reference negated) =
        .enter (guardBlock negated) := by
    simp only [Visit.directiveMove, hCell]
    exact if_pos (bne_iff_ne.mpr hHolds)
  have hSound := isSound_guard hReference hCell negated
  have hSettles :
      (Visit.directiveMove cells tracker
        (.guard reference negated)).Settles rest := by
    rw [hMove]
    trivial
  rw [run_directive hSound hSettles
    (congrArg (Move.next? rest tracker) hMove)]
  simp only [Visit.directiveSegments, hCell, List.foldl_nil]

/- A guard that fails skips past the marker of its block. -/
theorem run_guard_of_fails
    {reference rest left : List Char}
    {negated : Bool}
    {cell : Cell}
    (hReference : '}' ∉ reference)
    (hCell : referent? cells reference = some cell)
    (hFails : cell.isSet = negated)
    (hSkip :
      Scanner.skipPast (guardBlock negated).marker rest =
        (true, left))
    (sink : Sink) :
    run cells
        ((Directive.guard reference negated).source ++ rest)
        tracker sink =
      run cells left tracker sink := by
  have hMove :
      Visit.directiveMove cells tracker
          (.guard reference negated) =
        .skip (guardBlock negated) := by
    simp only [Visit.directiveMove, hCell]
    apply if_neg
    rw [hFails, bne_self_eq_false]
    exact Bool.false_ne_true
  have hSound := isSound_guard hReference hCell negated
  have hSettles :
      (Visit.directiveMove cells tracker
        (.guard reference negated)).Settles rest := by
    rw [hMove]
    exact congrArg Prod.fst hSkip
  have hMore :
      (Visit.directiveMove cells tracker
          (.guard reference negated)).next? rest tracker =
        some (left, tracker) := by
    rw [hMove]
    simp only [Move.next?, hSkip]
  rw [run_directive hSound hSettles hMore]
  simp only [Visit.directiveSegments, hCell, List.foldl_nil]

------------------------------------------------------------
-- Styles
------------------------------------------------------------

/- A style code switches to its style. -/
theorem run_style
    {code : List Char}
    (hNonempty : code ≠ [])
    (hCode : '}' ∉ code)
    (rest : List Char)
    (sink : Sink) :
    run cells ((Directive.color code).source ++ rest)
        tracker sink =
      run cells rest (tracker.open .color)
        (sink.startStyle code) :=
  run_directive (d := .color code) ⟨hNonempty, hCode⟩
    trivial rfl sink

------------------------------------------------------------
-- References
------------------------------------------------------------

/-
  A reference writes the cell that it names, and otherwise
  itself.
-/
theorem run_reference
    {reference : List Char}
    (hSound : (Directive.argument reference).IsSound)
    (rest : List Char)
    (sink : Sink) :
    run cells ((Directive.argument reference).source ++ rest)
        tracker sink =
      run cells rest tracker
        (match referent? cells reference with
        | some cell => sink.writeCell cell
        | none =>
            sink.write
              (Directive.argument reference).source) := by
  rw [run_directive hSound trivial rfl]
  simp only [Visit.directiveSegments, referent?]
  cases Reference.position? reference with
  | none => rfl
  | some position =>
      have hPut :=
        Visit.put_drawn cells position
          (Directive.argument reference).source sink
      exact congrArg (run cells rest tracker) hPut

end

end Render

end FactLayout
