import FactLayout.Proofs.Render.Directive
import FactLayout.Proofs.Render.Weight

/-
  What blocks do to the text inside.

  A guard that holds leaves the text inside as it is, a
  guard that fails drops it, and a style surrounds it with
  two escape sequences.  The text behind the block goes on
  as if the block were not there.

  Key definitions include:
    * `Visit.Admits`
    * `Matched`
    * `guarded`
    * `styled`

  Main results:
    * `visits_within`
    * `run_within`
    * `run_inside`
    * `render_block`
-/

------------------------------------------------------------
-- Visits Within a Block
------------------------------------------------------------

namespace FactLayout

namespace Render

namespace Visit

/- A visit with one more open block. -/
def within
    (block : Block)
    (v : Visit) : Visit :=
  v.shift fun tracker => tracker.open block

/-
  A marker of a kind of block that finds one to close, or
  anything else.
-/
def IsMatched
    (block : Block)
    (v : Visit) : Prop :=
  v.directive? = some (.close block) →
    v.tracker.openCount block ≠ 0

instance (block : Block) (v : Visit) :
    Decidable (v.IsMatched block) := by
  unfold IsMatched
  infer_instance

/-
  A visit that one more open block does not change: the
  block can still be counted, and it is not the one that the
  visit closes.
-/
def Admits
    (block : Block)
    (v : Visit) : Prop :=
  v.tracker.openCount block < Tracker.maxCount ∧
    v.IsMatched block

/- One more open block leaves the same markers unmatched. -/
theorem keepsMarker_within
    {block : Block}
    {v : Visit}
    (hAdmits : v.Admits block) :
    v.KeepsMarker fun tracker => tracker.open block := by
  intro b hClose
  rcases hAdmits with ⟨hCount, hMatched⟩
  by_cases hKind : b = block
  · subst hKind
    have hOpen := hMatched hClose
    rw [Tracker.openCount_open hCount]
    simp [hOpen]
  · rw [Tracker.openCount_open_of_ne hKind]

/- A visit only leaves a block that is open. -/
theorem openCount_ne_zero_of_leave
    {cells : List Cell}
    {v : Visit}
    {b : Block}
    (hLeave : v.move cells = .leave b) :
    v.tracker.openCount b ≠ 0 := by
  rcases v with ⟨token, unread, tracker⟩
  cases token with
  | placeholder body closed =>
      simp only [move] at hLeave
      cases hDirective : Directive.ofBody body with
      | close c =>
          simp only [hDirective, directiveMove] at hLeave
          split at hLeave
          · cases hLeave
          · rename_i hOpen
            cases hLeave
            exact hOpen
      | guard reference negated =>
          simp only [hDirective, directiveMove] at hLeave
          split at hLeave
          · cases hLeave
          · split at hLeave <;> cases hLeave
      | _ => simp [hDirective, directiveMove] at hLeave
  | _ => cases hLeave

/- One more open block stays open behind the visit. -/
theorem inStep_within
    {block : Block}
    {v : Visit}
    (hAdmits : v.Admits block)
    (cells : List Cell) :
    v.InStep cells cells fun tracker =>
      tracker.open block := by
  unfold InStep next?
  rw [move_shift (keepsMarker_within hAdmits)]
  cases hMove : v.move cells with
  | stay => rfl
  | advance =>
      exact congrArg (fun t => some (v.unread, t))
        (v.tracker.advance_open block)
  | enter b =>
      exact congrArg (fun t => some (v.unread, t))
        (v.tracker.open_comm block b)
  | leave b =>
      cases hClose : v.tracker.close? b with
      | none =>
          exact absurd (Tracker.close?_eq_none_iff.mp hClose)
            (openCount_ne_zero_of_leave hMove)
      | some left =>
          have hOpened :
              (v.tracker.open block).close? b =
                some (left.open block) :=
            Tracker.close?_open_comm hClose hAdmits.1
          simp only [shift, Move.next?, hOpened, hClose,
            Option.getD_some, Option.map_some]
  | skip b => rfl
  | stop => rfl

end Visit

------------------------------------------------------------
-- Runs Within a Block
------------------------------------------------------------

section

variable {cells : List Cell}
variable {block : Block}
variable {text : List Char}
variable {tracker : Tracker}

/- The same visits are made within a block. -/
theorem visits_within
    (hAdmits :
      ∀ v ∈ visits cells text tracker, v.Admits block) :
    visits cells text (tracker.open block) =
      (visits cells text tracker).map
        (Visit.within block) := by
  apply visits_shift (f := fun t => t.open block)
  intro v hv
  exact Visit.inStep_within (hAdmits v hv) cells

/-
  A run within a block makes the same of a sink, and leaves
  the block open.
-/
theorem run_within
    (hAdmits :
      ∀ v ∈ visits cells text tracker, v.Admits block)
    (sink : Sink) :
    run cells text (tracker.open block) sink =
      ((run cells text tracker sink).1.open block,
        (run cells text tracker sink).2) := by
  apply run_shift (f := fun t => t.open block)
  · intro v hv
    exact Visit.inStep_within (hAdmits v hv) cells
  · intro v hv
    exact Visit.act_shift
      (Visit.keepsMarker_within (hAdmits v hv))
      (fun _ => v.tracker.position_open block) cells

/- A text that is complete is complete within a block. -/
theorem Complete.within
    (hComplete : Complete cells text tracker)
    (hAdmits :
      ∀ v ∈ visits cells text tracker, v.Admits block) :
    Complete cells text (tracker.open block) := by
  intro w hw
  rw [visits_within hAdmits] at hw
  rcases List.mem_map.mp hw with ⟨v, hv, rfl⟩
  have hSettled := hComplete v hv
  constructor
  · exact hSettled.1
  · unfold Visit.within
    rw [Visit.move_shift
      (Visit.keepsMarker_within (hAdmits v hv))]
    exact hSettled.2

------------------------------------------------------------
-- Markers That Close a Block
------------------------------------------------------------

/-
  Every marker of a kind of block that the run carries out
  finds a block to close.  It may be one that was opened in
  front of the text.
-/
def Matched
    (cells : List Cell)
    (block : Block)
    (text : List Char)
    (tracker : Tracker) : Prop :=
  ∀ v ∈ visits cells text tracker, v.IsMatched block

instance (cells : List Cell) (block : Block)
    (text : List Char) (tracker : Tracker) :
    Decidable (Matched cells block text tracker) := by
  unfold Matched
  infer_instance

/- A short text cannot count up to the largest count. -/
theorem Matched.admits
    (hMatched : Matched cells block text tracker)
    (hShort :
      tracker.weight + text.length < 4 * Tracker.maxCount) :
    ∀ v ∈ visits cells text tracker, v.Admits block := by
  intro v hv
  refine ⟨?_, hMatched v hv⟩
  have hWeight := weight_le_of_mem_visits hv
  have hCount :=
    v.tracker.four_mul_openCount_le_weight block
  omega

/-
  From inside a block, a complete text is run as it is
  outside, and the marker behind it closes the block.
-/
theorem run_inside
    (hComplete : Complete cells text tracker)
    (hMatched : Matched cells block text tracker)
    (hShort :
      tracker.weight + text.length < 4 * Tracker.maxCount)
    (more : List Char)
    (sink : Sink) :
    run cells (text ++ block.marker ++ more)
        (tracker.open block) sink =
      run cells more (after cells text tracker)
        (closeSink block
          (run cells text tracker sink).2) := by
  have hAdmits := hMatched.admits hShort
  have hAfter :
      after cells text (tracker.open block) =
        (after cells text tracker).open block :=
    congrArg Prod.fst (run_within hAdmits {})
  have hCount :
      (after cells text tracker).openCount block <
        Tracker.maxCount := by
    have hWeight := hComplete.weight_after_le
    have hFour :=
      (after cells text tracker).four_mul_openCount_le_weight
        block
    omega
  rw [List.append_assoc,
    run_append (hComplete.within hAdmits), hAfter,
    run_marker hCount, run_within hAdmits]

end

------------------------------------------------------------
-- Blocks in a Template
------------------------------------------------------------

/- A guard around a piece of template. -/
def guarded
    (reference : List Char)
    (negated : Bool)
    (inner : List Char) : List Char :=
  (Directive.guard reference negated).source ++ inner ++
    (guardBlock negated).marker

/- A style around a piece of template. -/
def styled
    (code inner : List Char) : List Char :=
  (Directive.color code).source ++ inner ++
    Block.color.marker

section

variable {cells : List Cell}
variable {tracker : Tracker}

/- A run past a guard that holds. -/
theorem run_guarded_of_holds
    {reference inner : List Char}
    {negated : Bool}
    {cell : Cell}
    (hReference : '}' ∉ reference)
    (hCell : referent? cells reference = some cell)
    (hHolds : cell.isSet ≠ negated)
    (hInner : Complete cells inner tracker)
    (hMatched :
      Matched cells (guardBlock negated) inner tracker)
    (hShort :
      tracker.weight + inner.length < 4 * Tracker.maxCount)
    (more : List Char)
    (sink : Sink) :
    run cells (guarded reference negated inner ++ more)
        tracker sink =
      run cells (inner ++ more) tracker sink := by
  unfold guarded
  rw [List.append_assoc, List.append_assoc,
    run_guard_of_holds hReference hCell hHolds,
    ← List.append_assoc, run_inside hInner hMatched hShort,
    closeSink_guardBlock, run_append hInner]

/- A run past a guard that fails. -/
theorem run_guarded_of_fails
    {reference inner : List Char}
    {negated : Bool}
    {cell : Cell}
    (hReference : '}' ∉ reference)
    (hCell : referent? cells reference = some cell)
    (hFails : cell.isSet = negated)
    (hInner : ¬ (guardBlock negated).marker <:+: inner)
    (more : List Char)
    (sink : Sink) :
    run cells (guarded reference negated inner ++ more)
        tracker sink =
      run cells more tracker sink := by
  have hSkip := Scanner.skipPast_marker_append hInner more
  unfold guarded
  rw [List.append_assoc, List.append_assoc,
    ← List.append_assoc inner]
  exact run_guard_of_fails hReference hCell hFails hSkip sink

/- A run past a style. -/
theorem run_styled
    {code inner : List Char}
    (hNonempty : code ≠ [])
    (hCode : '}' ∉ code)
    (hInner : Complete cells inner tracker)
    (hMatched : Matched cells .color inner tracker)
    (hShort :
      tracker.weight + inner.length < 4 * Tracker.maxCount)
    (more : List Char)
    (sink : Sink) :
    run cells (styled code inner ++ more) tracker sink =
      run cells more (after cells inner tracker)
        (run cells inner tracker
          (sink.startStyle code)).2.reset := by
  unfold styled
  rw [List.append_assoc, List.append_assoc,
    run_style hNonempty hCode, ← List.append_assoc,
    run_inside hInner hMatched hShort]
  rfl

/-
  In a template that is not too large, what stands in front
  of a marker cannot count up to the largest count.
-/
theorem weight_add_length_lt
    {front inner template : List Char}
    (hFront : Complete cells front Tracker.fresh)
    (hLength :
      front.length + inner.length + 3 ≤ template.length)
    (hSize :
      (String.ofList template).utf8ByteSize ≤
        maxTemplateSize) :
    (after cells front Tracker.fresh).weight +
        inner.length <
      4 * Tracker.maxCount := by
  have hWeight := hFront.weight_after_le
  have hFresh : Tracker.fresh.weight = 0 := rfl
  have hBytes := length_le_utf8ByteSize template
  unfold maxTemplateSize at hSize
  omega

/-
  A guard that holds is transparent, a guard that fails
  drops what it guards, and a style puts its sequence in
  front of what it styles and a reset behind.  The text
  behind a block goes on in each case from the tracker that
  it would start from without the marks of the block.
-/
theorem render_block
    {front : List Char}
    (hFront : Complete cells front Tracker.fresh)
    (inner back : List Char) :
    (∀ reference negated cell,
      '}' ∉ reference →
      referent? cells reference = some cell →
      (cell.isSet ≠ negated →
        Complete cells inner
          (after cells front Tracker.fresh) →
        Matched cells (guardBlock negated) inner
          (after cells front Tracker.fresh) →
        (String.ofList
            (front ++ guarded reference negated inner ++
              back)).utf8ByteSize ≤ maxTemplateSize →
        render
            (String.ofList
              (front ++ guarded reference negated inner ++
                back)) cells =
          render (String.ofList (front ++ inner ++ back))
            cells) ∧
      (cell.isSet = negated →
        ¬ (guardBlock negated).marker <:+: inner →
        render
            (String.ofList
              (front ++ guarded reference negated inner ++
                back)) cells =
          render (String.ofList (front ++ back)) cells)) ∧
    (∀ code,
      code ≠ [] →
      '}' ∉ code →
      Complete cells inner
        (after cells front Tracker.fresh) →
      Matched cells .color inner
        (after cells front Tracker.fresh) →
      (String.ofList
          (front ++ styled code inner ++
            back)).utf8ByteSize ≤ maxTemplateSize →
      ∃ behind : String,
        (render (String.ofList (front ++ inner ++ back))
            cells).output =
          written cells front Tracker.fresh ++
            written cells inner
              (after cells front Tracker.fresh) ++
            behind ∧
        (render
            (String.ofList
              (front ++ styled code inner ++ back))
            cells).output =
          written cells front Tracker.fresh ++
            String.ofList (Sink.styleSequence code) ++
            written cells inner
              (after cells front Tracker.fresh) ++
            String.ofList Sink.resetSequence ++
            behind) := by
  constructor
  · intro reference negated cell hReference hCell
    constructor
    · intro hHolds hInner hMatched hSize
      have hShort :
          (after cells front Tracker.fresh).weight +
              inner.length <
            4 * Tracker.maxCount := by
        refine weight_add_length_lt hFront ?_ hSize
        simp only [guarded, List.length_append,
          Block.length_marker]
        omega
      rw [List.append_assoc, List.append_assoc,
        render_append hFront, render_append hFront,
        run_guarded_of_holds hReference hCell hHolds hInner
          hMatched hShort]
    · intro hFails hInner
      rw [List.append_assoc, render_append hFront,
        render_append hFront,
        run_guarded_of_fails hReference hCell hFails hInner]
  · intro code hNonempty hCode hInner hMatched hSize
    have hShort :
        (after cells front Tracker.fresh).weight +
            inner.length <
          4 * Tracker.maxCount := by
      refine weight_add_length_lt hFront ?_ hSize
      simp only [styled, List.length_append,
        Block.length_marker]
      omega
    refine ⟨written cells back
      (after cells inner
        (after cells front Tracker.fresh)) ++
      String.ofList Sink.resetSequence, ?_, ?_⟩
    · rw [List.append_assoc, render_append hFront,
        run_append hInner]
      simp only [Sink.reset, Sink.output_write, output_run,
        String.empty_append, String.append_assoc]
    · rw [List.append_assoc, render_append hFront,
        run_styled hNonempty hCode hInner hMatched hShort]
      simp only [Sink.reset, Sink.startStyle,
        Sink.output_write, output_run, String.empty_append,
        String.append_assoc]

/-
  A piece that closes a style opened in front of it, behind
  a guard that holds, behind one that fails, and in a style
  of its own.
-/
theorem render_block_closing_outer_style :
    Complete [.string "x"] "\x7b#1\x7da".toList
        Tracker.fresh ∧
      render
          (String.ofList
            ("\x7b#1\x7da".toList ++
              guarded ['1'] false
                "\x7b?1\x7db\x7b?\x7d\x7b#\x7dc".toList ++
              "\x7b\x7d".toList)) [.string "x"] =
        render
          (String.ofList
            ("\x7b#1\x7da".toList ++
              "\x7b?1\x7db\x7b?\x7d\x7b#\x7dc".toList ++
              "\x7b\x7d".toList)) [.string "x"] ∧
      render
          (String.ofList
            ("\x7b#1\x7da".toList ++
              guarded ['1'] true
                "\x7b?1\x7db\x7b?\x7d\x7b#\x7dc".toList ++
              "\x7b\x7d".toList)) [.string "x"] =
        render
          (String.ofList
            ("\x7b#1\x7da".toList ++ "\x7b\x7d".toList))
          [.string "x"] ∧
      ∃ behind : String,
        (render
            (String.ofList
              ("\x7b#1\x7da".toList ++
                "\x7b?1\x7db\x7b?\x7d\x7b#\x7dc".toList ++
                "\x7b\x7d".toList)) [.string "x"]).output =
          written [.string "x"] "\x7b#1\x7da".toList
              Tracker.fresh ++
            written [.string "x"]
              "\x7b?1\x7db\x7b?\x7d\x7b#\x7dc".toList
              (after [.string "x"] "\x7b#1\x7da".toList
                Tracker.fresh) ++
            behind ∧
        (render
            (String.ofList
              ("\x7b#1\x7da".toList ++
                styled ['4']
                  "\x7b?1\x7db\x7b?\x7d\x7b#\x7dc".toList ++
                "\x7b\x7d".toList)) [.string "x"]).output =
          written [.string "x"] "\x7b#1\x7da".toList
              Tracker.fresh ++
            String.ofList (Sink.styleSequence ['4']) ++
            written [.string "x"]
              "\x7b?1\x7db\x7b?\x7d\x7b#\x7dc".toList
              (after [.string "x"] "\x7b#1\x7da".toList
                Tracker.fresh) ++
            String.ofList Sink.resetSequence ++
            behind := by
  have hFront :
      Complete [.string "x"] "\x7b#1\x7da".toList
        Tracker.fresh := by
    decide +kernel
  have hInner :
      Complete [.string "x"]
        "\x7b?1\x7db\x7b?\x7d\x7b#\x7dc".toList
        (after [.string "x"] "\x7b#1\x7da".toList
          Tracker.fresh) := by
    decide +kernel
  have hBlock :=
    render_block hFront
      "\x7b?1\x7db\x7b?\x7d\x7b#\x7dc".toList
      "\x7b\x7d".toList
  refine ⟨hFront, ?_, ?_, ?_⟩
  · exact
      (hBlock.1 ['1'] false (.string "x") (by decide)
        rfl).1 (by decide +kernel) hInner (by decide +kernel)
        (by decide +kernel)
  · exact
      (hBlock.1 ['1'] true (.string "x") (by decide)
        rfl).2 (by decide +kernel) (by decide +kernel)
  · exact
      hBlock.2 ['4'] (by decide) (by decide) hInner
        (by decide +kernel) (by decide +kernel)

end

end Render

end FactLayout
