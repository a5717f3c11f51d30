import FactLayout.Proofs.Render.Visit
import Mathlib.Data.List.Forall2

/-
  What a rendering depends on.

  The visits of a run depend on the cells only through their
  number and through which of them are set.  So a template
  and these flags fix a skeleton of texts and positions, and
  a rendering fills the skeleton with the texts of the
  cells.  No text of a cell is ever read as a template.

  Key definitions include:
    * `flags`
    * `segments`
    * `skeleton`
    * `Cell.Rewraps`

  Main results:
    * `visits_congr`
    * `output_render`
    * `render_of_rewraps`
    * `render_skeleton`
-/

------------------------------------------------------------
-- Cells That Are Alike
------------------------------------------------------------

namespace FactLayout

namespace Cell

/- A cell that is set or not, as told. -/
def ofFlag : Bool → Cell
| true => .bool true
| false => .null

@[simp]
theorem isSet_ofFlag
    (set : Bool) :
    (ofFlag set).isSet = set := by
  cases set <;> rfl

/- The same cell, or the same text in a buffer. -/
def Rewraps (cell other : Cell) : Prop :=
  other = cell ∨
    ∃ text, cell = .string text ∧ other = .strbuf text

theorem Rewraps.isSet_eq
    {cell other : Cell}
    (hRewraps : cell.Rewraps other) :
    cell.isSet = other.isSet := by
  rcases hRewraps with rfl | ⟨text, rfl, rfl⟩
  · rfl
  · rfl

theorem Rewraps.writeCell_eq
    {cell other : Cell}
    (hRewraps : cell.Rewraps other)
    (sink : Sink) :
    sink.writeCell cell = sink.writeCell other := by
  rcases hRewraps with rfl | ⟨text, rfl, rfl⟩
  · rfl
  · rfl

end Cell

namespace Render

------------------------------------------------------------
-- Flags
------------------------------------------------------------

/- Which of the cells are set. -/
def flags (cells : List Cell) : List Bool :=
  cells.map Cell.isSet

@[simp]
theorem length_flags
    (cells : List Cell) :
    (flags cells).length = cells.length := by
  simp [flags]

@[simp]
theorem flags_ofFlag
    (set : List Bool) :
    flags (set.map Cell.ofFlag) = set := by
  simp [flags, Function.comp_def]

/- Cells with the same flags are equal in number. -/
theorem length_eq_of_flags
    {cells others : List Cell}
    (hFlags : flags cells = flags others) :
    cells.length = others.length := by
  rw [← length_flags cells, hFlags, length_flags]

/- Whether the cell that a reference names is set. -/
theorem map_isSet_referent?
    (cells : List Cell)
    (reference : List Char) :
    (referent? cells reference).map Cell.isSet =
      (Reference.position? reference).bind
        fun position => (flags cells)[position]? := by
  unfold referent? flags
  cases Reference.position? reference with
  | none => rfl
  | some position => simp

------------------------------------------------------------
-- Visits of Cells With the Same Flags
------------------------------------------------------------

section

variable {cells others : List Cell}

/-
  A reference names no cell among either, or two cells that
  are both set or both not.
-/
theorem referent?_congr
    (hFlags : flags cells = flags others)
    (reference : List Char) :
    referent? cells reference = none ∧
        referent? others reference = none ∨
      ∃ cell other,
        referent? cells reference = some cell ∧
          referent? others reference = some other ∧
          cell.isSet = other.isSet := by
  have hSet :
      (referent? cells reference).map Cell.isSet =
        (referent? others reference).map Cell.isSet := by
    rw [map_isSet_referent?, map_isSet_referent?, hFlags]
  cases hCell : referent? cells reference with
  | none =>
      left
      rw [hCell, Option.map_none, eq_comm,
        Option.map_eq_none_iff] at hSet
      exact ⟨rfl, hSet⟩
  | some cell =>
      right
      rw [hCell, Option.map_some, eq_comm,
        Option.map_eq_some_iff] at hSet
      rcases hSet with ⟨other, hOther, hSame⟩
      exact ⟨cell, other, rfl, hOther, hSame.symm⟩

namespace Visit

theorem directiveMove_congr
    (hFlags : flags cells = flags others)
    (tracker : Tracker)
    (d : Directive) :
    directiveMove cells tracker d =
      directiveMove others tracker d := by
  cases d with
  | guard reference negated =>
      simp only [directiveMove]
      rcases referent?_congr hFlags reference with
        ⟨hCell, hOther⟩ | ⟨cell, other, hCell, hOther, hSame⟩
      · rw [hCell, hOther]
      · rw [hCell, hOther]
        simp only [hSame]
  | _ => rfl

/- The move reads the flags only. -/
theorem move_congr
    (hFlags : flags cells = flags others)
    (v : Visit) :
    v.move cells = v.move others := by
  unfold move
  split
  · rfl
  · rfl
  · rfl
  · exact directiveMove_congr hFlags _ _

theorem drawn_congr
    (hFlags : flags cells = flags others)
    (position : Nat)
    (otherwise : List Char) :
    drawn cells position otherwise =
      drawn others position otherwise := by
  unfold drawn
  rw [length_eq_of_flags hFlags]

theorem directiveSegments_congr
    (hFlags : flags cells = flags others)
    (tracker : Tracker)
    (source : List Char)
    (d : Directive) :
    directiveSegments cells tracker source d =
      directiveSegments others tracker source d := by
  cases d with
  | guard reference negated =>
      simp only [directiveSegments]
      rcases referent?_congr hFlags reference with
        ⟨hCell, hOther⟩ | ⟨cell, other, hCell, hOther, -⟩
      · rw [hCell, hOther]
      · rw [hCell, hOther]
  | argument reference =>
      simp only [directiveSegments, drawn_congr hFlags]
  | _ => rfl

/- The segments read the flags only. -/
theorem segments_congr
    (hFlags : flags cells = flags others)
    (v : Visit) :
    v.segments cells = v.segments others := by
  unfold segments
  split
  · rfl
  · rfl
  · rw [drawn_congr hFlags]
  · exact directiveSegments_congr hFlags _ _ _

/- The records read the flags only. -/
theorem records_congr
    (hFlags : flags cells = flags others)
    (v : Visit) :
    v.records cells = v.records others := by
  unfold records
  rw [move_congr hFlags]

/- Visits are in step if their cells have the same flags. -/
theorem inStep_of_flags
    (hFlags : flags cells = flags others)
    (v : Visit) :
    v.InStep cells others id := by
  have hMove : (v.shift id).move others = v.move cells :=
    (move_congr hFlags v).symm
  unfold InStep next?
  rw [hMove]
  exact Option.map_id'.symm

end Visit

/-
  Runs over cells with the same flags make the same visits.
-/
theorem visits_congr
    (hFlags : flags cells = flags others)
    (text : List Char)
    (tracker : Tracker) :
    visits cells text tracker =
      visits others text tracker := by
  have hVisits :
      visits others text tracker =
        (visits cells text tracker).map (Visit.shift id) := by
    apply visits_shift (f := id)
    intro v _
    exact Visit.inStep_of_flags hFlags v
  have hSame :
      (visits cells text tracker).map (Visit.shift id) =
        visits cells text tracker :=
    List.map_id _
  rw [hVisits, hSame]

end

------------------------------------------------------------
-- Segments of a Run
------------------------------------------------------------

/- The segments that a run puts into a sink, in order. -/
def segments
    (cells : List Cell)
    (text : List Char)
    (tracker : Tracker) : List Segment :=
  (visits cells text tracker).flatMap (Visit.segments cells)

/- A fixed text, or the position of one of so many cells. -/
def Segment.IsWithin
    (count : Nat) : Segment → Prop
| text _ => True
| cell position => position < count

theorem Segment.isWithin_of_mem_text
    {count : Nat}
    {t : List Char}
    {s : Segment}
    (hSegment : s ∈ [text t]) :
    s.IsWithin count := by
  rw [List.mem_singleton.mp hSegment]
  trivial

namespace Visit

variable {cells : List Cell}

theorem isWithin_of_mem_drawn
    {position : Nat}
    {otherwise : List Char}
    {s : Segment}
    (hSegment : s ∈ [drawn cells position otherwise]) :
    s.IsWithin cells.length := by
  rw [List.mem_singleton.mp hSegment]
  unfold drawn
  split
  · assumption
  · trivial

/- A directive draws no cell from outside the list. -/
theorem isWithin_of_mem_directiveSegments
    {tracker : Tracker}
    {source : List Char}
    {d : Directive}
    {s : Segment}
    (hSegment :
      s ∈ directiveSegments cells tracker source d) :
    s.IsWithin cells.length := by
  cases d with
  | stop => cases hSegment
  | close block =>
      simp only [directiveSegments] at hSegment
      split at hSegment
      · exact Segment.isWithin_of_mem_text hSegment
      · split at hSegment
        · exact Segment.isWithin_of_mem_text hSegment
        · cases hSegment
  | guard reference negated =>
      simp only [directiveSegments] at hSegment
      split at hSegment
      · exact Segment.isWithin_of_mem_text hSegment
      · cases hSegment
  | color code =>
      exact Segment.isWithin_of_mem_text hSegment
  | argument reference =>
      simp only [directiveSegments] at hSegment
      split at hSegment
      · exact Segment.isWithin_of_mem_text hSegment
      · exact isWithin_of_mem_drawn hSegment

/- A visit draws no cell from outside the list. -/
theorem isWithin_of_mem_segments
    {v : Visit}
    {s : Segment}
    (hSegment : s ∈ v.segments cells) :
    s.IsWithin cells.length := by
  unfold segments at hSegment
  split at hSegment
  · exact Segment.isWithin_of_mem_text hSegment
  · exact Segment.isWithin_of_mem_text hSegment
  · exact isWithin_of_mem_drawn hSegment
  · exact isWithin_of_mem_directiveSegments hSegment

end Visit

/- A run draws no cell from outside the list. -/
theorem isWithin_of_mem_segments
    {cells : List Cell}
    {text : List Char}
    {tracker : Tracker}
    {s : Segment}
    (hSegment : s ∈ segments cells text tracker) :
    s.IsWithin cells.length := by
  rcases List.mem_flatMap.mp hSegment with ⟨v, -, hv⟩
  exact Visit.isWithin_of_mem_segments hv

/- Runs over cells with the same flags put the same. -/
theorem segments_congr
    {cells others : List Cell}
    (hFlags : flags cells = flags others)
    (text : List Char)
    (tracker : Tracker) :
    segments cells text tracker =
      segments others text tracker := by
  unfold segments
  rw [visits_congr hFlags]
  congr 1
  funext v
  exact Visit.segments_congr hFlags v

/- Segments filled with the texts of the cells. -/
def fill
    (cells : List Cell)
    (segments : List Segment) : String :=
  String.join (segments.map (Segment.fill cells))

/- A text writes its segments, filled. -/
theorem written_eq_fill
    (cells : List Cell)
    (text : List Char)
    (tracker : Tracker) :
    written cells text tracker =
      fill cells (segments cells text tracker) := by
  rw [written_eq_join]
  unfold segments fill
  induction visits cells text tracker with
  | nil => rfl
  | cons v later ih =>
      rw [List.map_cons, String.join_cons, ih,
        List.flatMap_cons, List.map_append,
        String.join_append]
      rfl

------------------------------------------------------------
-- Skeletons
------------------------------------------------------------

/-
  The segments of a template for given flags.  Cells that
  have these flags and no text of their own stand in for
  those that will be filled in.
-/
def skeleton
    (template : String)
    (set : List Bool) : List Segment :=
  segments (set.map Cell.ofFlag) template.toList
    Tracker.fresh

/- A skeleton draws no cell from outside the list. -/
theorem isWithin_of_mem_skeleton
    {template : String}
    {set : List Bool}
    {s : Segment}
    (hSegment : s ∈ skeleton template set) :
    s.IsWithin set.length := by
  have hWithin := isWithin_of_mem_segments hSegment
  rw [List.length_map] at hWithin
  exact hWithin

/- The skeleton of a template is that of its rendering. -/
theorem skeleton_flags
    (template : String)
    (cells : List Cell) :
    skeleton template (flags cells) =
      segments cells template.toList Tracker.fresh :=
  segments_congr (flags_ofFlag (flags cells)) _ _

/- A rendering fills the skeleton and restores the style. -/
theorem output_render
    (template : String)
    (cells : List Cell) :
    (render template cells).output =
      fill cells (skeleton template (flags cells)) ++
        String.ofList Sink.resetSequence := by
  rw [skeleton_flags, ← written_eq_fill]
  rfl

------------------------------------------------------------
-- Text in a Buffer
------------------------------------------------------------

section

variable {cells others : List Cell}

theorem flags_of_rewraps
    (hRewraps : List.Forall₂ Cell.Rewraps cells others) :
    flags cells = flags others := by
  unfold flags
  induction hRewraps with
  | nil => rfl
  | cons hCell _ ih =>
      rw [List.map_cons, List.map_cons, hCell.isSet_eq, ih]

theorem Segment.put_of_rewraps
    (hRewraps : List.Forall₂ Cell.Rewraps cells others)
    (sink : Sink)
    (s : Segment) :
    s.put cells sink = s.put others sink := by
  cases s with
  | text t => rfl
  | cell position =>
      simp only [put]
      induction hRewraps generalizing position with
      | nil => rfl
      | cons hCell _ ih =>
          cases position with
          | zero => exact hCell.writeCell_eq sink
          | succ position => exact ih position

theorem Visit.act_of_rewraps
    (hRewraps : List.Forall₂ Cell.Rewraps cells others)
    (v : Visit)
    (sink : Sink) :
    v.act cells sink = v.act others sink := by
  have hFlags := flags_of_rewraps hRewraps
  unfold act
  rw [records_congr hFlags, segments_congr hFlags]
  congr 1
  apply List.foldl_ext
  intro t s _
  exact Segment.put_of_rewraps hRewraps t s

/- Text is rendered alike whether in a buffer or not. -/
theorem render_of_rewraps
    (hRewraps : List.Forall₂ Cell.Rewraps cells others)
    (template : String) :
    render template cells = render template others := by
  have hFlags := flags_of_rewraps hRewraps
  have hRun :
      run others template.toList Tracker.fresh {} =
        run cells template.toList Tracker.fresh {} := by
    apply run_shift (f := id)
    · intro v _
      exact Visit.inStep_of_flags hFlags v
    · intro v _ sink
      exact (Visit.act_of_rewraps hRewraps v sink).symm
  unfold render renderInto
  rw [hRun]

end

------------------------------------------------------------
-- Cells Are Never Interpreted
------------------------------------------------------------

/-
  A template and the flags of the cells fix a skeleton,
  whose positions lie within the list.  Every rendering is
  its skeleton, filled with the texts of the cells.  Cells
  with the same flags fill the same skeleton, and putting
  text in a buffer changes nothing.
-/
theorem render_skeleton
    (template : String) :
    (∀ set position,
      .cell position ∈ skeleton template set →
      position < set.length) ∧
    (∀ cells,
      (render template cells).output =
        fill cells (skeleton template (flags cells)) ++
          String.ofList Sink.resetSequence) ∧
    (∀ cells others,
      flags cells = flags others →
      (render template others).output =
        fill others (skeleton template (flags cells)) ++
          String.ofList Sink.resetSequence) ∧
    (∀ cells others,
      List.Forall₂ Cell.Rewraps cells others →
      render template cells = render template others) := by
  refine ⟨?_, output_render template, ?_, ?_⟩
  · intro set position hPosition
    exact isWithin_of_mem_skeleton hPosition
  · intro cells others hFlags
    rw [hFlags]
    exact output_render template others
  · intro cells others hRewraps
    exact render_of_rewraps hRewraps template

/-
  Cells whose texts read like a stop, like a reference and
  like an escape sequence.
-/
theorem render_skeleton_directives_in_cells :
    0 < [true, false].length ∧
      (render "\x7b?1\x7d\x7b1\x7d\x7b?\x7d\x7b2\x7d"
          [.string "\x7b-\x7d",
            .list ["\x7b1\x7d", "\x1b[1m"]]).output =
        fill
            [.string "\x7b-\x7d",
              .list ["\x7b1\x7d", "\x1b[1m"]]
            (skeleton
              "\x7b?1\x7d\x7b1\x7d\x7b?\x7d\x7b2\x7d"
              (flags [.uint8 1, .null])) ++
          String.ofList Sink.resetSequence ∧
      render "\x7b?1\x7d\x7b1\x7d\x7b?\x7d\x7b2\x7d"
          [.string "\x7b-\x7d", .null] =
        render "\x7b?1\x7d\x7b1\x7d\x7b?\x7d\x7b2\x7d"
          [.strbuf "\x7b-\x7d", .null] := by
  have hRender :=
    render_skeleton
      "\x7b?1\x7d\x7b1\x7d\x7b?\x7d\x7b2\x7d"
  refine ⟨?_, ?_, ?_⟩
  · exact hRender.1 [true, false] 0 (by decide +kernel)
  · exact hRender.2.2.1 [.uint8 1, .null] _
      (by decide +kernel)
  · exact hRender.2.2.2 _ _
      (.cons (.inr ⟨_, rfl, rfl⟩) (.cons (.inl rfl) .nil))

end Render

end FactLayout
