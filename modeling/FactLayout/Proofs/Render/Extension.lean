import FactLayout.Proofs.Render.Skeleton

/-
  Rendering with more cells.

  A run asks for cells by position.  As long as every cell
  that it asks for is there, the cells behind them are never
  looked at, and a longer list of cells makes the same
  visits and leaves the same sink.  Only what is visited
  counts: text that is skipped, or that lies behind a stop,
  may refer to anything.

  Key definitions include:
    * `Reference.IsWithin`
    * `Directive.IsWithin`
    * `Visit.IsWithin`

  Main results:
    * `Visit.inStep_append`
    * `Visit.act_append`
    * `run_append_cells`
    * `render_append_cells`
-/

------------------------------------------------------------
-- References Within the List
------------------------------------------------------------

namespace FactLayout

/- A text that names one of so many cells, or none at all. -/
def Reference.IsWithin
    (count : Nat)
    (text : List Char) : Prop :=
  ∀ position ∈ position? text, position < count

instance (count : Nat) (text : List Char) :
    Decidable (Reference.IsWithin count text) :=
  inferInstanceAs
    (Decidable
      (∀ position ∈ Reference.position? text,
        position < count))

/- A directive whose reference, if any, names a cell. -/
def Directive.IsWithin
    (count : Nat) : Directive → Prop
| guard reference _ => Reference.IsWithin count reference
| argument reference => Reference.IsWithin count reference
| _ => True

instance (count : Nat) :
    (d : Directive) → Decidable (d.IsWithin count)
| .stop => .isTrue trivial
| .close _ => .isTrue trivial
| .guard reference _ =>
    inferInstanceAs
      (Decidable (Reference.IsWithin count reference))
| .color _ => .isTrue trivial
| .argument reference =>
    inferInstanceAs
      (Decidable (Reference.IsWithin count reference))

namespace Render

/- A visit that asks for no cell but one of so many. -/
def Visit.IsWithin
    (count : Nat)
    (v : Visit) : Prop :=
  match v.token with
  | .empty _ => v.tracker.position < count
  | .placeholder body _ =>
      (Directive.ofBody body).IsWithin count
  | _ => True

instance (count : Nat) :
    (v : Visit) → Decidable (v.IsWithin count)
| ⟨.literal _, _, _⟩ => .isTrue trivial
| ⟨.brace, _, _⟩ => .isTrue trivial
| ⟨.empty _, _, tracker⟩ =>
    inferInstanceAs (Decidable (tracker.position < count))
| ⟨.placeholder body _, _, _⟩ =>
    inferInstanceAs
      (Decidable ((Directive.ofBody body).IsWithin count))

------------------------------------------------------------
-- Visits With More Cells
------------------------------------------------------------

section

variable {cells : List Cell}

/- A reference within the list names the same cell. -/
theorem referent?_append
    {reference : List Char}
    (hWithin : Reference.IsWithin cells.length reference)
    (extra : List Cell) :
    referent? (cells ++ extra) reference =
      referent? cells reference := by
  unfold referent?
  cases hPosition : Reference.position? reference with
  | none => rfl
  | some position =>
      exact List.getElem?_append_left
        (hWithin position hPosition)

/- A position within the list is drawn from it. -/
theorem Segment.put_append
    {s : Segment}
    (hWithin : s.IsWithin cells.length)
    (extra : List Cell)
    (sink : Sink) :
    s.put (cells ++ extra) sink = s.put cells sink := by
  cases s with
  | text t => rfl
  | cell position =>
      simp only [put]
      rw [List.getElem?_append_left hWithin]

namespace Visit

theorem drawn_append
    {position : Nat}
    (hPosition : position < cells.length)
    (extra : List Cell)
    (otherwise : List Char) :
    drawn (cells ++ extra) position otherwise =
      drawn cells position otherwise := by
  have hLonger : position < (cells ++ extra).length := by
    rw [List.length_append]
    omega
  unfold drawn
  rw [if_pos hPosition, if_pos hLonger]

theorem directiveMove_append
    {d : Directive}
    (hWithin : d.IsWithin cells.length)
    (extra : List Cell)
    (tracker : Tracker) :
    directiveMove (cells ++ extra) tracker d =
      directiveMove cells tracker d := by
  cases d with
  | guard reference negated =>
      simp only [directiveMove]
      rw [referent?_append hWithin]
  | _ => rfl

theorem directiveSegments_append
    {d : Directive}
    (hWithin : d.IsWithin cells.length)
    (extra : List Cell)
    (tracker : Tracker)
    (source : List Char) :
    directiveSegments (cells ++ extra) tracker source d =
      directiveSegments cells tracker source d := by
  cases d with
  | guard reference negated =>
      simp only [directiveSegments]
      rw [referent?_append hWithin]
  | argument reference =>
      simp only [directiveSegments]
      cases hPosition : Reference.position? reference with
      | none => rfl
      | some position =>
          simp only
          rw [drawn_append (hWithin position hPosition)]
  | _ => rfl

variable {v : Visit}

/- A visit within the list moves alike with more cells. -/
theorem move_append
    (hWithin : v.IsWithin cells.length)
    (extra : List Cell) :
    v.move (cells ++ extra) = v.move cells := by
  rcases v with ⟨token, unread, tracker⟩
  cases token with
  | placeholder body closed =>
      exact directiveMove_append hWithin extra tracker
  | _ => rfl

/- A visit within the list puts the same segments. -/
theorem segments_append
    (hWithin : v.IsWithin cells.length)
    (extra : List Cell) :
    v.segments (cells ++ extra) = v.segments cells := by
  rcases v with ⟨token, unread, tracker⟩
  cases token with
  | literal text => rfl
  | brace => rfl
  | empty closed =>
      exact congrArg (fun s => [s])
        (drawn_append hWithin extra _)
  | placeholder body closed =>
      exact
        directiveSegments_append hWithin extra tracker _

/- Visits within the list are in step with more cells. -/
theorem inStep_append
    (hWithin : v.IsWithin cells.length)
    (extra : List Cell) :
    v.InStep cells (cells ++ extra) id := by
  have hMove :
      (v.shift id).move (cells ++ extra) = v.move cells :=
    move_append hWithin extra
  unfold InStep next?
  rw [hMove]
  exact Option.map_id'.symm

/- A visit within the list makes the same of a sink. -/
theorem act_append
    (hWithin : v.IsWithin cells.length)
    (extra : List Cell)
    (sink : Sink) :
    v.act (cells ++ extra) sink = v.act cells sink := by
  have hRecords :
      v.records (cells ++ extra) = v.records cells := by
    unfold records
    rw [move_append hWithin]
  unfold act
  rw [hRecords, segments_append hWithin]
  congr 1
  apply List.foldl_ext
  intro t s hSegment
  exact Segment.put_append
    (isWithin_of_mem_segments hSegment) extra t

end Visit

------------------------------------------------------------
-- Runs With More Cells
------------------------------------------------------------

variable {text : List Char}
variable {tracker : Tracker}

/- A run within the list makes the same visits. -/
theorem visits_append_cells
    (hWithin :
      ∀ v ∈ visits cells text tracker,
        v.IsWithin cells.length)
    (extra : List Cell) :
    visits (cells ++ extra) text tracker =
      visits cells text tracker := by
  have hVisits :
      visits (cells ++ extra) text tracker =
        (visits cells text tracker).map (Visit.shift id) := by
    apply visits_shift (f := id)
    intro v hVisit
    exact Visit.inStep_append (hWithin v hVisit) extra
  have hSame :
      (visits cells text tracker).map (Visit.shift id) =
        visits cells text tracker :=
    List.map_id _
  rw [hVisits, hSame]

/- A run within the list leaves what it left. -/
theorem run_append_cells
    (hWithin :
      ∀ v ∈ visits cells text tracker,
        v.IsWithin cells.length)
    (extra : List Cell)
    (sink : Sink) :
    run (cells ++ extra) text tracker sink =
      run cells text tracker sink := by
  apply run_shift (f := id)
  · intro v hVisit
    exact Visit.inStep_append (hWithin v hVisit) extra
  · intro v hVisit t
    exact Visit.act_append (hWithin v hVisit) extra t

end

------------------------------------------------------------
-- Templates With More Cells
------------------------------------------------------------

/-
  If every empty placeholder, reference and guard that a
  rendering visits names one of the cells, or is no
  reference at all, then cells behind them change neither
  what is visited nor the output and the records.
-/
theorem render_append_cells
    (template : String)
    (cells : List Cell)
    (hWithin :
      ∀ v ∈ visits cells template.toList Tracker.fresh,
        v.IsWithin cells.length)
    (extra : List Cell) :
    render template (cells ++ extra) =
        render template cells ∧
      visits (cells ++ extra) template.toList Tracker.fresh =
        visits cells template.toList Tracker.fresh := by
  refine ⟨?_, visits_append_cells hWithin extra⟩
  unfold render renderInto
  rw [run_append_cells hWithin]

/-
  References from outside the list in text that is skipped
  and in text behind a stop, a reference to zero, and a draw
  that is reported.
-/
theorem render_append_cells_skipped_references :
    (∀ v ∈
        visits [.unsupported "a", .null]
          "\x7b?2\x7d\x7b9\x7d\x7b?\x7d\x7b\x7d\x7b0\x7d\x7b-\x7d\x7b3\x7d".toList
          Tracker.fresh,
        v.IsWithin 2) ∧
      render
          "\x7b?2\x7d\x7b9\x7d\x7b?\x7d\x7b\x7d\x7b0\x7d\x7b-\x7d\x7b3\x7d"
          ([.unsupported "a", .null] ++ [.string "b"]) =
        render
          "\x7b?2\x7d\x7b9\x7d\x7b?\x7d\x7b\x7d\x7b0\x7d\x7b-\x7d\x7b3\x7d"
          [.unsupported "a", .null] := by
  have hWithin :
      ∀ v ∈
        visits [.unsupported "a", .null]
          "\x7b?2\x7d\x7b9\x7d\x7b?\x7d\x7b\x7d\x7b0\x7d\x7b-\x7d\x7b3\x7d".toList
          Tracker.fresh,
        v.IsWithin 2 := by
    decide +kernel
  exact ⟨hWithin,
    (render_append_cells _ _ hWithin [.string "b"]).1⟩

end Render

end FactLayout
