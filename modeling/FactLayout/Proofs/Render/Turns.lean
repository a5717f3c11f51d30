import FactLayout.Proofs.Render.Visit
import FactLayout.Proofs.Template.Marker

/-
  Empty placeholders draw in turn.

  A run counts the empty placeholders it visits.  Each of
  them draws the cell of its turn, whatever other visits lie
  in between, and no other visit counts or depends on the
  count.  What is not visited is skipped by a guard or stands
  behind a stop.

  Key definitions include:
    * `Tracker.withPosition`
    * `Visit.skipped`
    * `turns`

  Main results:
    * `Visit.position_of_next?`
    * `Visit.inStep_withPosition`
    * `position_of_mem_visits`
    * `flatMap_visits`
    * `render_in_turn`
-/

------------------------------------------------------------
-- Positions of Trackers
------------------------------------------------------------

namespace FactLayout

namespace Tracker

/- The same open blocks at another position. -/
def withPosition
    (position : Nat)
    (t : Tracker) : Tracker :=
  { t with position := position }

@[simp]
theorem openCount_withPosition
    (position : Nat)
    (t : Tracker)
    (b : Block) :
    (t.withPosition position).openCount b =
      t.openCount b := by
  cases b <;> rfl

theorem open_withPosition
    (position : Nat)
    (t : Tracker)
    (b : Block) :
    (t.withPosition position).open b =
      (t.open b).withPosition position := by
  cases b <;> rfl

theorem close?_withPosition
    (position : Nat)
    (t : Tracker)
    (b : Block) :
    (t.withPosition position).close? b =
      (t.close? b).map (withPosition position) := by
  have hCount :
      (t.withPosition position).count b = t.count b := by
    cases b <;> rfl
  have hSet : ∀ n,
      (t.withPosition position).setCount b n =
        (t.setCount b n).withPosition position := by
    intro n
    cases b <;> rfl
  unfold close?
  rw [hCount, hSet]
  split <;> rfl

end Tracker

namespace Render

------------------------------------------------------------
-- Visits of Empty Placeholders
------------------------------------------------------------

/- Only an advance moves the position. -/
theorem Move.position_of_next?
    {unread rest : List Char}
    {tracker tracker' : Tracker}
    {m : Move}
    (hNext : m.next? unread tracker = some (rest, tracker')) :
    tracker'.position =
      tracker.position + if m = .advance then 1 else 0 := by
  cases m with
  | stay =>
      cases hNext
      rfl
  | advance =>
      cases hNext
      rfl
  | enter block =>
      cases hNext
      exact tracker.position_open block
  | leave block =>
      cases hNext
      cases hClose : tracker.close? block with
      | none => rfl
      | some left => exact Tracker.position_of_close? hClose
  | skip block =>
      cases hNext
      rfl
  | stop => cases hNext

namespace Visit

theorem directiveMove_ne_advance
    (cells : List Cell)
    (tracker : Tracker)
    (d : Directive) :
    directiveMove cells tracker d ≠ .advance := by
  unfold directiveMove
  cases d with
  | stop => simp
  | color code => simp
  | argument reference => simp
  | close block =>
      simp only
      split <;> simp
  | guard reference negated =>
      simp only
      split
      · simp
      · split <;> simp

section

variable {cells : List Cell}
variable {v : Visit}

/- Exactly the empty placeholders advance. -/
theorem move_eq_advance_iff :
    v.move cells = .advance ↔ v.isEmpty = true := by
  rcases v with ⟨token, unread, tracker⟩
  cases token with
  | literal text => simp [move, isEmpty, Token.isEmpty]
  | brace => simp [move, isEmpty, Token.isEmpty]
  | empty closed => simp [move, isEmpty, Token.isEmpty]
  | placeholder body closed =>
      simp [move, isEmpty, Token.isEmpty,
        directiveMove_ne_advance]

/- An empty placeholder is counted, and nothing else is. -/
theorem position_of_next?
    {rest : List Char}
    {tracker' : Tracker}
    (hNext : v.next? cells = some (rest, tracker')) :
    tracker'.position =
      v.tracker.position + if v.isEmpty then 1 else 0 := by
  rw [Move.position_of_next? hNext]
  simp only [move_eq_advance_iff]

/- An empty placeholder goes on, so a stop is none. -/
theorem isEmpty_of_next?_eq_none
    (hStop : v.next? cells = none) :
    v.isEmpty = false := by
  rw [← Bool.not_eq_true]
  intro hEmpty
  rw [next?, move_eq_advance_iff.mpr hEmpty] at hStop
  cases hStop

/- An empty placeholder writes the cell at its position. -/
theorem output_of_isEmpty
    (hEmpty : v.isEmpty = true) :
    v.output cells =
      ((cells[v.tracker.position]?).map Cell.text).getD
        (String.ofList v.token.source) := by
  rcases v with ⟨token, unread, tracker⟩
  rcases Token.eq_empty_of_isEmpty hEmpty with ⟨closed, rfl⟩
  simp [output, segments, fill_drawn]

------------------------------------------------------------
-- Other Visits
------------------------------------------------------------

/- No marker looks at the position. -/
theorem keepsMarker_withPosition
    (position : Nat) :
    v.KeepsMarker (Tracker.withPosition position) := by
  intro b _
  rw [Tracker.openCount_withPosition]

/-
  What is not an empty placeholder goes on in the same way,
  and leaves the position where it finds it.
-/
theorem inStep_withPosition
    (hOther : v.isEmpty = false)
    (position : Nat) :
    v.InStep cells cells (Tracker.withPosition position) := by
  have hMove : v.move cells ≠ .advance := by
    rw [Ne, move_eq_advance_iff, hOther]
    exact Bool.false_ne_true
  rw [InStep, next?, next?,
    move_shift (keepsMarker_withPosition position)]
  cases hCase : v.move cells with
  | stay => rfl
  | advance => exact absurd hCase hMove
  | enter block =>
      simp [Move.next?, shift, Tracker.open_withPosition]
  | leave block =>
      simp only [Move.next?, shift, Option.map_some,
        Tracker.close?_withPosition]
      cases v.tracker.close? block <;> rfl
  | skip block => rfl
  | stop => rfl

/- Nor does it put anything else into a sink. -/
theorem act_withPosition
    (hOther : v.isEmpty = false)
    (position : Nat)
    (sink : Sink) :
    (v.shift (Tracker.withPosition position)).act cells sink =
      v.act cells sink := by
  apply act_shift (keepsMarker_withPosition position)
  intro hEmpty
  rw [hOther] at hEmpty
  cases hEmpty

end

end Visit

------------------------------------------------------------
-- Turns
------------------------------------------------------------

/- How many empty placeholders are visited. -/
def turns (vs : List Visit) : Nat :=
  vs.countP Visit.isEmpty

section

variable {cells : List Cell}
variable {text : List Char}
variable {tracker : Tracker}

/- The count goes on from the position in front. -/
theorem turns_cons
    (v : Visit)
    (vs : List Visit) :
    turns (v :: vs) =
      turns vs + if v.isEmpty then 1 else 0 :=
  List.countP_cons

/-
  A visit is at the position that the empty placeholders in
  front of it have moved on to.
-/
theorem position_of_mem_visits
    {before later : List Visit}
    {v : Visit}
    (hVisits :
      visits cells text tracker = before ++ v :: later) :
    v.tracker.position = tracker.position + turns before := by
  induction text, tracker using run_induction cells
    generalizing before with
  | nil tracker =>
      rw [visits_nil] at hVisits
      cases before <;> cases hVisits
  | stop text tracker token unread hNext hStop =>
      rw [visits_of_stop hNext hStop] at hVisits
      cases before with
      | nil =>
          cases hVisits
          rfl
      | cons first before =>
          have hNone := (List.cons.inj hVisits).2
          cases before <;> cases hNone
  | more text tracker token unread rest tracker' hNext
      hMore ih =>
      rw [visits_of_more hNext hMore] at hVisits
      cases before with
      | nil =>
          cases hVisits
          rfl
      | cons first before =>
          rcases List.cons.inj hVisits with ⟨rfl, hLater⟩
          rw [ih hLater, Visit.position_of_next? hMore,
            turns_cons, Nat.add_assoc,
            Nat.add_comm (turns before)]

/- A run moves on by the empty placeholders it visits. -/
theorem position_after
    (cells : List Cell)
    (text : List Char)
    (tracker : Tracker) :
    (after cells text tracker).position =
      tracker.position +
        turns (visits cells text tracker) := by
  induction text, tracker using run_induction cells with
  | nil tracker => simp [turns]
  | stop text tracker token unread hNext hStop =>
      rw [after, run_of_stop hNext hStop,
        visits_of_stop hNext hStop, turns_cons,
        Visit.isEmpty_of_next?_eq_none hStop]
      rfl
  | more text tracker token unread rest tracker' hNext
      hMore ih =>
      rw [after_of_more hNext hMore, ih,
        visits_of_more hNext hMore, turns_cons,
        Visit.position_of_next? hMore, Nat.add_assoc,
        Nat.add_comm (turns _)]

------------------------------------------------------------
-- What Is Not Visited
------------------------------------------------------------

/-
  The text that a visit passes over: the block of a guard
  that does not hold, up to its marker, and all that is
  behind a stop.
-/
def Visit.skipped
    (cells : List Cell)
    (v : Visit) : List Char :=
  match v.move cells with
  | .skip block =>
      v.unread.take (v.unread.length -
        (Scanner.skipPast block.marker v.unread).2.length)
  | .stop => v.unread
  | _ => []

/- Skipping leaves the end of a text. -/
theorem Scanner.skipPast_suffix
    (marker text : List Char) :
    (Scanner.skipPast marker text).2 <:+ text := by
  unfold Scanner.skipPast
  split
  · rename_i hBehind
    rcases Scanner.exists_eq_append_of_behind? hBehind with
      ⟨before, hText, -⟩
    exact ⟨before ++ marker, hText.symm⟩
  · exact List.nil_suffix

/- A run goes on behind what its visit skips. -/
theorem Visit.skipped_append
    {v : Visit}
    {rest : List Char}
    {tracker' : Tracker}
    (hNext : v.next? cells = some (rest, tracker')) :
    v.skipped cells ++ rest = v.unread := by
  unfold Visit.next? at hNext
  unfold Visit.skipped
  cases hMove : v.move cells with
  | skip block =>
      rw [hMove] at hNext
      cases hNext
      have hDrop :=
        List.suffix_iff_eq_drop.mp
          (Scanner.skipPast_suffix block.marker v.unread)
      have hSplit :=
        List.take_append_drop
          (v.unread.length -
            (Scanner.skipPast block.marker v.unread).2.length)
          v.unread
      rw [← hDrop] at hSplit
      exact hSplit
  | stop =>
      rw [hMove] at hNext
      cases hNext
  | stay =>
      rw [hMove] at hNext
      cases hNext
      rfl
  | advance =>
      rw [hMove] at hNext
      cases hNext
      rfl
  | enter block =>
      rw [hMove] at hNext
      cases hNext
      rfl
  | leave block =>
      rw [hMove] at hNext
      cases hNext
      rfl

theorem Visit.skipped_of_stop
    {v : Visit}
    (hStop : v.next? cells = none) :
    v.skipped cells = v.unread := by
  unfold Visit.next? at hStop
  unfold Visit.skipped
  cases hMove : v.move cells with
  | stop => rfl
  | _ =>
      rw [hMove] at hStop
      cases hStop

/-
  The tokens that are visited and what they skip make up the
  text.
-/
theorem flatMap_visits
    (cells : List Cell)
    (text : List Char)
    (tracker : Tracker) :
    (visits cells text tracker).flatMap
        (fun v => v.token.source ++ v.skipped cells) =
      text := by
  induction text, tracker using run_induction cells with
  | nil tracker => simp
  | stop text tracker token unread hNext hStop =>
      have hSource := Scanner.source_append_of_next? hNext
      have hSkipped := Visit.skipped_of_stop hStop
      rw [visits_of_stop hNext hStop, List.flatMap_cons,
        List.flatMap_nil, List.append_nil, hSkipped, hSource]
  | more text tracker token unread rest tracker' hNext
      hMore ih =>
      have hSource := Scanner.source_append_of_next? hNext
      have hSkipped := Visit.skipped_append hMore
      rw [visits_of_more hNext hMore, List.flatMap_cons, ih,
        List.append_assoc, hSkipped, hSource]

end

------------------------------------------------------------
-- Drawing in Turn
------------------------------------------------------------

/-
  A template is rendered visit by visit.  The visits and what
  they skip make it up.  Every visit is at the position that
  counts the empty placeholders visited before; if it is one
  itself, it writes the text of the cell there, or else what
  it stands for.  Any other visit is the same at any other
  position, and leaves the position alone.
-/
theorem render_in_turn
    (template : String)
    (cells : List Cell) :
    let vs := visits cells template.toList Tracker.fresh
    render template cells =
        (vs.foldl (fun sink (v : Visit) => v.act cells sink)
          {}).reset ∧
      vs.flatMap
          (fun v => v.token.source ++ v.skipped cells) =
        template.toList ∧
      (∀ before v later, vs = before ++ v :: later →
        v.tracker.position = turns before ∧
          (v.isEmpty = true → ∀ sink,
            (v.act cells sink).output =
              sink.output ++
                ((cells[turns before]?).map Cell.text).getD
                  (String.ofList v.token.source)) ∧
          (v.isEmpty = false → ∀ position,
            v.InStep cells cells
                (Tracker.withPosition position) ∧
              ∀ sink,
                (v.shift (Tracker.withPosition position)).act
                    cells sink =
                  v.act cells sink)) ∧
      (run cells template.toList Tracker.fresh
          {}).1.position =
        turns vs := by
  intro vs
  refine ⟨?_, flatMap_visits cells _ _, ?_, ?_⟩
  · unfold render renderInto
    rw [sink_run]
  · intro before v later hVisits
    have hPosition : v.tracker.position = turns before := by
      rw [position_of_mem_visits hVisits]
      exact Nat.zero_add _
    refine ⟨hPosition, ?_, ?_⟩
    · intro hEmpty sink
      rw [Visit.output_act, Visit.output_of_isEmpty hEmpty,
        hPosition]
    · intro hOther position
      exact ⟨Visit.inStep_withPosition hOther position,
        Visit.act_withPosition hOther position⟩
  · have hPosition :=
      position_after cells template.toList Tracker.fresh
    rw [after] at hPosition
    rw [hPosition]
    exact Nat.zero_add _

/-
  A doubled brace in front of a closing one, a block that is
  skipped, a body that ends like an empty placeholder, and a
  stop.  The third empty placeholder that is visited finds no
  cell.
-/
theorem render_in_turn_third_of_two :
    let template :=
      "\x7b\x7b\x7d\x7b?1\x7d\x7b\x7d\x7b?\x7d\x7b\x7d\x7b1\x7b\x7d\x7b\x7d\x7b\x7d\x7b-\x7d\x7b\x7d"
    let cells : List Cell := [.null, .string "a"]
    let vs := visits cells template.toList Tracker.fresh
    let v : Visit :=
      ⟨.empty true, "\x7b-\x7d\x7b\x7d".toList, ⟨2, 0, 0, 0⟩⟩
    vs = vs.take 6 ++ v :: vs.drop 7 ∧
      v.isEmpty = true ∧
      turns (vs.take 6) = 2 ∧
      (v.act cells {}).output = "\x7b\x7d" ∧
      (run cells template.toList Tracker.fresh
        {}).1.position = 3 := by
  intro template cells vs v
  have hVisits : vs = vs.take 6 ++ v :: vs.drop 7 := by
    decide +kernel
  have hTurns : turns (vs.take 6) = 2 := by
    decide +kernel
  rcases render_in_turn template cells with
    ⟨-, -, hTurn, hEnd⟩
  refine ⟨hVisits, rfl, hTurns, ?_, ?_⟩
  · rw [(hTurn _ v _ hVisits).2.1 rfl, hTurns]
    decide +kernel
  · rw [hEnd]
    decide +kernel

end Render

end FactLayout
