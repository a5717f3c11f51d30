import FactLayout.Render.Sink
import FactLayout.Render.Tracker
import FactLayout.Template.Reference
import FactLayout.Template.Scanner

/-
  Rendering a template against a list of cells.

  The template is read once, from left to right.  A
  placeholder that cannot be satisfied is written back as it
  stands, so rendering never fails, and every output ends by
  restoring the default style.

  Key definitions include:
    * `Render.step`
    * `Render.run`
    * `Render.renderInto`
    * `Render.render`
-/

------------------------------------------------------------
-- One Token
------------------------------------------------------------

namespace FactLayout

namespace Render

/-
  What is left to do after a token: go on with the unread
  text, or stop.
-/
inductive Flow where
| more (unread : List Char) (tracker : Tracker) (sink : Sink)
| halt (tracker : Tracker) (sink : Sink)
deriving DecidableEq, Repr

/- The cell that a reference names. -/
def referent?
    (cells : List Cell)
    (reference : List Char) : Option Cell := do
  let position ← Reference.position? reference
  cells[position]?

/- The kind of block that a guard opens. -/
def guardBlock : Bool → Block
| false => .whenSet
| true => .whenUnset

/-
  Carry out the directive of a placeholder.  A guard that
  does not hold skips to the marker of its block.
-/
def dispatch
    (cells : List Cell)
    (body : List Char)
    (closed : Bool)
    (unread : List Char)
    (tracker : Tracker)
    (sink : Sink) : Flow :=
  let echoed :=
    Flow.more unread tracker (sink.write (echo body closed))
  match Directive.ofBody body with
  | .stop => .halt tracker sink
  | .close block =>
      match tracker.close? block with
      | none => echoed
      | some left =>
          .more unread left
            (if block = .color then sink.reset else sink)
  | .guard reference negated =>
      match referent? cells reference with
      | none => echoed
      | some cell =>
          let block := guardBlock negated
          if cell.isSet != negated then
            .more unread (tracker.open block) sink
          else
            match Scanner.skipPast block.marker unread with
            | (true, rest) => .more rest tracker sink
            | (false, rest) =>
                .more rest tracker
                  (sink.report (.unclosedBlock block body))
  | .color code =>
      .more unread (tracker.open .color)
        (sink.startStyle code)
  | .argument reference =>
      match referent? cells reference with
      | none => echoed
      | some cell =>
          .more unread tracker (sink.writeCell cell)

/-
  Carry out one token.  An empty placeholder draws the cell
  at the tracker's position, and moves it on even if there
  is no such cell.
-/
def step
    (cells : List Cell)
    (token : Token)
    (unread : List Char)
    (tracker : Tracker)
    (sink : Sink) : Flow :=
  match token with
  | .literal text => .more unread tracker (sink.write text)
  | .brace => .more unread tracker (sink.write ['{'])
  | .empty _ =>
      .more unread tracker.advance
        (match cells[tracker.position]? with
        | some cell => sink.writeCell cell
        | none => sink.write token.source)
  | .placeholder body closed =>
      dispatch cells body closed unread tracker sink

/- A directive leaves no more unread text than it found. -/
theorem length_le_of_dispatch
    {cells : List Cell}
    {body unread rest : List Char}
    {closed : Bool}
    {tracker tracker' : Tracker}
    {sink sink' : Sink}
    (hFlow :
      dispatch cells body closed unread tracker sink =
        .more rest tracker' sink') :
    rest.length ≤ unread.length := by
  unfold dispatch at hFlow
  simp only at hFlow
  split at hFlow
  · cases hFlow
  · split at hFlow <;> cases hFlow <;> exact Nat.le_refl _
  · split at hFlow
    · cases hFlow
      exact Nat.le_refl _
    · rename_i negated _ _ cell _
      have hSkip :=
        Scanner.length_skipPast_le
          (guardBlock negated).marker unread
      split at hFlow
      · cases hFlow
        exact Nat.le_refl _
      · split at hFlow <;> cases hFlow <;>
          simp_all
  · cases hFlow
    exact Nat.le_refl _
  · split at hFlow <;> cases hFlow <;> exact Nat.le_refl _

/- A token leaves no more unread text than it found. -/
theorem length_le_of_step
    {cells : List Cell}
    {token : Token}
    {unread rest : List Char}
    {tracker tracker' : Tracker}
    {sink sink' : Sink}
    (hFlow :
      step cells token unread tracker sink =
        .more rest tracker' sink') :
    rest.length ≤ unread.length := by
  cases token with
  | placeholder body closed =>
      exact length_le_of_dispatch hFlow
  | literal text => cases hFlow; exact Nat.le_refl _
  | brace => cases hFlow; exact Nat.le_refl _
  | empty closed => cases hFlow; exact Nat.le_refl _

------------------------------------------------------------
-- Whole Templates
------------------------------------------------------------

/-
  Carry out the tokens of a text up to its end or to the
  first stop.
-/
def run
    (cells : List Cell)
    (text : List Char)
    (tracker : Tracker)
    (sink : Sink) : Tracker × Sink :=
  match _hNext : Scanner.next? text with
  | none => (tracker, sink)
  | some (token, unread) =>
      match _hFlow : step cells token unread tracker sink with
      | .halt tracker' sink' => (tracker', sink')
      | .more rest tracker' sink' =>
          run cells rest tracker' sink'
termination_by text.length
decreasing_by
  exact Nat.lt_of_le_of_lt (length_le_of_step _hFlow)
    (Scanner.length_lt_of_next? _hNext)

/- Render a template behind what a sink already holds. -/
def renderInto
    (sink : Sink)
    (template : String)
    (cells : List Cell) : Sink :=
  (run cells template.toList Tracker.fresh sink).2.reset

/- Render a template. -/
def render
    (template : String)
    (cells : List Cell) : Sink :=
  renderInto {} template cells

end Render

end FactLayout
