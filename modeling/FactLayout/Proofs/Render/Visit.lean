import FactLayout.Render.Engine
import FactLayout.Proofs.Template.Lexeme

/-
  A rendering as a list of visits.

  A visit is one turn of the loop over the tokens.  It moves
  the tracker and the unread text, and it puts segments into
  the sink.  Neither the move nor the segments depend on the
  sink, so the visits of a rendering can be listed without
  one.

  Key definitions include:
    * `Segment`
    * `Move`
    * `Visit`
    * `Visit.move`
    * `Visit.segments`
    * `Visit.InStep`
    * `visits`
    * `written`

  Main results:
    * `step_visit`
    * `run_induction`
    * `sink_run`
    * `written_eq_join`
    * `Visit.act_shift`
    * `visits_shift`
    * `run_shift`
-/

------------------------------------------------------------
-- Segments
------------------------------------------------------------

namespace FactLayout

namespace Render

/-
  A piece of output: a fixed text, or the text of the cell
  at a position.
-/
inductive Segment where
| text (text : List Char)
| cell (position : Nat)
deriving DecidableEq, Repr

namespace Segment

/- Put a segment into a sink. -/
def put
    (cells : List Cell)
    (sink : Sink) : Segment → Sink
| text t => sink.write t
| cell position =>
    match cells[position]? with
    | some c => sink.writeCell c
    | none => sink

/- The text of a segment. -/
def fill
    (cells : List Cell) : Segment → String
| text t => String.ofList t
| cell position =>
    match cells[position]? with
    | some c => c.text
    | none => ""

@[simp]
theorem output_put
    (cells : List Cell)
    (sink : Sink)
    (s : Segment) :
    (s.put cells sink).output =
      sink.output ++ s.fill cells := by
  cases s with
  | text t => rfl
  | cell position =>
      simp only [put, fill]
      cases cells[position]? with
      | none => simp
      | some c => simp

end Segment

------------------------------------------------------------
-- Moves
------------------------------------------------------------

/-
  What a visit does to the tracker and to the unread text.
-/
inductive Move where
| stay
| advance
| enter (block : Block)
| leave (block : Block)
| skip (block : Block)
| stop
deriving DecidableEq, Repr

namespace Move

/- Where a run goes on after a move, unless it stops. -/
def next?
    (unread : List Char)
    (tracker : Tracker) : Move → Option (List Char × Tracker)
| stay => some (unread, tracker)
| advance => some (unread, tracker.advance)
| enter block => some (unread, tracker.open block)
| leave block =>
    some (unread, (tracker.close? block).getD tracker)
| skip block =>
    some ((Scanner.skipPast block.marker unread).2, tracker)
| stop => none

/- A move never adds unread text. -/
theorem length_le_of_next?
    {unread rest : List Char}
    {tracker tracker' : Tracker}
    {m : Move}
    (hNext : m.next? unread tracker = some (rest, tracker')) :
    rest.length ≤ unread.length := by
  cases m with
  | skip block =>
      cases hNext
      exact Scanner.length_skipPast_le _ _
  | stop => cases hNext
  | stay => cases hNext; exact Nat.le_refl _
  | advance => cases hNext; exact Nat.le_refl _
  | enter block => cases hNext; exact Nat.le_refl _
  | leave block => cases hNext; exact Nat.le_refl _

end Move

------------------------------------------------------------
-- Visits
------------------------------------------------------------

/-
  A token that a run takes, the text behind the token, and
  the tracker in front of it.
-/
structure Visit where
  token : Token
  unread : List Char
  tracker : Tracker
deriving DecidableEq, Repr

namespace Visit

/- The directive of a placeholder. -/
def directive? (v : Visit) : Option Directive :=
  match v.token with
  | .placeholder body _ => some (Directive.ofBody body)
  | _ => none

/- The visit is one of an empty placeholder. -/
def isEmpty (v : Visit) : Bool :=
  v.token.isEmpty

/- The move of a directive. -/
def directiveMove
    (cells : List Cell)
    (tracker : Tracker) : Directive → Move
| .stop => .stop
| .close block =>
    if tracker.openCount block = 0 then .stay
    else .leave block
| .guard reference negated =>
    match referent? cells reference with
    | none => .stay
    | some cell =>
        if cell.isSet != negated then
          .enter (guardBlock negated)
        else .skip (guardBlock negated)
| .color _ => .enter .color
| .argument _ => .stay

/- The move of a visit. -/
def move
    (cells : List Cell)
    (v : Visit) : Move :=
  match v.token with
  | .literal _ => .stay
  | .brace => .stay
  | .empty _ => .advance
  | .placeholder body _ =>
      directiveMove cells v.tracker (Directive.ofBody body)

/- The cell at a position, or what stands in for it. -/
def drawn
    (cells : List Cell)
    (position : Nat)
    (otherwise : List Char) : Segment :=
  if position < cells.length then .cell position
  else .text otherwise

/- The segments of a directive, and its own text. -/
def directiveSegments
    (cells : List Cell)
    (tracker : Tracker)
    (source : List Char) : Directive → List Segment
| .stop => []
| .close block =>
    if tracker.openCount block = 0 then [.text source]
    else if block = .color then [.text Sink.resetSequence]
    else []
| .guard reference _ =>
    match referent? cells reference with
    | none => [.text source]
    | some _ => []
| .color code => [.text (Sink.styleSequence code)]
| .argument reference =>
    match Reference.position? reference with
    | none => [.text source]
    | some position => [drawn cells position source]

/- The segments of a visit. -/
def segments
    (cells : List Cell)
    (v : Visit) : List Segment :=
  match v.token with
  | .literal text => [.text text]
  | .brace => [.text ['{']]
  | .empty _ =>
      [drawn cells v.tracker.position v.token.source]
  | .placeholder body closed =>
      directiveSegments cells v.tracker (echo body closed)
        (Directive.ofBody body)

/- The record of a skip that finds no marker. -/
def records
    (cells : List Cell)
    (v : Visit) : List Record :=
  match v.token, v.move cells with
  | .placeholder body _, .skip block =>
      if (Scanner.skipPast block.marker v.unread).1 then []
      else [.unclosedBlock block body]
  | _, _ => []

/- Where a run goes on after a visit, unless it stops. -/
def next?
    (cells : List Cell)
    (v : Visit) : Option (List Char × Tracker) :=
  (v.move cells).next? v.unread v.tracker

/- What a visit makes of a sink. -/
def act
    (cells : List Cell)
    (v : Visit)
    (sink : Sink) : Sink :=
  (v.records cells).foldl Sink.report
    ((v.segments cells).foldl (Segment.put cells) sink)

end Visit

------------------------------------------------------------
-- Steps and Visits
------------------------------------------------------------

/- Drawing by position is putting the drawn segment. -/
theorem Visit.put_drawn
    (cells : List Cell)
    (position : Nat)
    (otherwise : List Char)
    (sink : Sink) :
    (drawn cells position otherwise).put cells sink =
      match cells[position]? with
      | some cell => sink.writeCell cell
      | none => sink.write otherwise := by
  unfold drawn
  split
  · rename_i hPosition
    simp [Segment.put, hPosition]
  · rename_i hPosition
    rw [List.getElem?_eq_none (Nat.le_of_not_lt hPosition)]
    rfl

/- The text of a drawn segment. -/
theorem Visit.fill_drawn
    (cells : List Cell)
    (position : Nat)
    (otherwise : List Char) :
    (drawn cells position otherwise).fill cells =
      ((cells[position]?).map Cell.text).getD
        (String.ofList otherwise) := by
  unfold drawn
  split
  · rename_i hPosition
    simp [Segment.fill, hPosition]
  · rename_i hPosition
    rw [List.getElem?_eq_none (Nat.le_of_not_lt hPosition)]
    rfl

/- Carrying out a directive is a visit. -/
theorem dispatch_visit
    (cells : List Cell)
    (body unread : List Char)
    (closed : Bool)
    (tracker : Tracker)
    (sink : Sink) :
    let v : Visit :=
      ⟨.placeholder body closed, unread, tracker⟩
    dispatch cells body closed unread tracker sink =
      match v.next? cells with
      | none => .halt tracker (v.act cells sink)
      | some (rest, tracker') =>
          .more rest tracker' (v.act cells sink) := by
  simp only [dispatch, Visit.next?, Visit.act, Visit.move,
    Visit.segments, Visit.records]
  cases Directive.ofBody body with
  | stop => rfl
  | color code => rfl
  | close block =>
      simp only [Visit.directiveMove,
        Visit.directiveSegments]
      cases hClose : tracker.close? block with
      | none =>
          have hZero := Tracker.close?_eq_none_iff.mp hClose
          rw [if_pos hZero, if_pos hZero]
          rfl
      | some left =>
          have hOpen : tracker.openCount block ≠ 0 := by
            intro hZero
            rw [Tracker.close?_eq_none_iff.mpr hZero]
              at hClose
            cases hClose
          rw [if_neg hOpen, if_neg hOpen]
          simp only [Move.next?, hClose, Option.getD_some]
          split <;> rfl
  | guard reference negated =>
      simp only [Visit.directiveMove,
        Visit.directiveSegments]
      cases referent? cells reference with
      | none => rfl
      | some cell =>
          by_cases hHolds : (cell.isSet != negated) = true
          · simp only [hHolds, if_true]
            rfl
          · simp only [hHolds, Bool.false_eq_true, if_false,
              Move.next?]
            rcases Scanner.skipPast
                (guardBlock negated).marker unread with
              ⟨found, rest⟩
            cases found <;> rfl
  | argument reference =>
      simp only [Visit.directiveMove,
        Visit.directiveSegments, referent?]
      cases Reference.position? reference with
      | none => rfl
      | some position =>
          simp only [List.foldl_cons, List.foldl_nil,
            Visit.put_drawn]
          cases hCell : cells[position]? with
          | none => simp [hCell]; rfl
          | some cell => simp [hCell]; rfl

/-
  A step is a visit: it halts exactly if the visit stops,
  and it otherwise leaves what the visit leaves.
-/
theorem step_visit
    (cells : List Cell)
    (v : Visit)
    (sink : Sink) :
    step cells v.token v.unread v.tracker sink =
      match v.next? cells with
      | none => .halt v.tracker (v.act cells sink)
      | some (rest, tracker') =>
          .more rest tracker' (v.act cells sink) := by
  rcases v with ⟨token, unread, tracker⟩
  cases token with
  | literal text => rfl
  | brace => rfl
  | empty closed =>
      have hPut :=
        Visit.put_drawn cells tracker.position
          (Token.empty closed).source sink
      exact congrArg (Flow.more unread tracker.advance)
        hPut.symm
  | placeholder body closed =>
      exact dispatch_visit cells body unread closed tracker
        sink

------------------------------------------------------------
-- Runs and Visits
------------------------------------------------------------

/- The visits of a run, in order. -/
def visits
    (cells : List Cell)
    (text : List Char)
    (tracker : Tracker) : List Visit :=
  match _hNext : Scanner.next? text with
  | none => []
  | some (token, unread) =>
      let v : Visit := ⟨token, unread, tracker⟩
      match _hMore : v.next? cells with
      | none => [v]
      | some (rest, tracker') =>
          v :: visits cells rest tracker'
termination_by text.length
decreasing_by
  exact Nat.lt_of_le_of_lt (Move.length_le_of_next? _hMore)
    (Scanner.length_lt_of_next? _hNext)

section

variable {cells : List Cell}
variable {text unread rest : List Char}
variable {tracker tracker' : Tracker}
variable {token : Token}

@[simp]
theorem run_nil
    (sink : Sink) :
    run cells [] tracker sink = (tracker, sink) := by
  rw [run]
  rfl

@[simp]
theorem visits_nil : visits cells [] tracker = [] := by
  rw [visits]
  rfl

/- A run that stops does so behind its first visit. -/
theorem run_of_stop
    (hNext : Scanner.next? text = some (token, unread))
    (hStop :
      Visit.next? cells ⟨token, unread, tracker⟩ = none)
    (sink : Sink) :
    run cells text tracker sink =
      (tracker,
        Visit.act cells ⟨token, unread, tracker⟩ sink) := by
  have hStep :=
    step_visit cells ⟨token, unread, tracker⟩ sink
  rw [hStop] at hStep
  rw [run]
  split
  · simp_all
  · rename_i hSome
    rw [hNext] at hSome
    cases hSome
    split
    · simp_all
    · simp_all

/- Any other run goes on where its first visit leaves it. -/
theorem run_of_more
    (hNext : Scanner.next? text = some (token, unread))
    (hMore :
      Visit.next? cells ⟨token, unread, tracker⟩ =
        some (rest, tracker'))
    (sink : Sink) :
    run cells text tracker sink =
      run cells rest tracker'
        (Visit.act cells ⟨token, unread, tracker⟩ sink) := by
  have hStep :=
    step_visit cells ⟨token, unread, tracker⟩ sink
  rw [hMore] at hStep
  rw [run]
  split
  · simp_all
  · rename_i hSome
    rw [hNext] at hSome
    cases hSome
    split
    · simp_all
    · simp_all

theorem visits_of_stop
    (hNext : Scanner.next? text = some (token, unread))
    (hStop :
      Visit.next? cells ⟨token, unread, tracker⟩ = none) :
    visits cells text tracker =
      [⟨token, unread, tracker⟩] := by
  rw [visits]
  split
  · simp_all
  · rename_i hSome
    rw [hNext] at hSome
    cases hSome
    simp only
    split
    · rfl
    · simp_all

theorem visits_of_more
    (hNext : Scanner.next? text = some (token, unread))
    (hMore :
      Visit.next? cells ⟨token, unread, tracker⟩ =
        some (rest, tracker')) :
    visits cells text tracker =
      ⟨token, unread, tracker⟩ ::
        visits cells rest tracker' := by
  rw [visits]
  split
  · simp_all
  · rename_i hSome
    rw [hNext] at hSome
    cases hSome
    simp only
    split
    · simp_all
    · simp_all

end

/-
  Induction over the visits of a run: nothing is left to
  read, the first visit stops, or the run goes on behind it.
-/
@[elab_as_elim]
theorem run_induction
    (cells : List Cell)
    {motive : List Char → Tracker → Prop}
    (nil : ∀ tracker, motive [] tracker)
    (stop : ∀ text tracker token unread,
      Scanner.next? text = some (token, unread) →
      Visit.next? cells ⟨token, unread, tracker⟩ = none →
      motive text tracker)
    (more : ∀ text tracker token unread rest tracker',
      Scanner.next? text = some (token, unread) →
      Visit.next? cells ⟨token, unread, tracker⟩ =
        some (rest, tracker') →
      motive rest tracker' →
      motive text tracker)
    (text : List Char)
    (tracker : Tracker) :
    motive text tracker := by
  induction text, tracker using visits.induct cells with
  | case1 text tracker hNone =>
      rw [Scanner.next?_eq_none_iff.mp hNone]
      exact nil tracker
  | case2 text tracker token unread hNext v hStop =>
      exact stop text tracker token unread hNext hStop
  | case3 text tracker token unread hNext v rest tracker'
      hMore ih =>
      exact more text tracker token unread rest tracker'
        hNext hMore ih

------------------------------------------------------------
-- What Runs Leave
------------------------------------------------------------

/- The tracker that a text leaves. -/
def after
    (cells : List Cell)
    (text : List Char)
    (tracker : Tracker) : Tracker :=
  (run cells text tracker {}).1

/- The output that a text writes. -/
def written
    (cells : List Cell)
    (text : List Char)
    (tracker : Tracker) : String :=
  (run cells text tracker {}).2.output

/- A run passes the sink through its visits. -/
theorem sink_run
    (cells : List Cell)
    (text : List Char)
    (tracker : Tracker)
    (sink : Sink) :
    (run cells text tracker sink).2 =
      (visits cells text tracker).foldl
        (fun s v => v.act cells s) sink := by
  induction text, tracker using run_induction cells
    generalizing sink with
  | nil tracker => simp
  | stop text tracker token unread hNext hStop =>
      rw [run_of_stop hNext hStop,
        visits_of_stop hNext hStop]
      rfl
  | more text tracker token unread rest tracker' hNext
      hMore ih =>
      rw [run_of_more hNext hMore,
        visits_of_more hNext hMore, ih, List.foldl_cons]

/- The tracker does not depend on the sink. -/
theorem tracker_run
    (cells : List Cell)
    (text : List Char)
    (tracker : Tracker)
    (sink : Sink) :
    (run cells text tracker sink).1 =
      after cells text tracker := by
  unfold after
  generalize ({} : Sink) = other
  induction text, tracker using run_induction cells
    generalizing sink other with
  | nil tracker => simp
  | stop text tracker token unread hNext hStop =>
      rw [run_of_stop hNext hStop,
        run_of_stop hNext hStop]
  | more text tracker token unread rest tracker' hNext
      hMore ih =>
      rw [run_of_more hNext hMore, run_of_more hNext hMore]
      exact ih _ _

/- Steps that write texts write them one behind the other. -/
theorem output_foldl
    {α : Type}
    {act : Sink → α → Sink}
    {text : α → String}
    (hAct : ∀ sink a,
      (act sink a).output = sink.output ++ text a)
    (items : List α)
    (sink : Sink) :
    (items.foldl act sink).output =
      sink.output ++ String.join (items.map text) := by
  induction items generalizing sink with
  | nil => simp
  | cons a items ih =>
      rw [List.foldl_cons, ih, hAct, List.map_cons,
        String.join_cons, String.append_assoc]

/- Nothing is left of a run that has nothing to read. -/
@[simp]
theorem after_nil
    (cells : List Cell)
    (tracker : Tracker) :
    after cells [] tracker = tracker := by
  simp [after]

/- A run leaves what is left behind its first visit. -/
theorem after_of_more
    {cells : List Cell}
    {text unread rest : List Char}
    {tracker tracker' : Tracker}
    {token : Token}
    (hNext : Scanner.next? text = some (token, unread))
    (hMore :
      Visit.next? cells ⟨token, unread, tracker⟩ =
        some (rest, tracker')) :
    after cells text tracker = after cells rest tracker' := by
  rw [after, run_of_more hNext hMore, tracker_run]

namespace Visit

/- The output of a visit. -/
def output
    (cells : List Cell)
    (v : Visit) : String :=
  String.join ((v.segments cells).map (Segment.fill cells))

/- Records leave the output alone. -/
theorem output_foldl_report
    (records : List Record)
    (sink : Sink) :
    (records.foldl Sink.report sink).output =
      sink.output := by
  induction records generalizing sink with
  | nil => rfl
  | cons record records ih =>
      rw [List.foldl_cons, ih, Sink.output_report]

@[simp]
theorem output_act
    (cells : List Cell)
    (v : Visit)
    (sink : Sink) :
    (v.act cells sink).output =
      sink.output ++ v.output cells := by
  unfold act output
  rw [output_foldl_report,
    output_foldl (Segment.output_put cells)]

end Visit

/- A text writes the output of its visits. -/
theorem written_eq_join
    (cells : List Cell)
    (text : List Char)
    (tracker : Tracker) :
    written cells text tracker =
      String.join
        ((visits cells text tracker).map
          (Visit.output cells)) := by
  unfold written
  rw [sink_run,
    output_foldl fun sink v => v.output_act cells sink]
  simp

/- A run writes behind what the sink holds. -/
theorem output_run
    (cells : List Cell)
    (text : List Char)
    (tracker : Tracker)
    (sink : Sink) :
    (run cells text tracker sink).2.output =
      sink.output ++ written cells text tracker := by
  rw [written_eq_join, sink_run,
    output_foldl fun sink v => v.output_act cells sink]

------------------------------------------------------------
-- Runs in Step
------------------------------------------------------------

/- A visit with another tracker in place of its own. -/
def Visit.shift
    (f : Tracker → Tracker)
    (v : Visit) : Visit :=
  { v with tracker := f v.tracker }

/-
  A visit that is in step with the shifted one, which may be
  over other cells: both stop, or both go on with the same
  text and with trackers that are shifted alike.
-/
def Visit.InStep
    (cells others : List Cell)
    (f : Tracker → Tracker)
    (v : Visit) : Prop :=
  (v.shift f).next? others =
    (v.next? cells).map fun left => (left.1, f left.2)

/-
  A visit whose marker, if it is one, finds a block to close
  or none, whether the tracker is shifted or not.
-/
def Visit.KeepsMarker
    (f : Tracker → Tracker)
    (v : Visit) : Prop :=
  ∀ b, v.directive? = some (.close b) →
    ((f v.tracker).openCount b = 0 ↔
      v.tracker.openCount b = 0)

namespace Visit

variable {f : Tracker → Tracker}
variable {v : Visit}

/- Only markers look at the tracker to move. -/
theorem move_shift
    (hMarker : v.KeepsMarker f)
    (cells : List Cell) :
    (v.shift f).move cells = v.move cells := by
  rcases v with ⟨token, unread, tracker⟩
  cases token with
  | placeholder body closed =>
      simp only [move, shift]
      cases hDirective : Directive.ofBody body with
      | close b =>
          have hClose := hMarker b (congrArg some hDirective)
          simp only [directiveMove, hClose]
      | _ => rfl
  | _ => rfl

/-
  Only markers and empty placeholders look at the tracker to
  put segments.
-/
theorem segments_shift
    (hMarker : v.KeepsMarker f)
    (hPosition : v.isEmpty = true →
      (f v.tracker).position = v.tracker.position)
    (cells : List Cell) :
    (v.shift f).segments cells = v.segments cells := by
  rcases v with ⟨token, unread, tracker⟩
  cases token with
  | placeholder body closed =>
      simp only [segments, shift]
      cases hDirective : Directive.ofBody body with
      | close b =>
          have hClose := hMarker b (congrArg some hDirective)
          simp only [directiveSegments, hClose]
      | _ => rfl
  | empty closed =>
      simp only [segments, shift, hPosition rfl]
  | _ => rfl

/- The same is put into any sink. -/
theorem act_shift
    (hMarker : v.KeepsMarker f)
    (hPosition : v.isEmpty = true →
      (f v.tracker).position = v.tracker.position)
    (cells : List Cell)
    (sink : Sink) :
    (v.shift f).act cells sink = v.act cells sink := by
  have hRecords :
      (v.shift f).records cells = v.records cells := by
    unfold records
    rw [move_shift hMarker]
    rfl
  unfold act
  rw [segments_shift hMarker hPosition, hRecords]

end Visit

section

variable {cells others : List Cell}
variable {f : Tracker → Tracker}
variable {text : List Char}
variable {tracker : Tracker}

/- A run in step makes the shifted visits. -/
theorem visits_shift
    (hStep :
      ∀ v ∈ visits cells text tracker,
        v.InStep cells others f) :
    visits others text (f tracker) =
      (visits cells text tracker).map (Visit.shift f) := by
  induction text, tracker using run_induction cells with
  | nil tracker => simp
  | stop text tracker token unread hNext hStop =>
      rw [visits_of_stop hNext hStop] at hStep ⊢
      have hFirst := hStep _ (List.mem_singleton.mpr rfl)
      rw [Visit.InStep, hStop] at hFirst
      exact visits_of_stop hNext hFirst
  | more text tracker token unread rest tracker' hNext
      hMore ih =>
      rw [visits_of_more hNext hMore] at hStep ⊢
      have hFirst := hStep _ List.mem_cons_self
      have hLater :=
        fun v hv => hStep v (List.mem_cons_of_mem _ hv)
      rw [Visit.InStep, hMore] at hFirst
      rw [List.map_cons, ← ih hLater]
      exact visits_of_more hNext hFirst

/-
  A run in step, with visits that make the same of a sink,
  leaves the same sink and a tracker that is shifted too.
-/
theorem run_shift
    (hStep :
      ∀ v ∈ visits cells text tracker,
        v.InStep cells others f)
    (hAct :
      ∀ v ∈ visits cells text tracker, ∀ sink,
        (v.shift f).act others sink = v.act cells sink)
    (sink : Sink) :
    run others text (f tracker) sink =
      (f (run cells text tracker sink).1,
        (run cells text tracker sink).2) := by
  induction text, tracker using run_induction cells
    generalizing sink with
  | nil tracker => simp
  | stop text tracker token unread hNext hStop =>
      rw [visits_of_stop hNext hStop] at hStep hAct
      have hFirst := hStep _ (List.mem_singleton.mpr rfl)
      have hSame :=
        hAct _ (List.mem_singleton.mpr rfl) sink
      rw [Visit.InStep, hStop] at hFirst
      rw [run_of_stop hNext hStop, ← hSame]
      exact run_of_stop hNext hFirst sink
  | more text tracker token unread rest tracker' hNext
      hMore ih =>
      rw [visits_of_more hNext hMore] at hStep hAct
      have hFirst := hStep _ List.mem_cons_self
      have hSame := hAct _ List.mem_cons_self sink
      rw [Visit.InStep, hMore] at hFirst
      rw [run_of_more hNext hMore, ← hSame, ← ih
        (fun v hv => hStep v (List.mem_cons_of_mem _ hv))
        (fun v hv => hAct v (List.mem_cons_of_mem _ hv))]
      exact run_of_more hNext hFirst sink

end

end Render

end FactLayout
