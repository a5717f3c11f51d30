import FactLayout.Proofs.Render.Skeleton
import FactLayout.Proofs.Template.Marker

/-
  What a rendering reports.

  Two things are reported: the draw of a cell whose kind is
  not supported, together with the output in front of it, and
  a guard that fails without a marker to skip to.  A guard of
  that sort leaves nothing to read, so it is reported once at
  most and behind everything else.

  Key definitions include:
    * `Cell.silence`
    * `Visit.report?`
    * `Visit.IsUnclosed`
    * `moments`
    * `history`

  Main results:
    * `Visit.log_act`
    * `Visit.mem_records_iff`
    * `log_run`
    * `output_run_of_records`
    * `pairwise_moments`
    * `run_silence`
    * `log_renderInto`
-/

------------------------------------------------------------
-- Cells of Unsupported Kinds
------------------------------------------------------------

namespace FactLayout

namespace Cell

/- The record of drawing a cell behind some output. -/
def report?
    (output : String) : Cell → Option Record
| unsupported kind => some (.unsupportedCell kind output)
| _ => none

/- An absent fact in place of one of an unsupported kind. -/
def silence : Cell → Cell
| unsupported _ => null
| cell => cell

@[simp]
theorem isSet_silence
    (cell : Cell) :
    cell.silence.isSet = cell.isSet := by
  cases cell <;> rfl

@[simp]
theorem text_silence
    (cell : Cell) :
    cell.silence.text = cell.text := by
  cases cell <;> rfl

@[simp]
theorem report?_silence
    (output : String)
    (cell : Cell) :
    cell.silence.report? output = none := by
  cases cell <;> rfl

/- Only errors are reported of cells. -/
theorem level_of_report?
    {output : String}
    {cell : Cell}
    {r : Record}
    (hReport : cell.report? output = some r) :
    r.level = .error := by
  cases cell with
  | unsupported kind =>
      cases hReport
      rfl
  | _ => cases hReport

end Cell

/- The output that the record of a draw quotes. -/
def Record.quoted? : Record → Option String
| unsupportedCell _ output => some output
| _ => none

/- The record of a draw quotes the output in front of it. -/
theorem Cell.quoted?_of_report?
    {output : String}
    {cell : Cell}
    {r : Record}
    (hReport : cell.report? output = some r) :
    r.quoted? = some output := by
  cases cell with
  | unsupported kind =>
      cases hReport
      rfl
  | _ => cases hReport

/- Writing a cell adds the record of drawing it. -/
theorem Sink.log_writeCell
    (s : Sink)
    (cell : Cell) :
    (s.writeCell cell).log =
      s.log ++ (cell.report? s.output).toList := by
  cases cell with
  | unsupported kind => rfl
  | _ => exact (List.append_nil _).symm

namespace Render

------------------------------------------------------------
-- Draws
------------------------------------------------------------

namespace Visit

/- The cell that a directive draws. -/
def directiveCell?
    (cells : List Cell) : Directive → Option Cell
| .argument reference => referent? cells reference
| _ => none

/- The cell that a visit draws, by turn or by reference. -/
def cell?
    (cells : List Cell)
    (v : Visit) : Option Cell :=
  match v.token with
  | .empty _ => cells[v.tracker.position]?
  | .placeholder body _ =>
      directiveCell? cells (Directive.ofBody body)
  | _ => none

/-
  The record of a visit that draws a cell of an unsupported
  kind.
-/
def report?
    (cells : List Cell)
    (v : Visit)
    (sink : Sink) : Option Record :=
  (v.cell? cells).bind (Cell.report? sink.output)

/- Drawing by position reports the cell at the position. -/
theorem log_put_drawn
    (cells : List Cell)
    (position : Nat)
    (otherwise : List Char)
    (sink : Sink) :
    ((drawn cells position otherwise).put cells sink).log =
      sink.log ++
        (cells[position]?.bind
          (Cell.report? sink.output)).toList := by
  rw [put_drawn]
  cases cells[position]? with
  | none => simp
  | some cell => exact sink.log_writeCell cell

/- A directive reports the cell that it draws. -/
theorem log_directiveSegments
    (cells : List Cell)
    (tracker : Tracker)
    (source : List Char)
    (d : Directive)
    (sink : Sink) :
    ((directiveSegments cells tracker source d).foldl
        (Segment.put cells) sink).log =
      sink.log ++
        ((directiveCell? cells d).bind
          (Cell.report? sink.output)).toList := by
  cases d with
  | stop => exact (List.append_nil _).symm
  | color code => exact (List.append_nil _).symm
  | close block =>
      simp only [directiveSegments]
      split
      · exact (List.append_nil _).symm
      · split <;> exact (List.append_nil _).symm
  | guard reference negated =>
      simp only [directiveSegments]
      split <;> exact (List.append_nil _).symm
  | argument reference =>
      simp only [directiveSegments, directiveCell?, referent?]
      cases Reference.position? reference with
      | none => exact (List.append_nil _).symm
      | some position =>
          exact log_put_drawn cells position source sink

/- The segments of a visit report the cell that it draws. -/
theorem log_segments
    (cells : List Cell)
    (v : Visit)
    (sink : Sink) :
    ((v.segments cells).foldl (Segment.put cells) sink).log =
      sink.log ++ (v.report? cells sink).toList := by
  rcases v with ⟨token, unread, tracker⟩
  cases token with
  | literal text => exact (List.append_nil _).symm
  | brace => exact (List.append_nil _).symm
  | empty closed =>
      exact log_put_drawn cells tracker.position _ sink
  | placeholder body closed =>
      exact log_directiveSegments cells tracker _ _ sink

/- Records are added one behind the other. -/
theorem log_foldl_report
    (records : List Record)
    (sink : Sink) :
    (records.foldl Sink.report sink).log =
      sink.log ++ records := by
  induction records generalizing sink with
  | nil => simp
  | cons record records ih =>
      rw [List.foldl_cons, ih, Sink.log_report,
        List.append_assoc]
      rfl

/-
  A visit reports its draw, and then its guard if that is
  not closed.
-/
theorem log_act
    (cells : List Cell)
    (v : Visit)
    (sink : Sink) :
    (v.act cells sink).log =
      sink.log ++ (v.report? cells sink).toList ++
        v.records cells := by
  unfold act
  rw [log_foldl_report, log_segments]

/- A draw quotes the output that its visit finds. -/
theorem quoted?_of_report?
    {cells : List Cell}
    {v : Visit}
    {sink : Sink}
    {r : Record}
    (hReport : v.report? cells sink = some r) :
    r.quoted? = some sink.output := by
  rcases Option.bind_eq_some_iff.mp hReport with
    ⟨cell, -, hCell⟩
  exact Cell.quoted?_of_report? hCell

end Visit

------------------------------------------------------------
-- Guards That Are Not Closed
------------------------------------------------------------

/- A skip fails exactly if its marker is not there. -/
theorem skipPast_fst_eq_false_iff
    {marker text : List Char} :
    (Scanner.skipPast marker text).1 = false ↔
      ¬ marker <:+: text := by
  unfold Scanner.skipPast
  cases hBehind : Scanner.behind? marker text with
  | none =>
      simp [Scanner.not_infix_of_behind? hBehind]
  | some rest =>
      rcases Scanner.exists_eq_append_of_behind? hBehind with
        ⟨before, hText, -⟩
      have hInfix : marker <:+: text :=
        ⟨before, rest, hText.symm⟩
      simp [hInfix]

/- A skip that fails leaves nothing to read. -/
theorem skipPast_snd_of_not_infix
    {marker text : List Char}
    (hMarker : ¬ marker <:+: text) :
    (Scanner.skipPast marker text).2 = [] := by
  have hFound := skipPast_fst_eq_false_iff.mpr hMarker
  unfold Scanner.skipPast at hFound ⊢
  split at hFound
  · cases hFound
  · rfl

namespace Visit

/-
  A visit to a guard that does not hold and whose marker is
  nowhere in the text behind it.
-/
def IsUnclosed
    (cells : List Cell)
    (v : Visit)
    (block : Block)
    (body : List Char) : Prop :=
  ∃ closed reference negated cell,
    v.token = .placeholder body closed ∧
      Directive.ofBody body = .guard reference negated ∧
      referent? cells reference = some cell ∧
      cell.isSet = negated ∧
      block = guardBlock negated ∧
      ¬ block.marker <:+: v.unread

/- Only a guard that does not hold skips. -/
theorem directiveMove_eq_skip_iff
    {cells : List Cell}
    {tracker : Tracker}
    {d : Directive}
    {block : Block} :
    directiveMove cells tracker d = .skip block ↔
      ∃ reference negated cell,
        d = .guard reference negated ∧
          referent? cells reference = some cell ∧
          cell.isSet = negated ∧
          block = guardBlock negated := by
  constructor
  · intro hSkip
    cases d with
    | guard reference negated =>
        simp only [directiveMove] at hSkip
        split at hSkip
        · cases hSkip
        · rename_i cell hCell
          split at hSkip
          · cases hSkip
          · rename_i hFails
            cases hSkip
            exact ⟨reference, negated, cell, rfl, hCell,
              by simpa using hFails, rfl⟩
    | close other =>
        simp only [directiveMove] at hSkip
        split at hSkip <;> cases hSkip
    | stop => cases hSkip
    | color code => cases hSkip
    | argument reference => cases hSkip
  · rintro ⟨reference, negated, cell, rfl, hCell, hFails,
      rfl⟩
    simp [directiveMove, hCell, hFails]

/- An unclosed guard skips. -/
theorem IsUnclosed.move_eq
    {cells : List Cell}
    {v : Visit}
    {block : Block}
    {body : List Char}
    (hUnclosed : v.IsUnclosed cells block body) :
    v.move cells = .skip block := by
  rcases hUnclosed with
    ⟨closed, reference, negated, cell, hToken, hGuard,
      hCell, hFails, hBlock, -⟩
  unfold move
  rw [hToken]
  exact directiveMove_eq_skip_iff.mpr
    ⟨reference, negated, cell, hGuard, hCell, hFails, hBlock⟩

/- The records of a visit are those of unclosed guards. -/
theorem mem_records_iff
    {cells : List Cell}
    {v : Visit}
    {r : Record} :
    r ∈ v.records cells ↔
      ∃ block body,
        v.IsUnclosed cells block body ∧
          r = .unclosedBlock block body := by
  constructor
  · intro hRecord
    unfold records at hRecord
    split at hRecord
    · rename_i body closed block hToken hMove
      split at hRecord
      · cases hRecord
      · rename_i hFound
        have hSkip :
            directiveMove cells v.tracker
                (Directive.ofBody body) =
              .skip block := by
          unfold move at hMove
          rw [hToken] at hMove
          exact hMove
        rcases directiveMove_eq_skip_iff.mp hSkip with
          ⟨reference, negated, cell, hGuard, hCell, hFails,
            hBlock⟩
        have hMarker : ¬ block.marker <:+: v.unread := by
          apply skipPast_fst_eq_false_iff.mp
          exact Bool.eq_false_iff.mpr hFound
        exact ⟨block, body,
          ⟨closed, reference, negated, cell, hToken, hGuard,
            hCell, hFails, hBlock, hMarker⟩,
          List.mem_singleton.mp hRecord⟩
    · cases hRecord
  · rintro ⟨block, body, hUnclosed, rfl⟩
    have hMove := hUnclosed.move_eq
    rcases hUnclosed with
      ⟨closed, reference, negated, cell, hToken, -, -, -, -,
        hMarker⟩
    have hFound := skipPast_fst_eq_false_iff.mpr hMarker
    unfold records
    rw [hToken, hMove]
    simp [hFound]

/- A visit with a record is one to an unclosed guard. -/
theorem exists_isUnclosed
    {cells : List Cell}
    {v : Visit}
    (hRecords : v.records cells ≠ []) :
    ∃ block body, v.IsUnclosed cells block body := by
  rcases List.exists_mem_of_ne_nil _ hRecords with
    ⟨r, hRecord⟩
  rcases mem_records_iff.mp hRecord with
    ⟨block, body, hUnclosed, -⟩
  exact ⟨block, body, hUnclosed⟩

/- A visit has one record of its guard at most. -/
theorem length_records_le
    (cells : List Cell)
    (v : Visit) :
    (v.records cells).length ≤ 1 := by
  unfold records
  split
  · split <;> simp
  · simp

/- An unclosed guard leaves nothing to read. -/
theorem rest_of_records
    {cells : List Cell}
    {v : Visit}
    {rest : List Char}
    {tracker' : Tracker}
    (hMore : v.next? cells = some (rest, tracker'))
    (hRecords : v.records cells ≠ []) :
    rest = [] := by
  rcases exists_isUnclosed hRecords with
    ⟨block, body, hUnclosed⟩
  unfold next? at hMore
  rw [hUnclosed.move_eq] at hMore
  cases hMore
  rcases hUnclosed with ⟨_, _, _, _, -, -, -, -, -, hMarker⟩
  exact skipPast_snd_of_not_infix hMarker

/- An unclosed guard writes nothing. -/
theorem output_of_records
    {cells : List Cell}
    {v : Visit}
    (hRecords : v.records cells ≠ []) :
    v.output cells = "" := by
  rcases exists_isUnclosed hRecords with
    ⟨block, body, closed, reference, negated, cell, hToken,
      hGuard, hCell, -⟩
  have hSegments : v.segments cells = [] := by
    unfold segments
    rw [hToken]
    simp only [hGuard, directiveSegments, hCell]
  unfold output
  rw [hSegments]
  rfl

end Visit

------------------------------------------------------------
-- Histories
------------------------------------------------------------

/- Visits in order, each with the sink that it finds. -/
def moments
    (cells : List Cell) :
    List Visit → Sink → List (Visit × Sink)
| [], _ => []
| v :: later, sink =>
    (v, sink) :: moments cells later (v.act cells sink)

/- The records of the draws among moments. -/
def reports
    (cells : List Cell)
    (ms : List (Visit × Sink)) : List Record :=
  ms.filterMap fun m => m.1.report? cells m.2

section

variable {cells : List Cell}

@[simp]
theorem reports_cons
    (v : Visit)
    (sink : Sink)
    (ms : List (Visit × Sink)) :
    reports cells ((v, sink) :: ms) =
      (v.report? cells sink).toList ++ reports cells ms := by
  unfold reports
  cases hReport : v.report? cells sink with
  | none => simp [hReport]
  | some r => simp [hReport]

/- Moments are those of the visits they are made of. -/
theorem mem_visits_of_mem_moments
    {vs : List Visit}
    {sink : Sink}
    {m : Visit × Sink}
    (hMoment : m ∈ moments cells vs sink) :
    m.1 ∈ vs := by
  induction vs generalizing sink with
  | nil => cases hMoment
  | cons v vs ih =>
      rcases List.mem_cons.mp hMoment with rfl | hLater
      · exact List.mem_cons_self
      · exact List.mem_cons_of_mem _ (ih hLater)

/- Every visit has its moment. -/
theorem exists_mem_moments
    {vs : List Visit}
    {v : Visit}
    (hVisit : v ∈ vs)
    (cells : List Cell)
    (sink : Sink) :
    ∃ m ∈ moments cells vs sink, m.1 = v := by
  induction vs generalizing sink with
  | nil => cases hVisit
  | cons w vs ih =>
      rcases List.mem_cons.mp hVisit with rfl | hLater
      · exact ⟨(v, sink), List.mem_cons_self, rfl⟩
      · rcases ih hLater (w.act cells sink) with
          ⟨m, hMoment, hVisit⟩
        exact ⟨m, List.mem_cons_of_mem _ hMoment, hVisit⟩

/- A visit only adds to the output. -/
theorem output_le_act
    (cells : List Cell)
    (v : Visit)
    (sink : Sink) :
    sink.output.toList <+:
      (v.act cells sink).output.toList := by
  rw [Visit.output_act, String.toList_append]
  exact List.prefix_append _ _

/-
  The output that a moment finds lies between the output at
  the start and the output at the end.
-/
theorem output_of_mem_moments
    {vs : List Visit}
    {sink : Sink}
    {m : Visit × Sink}
    (hMoment : m ∈ moments cells vs sink) :
    sink.output.toList <+: m.2.output.toList ∧
      m.2.output.toList <+:
        (vs.foldl (fun s v => v.act cells s)
          sink).output.toList := by
  induction vs generalizing sink with
  | nil => cases hMoment
  | cons v vs ih =>
      have hStep := output_le_act cells v sink
      rcases List.mem_cons.mp hMoment with rfl | hLater
      · refine ⟨List.prefix_rfl, ?_⟩
        rw [output_foldl
          fun sink v => Visit.output_act cells v sink,
          String.toList_append]
        exact List.prefix_append _ _
      · rcases ih hLater with ⟨hStart, hEnd⟩
        exact ⟨hStep.trans hStart, hEnd⟩

/- Later moments find more output. -/
theorem pairwise_moments
    (cells : List Cell)
    (vs : List Visit)
    (sink : Sink) :
    (moments cells vs sink).Pairwise fun m n =>
      m.2.output.toList <+: n.2.output.toList := by
  induction vs generalizing sink with
  | nil => exact List.Pairwise.nil
  | cons v vs ih =>
      refine List.Pairwise.cons ?_ (ih _)
      intro m hMoment
      exact (output_le_act cells v sink).trans
        (output_of_mem_moments hMoment).1

/- Only errors are reported of draws. -/
theorem level_of_mem_reports
    {ms : List (Visit × Sink)}
    {r : Record}
    (hReport : r ∈ reports cells ms) :
    r.level = .error := by
  rcases List.mem_filterMap.mp hReport with ⟨m, -, hMoment⟩
  rcases Option.bind_eq_some_iff.mp hMoment with
    ⟨cell, -, hCell⟩
  exact Cell.level_of_report? hCell

/-
  The outputs that are quoted are those that the moments of
  the draws find.
-/
theorem mem_moments_of_quoted?
    {ms : List (Visit × Sink)}
    {output : String}
    (hQuoted :
      output ∈ (reports cells ms).filterMap Record.quoted?) :
    ∃ m ∈ ms, m.2.output = output := by
  rcases List.mem_filterMap.mp hQuoted with
    ⟨r, hReport, hOutput⟩
  rcases List.mem_filterMap.mp hReport with
    ⟨m, hMoment, hDraw⟩
  have hFound := Visit.quoted?_of_report? hDraw
  rw [hOutput] at hFound
  exact ⟨m, hMoment, (Option.some.inj hFound).symm⟩

/- Later records quote more output. -/
theorem pairwise_quoted
    {ms : List (Visit × Sink)}
    (hMoments :
      ms.Pairwise fun m n =>
        m.2.output.toList <+: n.2.output.toList) :
    ((reports cells ms).filterMap
      Record.quoted?).Pairwise fun a b =>
        a.toList <+: b.toList := by
  apply List.pairwise_filterMap.mpr
  apply List.pairwise_filterMap.mpr
  apply hMoments.imp
  intro m n hLess r hReport r' hReport' a ha b hb
  have hFirst := Visit.quoted?_of_report? hReport
  have hSecond := Visit.quoted?_of_report? hReport'
  rw [ha] at hFirst
  rw [hb] at hSecond
  cases hFirst
  cases hSecond
  exact hLess

------------------------------------------------------------
-- Runs and Their Records
------------------------------------------------------------

variable {text : List Char}
variable {tracker : Tracker}

/-
  A run reports its draws in order, and behind them the guard
  that is not closed, if there is one.
-/
theorem log_run
    (cells : List Cell)
    (text : List Char)
    (tracker : Tracker)
    (sink : Sink) :
    (run cells text tracker sink).2.log =
      sink.log ++
        reports cells
          (moments cells (visits cells text tracker) sink) ++
        (visits cells text tracker).flatMap
          (Visit.records cells) := by
  induction text, tracker using run_induction cells
    generalizing sink with
  | nil tracker => simp [moments, reports]
  | stop text tracker token unread hNext hStop =>
      rw [run_of_stop hNext hStop,
        visits_of_stop hNext hStop, Visit.log_act, moments,
        reports_cons]
      simp [moments, reports]
  | more text tracker token unread rest tracker' hNext
      hMore ih =>
      rw [run_of_more hNext hMore,
        visits_of_more hNext hMore, ih, Visit.log_act,
        moments, reports_cons, List.flatMap_cons]
      by_cases hRecords :
          Visit.records cells ⟨token, unread, tracker⟩ = []
      · rw [hRecords]
        simp
      · -- The guard is the last visit, so its record is
        -- not followed by that of a draw.
        rw [Visit.rest_of_records hMore hRecords]
        simp [moments, reports]

/- A run has one record of its guards at most. -/
theorem length_records_visits_le
    (cells : List Cell)
    (text : List Char)
    (tracker : Tracker) :
    ((visits cells text tracker).flatMap
      (Visit.records cells)).length ≤ 1 := by
  induction text, tracker using run_induction cells with
  | nil tracker => simp
  | stop text tracker token unread hNext hStop =>
      rw [visits_of_stop hNext hStop]
      simpa using Visit.length_records_le cells _
  | more text tracker token unread rest tracker' hNext
      hMore ih =>
      rw [visits_of_more hNext hMore, List.flatMap_cons]
      by_cases hRecords :
          Visit.records cells ⟨token, unread, tracker⟩ = []
      · rw [hRecords]
        exact ih
      · rw [Visit.rest_of_records hMore hRecords]
        simpa using Visit.length_records_le cells _

/- Nothing is written behind an unclosed guard. -/
theorem output_run_of_records
    {sink : Sink}
    {m : Visit × Sink}
    (hMoment :
      m ∈ moments cells (visits cells text tracker) sink)
    (hRecords : m.1.records cells ≠ []) :
    (run cells text tracker sink).2.output =
      m.2.output := by
  induction text, tracker using run_induction cells
    generalizing sink with
  | nil tracker =>
      rw [visits_nil] at hMoment
      cases hMoment
  | stop text tracker token unread hNext hStop =>
      rw [visits_of_stop hNext hStop] at hMoment
      rw [List.mem_singleton.mp hMoment] at hRecords ⊢
      rw [run_of_stop hNext hStop, Visit.output_act,
        Visit.output_of_records hRecords]
      simp
  | more text tracker token unread rest tracker' hNext
      hMore ih =>
      rw [visits_of_more hNext hMore] at hMoment
      rw [run_of_more hNext hMore]
      rcases List.mem_cons.mp hMoment with rfl | hLater
      · rw [Visit.rest_of_records hMore hRecords, run_nil,
          Visit.output_act, Visit.output_of_records hRecords]
        simp
      · exact ih hLater

/- The records of guards are those of unclosed ones. -/
theorem mem_flatMap_records_iff
    {vs : List Visit}
    {r : Record}
    (sink : Sink) :
    r ∈ vs.flatMap (Visit.records cells) ↔
      ∃ m ∈ moments cells vs sink, ∃ block body,
        m.1.IsUnclosed cells block body ∧
          r = .unclosedBlock block body := by
  rw [List.mem_flatMap]
  constructor
  · rintro ⟨v, hVisit, hRecord⟩
    rcases exists_mem_moments hVisit cells sink with
      ⟨m, hMoment, rfl⟩
    exact ⟨m, hMoment, Visit.mem_records_iff.mp hRecord⟩
  · rintro ⟨m, hMoment, hUnclosed⟩
    exact ⟨m.1, mem_visits_of_mem_moments hMoment,
      Visit.mem_records_iff.mpr hUnclosed⟩

------------------------------------------------------------
-- Silenced Cells
------------------------------------------------------------

@[simp]
theorem flags_silence
    (cells : List Cell) :
    flags (cells.map Cell.silence) = flags cells := by
  simp [flags, Function.comp_def]

/- No draw of a silenced cell is reported. -/
theorem reports_silence
    (ms : List (Visit × Sink)) :
    reports (cells.map Cell.silence) ms = [] := by
  have hReferent :
      ∀ reference output,
        (referent? (cells.map Cell.silence) reference).bind
          (Cell.report? output) = none := by
    intro reference output
    unfold referent?
    cases Reference.position? reference with
    | none => rfl
    | some position =>
        simp only [Option.bind_eq_bind, Option.bind_some,
          List.getElem?_map]
        cases cells[position]? with
        | none => rfl
        | some cell => exact Cell.report?_silence output cell
  unfold reports
  apply List.filterMap_eq_nil_iff.mpr
  rintro ⟨⟨token, unread, tracker⟩, sink⟩ -
  cases token with
  | literal t => rfl
  | brace => rfl
  | empty closed =>
      simp only [Visit.report?, Visit.cell?,
        List.getElem?_map]
      cases cells[tracker.position]? with
      | none => rfl
      | some cell => exact Cell.report?_silence _ cell
  | placeholder body closed =>
      simp only [Visit.report?, Visit.cell?]
      cases Directive.ofBody body with
      | argument reference => exact hReferent reference _
      | _ => rfl

/- Silenced cells fill segments with the same texts. -/
theorem fill_silence
    (cells : List Cell)
    (ss : List Segment) :
    fill (cells.map Cell.silence) ss = fill cells ss := by
  unfold fill
  congr 2
  funext s
  cases s with
  | text t => rfl
  | cell position =>
      simp only [Segment.fill, List.getElem?_map]
      cases cells[position]? with
      | none => rfl
      | some cell => exact cell.text_silence

/-
  Silencing cells takes the records of their draws away and
  leaves all else.
-/
theorem run_silence
    (sink : Sink) :
    (run (cells.map Cell.silence) text tracker sink).2 =
      { output := (run cells text tracker sink).2.output
        log :=
          sink.log ++
            (visits cells text tracker).flatMap
              (Visit.records cells) } := by
  have hFlags := flags_silence cells
  have hWritten :
      written (cells.map Cell.silence) text tracker =
        written cells text tracker := by
    rw [written_eq_fill, written_eq_fill,
      segments_congr hFlags, fill_silence]
  have hRecords :
      Visit.records (cells.map Cell.silence) =
        Visit.records cells := by
    funext v
    exact Visit.records_congr hFlags v
  have hLog :=
    log_run (cells.map Cell.silence) text tracker sink
  rw [reports_silence, hRecords, visits_congr hFlags,
    List.append_nil] at hLog
  rw [← hLog, output_run cells, ← hWritten,
    ← output_run (cells.map Cell.silence)]

end

------------------------------------------------------------
-- Renderings and Their Records
------------------------------------------------------------

/- The visits of a rendering with the sinks they find. -/
def history
    (sink : Sink)
    (template : String)
    (cells : List Cell) : List (Visit × Sink) :=
  moments cells
    (visits cells template.toList Tracker.fresh) sink

/- The output of a rendering begins with what a visit finds. -/
theorem output_of_mem_history
    {sink : Sink}
    {template : String}
    {cells : List Cell}
    {m : Visit × Sink}
    (hMoment : m ∈ history sink template cells) :
    m.2.output.toList <+:
      (renderInto sink template cells).output.toList := by
  have hEnd := (output_of_mem_moments hMoment).2
  rw [← sink_run] at hEnd
  unfold renderInto Sink.reset
  rw [Sink.output_write, String.toList_append]
  exact hEnd.trans (List.prefix_append _ _)

/- Behind an unclosed guard only the style is restored. -/
theorem output_of_isUnclosed
    {sink : Sink}
    {template : String}
    {cells : List Cell}
    {m : Visit × Sink}
    {block : Block}
    {body : List Char}
    (hMoment : m ∈ history sink template cells)
    (hUnclosed : m.1.IsUnclosed cells block body) :
    (renderInto sink template cells).output =
      m.2.output ++ String.ofList Sink.resetSequence := by
  have hRecords : m.1.records cells ≠ [] :=
    List.ne_nil_of_mem
      (Visit.mem_records_iff.mpr
        ⟨block, body, hUnclosed, rfl⟩)
  unfold renderInto Sink.reset
  rw [Sink.output_write,
    output_run_of_records hMoment hRecords]

/-
  What is reported while a template is rendered behind a
  buffer: first one error for each draw of a cell of an
  unsupported kind, in order, which quotes the output in
  front of the draw; then at most one trace, of a guard that
  fails without a marker behind it, after which only the
  style is restored.  With absent facts in place of those
  cells the errors are gone, and nothing else is different.
-/
theorem log_renderInto
    (buffer template : String)
    (cells : List Cell) :
    ∃ errors trace : List Record,
      (renderInto { output := buffer } template cells).log =
          errors ++ trace ∧
        errors =
          (history { output := buffer } template
            cells).filterMap
              (fun m => m.1.report? cells m.2) ∧
        (errors.filterMap Record.quoted? ++
            [(renderInto { output := buffer } template
              cells).output]).Pairwise
          (fun a b => a.toList <+: b.toList) ∧
        trace.length ≤ 1 ∧
        (∀ r, r ∈ trace ↔
          ∃ m ∈ history { output := buffer } template cells,
            ∃ block body,
              m.1.IsUnclosed cells block body ∧
                r = .unclosedBlock block body) ∧
        (∀ m ∈ history { output := buffer } template cells,
          ∀ block body, m.1.IsUnclosed cells block body →
            (renderInto { output := buffer } template
                cells).output =
              m.2.output ++
                String.ofList Sink.resetSequence) ∧
        (∀ r ∈ errors, r.level = .error) ∧
        (∀ r ∈ trace, r.level = .trace) ∧
        renderInto { output := buffer } template
            (cells.map Cell.silence) =
          { output :=
              (renderInto { output := buffer } template
                cells).output
            log := trace } := by
  refine ⟨reports cells
      (history { output := buffer } template cells),
    (visits cells template.toList Tracker.fresh).flatMap
      (Visit.records cells),
    ?_, rfl, ?_, length_records_visits_le _ _ _,
    fun r => mem_flatMap_records_iff _,
    fun m hMoment block body => output_of_isUnclosed hMoment,
    fun r => level_of_mem_reports, ?_, ?_⟩
  · exact (log_run _ _ _ _).trans (by simp [history])
  · apply List.pairwise_append.mpr
    refine ⟨pairwise_quoted (pairwise_moments _ _ _),
      List.pairwise_singleton _ _, ?_⟩
    intro a ha b hb
    rcases mem_moments_of_quoted? ha with ⟨m, hMoment, rfl⟩
    rw [List.mem_singleton.mp hb]
    exact output_of_mem_history hMoment
  · intro r hRecord
    rcases (mem_flatMap_records_iff
        { output := buffer }).mp hRecord with
      ⟨m, -, block, body, -, rfl⟩
    rfl
  · unfold renderInto
    rw [run_silence]
    rfl

/-
  Two draws of one cell, by reference and by turn, and a
  guard whose marker is missing.
-/
theorem log_renderInto_unclosed_guard :
    ∃ errors trace : List Record,
      (renderInto { output := "a" }
          "\x7b1\x7db\x7b\x7d\x7b?2\x7dc"
          [.unsupported "d", .null]).log =
          errors ++ trace ∧
        errors =
          [.unsupportedCell "d" "a",
            .unsupportedCell "d" "ab"] ∧
        trace = [.unclosedBlock .whenSet ['?', '2']] := by
  rcases log_renderInto "a"
      "\x7b1\x7db\x7b\x7d\x7b?2\x7dc"
      [.unsupported "d", .null] with
    ⟨errors, trace, hLog, hErrors, -⟩
  have hDraws :
      errors =
        [.unsupportedCell "d" "a",
          .unsupportedCell "d" "ab"] := by
    rw [hErrors]
    decide +kernel
  have hAll :
      (renderInto { output := "a" }
          "\x7b1\x7db\x7b\x7d\x7b?2\x7dc"
          [.unsupported "d", .null]).log =
        [.unsupportedCell "d" "a",
            .unsupportedCell "d" "ab"] ++
          [.unclosedBlock .whenSet ['?', '2']] := by
    decide +kernel
  refine ⟨errors, trace, hLog, hDraws, ?_⟩
  rw [hAll, hDraws] at hLog
  exact (List.append_cancel_left hLog).symm

end Render

end FactLayout
