import FactLayout.Proofs.Render.Visit

/-
  Rendering behind what is already written.

  Sinks are put one behind the other.  Their outputs are
  joined, and so are their records, except that what a record
  of the second sink quotes has the output of the first in
  front.  Everything that a rendering does to a sink does the
  same to the sink behind another one, so a rendering into a
  sink is that sink with a rendering of its own behind.

  Key definitions include:
    * `Record.behind`
    * `Append Sink`

  Main results:
    * `Sink.append_assoc`
    * `Visit.act_behind`
    * `renderInto_behind`
    * `renderInto_one_by_one`
-/

------------------------------------------------------------
-- Records and Sinks Behind Others
------------------------------------------------------------

namespace FactLayout

namespace Record

/- What is reported if there is more output in front. -/
def behind
    (output : String) : Record → Record
| unsupportedCell kind quoted =>
    unsupportedCell kind (output ++ quoted)
| r => r

@[simp]
theorem behind_behind
    (front output : String)
    (r : Record) :
    (r.behind output).behind front =
      r.behind (front ++ output) := by
  cases r <;> simp [behind, String.append_assoc]

end Record

/- Put a sink behind another one. -/
instance : Append Sink where
  append s t :=
    { output := s.output ++ t.output
      log := s.log ++ t.log.map (Record.behind s.output) }

namespace Sink

@[simp]
theorem output_append
    (s t : Sink) :
    (s ++ t).output = s.output ++ t.output := rfl

@[simp]
theorem log_append
    (s t : Sink) :
    (s ++ t).log =
      s.log ++ t.log.map (Record.behind s.output) := rfl

theorem eq_of_output_log
    {s t : Sink}
    (hOutput : s.output = t.output)
    (hLog : s.log = t.log) :
    s = t := by
  cases s
  cases t
  simp_all

/- An empty sink adds nothing. -/
@[simp]
theorem append_empty
    (s : Sink) :
    s ++ ({} : Sink) = s := by
  apply eq_of_output_log <;> simp

theorem append_assoc
    (s t u : Sink) :
    s ++ t ++ u = s ++ (t ++ u) := by
  apply eq_of_output_log
  · simp [String.append_assoc]
  · simp [Function.comp_def]

------------------------------------------------------------
-- Writing Behind a Sink
------------------------------------------------------------

theorem write_behind
    (s t : Sink)
    (text : List Char) :
    (s ++ t).write text = s ++ t.write text := by
  apply eq_of_output_log <;> simp [String.append_assoc]

theorem report_behind
    (s t : Sink)
    (r : Record) :
    (s ++ t).report (r.behind s.output) =
      s ++ t.report r := by
  apply eq_of_output_log <;> simp

/- A cell that is reported quotes both outputs. -/
theorem writeCell_behind
    (s t : Sink)
    (cell : Cell) :
    (s ++ t).writeCell cell = s ++ t.writeCell cell := by
  cases cell with
  | unsupported kind =>
      exact s.report_behind t (.unsupportedCell kind t.output)
  | _ =>
      apply eq_of_output_log
      · simp [String.append_assoc]
      · simp [writeCell]

theorem reset_behind
    (s t : Sink) :
    (s ++ t).reset = s ++ t.reset :=
  s.write_behind t resetSequence

/-
  Steps that do the same behind a sink do so one after the
  other.
-/
theorem foldl_behind
    {α : Type}
    {act : Sink → α → Sink}
    {items : List α}
    {s : Sink}
    (hAct : ∀ a ∈ items, ∀ t, act (s ++ t) a = s ++ act t a)
    (t : Sink) :
    items.foldl act (s ++ t) = s ++ items.foldl act t := by
  induction items generalizing t with
  | nil => rfl
  | cons a items ih =>
      have hLater :
          ∀ b ∈ items, ∀ t, act (s ++ t) b = s ++ act t b :=
        fun b hb => hAct b (List.mem_cons_of_mem _ hb)
      rw [List.foldl_cons, List.foldl_cons,
        hAct a List.mem_cons_self, ih hLater]

end Sink

namespace Render

------------------------------------------------------------
-- Rendering Behind a Sink
------------------------------------------------------------

theorem Segment.put_behind
    (cells : List Cell)
    (s t : Sink)
    (segment : Segment) :
    segment.put cells (s ++ t) = s ++ segment.put cells t := by
  cases segment with
  | text text => exact s.write_behind t text
  | cell position =>
      simp only [put]
      cases cells[position]? with
      | none => rfl
      | some cell => exact s.writeCell_behind t cell

/- The record of a guard quotes no output. -/
theorem Visit.behind_of_mem_records
    {cells : List Cell}
    {v : Visit}
    {r : Record}
    (hRecord : r ∈ v.records cells)
    (output : String) :
    r.behind output = r := by
  unfold records at hRecord
  split at hRecord
  · split at hRecord
    · cases hRecord
    · rw [List.mem_singleton.mp hRecord]
      rfl
  · cases hRecord

/- A visit does the same behind a sink. -/
theorem Visit.act_behind
    (cells : List Cell)
    (v : Visit)
    (s t : Sink) :
    v.act cells (s ++ t) = s ++ v.act cells t := by
  unfold act
  rw [Sink.foldl_behind fun segment _ t =>
    segment.put_behind cells s t]
  apply Sink.foldl_behind
  intro r hRecord t
  have hReport := s.report_behind t r
  rw [behind_of_mem_records hRecord] at hReport
  exact hReport

/- So does a run, because its visits are the same. -/
theorem sink_run_behind
    (cells : List Cell)
    (text : List Char)
    (tracker : Tracker)
    (s t : Sink) :
    (run cells text tracker (s ++ t)).2 =
      s ++ (run cells text tracker t).2 := by
  rw [sink_run, sink_run]
  apply Sink.foldl_behind
  intro v _ t
  exact v.act_behind cells s t

/- A rendering is put behind what the sink holds. -/
theorem renderInto_behind
    (sink : Sink)
    (template : String)
    (cells : List Cell) :
    renderInto sink template cells =
      sink ++ render template cells := by
  unfold render renderInto
  rw [← Sink.reset_behind, ← sink_run_behind,
    Sink.append_empty]

/-
  A rendering into a sink leaves what is there, puts the
  output that the template has by itself behind it, and
  reports what the template reports by itself, with the
  output in front in every quotation.  Renderings into one
  sink are therefore renderings by themselves, one behind the
  other.
-/
theorem renderInto_one_by_one
    (sink : Sink) :
    (∀ template cells,
      renderInto sink template cells =
        { output :=
            sink.output ++ (render template cells).output
          log :=
            sink.log ++
              (render template cells).log.map
                (Record.behind sink.output) }) ∧
      ∀ pages : List (String × List Cell),
        pages.foldl
            (fun s (page : String × List Cell) =>
              renderInto s page.1 page.2) sink =
          sink ++
            (pages.map fun page =>
              render page.1 page.2).foldl (· ++ ·) {} ∧
        (pages.foldl
            (fun s (page : String × List Cell) =>
              renderInto s page.1 page.2) sink).output =
          sink.output ++
            String.join
              (pages.map fun page =>
                (render page.1 page.2).output) := by
  constructor
  · intro template cells
    exact renderInto_behind sink template cells
  · intro pages
    constructor
    · rw [← Sink.foldl_behind fun s _ t =>
        Sink.append_assoc _ t s, Sink.append_empty,
        List.foldl_map]
      simp only [renderInto_behind]
    · apply output_foldl
      intro s page
      rw [renderInto_behind, Sink.output_append]

end Render

end FactLayout
