import FactLayout.Layout
import FactLayout.Proofs.Render.Prefix

/-
  Reports of layouts that give no templates.

  A module without a template shows every cell once, in
  order.  Its label, the separator and the texts of its cells
  are written as they are.

  Key definitions include:
    * `Module.body`

  Main results:
    * `Render.written_empty_append`
    * `Render.written_placeholders`
    * `Module.output_render`
    * `Layout.render_default`
-/

------------------------------------------------------------
-- Empty Placeholders in Front of Text
------------------------------------------------------------

namespace FactLayout

@[simp]
theorem Module.toList_placeholder :
    Module.placeholder.toList = ['{', '}'] := rfl

namespace Render

variable (cells : List Cell)

/- Literal text is written in front of what follows it. -/
theorem written_literal_append
    {text : List Char}
    (hText : '{' ∉ text)
    (more : List Char)
    (tracker : Tracker) :
    written cells (text ++ more) tracker =
      String.ofList text ++ written cells more tracker := by
  rw [written, run_literal_append hText, output_run,
    Sink.output_write, String.empty_append]

/-
  An empty placeholder draws the cell at the position of the
  tracker, or is written as it stands, and moves on.
-/
theorem written_empty_append
    (more : List Char)
    (tracker : Tracker) :
    written cells (['{', '}'] ++ more) tracker =
      ((cells[tracker.position]?).map Cell.text).getD
          Module.placeholder ++
        written cells more tracker.advance := by
  have hNext :
      Scanner.next? (['{', '}'] ++ more) =
        some (.empty true, more) := rfl
  have hFirst :
      Visit.output cells ⟨.empty true, more, tracker⟩ =
        ((cells[tracker.position]?).map Cell.text).getD
          Module.placeholder := by
    unfold Visit.output
    simp only [Visit.segments, List.map_cons, List.map_nil,
      Visit.fill_drawn, String.join_cons, String.join_nil,
      String.append_empty]
    rfl
  rw [written, run_of_more hNext rfl, output_run,
    Visit.output_act, hFirst, String.empty_append]

/-
  Placeholders joined by spaces draw the cells from the
  position of the tracker on, joined by spaces.
-/
theorem written_placeholders
    {cells : List Cell}
    {cell : Cell}
    {later : List Cell}
    {tracker : Tracker}
    (hCells :
      cells.drop tracker.position = cell :: later) :
    written cells
        (" ".intercalate
          (List.replicate (later.length + 1)
            Module.placeholder)).toList tracker =
      " ".intercalate ((cell :: later).map Cell.text) := by
  induction later generalizing cell tracker with
  | nil =>
      have hCell : cells[tracker.position]? = some cell := by
        rw [← List.head?_drop, hCells]
        rfl
      have hDraw := written_empty_append cells [] tracker
      rw [List.append_nil, hCell] at hDraw
      simpa [written] using hDraw
  | cons next later ih =>
      have hCell : cells[tracker.position]? = some cell := by
        rw [← List.head?_drop, hCells]
        rfl
      have hLater :
          cells.drop tracker.advance.position =
            next :: later := by
        rw [Tracker.position_advance, ← List.drop_drop,
          hCells]
        rfl
      have hTemplate :
          (" ".intercalate
            (List.replicate (later.length + 2)
              Module.placeholder)).toList =
            ['{', '}'] ++ ([' '] ++
              (" ".intercalate
                (List.replicate (later.length + 1)
                  Module.placeholder)).toList) := by
        rw [List.replicate_succ, List.replicate_succ,
          String.intercalate_cons_cons]
        simp
      rw [List.length_cons, hTemplate, written_empty_append,
        written_literal_append cells (by decide), ih hLater, hCell]
      simp [String.append_assoc]

end Render

------------------------------------------------------------
-- Modules Without a Template
------------------------------------------------------------

namespace Module

/-
  What a module shows if it gives no template: the texts of
  its cells, or a placeholder that nothing fills.
-/
def body (m : Module) : String :=
  if m.cells = [] then placeholder
  else " ".intercalate (m.cells.map Cell.text)

/- A module without a template shows its body. -/
theorem output_render
    {m : Module}
    (hFormat : m.format = none) :
    m.render.output =
      m.body ++ String.ofList Sink.resetSequence := by
  have hTemplate :
      m.template =
        " ".intercalate
          (List.replicate (max m.cells.length 1)
            placeholder) := by
    unfold template
    rw [hFormat, Option.getD_none]
  have hOutput :
      m.render.output =
        Render.written m.cells m.template.toList
            Tracker.fresh ++
          String.ofList Sink.resetSequence := rfl
  rw [hOutput, hTemplate]
  congr 1
  unfold body
  cases hCells : m.cells with
  | nil =>
      have hDraw :=
        Render.written_empty_append [] [] Tracker.fresh
      simpa [Render.written] using hDraw
  | cons cell later =>
      rw [if_neg (List.cons_ne_nil cell later),
        List.length_cons, Nat.max_eq_left (by omega)]
      exact Render.written_placeholders rfl

end Module

------------------------------------------------------------
-- Layouts Without Templates
------------------------------------------------------------

namespace Layout

/-
  A layout without templates has a line for each module, in
  order: its label, the separator, the texts of all its cells
  and the sequence that restores the style.  Cells that are
  absent or unsupported have no text.
-/
theorem render_default
    (l : Layout)
    (hDefault :
      ∀ entry ∈ l.modules, entry.2.format = none) :
    l.render.output =
        "\n".intercalate
          (l.modules.map fun (name, m) =>
            m.key.getD name ++ l.separator ++
              (if m.cells = [] then "\x7b\x7d"
              else " ".intercalate (m.cells.map Cell.text)) ++
              "\x1b[0m") ∧
      Cell.null.text = "" ∧
      ∀ kind, (Cell.unsupported kind).text = "" := by
  refine ⟨?_, rfl, fun kind => rfl⟩
  change "\n".intercalate _ = _
  congr 1
  apply List.map_congr_left
  rintro ⟨name, m⟩ hEntry
  have hOutput := m.output_render (hDefault _ hEntry)
  change m.key.getD name ++ l.separator ++ m.render.output = _
  rw [hOutput, ← String.append_assoc]
  rfl

/-
  A label that reads like a stop, cells that read like
  placeholders or have no text, and a module without cells.
-/
theorem render_default_directives_in_texts :
    let l : Layout :=
      ⟨[("cpu", ⟨some "\x7b-\x7d", none,
            [.string "\x7b1\x7d", .null, .uint8 7,
              .unsupported "pointer"], []⟩),
          ("\x7b\x7d", ⟨none, none, [], []⟩)],
        "\x7b"⟩
    (∀ entry ∈ l.modules, entry.2.format = none) ∧
      l.render.output =
        "\x7b-\x7d\x7b\x7b1\x7d  7 \x1b[0m\n" ++
          "\x7b\x7d\x7b\x7b\x7d\x1b[0m" := by
  intro l
  have hDefault :
      ∀ entry ∈ l.modules, entry.2.format = none := by
    decide
  refine ⟨hDefault, ?_⟩
  rw [(render_default l hDefault).1]
  decide +kernel

end Layout

end FactLayout
