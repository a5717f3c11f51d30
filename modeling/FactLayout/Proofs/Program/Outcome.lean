import FactLayout.Program
import FactLayout.Proofs.Files.Precedence
import FactLayout.Proofs.Layout.Conversion

/-
  What a run leaves behind.

  A run gives the whole text that it was asked for, or it
  gives no output and says what is wrong.  It depends on the
  files and on the input only as far as its options look at
  them.

  Key definitions include:
    * `Program.NeedsLayout`
    * `Program.Answers`
    * `Program.Refuses`
    * `Program.Agree`

  Main results:
    * `Program.answers_or_refuses`
    * `Program.report_congr`
    * `Program.run_congr`
    * `Program.run_all_or_nothing`
-/

------------------------------------------------------------
-- Answers and Refusals
------------------------------------------------------------

namespace FactLayout

namespace Program

variable {w other : Surroundings}
variable {o : Options}
variable {words : List String}
variable {format text : String}
variable {fault : Fault}

/- There is no format to render, or help is asked for. -/
def NeedsLayout (o : Options) : Prop :=
  o.format = none ∨ o.formatHelp = true

/- The cells that are read from the input, if any. -/
def inputCells
    (w : Surroundings)
    (o : Options) : Attempt (List Cell) :=
  if o.stdin then readInput w.input else pure []

/-
  The whole text that options ask for: the format rendered
  against the arguments and the input, the layout, or the
  help about it.
-/
inductive Answers
    (w : Surroundings)
    (o : Options) : String → Prop where
| format
    {format : String}
    {cells : List Cell}
    (hFormat : o.format = some format)
    (hHelp : o.formatHelp = false)
    (hCells : (inputCells w o).result = .ok cells) :
    Answers w o
      (Render.render format
        (o.args.map Cell.string ++ cells)).output
| layout
    {l : Layout}
    (hFormat : o.format = none)
    (hHelp : o.formatHelp = false)
    (hLayout : (layout w.files o.config).result = .ok l)
    (hModules : l.modules ≠ []) :
    Answers w o l.render.output
| help
    {l : Layout}
    (hHelp : o.formatHelp = true)
    (hLayout : (layout w.files o.config).result = .ok l)
    (hModules : l.modules ≠ []) :
    Answers w o l.formatHelp

/-
  Why options cannot be answered: the input or the layout
  cannot be read, or the layout has no modules.
-/
inductive Refuses
    (w : Surroundings)
    (o : Options) : Fault → Prop where
| input
    {fault : Fault}
    (hFormat : o.format.isSome = true)
    (hHelp : o.formatHelp = false)
    (hCells : (inputCells w o).result = .error fault) :
    Refuses w o fault
| layout
    {fault : Fault}
    (hNeeds : NeedsLayout o)
    (hLayout :
      (layout w.files o.config).result = .error fault) :
    Refuses w o fault
| empty
    {l : Layout}
    (hNeeds : NeedsLayout o)
    (hLayout : (layout w.files o.config).result = .ok l)
    (hModules : l.modules = []) :
    Refuses w o .nothingToRender

/- A format is rendered unless a layout is needed. -/
theorem exists_format_of_not_needsLayout
    (hNeeds : ¬ NeedsLayout o) :
    ∃ format, o.format = some format ∧
      o.formatHelp = false := by
  unfold NeedsLayout at hNeeds
  rw [not_or, Bool.not_eq_true] at hNeeds
  rcases Option.ne_none_iff_exists'.mp hNeeds.1 with
    ⟨format, hFormat⟩
  exact ⟨format, hFormat, hNeeds.2⟩

------------------------------------------------------------
-- Results
------------------------------------------------------------

theorem report_of_format
    (hFormat : o.format = some format)
    (hHelp : o.formatHelp = false)
    (w : Surroundings) :
    report w o = renderFormat w o format := by
  unfold report
  rw [hFormat, hHelp]

theorem report_of_needsLayout
    (hNeeds : NeedsLayout o)
    (w : Surroundings) :
    report w o = renderLayout w o := by
  unfold report
  rcases hNeeds with hFormat | hHelp
  · rw [hFormat]
  · rw [hHelp]
    cases o.format <;> rfl

/- The input is read first; nothing fails behind it. -/
theorem renderFormat_eq_bind
    (w : Surroundings)
    (o : Options)
    (format : String) :
    renderFormat w o format =
      inputCells w o >>= fun cells =>
        ⟨.renderingTemplate format
            (o.args.map Cell.string ++ cells).length ::
          (Render.render format
            (o.args.map Cell.string ++ cells)).log,
          .ok (Render.render format
            (o.args.map Cell.string ++ cells)).output⟩ := by
  unfold renderFormat inputCells
  cases o.stdin with
  | false =>
      simp only [Bool.false_eq_true, if_false, pure_bind,
        List.append_nil]
      rfl
  | true =>
      simp only [if_true, map_eq_pure_bind, bind_assoc,
        pure_bind]
      rfl

/- What is asked for is what a run comes to. -/
theorem result_report_of_answers
    (hAnswers : Answers w o text) :
    (report w o).result = .ok text := by
  cases hAnswers with
  | format hFormat hHelp hCells =>
      rw [report_of_format hFormat hHelp,
        renderFormat_eq_bind, Attempt.bind_of_ok _ hCells]
  | layout hFormat hHelp hLayout hModules =>
      rw [report_of_needsLayout (Or.inl hFormat)]
      unfold renderLayout
      rw [Attempt.bind_of_ok _ hLayout, if_neg hModules,
        hHelp]
      rfl
  | help hHelp hLayout hModules =>
      rw [report_of_needsLayout (Or.inr hHelp)]
      unfold renderLayout
      rw [Attempt.bind_of_ok _ hLayout, if_neg hModules,
        hHelp]
      rfl

/- What is wrong is what a run comes to. -/
theorem result_report_of_refuses
    (hRefuses : Refuses w o fault) :
    (report w o).result = .error fault := by
  cases hRefuses with
  | input hFormat hHelp hCells =>
      rcases Option.isSome_iff_exists.mp hFormat with
        ⟨format, hFormat⟩
      rw [report_of_format hFormat hHelp,
        renderFormat_eq_bind,
        Attempt.bind_of_error _ hCells]
  | layout hNeeds hLayout =>
      rw [report_of_needsLayout hNeeds]
      unfold renderLayout
      rw [Attempt.bind_of_error _ hLayout]
  | empty hNeeds hLayout hModules =>
      rw [report_of_needsLayout hNeeds]
      unfold renderLayout
      rw [Attempt.bind_of_ok _ hLayout, if_pos hModules]
      rfl

/- Every run is answered or refused. -/
theorem answers_or_refuses
    (w : Surroundings)
    (o : Options) :
    (∃ text, Answers w o text) ∨
      ∃ fault, Refuses w o fault := by
  by_cases hNeeds : NeedsLayout o
  · cases hLayout : (layout w.files o.config).result with
    | error fault =>
        exact Or.inr ⟨fault, .layout hNeeds hLayout⟩
    | ok l =>
        by_cases hModules : l.modules = []
        · exact Or.inr ⟨_, .empty hNeeds hLayout hModules⟩
        · left
          cases hHelp : o.formatHelp with
          | true => exact ⟨_, .help hHelp hLayout hModules⟩
          | false =>
              have hFormat : o.format = none :=
                hNeeds.resolve_right (by simp [hHelp])
              exact
                ⟨_, .layout hFormat hHelp hLayout hModules⟩
  · rcases exists_format_of_not_needsLayout hNeeds with
      ⟨format, hFormat, hHelp⟩
    cases hCells : (inputCells w o).result with
    | error fault =>
        have hSome : o.format.isSome = true := by
          rw [hFormat]
          rfl
        exact Or.inr ⟨fault, .input hSome hHelp hCells⟩
    | ok cells =>
        exact Or.inl ⟨_, .format hFormat hHelp hCells⟩

------------------------------------------------------------
-- What Is Looked At
------------------------------------------------------------

/- The same as far as options look at files and input. -/
structure Agree
    (o : Options)
    (w other : Surroundings) : Prop where
  files :
    ∀ path ∈ usedPaths o, other.files path = w.files path
  input : usesInput o = true → other.input = w.input

/- A format is rendered without a look at any file. -/
theorem usedPaths_of_format
    (hFormat : o.format = some format)
    (hHelp : o.formatHelp = false) :
    usedPaths o = [] := by
  unfold usedPaths
  rw [hFormat, hHelp]
  rfl

theorem usedPaths_of_needsLayout
    (hNeeds : NeedsLayout o) :
    usedPaths o =
      match o.config with
      | some path => path :: layoutPaths path
      | none => layoutPaths currentDirectory := by
  unfold usedPaths
  apply if_neg
  rcases hNeeds with hFormat | hHelp
  · simp [hFormat]
  · simp [hHelp]

/- A layout is settled by the paths that are looked at. -/
theorem layout_congr
    (hNeeds : NeedsLayout o)
    (hAgree : Agree o w other) :
    layout other.files o.config =
      layout w.files o.config := by
  have hFiles := hAgree.files
  rw [usedPaths_of_needsLayout hNeeds] at hFiles
  unfold layout
  cases hConfig : o.config with
  | some path =>
      simp only [hConfig] at hFiles
      exact
        FileView.layout_congr (hFiles path (by simp))
          fun p hMem => hFiles p (by simp [hMem])
  | none =>
      simp only [hConfig] at hFiles
      simp only [FileView.findLayout?_congr hFiles]
      cases hFound :
        w.files.findLayout? currentDirectory with
      | none => rfl
      | some found =>
          rcases
            FileView.findLayout?_eq_some_iff.mp hFound with
            ⟨earlier, hFirst⟩
          exact
            FileView.layout_congr_of_isFile hFirst.isFile
              (hFiles found
                (List.mem_of_find?_eq_some hFound))

/- The input is looked at only if cells are read from it. -/
theorem inputCells_congr
    (hFormat : o.format = some format)
    (hHelp : o.formatHelp = false)
    (hAgree : Agree o w other) :
    inputCells other o = inputCells w o := by
  unfold inputCells
  cases hInput : o.stdin with
  | false => rfl
  | true =>
      have hUses : usesInput o = true := by
        unfold usesInput
        rw [hInput, hFormat, hHelp]
        rfl
      rw [hAgree.input hUses]

/-
  Nothing counts but what options look at: this is all that a
  caller has to provide.
-/
theorem report_congr
    (hAgree : Agree o w other) :
    report other o = report w o := by
  by_cases hNeeds : NeedsLayout o
  · rw [report_of_needsLayout hNeeds,
      report_of_needsLayout hNeeds]
    unfold renderLayout
    rw [layout_congr hNeeds hAgree]
  · rcases exists_format_of_not_needsLayout hNeeds with
      ⟨format, hFormat, hHelp⟩
    rw [report_of_format hFormat hHelp,
      report_of_format hFormat hHelp,
      renderFormat_eq_bind, renderFormat_eq_bind,
      inputCells_congr hFormat hHelp hAgree]

/- A format is rendered whatever layout is named. -/
theorem report_of_config
    (hFormat : o.format = some format)
    (hHelp : o.formatHelp = false)
    (w : Surroundings)
    (config : Option String) :
    report w { o with config } = report w o := by
  rw [report_of_format hFormat hHelp]
  exact
    report_of_format (o := { o with config }) hFormat hHelp w

------------------------------------------------------------
-- Runs
------------------------------------------------------------

/- What stands behind the text of an answer. -/
def lineEnd (o : Options) : String :=
  if o.noNewline then "" else "\n"

theorem run_of_parse
    (hParse : CommandLine.parse words = .ok o)
    (w : Surroundings) :
    run w words = execute w o := by
  unfold run
  rw [hParse]

/- An answer is written as a whole. -/
theorem execute_of_answers
    (hAnswers : Answers w o text) :
    execute w o =
      { code := 0
        output := text ++ lineEnd o
        log := (report w o).log.filter
          (isShown o.verbose) } := by
  unfold execute lineEnd
  dsimp only
  rw [result_report_of_answers hAnswers]
  cases o.noNewline with
  | true => simp
  | false => rfl

/- A refusal has no output. -/
theorem execute_of_refuses
    (hRefuses : Refuses w o fault) :
    execute w o =
      { code := 1
        complaint := fault.message ++ "\n"
        log := (report w o).log.filter
          (isShown o.verbose) } := by
  unfold execute
  dsimp only
  rw [result_report_of_refuses hRefuses]

/- The outcome is what is reported, as options show it. -/
theorem execute_congr
    {p : Options}
    (hVerbose : p.verbose = o.verbose)
    (hNewline : p.noNewline = o.noNewline)
    (hReport : report other p = report w o) :
    execute other p = execute w o := by
  unfold execute
  rw [hVerbose, hNewline, hReport]

/- A run depends on what its command line looks at. -/
theorem run_congr
    (hAgree :
      ∀ o, CommandLine.parse words = .ok o →
        Agree o w other) :
    run other words = run w words := by
  cases hParse : CommandLine.parse words with
  | error interruption =>
      unfold run
      rw [hParse]
  | ok o =>
      rw [run_of_parse hParse, run_of_parse hParse]
      exact
        execute_congr rfl rfl (report_congr (hAgree o hParse))

/-
  A run writes the whole text that its command line asks for
  and succeeds, or it writes nothing, fails and says why.  It
  depends on what its options look at: if a format is
  rendered, neither the files nor the path of a layout matter,
  and the input matters only if cells are to be read from it.
-/
theorem run_all_or_nothing
    (hParse : CommandLine.parse words = .ok o)
    (w : Surroundings) :
    ((∃ text, Answers w o text) ∨
        ∃ fault, Refuses w o fault) ∧
      (∀ text, Answers w o text →
        (run w words).code = 0 ∧
          (run w words).output = text ++ lineEnd o ∧
          (run w words).complaint = "") ∧
      (∀ fault, Refuses w o fault →
        (run w words).code = 1 ∧
          (run w words).output = "" ∧
          (run w words).complaint = fault.message ++ "\n") ∧
      (∀ other, Agree o w other →
        run other words = run w words) ∧
      (o.format.isSome = true → o.formatHelp = false →
        ∀ files config words',
          CommandLine.parse words' =
              .ok { o with config } →
            run ⟨files, w.input⟩ words' = run w words) ∧
      (¬ (o.format.isSome = true ∧ o.stdin = true ∧
          o.formatHelp = false) →
        ∀ input,
          run ⟨w.files, input⟩ words = run w words) := by
  have hLooks :
      ∀ other, Agree o w other →
        run other words = run w words := by
    intro other hAgree
    apply run_congr
    intro p hParse'
    rw [hParse] at hParse'
    cases hParse'
    exact hAgree
  refine ⟨answers_or_refuses w o, ?answered, ?refused, hLooks,
    ?files, ?input⟩
  case answered =>
    intro text hAnswers
    rw [run_of_parse hParse, execute_of_answers hAnswers]
    exact ⟨rfl, rfl, rfl⟩
  case refused =>
    intro fault hRefuses
    rw [run_of_parse hParse, execute_of_refuses hRefuses]
    exact ⟨rfl, rfl, rfl⟩
  case files =>
    intro hSome hHelp files config words' hParse'
    rcases Option.isSome_iff_exists.mp hSome with
      ⟨format, hFormat⟩
    have hAgree : Agree o w ⟨files, w.input⟩ := by
      refine ⟨?_, fun _ => rfl⟩
      rw [usedPaths_of_format hFormat hHelp]
      simp
    have hReport :
        report ⟨files, w.input⟩ { o with config } =
          report w o := by
      rw [report_of_config hFormat hHelp,
        report_congr hAgree]
    rw [run_of_parse hParse', run_of_parse hParse]
    exact execute_congr rfl rfl hReport
  case input =>
    intro hUnread input
    apply hLooks
    refine ⟨fun _ _ => rfl, ?_⟩
    intro hUses
    unfold usesInput at hUses
    simp only [Bool.and_eq_true, Bool.not_eq_true'] at hUses
    exact absurd ⟨hUses.1.2, hUses.1.1, hUses.2⟩ hUnread

/- Input that is no text matters only to a run that reads it. -/
theorem run_all_or_nothing_undecodable_input :
    let w : Surroundings :=
      ⟨Function.const String .directory, .ok ⟨#[255]⟩⟩
    let absent : FileView :=
      Function.const String (.absent .notFound)
    let reading : List String := ["-s", "\x7b1\x7d"]
    let plain : List String := ["-n", "\x7b1\x7d", "a"]
    ((run w reading).code = 1 ∧
        (run w reading).output = "" ∧
        (run w reading).complaint =
          "IO error: stream did not contain valid UTF-8.\n") ∧
      run ⟨absent, w.input⟩ ("--config=x" :: reading) =
        run w reading ∧
      (run w plain).output = "a\x1b[0m" ∧
      run ⟨w.files, .ok ⟨#[]⟩⟩ plain = run w plain := by
  intro w absent reading plain
  let o : Options :=
    { format := some "\x7b1\x7d"
      stdin := true }
  let p : Options :=
    { format := some "\x7b1\x7d"
      args := ["a"]
      noNewline := true }
  have hReading : CommandLine.parse reading = .ok o := by
    rfl
  have hConfig :
      CommandLine.parse ("--config=x" :: reading) =
        .ok { o with config := some "x" } := by
    rfl
  have hPlain : CommandLine.parse plain = .ok p := by
    rfl
  have hRefuses : Refuses w o (.file .notText) :=
    .input rfl rfl rfl
  have hCells : (inputCells w p).result = .ok [] := by
    rfl
  have hText :
      (Render.render "\x7b1\x7d"
          (p.args.map Cell.string ++ [])).output =
        "a\x1b[0m" := by
    decide +kernel
  have hAnswers : Answers w p "a\x1b[0m" := by
    rw [← hText]
    exact .format rfl rfl hCells
  rcases run_all_or_nothing hReading w with
    ⟨-, -, hRefused, -, hFiles, -⟩
  rcases run_all_or_nothing hPlain w with
    ⟨-, hAnswered, -, -, -, hInput⟩
  refine ⟨hRefused _ hRefuses, ?_, ?_, ?_⟩
  · exact hFiles rfl rfl absent (some "x") _ hConfig
  · exact (hAnswered _ hAnswers).2.1
  · exact hInput (by simp [p]) (.ok ⟨#[]⟩)

end Program

end FactLayout
