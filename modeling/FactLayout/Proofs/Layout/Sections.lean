import FactLayout.Proofs.Layout.Help
import FactLayout.Proofs.Text.Trim

/-
  Format help read back.

  Format help has a section for each module.  A section is a
  heading, a line for the template, and a line for each
  description; all lines but the heading begin with two
  spaces.  As long as no part has a line break, and no label
  begins with a space, the sections are told apart and each
  part is found again.

  Key definitions include:
    * `HelpSection`
    * `HelpSection.IsPlain`
    * `HelpSection.lines`
    * `Layout.sections`
    * `HelpSection.ofLines`
    * `HelpSection.readAll`

  Main results:
    * `Blank.dropLastWhile_lines`
    * `HelpSection.ofLines_lines`
    * `Layout.readAll_formatHelp`
    * `Layout.formatHelp_eq_iff`
-/

------------------------------------------------------------
-- Lines
------------------------------------------------------------

namespace FactLayout

/-
  Line breaks stand behind all lines if they stand between
  them and behind the last one.
-/
theorem intercalate_append_newline
    {lines : List (List Char)}
    (hSome : lines ≠ []) :
    ['\n'].intercalate lines ++ ['\n'] =
      lines.flatMap (· ++ ['\n']) := by
  induction lines with
  | nil => exact absurd rfl hSome
  | cons line lines ih =>
      cases lines with
      | nil => simp
      | cons next lines =>
          rw [List.intercalate_cons_cons, List.append_assoc,
            ih (List.cons_ne_nil _ _)]
          rfl

/-
  Only the line break at the end is dropped, because the last
  line is not empty.
-/
theorem Blank.dropLastWhile_lines
    {lines : List (List Char)}
    (hLines : ∀ line ∈ lines, line ≠ [] ∧ '\n' ∉ line) :
    dropLastWhile (· == '\n') (lines.flatMap (· ++ ['\n'])) =
      ['\n'].intercalate lines := by
  rcases List.eq_nil_or_concat' lines with
    rfl | ⟨init, last, rfl⟩
  · rfl
  · rcases hLines last (by simp) with ⟨hSome, hPlain⟩
    rcases List.eq_nil_or_concat' last with
      rfl | ⟨front, c, rfl⟩
    · exact absurd rfl hSome
    · have hBreak : c ≠ '\n' := by
        rintro rfl
        simp at hPlain
      have hBetween :
          ['\n'].intercalate (init ++ [front ++ [c]]) =
            init.flatMap (· ++ ['\n']) ++ front ++ [c] := by
        apply List.append_cancel_right
        rw [intercalate_append_newline (by simp)]
        simp
      rw [hBetween]
      simp [dropLastWhile, hBreak]

------------------------------------------------------------
-- Sections
------------------------------------------------------------

/- What help says about one module. -/
structure HelpSection where
  label : String
  template : String
  descriptions : List String
deriving DecidableEq, Repr

/- The line about one placeholder. -/
def descriptionLine
    (number : ℕ)
    (description : String) : List Char :=
  [' ', ' '] ++ (helpPlaceholder number).toList ++
    [':', ' '] ++ description.toList

/- Lines about placeholders, from a number on. -/
def descriptionLines : ℕ → List String → List (List Char)
| _, [] => []
| number, description :: rest =>
    descriptionLine number description ::
      descriptionLines (number + 1) rest

/- The text of a line about one placeholder. -/
def descriptionOf (line : List Char) : String :=
  String.ofList ((line.dropWhile (· != '}')).drop 3)

/- A line that does not begin a section. -/
def isInner (line : List Char) : Bool :=
  line.take 2 == [' ', ' ']

namespace HelpSection

/-
  A section whose parts are single lines, with a label that
  does not begin with a space.
-/
structure IsPlain (s : HelpSection) : Prop where
  label : '\n' ∉ s.label.toList
  template : '\n' ∉ s.template.toList
  descriptions : ∀ d ∈ s.descriptions, '\n' ∉ d.toList
  first : s.label.toList.head? ≠ some ' '

/- What follows the label in a heading. -/
def headingEnd : List Char :=
  [' ', 'f', 'o', 'r', 'm', 'a', 't', ':']

/- What comes before the template. -/
def templateStart : List Char :=
  [' ', ' ', 'd', 'e', 'f', 'a', 'u', 'l', 't', ':', ' ']

/- The lines of a section. -/
def lines (s : HelpSection) : List (List Char) :=
  (s.label.toList ++ headingEnd) ::
    (templateStart ++ s.template.toList) ::
    descriptionLines 1 s.descriptions

/- The section that begins with two lines. -/
def ofHead
    (heading templateLine : List Char)
    (inner : List (List Char)) : HelpSection where
  label :=
    String.ofList
      (heading.take (heading.length - headingEnd.length))
  template :=
    String.ofList (templateLine.drop templateStart.length)
  descriptions := inner.map descriptionOf

/- The sections that lines make up. -/
def ofLines : List (List Char) → List HelpSection
| heading :: templateLine :: rest =>
    ofHead heading templateLine (rest.takeWhile isInner) ::
      ofLines (rest.dropWhile isInner)
| _ => []
termination_by lines => lines.length
decreasing_by
  have hRest := List.length_dropWhile_le isInner rest
  simp only [List.length_cons]
  omega

/- The sections that a text is made of. -/
def readAll (text : String) : List HelpSection :=
  ofLines (text.toList.splitOn '\n')

end HelpSection

/- What help says about each module of a layout. -/
def Layout.sections (l : Layout) : List HelpSection :=
  l.modules.map fun (name, m) =>
    ⟨m.label name, m.template, m.help⟩

------------------------------------------------------------
-- Descriptions
------------------------------------------------------------

/- A description is found behind its placeholder. -/
theorem descriptionOf_descriptionLine
    (number : ℕ)
    (description : String) :
    descriptionOf (descriptionLine number description) =
      description := by
  have hDigits : '}' ∉ Nat.toDigits 10 number :=
    (Reference.isSound_toDigits number).2.1
  have hFront :
      ∀ c ∈ [' ', ' ', '{'] ++ Nat.toDigits 10 number,
        (c != '}') = true := by
    intro c hMem
    rw [bne_iff_ne]
    rintro rfl
    rcases List.mem_append.mp hMem with hSpaces | hDigit
    · exact absurd hSpaces (by decide)
    · exact hDigits hDigit
  have hBack :
      ∀ c ∈ (['}', ':', ' '] ++ description.toList).head?,
        (c != '}') = false := by
    rintro c ⟨⟩
    rfl
  have hLine :
      descriptionLine number description =
        [' ', ' ', '{'] ++ Nat.toDigits 10 number ++
          (['}', ':', ' '] ++ description.toList) := by
    simp [descriptionLine, helpPlaceholder]
  unfold descriptionOf
  rw [hLine, (takeWhile_dropWhile_append hFront hBack).2]
  simp

theorem map_descriptionOf_descriptionLines
    (number : ℕ)
    (descriptions : List String) :
    (descriptionLines number descriptions).map
        descriptionOf =
      descriptions := by
  induction descriptions generalizing number with
  | nil => rfl
  | cons d rest ih =>
      rw [descriptionLines, List.map_cons,
        descriptionOf_descriptionLine, ih]

/- What holds of every numbered line holds of all of them. -/
theorem forall_mem_descriptionLines
    {P : List Char → Prop}
    {descriptions : List String}
    (hEach :
      ∀ d ∈ descriptions, ∀ number,
        P (descriptionLine number d))
    (number : ℕ) :
    ∀ line ∈ descriptionLines number descriptions,
      P line := by
  induction descriptions generalizing number with
  | nil =>
      intro line hLine
      cases hLine
  | cons d rest ih =>
      intro line hLine
      rcases List.mem_cons.mp hLine with rfl | hLine
      · exact hEach d List.mem_cons_self number
      · exact ih
          (fun e hMem => hEach e (List.mem_cons_of_mem _ hMem))
          (number + 1) line hLine

------------------------------------------------------------
-- Sections Read Back
------------------------------------------------------------

namespace HelpSection

variable {s : HelpSection}

/- A section is found in its own lines. -/
theorem ofHead_lines
    (s : HelpSection) :
    ofHead (s.label.toList ++ headingEnd)
        (templateStart ++ s.template.toList)
        (descriptionLines 1 s.descriptions) =
      s := by
  unfold ofHead
  rw [map_descriptionOf_descriptionLines, List.length_append,
    Nat.add_sub_cancel, List.take_left, List.drop_left,
    String.ofList_toList, String.ofList_toList]

/-
  A heading does not begin with two spaces: either its label
  begins with something else, or the label is empty and the
  heading begins with a single space.
-/
theorem isInner_heading
    (hPlain : s.IsPlain) :
    isInner (s.label.toList ++ headingEnd) = false := by
  have hFirst := hPlain.first
  cases hLabel : s.label.toList with
  | nil => rfl
  | cons c rest =>
      have hSpace : c ≠ ' ' := by
        rintro rfl
        rw [hLabel] at hFirst
        exact hFirst rfl
      cases rest <;> simp [isInner, hSpace, headingEnd]

/- The lines of a section all have something on them. -/
theorem lines_plain
    (hPlain : s.IsPlain) :
    ∀ line ∈ s.lines, line ≠ [] ∧ '\n' ∉ line := by
  have hDescription :
      ∀ d ∈ s.descriptions, ∀ number,
        descriptionLine number d ≠ [] ∧
          '\n' ∉ descriptionLine number d := by
    intro d hMem number
    have hDigits : '\n' ∉ Nat.toDigits 10 number := by
      intro hDigit
      exact absurd
        (Nat.isDigit_of_mem_toDigits (by decide) (by decide)
          hDigit)
        (by decide)
    have hText := hPlain.descriptions d hMem
    simp [descriptionLine, helpPlaceholder, hDigits, hText]
  intro line hLine
  rcases List.mem_cons.mp hLine with rfl | hLine
  · simp [headingEnd, hPlain.label]
  · rcases List.mem_cons.mp hLine with rfl | hLine
    · simp [templateStart, hPlain.template]
    · exact forall_mem_descriptionLines
        (P := fun line => line ≠ [] ∧ '\n' ∉ line)
        hDescription 1 line hLine

/- A section begins with two lines of its own. -/
theorem lines_append
    (s : HelpSection)
    (more : List (List Char)) :
    s.lines ++ more =
      (s.label.toList ++ headingEnd) ::
        (templateStart ++ s.template.toList) ::
        (descriptionLines 1 s.descriptions ++ more) := rfl

/- Sections are found in their lines, one after the other. -/
theorem ofLines_lines
    {sections : List HelpSection}
    (hPlain : ∀ s ∈ sections, s.IsPlain) :
    ofLines (sections.flatMap lines) = sections := by
  induction sections with
  | nil => simp [ofLines]
  | cons s later ih =>
      have hLater : ∀ s ∈ later, s.IsPlain :=
        fun s hMem => hPlain s (List.mem_cons_of_mem _ hMem)
      have hInner :
          ∀ line ∈ descriptionLines 1 s.descriptions,
            isInner line = true :=
        forall_mem_descriptionLines (fun _ _ _ => rfl) 1
      have hNext :
          ∀ line ∈ (later.flatMap lines).head?,
            isInner line = false := by
        cases later with
        | nil =>
            rintro line ⟨⟩
        | cons next rest =>
            rintro line ⟨⟩
            exact isInner_heading
              (hLater next List.mem_cons_self)
      rcases takeWhile_dropWhile_append hInner hNext with
        ⟨hTaken, hLeft⟩
      rw [List.flatMap_cons, lines_append, ofLines, hTaken,
        hLeft, ofHead_lines, ih hLater]

end HelpSection

------------------------------------------------------------
-- Format Help Read Back
------------------------------------------------------------

/- Help is the lines of a section, each with a line break. -/
theorem toList_helpLines
    (number : ℕ)
    (descriptions : List String) :
    (helpLines number descriptions).toList =
      (descriptionLines number descriptions).flatMap
        (· ++ ['\n']) := by
  induction descriptions generalizing number with
  | nil => rfl
  | cons d rest ih =>
      rw [helpLines, helpLine_eq, String.toList_append, ih,
        descriptionLines, List.flatMap_cons]
      simp [descriptionLine]

theorem HelpSection.toList_formatHelp
    (s : HelpSection) :
    (FactLayout.formatHelp s.label s.template
        s.descriptions).toList =
      s.lines.flatMap (· ++ ['\n']) := by
  unfold FactLayout.formatHelp lines
  rw [String.toList_append, toList_helpLines]
  simp [headingEnd, templateStart]

namespace Layout

/- Help about a layout is the help about its sections. -/
theorem toList_formatHelp
    (l : Layout) :
    l.formatHelp.toList =
      Blank.dropLastWhile (· == '\n')
        ((l.sections.flatMap HelpSection.lines).flatMap
          (· ++ ['\n'])) := by
  unfold formatHelp sections
  rw [String.toList_ofList, String.toList_join,
    List.flatMap_assoc, List.flatMap_map, List.flatMap_map]
  congr 1
  apply List.flatMap_congr
  rintro ⟨name, m⟩ -
  exact HelpSection.toList_formatHelp
    ⟨m.label name, m.template, m.help⟩

variable {l : Layout}

/- The sections of a layout are read back from its help. -/
theorem readAll_formatHelp
    (hPlain : ∀ s ∈ l.sections, s.IsPlain) :
    HelpSection.readAll l.formatHelp = l.sections := by
  have hLines :
      ∀ line ∈ l.sections.flatMap HelpSection.lines,
        line ≠ [] ∧ '\n' ∉ line := by
    intro line hLine
    rcases List.mem_flatMap.mp hLine with ⟨s, hMem, hLine⟩
    exact HelpSection.lines_plain (hPlain s hMem) line hLine
  unfold HelpSection.readAll
  rw [toList_formatHelp, Blank.dropLastWhile_lines hLines]
  by_cases hNone : l.sections = []
  · rw [hNone]
    simp [HelpSection.ofLines]
  · have hSome :
        l.sections.flatMap HelpSection.lines ≠ [] := by
      rcases List.exists_cons_of_ne_nil hNone with
        ⟨s, later, hSections⟩
      rw [hSections]
      exact List.cons_ne_nil _ _
    rw [List.splitOn_intercalate '\n'
        (fun line hLine => (hLines line hLine).2) hSome,
      HelpSection.ofLines_lines hPlain]

/-
  Layouts have the same help exactly if their modules have
  the same labels, templates and descriptions in the same
  order.  All of these can be read back from the text: how
  many modules and descriptions there are, and which parts
  are empty, at the end as well as elsewhere.
-/
theorem formatHelp_eq_iff
    {m : Layout}
    (hLeft : ∀ s ∈ l.sections, s.IsPlain)
    (hRight : ∀ s ∈ m.sections, s.IsPlain) :
    HelpSection.readAll l.formatHelp = l.sections ∧
      (l.formatHelp = m.formatHelp ↔
        l.sections = m.sections) := by
  refine ⟨readAll_formatHelp hLeft, ?_, ?_⟩
  · intro hHelp
    calc
      l.sections = HelpSection.readAll l.formatHelp :=
        (readAll_formatHelp hLeft).symm
      _ = HelpSection.readAll m.formatHelp := by rw [hHelp]
      _ = m.sections := readAll_formatHelp hRight
  · intro hSections
    apply String.toList_injective
    rw [toList_formatHelp, toList_formatHelp, hSections]

/-
  A label that reads like a heading, an empty label and
  template, descriptions that are empty or read like numbered
  lines, and an empty description at the end.  The second
  layout gives by keys and templates what the first one has
  by default, and other cells and another separator.
-/
theorem formatHelp_eq_iff_headings_in_parts :
    let l : Layout :=
      ⟨[("a format:", ⟨none, some "", [], ["", "\x7b1\x7d: x"]⟩),
          ("os", ⟨some "", none, [], []⟩),
          ("z", ⟨none, some "z format:", [], [""]⟩)],
        ": "⟩
    let m : Layout :=
      ⟨[("b",
            ⟨some "a format:", some "", [.null],
              ["", "\x7b1\x7d: x"]⟩),
          ("", ⟨none, some "\x7b\x7d", [.bool true], []⟩),
          ("z", ⟨none, some "z format:", [], [""]⟩)],
        "="⟩
    (∀ s ∈ l.sections, s.IsPlain) ∧
      (∀ s ∈ m.sections, s.IsPlain) ∧
      HelpSection.readAll l.formatHelp =
        [⟨"a format:", "", ["", "\x7b1\x7d: x"]⟩,
          ⟨"", "\x7b\x7d", []⟩,
          ⟨"z", "z format:", [""]⟩] ∧
      l.formatHelp = m.formatHelp := by
  intro l m
  have hSections : l.sections = m.sections := by
    decide
  have hLeft : ∀ s ∈ l.sections, s.IsPlain := by
    intro s hMem
    rcases List.mem_cons.mp hMem with rfl | hMem
    · refine ⟨by decide, by decide, ?_, by decide⟩
      exact List.forall_mem_cons.mpr
        ⟨by decide, List.forall_mem_singleton.mpr (by decide)⟩
    · rcases List.mem_cons.mp hMem with rfl | hMem
      · exact ⟨by decide, by decide, nofun, by decide⟩
      · obtain rfl := List.mem_singleton.mp hMem
        exact ⟨by decide, by decide,
          List.forall_mem_singleton.mpr (by decide), by decide⟩
  have hRight : ∀ s ∈ m.sections, s.IsPlain := by
    rw [← hSections]
    exact hLeft
  rcases formatHelp_eq_iff hLeft hRight with ⟨hRead, hHelp⟩
  refine ⟨hLeft, hRight, hRead.trans ?_, hHelp.mpr hSections⟩
  decide

end Layout

end FactLayout
