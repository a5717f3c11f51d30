import FactLayout.Yaml.Cursor

/-
  YAML text with room around it.

  A text can stand below other lines, and blanks and line
  breaks can stand behind it.  A cursor that reads the text
  by itself is followed by one that reads it there: both see
  the same characters in the same columns, until the first
  one is at the end and the other one is left with a gap.

  Key definitions include:
    * `Yaml.isGap`
    * `Yaml.Mark.below`
    * `Yaml.Margin`
    * `Yaml.Cursor.within`
    * `Yaml.Cursor.Leads`

  Main results:
    * `Yaml.Cursor.Leads.skipWhile`
    * `Yaml.Cursor.Leads.endLine?`
    * `Yaml.Cursor.Leads.toToken`
-/

------------------------------------------------------------
-- Gaps
------------------------------------------------------------

namespace FactLayout

namespace Yaml

/- A blank or a line break. -/
def isGap (c : Char) : Bool :=
  isBlank c || isBreak c

theorem isGap_iff
    {c : Char} :
    isGap c = true ↔
      c = ' ' ∨ c = '\t' ∨
        c = '\n' ∨ c = '\u2028' ∨ c = '\u2029' := by
  simp [isGap, isBlank, isBreak, or_assoc]

/- A character that is not in a class is no gap. -/
theorem not_of_isGap
    {p : Char → Bool}
    (hSpace : p ' ' = false)
    (hTab : p '\t' = false)
    (hFeed : p '\n' = false)
    (hLine : p '\u2028' = false)
    (hParagraph : p '\u2029' = false)
    (c : Char)
    (hGap : isGap c = true) :
    p c = false := by
  rcases isGap_iff.mp hGap with
    rfl | rfl | rfl | rfl | rfl <;> assumption

/- There is no word, digit or mark in a gap. -/
theorem isWord_of_isGap :
    ∀ c, isGap c = true → isWord c = false :=
  not_of_isGap (by decide) (by decide) (by decide)
    (by decide) (by decide)

theorem isDigit_of_isGap :
    ∀ c, isGap c = true → c.isDigit = false :=
  not_of_isGap (by decide) (by decide) (by decide)
    (by decide) (by decide)

------------------------------------------------------------
-- Marks
------------------------------------------------------------

namespace Mark

/- The mark of a place in a text that begins with a line
  below another mark. -/
def below (base m : Mark) : Mark :=
  ⟨base.index + m.index, base.line + m.line, m.column⟩

@[simp]
theorem column_below
    (base m : Mark) :
    (base.below m).column = m.column := (rfl)

@[simp]
theorem forward_below
    (base m : Mark)
    (n : Nat) :
    (base.below m).forward n = base.below (m.forward n) := by
  simp [below, forward, Nat.add_assoc]

@[simp]
theorem nextLine_below
    (base m : Mark) :
    (base.below m).nextLine = base.below m.nextLine := by
  simp [below, nextLine, Nat.add_assoc]

/- A place that lies no further on. -/
structure Precedes (m later : Mark) : Prop where
  index : m.index ≤ later.index
  line : m.line ≤ later.line

theorem Precedes.refl (m : Mark) : m.Precedes m :=
  ⟨Nat.le_refl _, Nat.le_refl _⟩

theorem Precedes.trans
    {a b c : Mark}
    (hFirst : a.Precedes b)
    (hSecond : b.Precedes c) :
    a.Precedes c :=
  ⟨Nat.le_trans hFirst.index hSecond.index,
    Nat.le_trans hFirst.line hSecond.line⟩

theorem precedes_forward
    (m : Mark)
    (n : Nat) :
    m.Precedes (m.forward n) :=
  ⟨Nat.le_add_right _ _, Nat.le_refl _⟩

theorem precedes_nextLine
    (m : Mark) :
    m.Precedes m.nextLine :=
  ⟨Nat.le_succ _, Nat.le_succ _⟩

end Mark

------------------------------------------------------------
-- Cursors in a Gap
------------------------------------------------------------

namespace Cursor

section

variable {c : Cursor}

/- At the end there is no token to skip to. -/
theorem toToken_of_nil
    {flow keyAllowed : Bool}
    (hRest : c.rest = []) :
    c.toToken flow keyAllowed = (keyAllowed, c) := by
  rcases c with ⟨rest, mark⟩
  subst hRest
  have hSame :
      (⟨[], mark⟩ : Cursor).skipGap (flow || !keyAllowed) =
        ⟨[], mark⟩ := by
    simp [Cursor.skipGap, Cursor.skipByteOrderMark,
      Cursor.skipWhile, Cursor.skip, Cursor.skipComment,
      Mark.forward]
  rw [Cursor.toToken, hSame]
  simp [atBreak]

theorem toToken_of_atBreak
    {flow keyAllowed : Bool}
    (hBreak :
      (c.skipGap (flow || !keyAllowed)).atBreak = true) :
    c.toToken flow keyAllowed =
      (c.skipGap (flow || !keyAllowed)).skipLine.toToken flow
        (keyAllowed || !flow) := by
  rw [Cursor.toToken]
  exact dif_pos hBreak

theorem toToken_of_not_atBreak
    {flow keyAllowed : Bool}
    (hBreak :
      (c.skipGap (flow || !keyAllowed)).atBreak = false) :
    c.toToken flow keyAllowed =
      (keyAllowed, c.skipGap (flow || !keyAllowed)) := by
  rw [Cursor.toToken]
  exact dif_neg (Bool.eq_false_iff.mp hBreak)

end

/-
  A cursor behind a place, with nothing but a gap to read.
-/
structure Trails (m : Mark) (c : Cursor) : Prop where
  gap : c.rest.all isGap = true
  mark : m.Precedes c.mark

namespace Trails

variable {m : Mark}
variable {c : Cursor}

theorem isGap_of_mem_head?
    {x : Char}
    (hTrails : c.Trails m)
    (hHead : x ∈ c.rest.head?) :
    isGap x = true :=
  List.all_eq_true.mp hTrails.gap x
    (List.mem_of_mem_head? hHead)

theorem head?_ne
    {x : Char}
    (hTrails : c.Trails m)
    (hGap : isGap x = false) :
    c.rest.head? ≠ some x := by
  intro hHead
  have hTrue := hTrails.isGap_of_mem_head? hHead
  rw [hGap] at hTrue
  cases hTrue

theorem any_head?
    {p : Char → Bool}
    (hTrails : c.Trails m)
    (hGap : ∀ x, isGap x = true → p x = false) :
    c.rest.head?.any p = false := by
  cases hHead : c.rest.head? with
  | none => rfl
  | some x => exact hGap x (hTrails.isGap_of_mem_head? hHead)

theorem takeWhile_eq_nil
    {p : Char → Bool}
    (hTrails : c.Trails m)
    (hGap : ∀ x, isGap x = true → p x = false) :
    c.rest.takeWhile p = [] := by
  cases hRest : c.rest with
  | nil => rfl
  | cons x rest =>
      have hHead : x ∈ c.rest.head? := by
        rw [hRest]
        rfl
      have hNot := hGap x (hTrails.isGap_of_mem_head? hHead)
      rw [List.takeWhile_cons_of_neg (by simp [hNot])]

theorem atGap
    (hTrails : c.Trails m) :
    atGap c.rest = true := by
  cases hRest : c.rest with
  | nil => rfl
  | cons x rest =>
      apply hTrails.isGap_of_mem_head?
      rw [hRest]
      rfl

theorem skip
    (hTrails : c.Trails m)
    (n : Nat) :
    (c.skip n).Trails m := by
  refine ⟨?_, hTrails.mark.trans (c.mark.precedes_forward n)⟩
  apply List.all_eq_true.mpr
  intro x hMem
  exact List.all_eq_true.mp hTrails.gap x
    (List.mem_of_mem_drop hMem)

theorem skipLine
    (hTrails : c.Trails m) :
    c.skipLine.Trails m := by
  refine ⟨?_, hTrails.mark.trans c.mark.precedes_nextLine⟩
  exact (hTrails.skip 1).gap

theorem skipWhile
    (hTrails : c.Trails m)
    (p : Char → Bool) :
    (c.skipWhile p).Trails m :=
  hTrails.skip _

theorem skipComment
    (hTrails : c.Trails m) :
    c.skipComment.Trails m := by
  unfold Cursor.skipComment
  rw [if_neg (hTrails.head?_ne rfl)]
  exact hTrails

theorem skipGap
    (hTrails : c.Trails m)
    (tabs : Bool) :
    (c.skipGap tabs).Trails m := by
  have hMark : c.skipByteOrderMark = c := by
    unfold Cursor.skipByteOrderMark
    rw [if_neg]
    rintro ⟨_, hHead⟩
    exact hTrails.head?_ne rfl hHead
  unfold Cursor.skipGap
  rw [hMark]
  exact (hTrails.skipWhile _).skipComment

theorem toToken
    (hTrails : c.Trails m)
    (flow keyAllowed : Bool) :
    (c.toToken flow keyAllowed).2.Trails m := by
  fun_induction Cursor.toToken flow keyAllowed c with
  | case1 keyAllowed c next hBreak ih =>
      exact ih (hTrails.skipGap _).skipLine
  | case2 keyAllowed c =>
      exact hTrails.skipGap _

theorem toToken_of_skipGap
    {flow keyAllowed : Bool}
    (hTrails :
      (c.skipGap (flow || !keyAllowed)).Trails m) :
    (c.toToken flow keyAllowed).2.Trails m := by
  cases hBreak :
      (c.skipGap (flow || !keyAllowed)).atBreak with
  | true =>
      rw [toToken_of_atBreak hBreak]
      exact hTrails.skipLine.toToken _ _
  | false =>
      rw [toToken_of_not_atBreak hBreak]
      exact hTrails

end Trails

end Cursor

------------------------------------------------------------
-- Cursors in a Margin
------------------------------------------------------------

/-
  The room around a text: where the lines above it end, and
  the gap behind it.
-/
structure Margin where
  base : Mark
  tail : List Char
  gap : tail.all isGap = true

theorem Margin.isGap_of_cons
    (g : Margin)
    {x : Char}
    {left : List Char}
    (hTail : g.tail = x :: left) :
    isGap x = true := by
  apply List.all_eq_true.mp g.gap
  rw [hTail]
  exact List.mem_cons_self

/- What is no gap stands in the text, not behind it. -/
theorem Margin.eq_cons_of_append
    (g : Margin)
    {x : Char}
    {rest left : List Char}
    (hGap : isGap x = false)
    (hText : rest ++ g.tail = x :: left) :
    ∃ more, rest = x :: more ∧ more ++ g.tail = left := by
  cases rest with
  | nil =>
      have hTrue := g.isGap_of_cons hText
      rw [hGap] at hTrue
      cases hTrue
  | cons y more =>
      cases hText
      exact ⟨more, rfl, rfl⟩

/- A margin leaves a gap behind every place. -/
theorem Margin.trails
    (g : Margin)
    (m : Mark) :
    (⟨g.tail, m⟩ : Cursor).Trails m :=
  ⟨g.gap, .refl m⟩

/- A text is at a gap at its end, with or without one. -/
theorem Margin.atGap_append
    (g : Margin)
    (rest : List Char) :
    atGap (rest ++ g.tail) = atGap rest := by
  cases rest with
  | nil => exact (g.trails {}).atGap
  | cons x rest => rfl

namespace Cursor

/- The cursor with room around the text that it reads. -/
def within
    (g : Margin)
    (c : Cursor) : Cursor :=
  ⟨c.rest ++ g.tail, g.base.below c.mark⟩

/-
  A cursor is followed by the one at the same place of the
  same text with room around it.  At its end it is followed
  by any cursor that is left with a gap.
-/
inductive Leads
    (g : Margin)
    (c : Cursor) : Cursor → Prop where
| inside
    (hRest : c.rest ≠ []) :
    Leads g c (c.within g)
| behind
    {later : Cursor}
    (hRest : c.rest = [])
    (hTrails : later.Trails (g.base.below c.mark)) :
    Leads g c later

variable {g : Margin}
variable {c later : Cursor}

theorem leads_within
    (g : Margin)
    (c : Cursor) :
    c.Leads g (c.within g) := by
  by_cases hRest : c.rest = []
  · refine .behind hRest ⟨?_, .refl _⟩
    rw [within, hRest]
    exact g.gap
  · exact .inside hRest

/- A document marker is one mark three times. -/
theorem atDocumentMarker_iff :
    c.atDocumentMarker = true ↔
      c.mark.column = 0 ∧ ∃ x left,
        (x = '-' ∨ x = '.') ∧
          c.rest = x :: x :: x :: left ∧
          Yaml.atGap left = true := by
  unfold atDocumentMarker
  rw [Bool.and_eq_true, beq_iff_eq]
  refine and_congr_right fun _ => ?_
  constructor
  · intro hMark
    split at hMark
    · rename_i left hText
      exact ⟨'-', left, .inl rfl, hText, hMark⟩
    · rename_i left hText
      exact ⟨'.', left, .inr rfl, hText, hMark⟩
    · cases hMark
  · rintro ⟨x, left, rfl | rfl, hText, hGap⟩
    · rw [hText]
      exact hGap
    · rw [hText]
      exact hGap

theorem rest_ne_nil_of_atBreak
    (hBreak : c.atBreak = true) :
    c.rest ≠ [] := by
  intro hNil
  simp [atBreak, hNil] at hBreak

theorem skip_within
    {n : Nat}
    (hLength : n ≤ c.rest.length) :
    (c.within g).skip n = (c.skip n).within g := by
  simp [within, Cursor.skip,
    List.drop_append_of_le_length hLength]

theorem skipLine_within
    (hRest : c.rest ≠ []) :
    (c.within g).skipLine = c.skipLine.within g := by
  simp [within, Cursor.skipLine,
    List.drop_append_of_le_length
      (List.length_pos_iff.mpr hRest)]

theorem takeWhile_within
    {p : Char → Bool}
    (hRest : (c.skipWhile p).rest ≠ []) :
    (c.within g).rest.takeWhile p = c.rest.takeWhile p := by
  rw [within, List.takeWhile_append, if_neg]
  intro hAll
  apply hRest
  rw [Cursor.skipWhile, hAll, rest_skip, List.drop_length]

namespace Leads

------------------------------------------------------------
-- What Comes Next
------------------------------------------------------------

theorem eq_within
    (hLeads : c.Leads g later)
    (hRest : c.rest ≠ []) :
    later = c.within g := by
  cases hLeads with
  | inside => rfl
  | behind hNil => exact absurd hNil hRest

/- At the end of the text, only a gap is left behind it. -/
theorem trails
    (hLeads : c.Leads g later)
    (hRest : c.rest = []) :
    later.Trails (g.base.below c.mark) := by
  cases hLeads with
  | inside hSome => exact absurd hRest hSome
  | behind _ hTrails => exact hTrails

/- The next character is the same unless it is in a gap. -/
theorem head?_eq
    (hLeads : c.Leads g later)
    (hRest : c.rest ≠ []) :
    later.rest.head? = c.rest.head? := by
  rw [hLeads.eq_within hRest, within, List.head?_append,
    List.head?_eq_some_head hRest]
  rfl

theorem head?_eq_some_iff
    {x : Char}
    (hLeads : c.Leads g later)
    (hGap : isGap x = false) :
    later.rest.head? = some x ↔ c.rest.head? = some x := by
  by_cases hRest : c.rest = []
  · simp [hRest, (hLeads.trails hRest).head?_ne hGap]
  · rw [hLeads.head?_eq hRest]

theorem any_head?
    {p : Char → Bool}
    (hLeads : c.Leads g later)
    (hGap : ∀ x, isGap x = true → p x = false) :
    later.rest.head?.any p = c.rest.head?.any p := by
  by_cases hRest : c.rest = []
  · rw [(hLeads.trails hRest).any_head? hGap, hRest]
    rfl
  · rw [hLeads.head?_eq hRest]

theorem atGap
    (hLeads : c.Leads g later) :
    atGap later.rest = atGap c.rest := by
  cases hLeads with
  | inside => exact g.atGap_append c.rest
  | behind hRest hTrails => rw [hTrails.atGap, hRest]; rfl

theorem takeWhile_eq
    {p : Char → Bool}
    (hLeads : c.Leads g later)
    (hGap : ∀ x, isGap x = true → p x = false) :
    later.rest.takeWhile p = c.rest.takeWhile p := by
  cases hLeads with
  | inside hRest =>
      have hTail : g.tail.takeWhile p = [] :=
        (g.trails c.mark).takeWhile_eq_nil hGap
      rw [within, List.takeWhile_append, hTail,
        List.append_nil]
      split
      · rename_i hAll
        exact ((List.takeWhile_prefix p).eq_of_length
          hAll).symm
      · rfl
  | behind hRest hTrails =>
      rw [hTrails.takeWhile_eq_nil hGap, hRest]
      rfl

------------------------------------------------------------
-- Skipping
------------------------------------------------------------

/- Skipping a class ends at the same place, or at the end. -/
theorem skipWhile
    (hLeads : c.Leads g later)
    (p : Char → Bool) :
    (c.skipWhile p).Leads g (later.skipWhile p) := by
  cases hLeads with
  | behind hRest hTrails =>
      have hSame : c.skipWhile p = c := by
        rcases c with ⟨rest, mark⟩
        subst hRest
        rfl
      rw [hSame]
      exact .behind hRest (hTrails.skipWhile p)
  | inside hRest =>
      by_cases hAll :
          (c.rest.takeWhile p).length = c.rest.length
      · -- All of the text is skipped, and perhaps a part of
        -- the gap.
        have hCount :
            (c.within g).skipWhile p =
              ((c.within g).skip c.rest.length).skip
                (g.tail.takeWhile p).length := by
          simp [Cursor.skipWhile, within, Cursor.skip,
            List.takeWhile_append, hAll, Mark.forward,
            Nat.add_assoc, List.drop_append]
        have hEnd : c.skipWhile p = c.skip c.rest.length := by
          unfold Cursor.skipWhile
          rw [hAll]
        have hTail :
            ((c.skip c.rest.length).within g).Trails
              (g.base.below (c.skip c.rest.length).mark) := by
          refine ⟨?_, .refl _⟩
          simp [within, g.gap]
        rw [hCount, hEnd, skip_within (Nat.le_refl _)]
        exact .behind (by simp) (hTail.skip _)
      · have hCount :
            (c.within g).rest.takeWhile p =
              c.rest.takeWhile p := by
          rw [within, List.takeWhile_append, if_neg hAll]
        unfold Cursor.skipWhile
        rw [hCount, skip_within
          (List.takeWhile_prefix p).length_le]
        exact leads_within g _

theorem skipComment
    (hLeads : c.Leads g later) :
    c.skipComment.Leads g later.skipComment := by
  unfold Cursor.skipComment
  simp only [hLeads.head?_eq_some_iff
    (show isGap '#' = false from rfl)]
  split
  · exact hLeads.skipWhile isInline
  · exact hLeads

theorem skip
    {n : Nat}
    (hLeads : c.Leads g later)
    (hLength : n ≤ c.rest.length) :
    (c.skip n).Leads g (later.skip n) := by
  cases hLeads with
  | inside =>
      rw [skip_within hLength]
      exact leads_within g _
  | behind hRest hTrails =>
      have hZero : n = 0 := by
        simpa [hRest] using hLength
      subst hZero
      exact .behind (by simp [hRest]) (hTrails.skip 0)

/- A character that is next can be skipped. -/
theorem skip_one
    {x : Char}
    (hLeads : c.Leads g later)
    (hHead : c.rest.head? = some x) :
    (c.skip 1).Leads g (later.skip 1) := by
  apply hLeads.skip
  cases hRest : c.rest with
  | nil => simp [hRest] at hHead
  | cons y rest => simp

theorem atBreak_eq
    (hLeads : c.Leads g later)
    (hRest : c.rest ≠ []) :
    later.atBreak = c.atBreak := by
  unfold atBreak
  rw [hLeads.head?_eq hRest]

theorem skipLine
    (hLeads : c.Leads g later)
    (hRest : c.rest ≠ []) :
    c.skipLine.Leads g later.skipLine := by
  rw [hLeads.eq_within hRest, skipLine_within hRest]
  exact leads_within g _

theorem skipByteOrderMark
    (hLeads : c.Leads g later) :
    c.skipByteOrderMark.Leads g
      later.skipByteOrderMark := by
  have hHead :=
    hLeads.head?_eq_some_iff
      (show isGap byteOrderMark = false from rfl)
  unfold Cursor.skipByteOrderMark
  cases hLeads with
  | inside hRest =>
      have hColumn :
          (c.within g).mark.column = c.mark.column := rfl
      rw [hColumn]
      simp only [hHead]
      split
      · rename_i hBoth
        exact (leads_within g c).skip_one hBoth.2
      · exact .inside hRest
  | behind hRest hTrails =>
      rw [if_neg (by simp [hRest]),
        if_neg (by simp [hHead, hRest])]
      exact .behind hRest hTrails

theorem skipGap
    (hLeads : c.Leads g later)
    (tabs : Bool) :
    (c.skipGap tabs).Leads g (later.skipGap tabs) :=
  (hLeads.skipByteOrderMark.skipWhile _).skipComment

/- A line that can end at its place can end in a gap. -/
theorem endLine?
    {next : Cursor}
    (hLeads : c.Leads g later)
    (hEnd : later.endLine? = some next) :
    ∃ before, c.endLine? = some before ∧
      before.Leads g next := by
  have hSkipped := (hLeads.skipWhile isBlank).skipComment
  unfold Cursor.endLine? Cursor.skipBlanks at hEnd ⊢
  generalize (c.skipWhile isBlank).skipComment = here
    at hSkipped ⊢
  generalize (later.skipWhile isBlank).skipComment = there
    at hSkipped hEnd
  cases hSkipped with
  | inside hRest =>
      have hLine := leads_within g here
      simp only [hLine.atBreak_eq hRest] at hEnd ⊢
      split at hEnd
      · rename_i hTrue
        rw [if_pos hTrue]
        cases hEnd
        exact ⟨_, rfl, hLine.skipLine hRest⟩
      · split at hEnd
        · rename_i hNil
          exact absurd (List.append_eq_nil_iff.mp hNil).1
            hRest
        · cases hEnd
  | behind hRest hTrails =>
      refine ⟨here, by simp [atBreak, hRest], ?_⟩
      simp only at hEnd
      split at hEnd
      · cases hEnd
        exact .behind hRest hTrails.skipLine
      · split at hEnd <;> cases hEnd
        exact .behind hRest hTrails

------------------------------------------------------------
-- Tokens
------------------------------------------------------------

/- Document markers stand at the same places. -/
theorem atDocumentMarker_eq
    (hLeads : c.Leads g later) :
    later.atDocumentMarker = c.atDocumentMarker := by
  rw [Bool.eq_iff_iff, atDocumentMarker_iff,
    atDocumentMarker_iff]
  cases hLeads with
  | behind hRest hTrails =>
      constructor
      · rintro ⟨_, x, left, hMark, hText, _⟩
        refine absurd ?_ (hTrails.head?_ne (x := x) ?_)
        · rw [hText]
          rfl
        · rcases hMark with rfl | rfl <;> rfl
      · rintro ⟨_, x, left, _, hText, _⟩
        rw [hRest] at hText
        cases hText
  | inside hRest =>
      have hColumn :
          (c.within g).mark.column = c.mark.column := rfl
      rw [hColumn]
      constructor
      · rintro ⟨hStart, x, left, hMark, hText, hGap⟩
        have hx : isGap x = false := by
          rcases hMark with rfl | rfl <;> rfl
        rcases g.eq_cons_of_append hx hText with
          ⟨one, hOne, hFirst⟩
        rcases g.eq_cons_of_append hx hFirst with
          ⟨two, rfl, hSecond⟩
        rcases g.eq_cons_of_append hx hSecond with
          ⟨three, rfl, rfl⟩
        rw [g.atGap_append] at hGap
        exact ⟨hStart, x, three, hMark, hOne, hGap⟩
      · rintro ⟨hStart, x, left, hMark, hText, hGap⟩
        rw [← g.atGap_append] at hGap
        refine ⟨hStart, x, left ++ g.tail, hMark, ?_, hGap⟩
        rw [within, hText]
        rfl

/- The next token stands at the same place, if there is one. -/
theorem toToken_of_allowed
    (hLeads : c.Leads g later)
    (flow keyAllowed : Bool) :
    (c.toToken flow keyAllowed).2.Leads g
        (later.toToken flow keyAllowed).2 ∧
      ((c.toToken flow keyAllowed).2.rest ≠ [] →
        (later.toToken flow keyAllowed).1 =
          (c.toToken flow keyAllowed).1) := by
  fun_induction Cursor.toToken flow keyAllowed c
    generalizing later with
  | case1 keyAllowed c next hBreak =>
      rename_i ih
      have hNext : next.Leads g _ :=
        hLeads.skipGap (flow || !keyAllowed)
      have hRest := rest_ne_nil_of_atBreak hBreak
      rw [toToken_of_atBreak
        ((hNext.atBreak_eq hRest).trans hBreak)]
      exact ih (hNext.skipLine hRest)
  | case2 keyAllowed c next =>
      rename_i hBreak
      have hNext : next.Leads g _ :=
        hLeads.skipGap (flow || !keyAllowed)
      by_cases hRest : next.rest = []
      · exact ⟨.behind hRest
          (hNext.trails hRest).toToken_of_skipGap,
          absurd hRest⟩
      · rw [toToken_of_not_atBreak
          ((hNext.atBreak_eq hRest).trans
            (Bool.eq_false_iff.mpr hBreak))]
        exact ⟨hNext, fun _ => rfl⟩

/-
  The same holds at the end of the text, where it does not
  matter whether a key may begin.
-/
theorem toToken
    {keyAllowed laterAllowed : Bool}
    (hLeads : c.Leads g later)
    (flow : Bool)
    (hAllowed : c.rest ≠ [] → laterAllowed = keyAllowed) :
    (c.toToken flow keyAllowed).2.Leads g
        (later.toToken flow laterAllowed).2 ∧
      ((c.toToken flow keyAllowed).2.rest ≠ [] →
        (later.toToken flow laterAllowed).1 =
          (c.toToken flow keyAllowed).1) := by
  by_cases hEnd : c.rest = []
  · rw [toToken_of_nil hEnd]
    exact ⟨.behind hEnd ((hLeads.trails hEnd).toToken _ _),
      absurd hEnd⟩
  · rw [hAllowed hEnd]
    exact hLeads.toToken_of_allowed flow keyAllowed

end Leads

end Cursor

end Yaml

end FactLayout
