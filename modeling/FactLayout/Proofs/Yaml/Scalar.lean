import FactLayout.Proofs.Yaml.Margin
import FactLayout.Yaml.Scalar

/-
  Scalars with room around them.

  Plain scalars end before a gap at the end of the text, and
  quoted ones end at their quote.  Block scalars end at a
  line that is indented less, and only those that reach the
  end of the text are changed by a gap behind it.

  Main results:
    * `Yaml.Cursor.Leads.plain?`
    * `Yaml.Cursor.Leads.quoted?`
    * `Yaml.Cursor.Leads.block?`
-/

------------------------------------------------------------
-- Plain Scalars
------------------------------------------------------------

namespace FactLayout

namespace Yaml

namespace Cursor

variable {g : Margin}
variable {c later next : Cursor}

/- A plain scalar ends before a gap at the end. -/
theorem Trails.plainFrom?
    {flow : Bool}
    {indent : Nat}
    {rest read : List Char}
    {m mark : Mark}
    {gap : Gap}
    {p : Plain}
    (hTrails : (⟨rest, mark⟩ : Cursor).Trails m)
    (hPlain :
      plainFrom? flow indent rest mark gap read = some p) :
    p.text = read.reverse ∧ p.next.Trails m := by
  induction rest generalizing mark gap with
  | nil =>
      cases hPlain
      exact ⟨rfl, hTrails⟩
  | cons x rest ih =>
      have hGap : isGap x = true :=
        hTrails.isGap_of_mem_head? rfl
      unfold Yaml.plainFrom? at hPlain
      by_cases hBlank : isBlank x = true
      · simp only [hBlank, if_true] at hPlain
        split at hPlain
        · cases hPlain
        · exact ih (hTrails.skip 1) hPlain
      · have hBreak : isBreak x = true := by
          simpa [isGap, hBlank] using hGap
        simp only [hBlank, hBreak, if_true] at hPlain
        exact ih hTrails.skipLine hPlain

end Cursor

/-
  The same plain scalar, read with and without room around
  it.  Whether it ends behind its line matters only if more
  of the text follows.
-/
structure Plain.Leads
    (g : Margin)
    (p later : Plain) : Prop where
  text : p.text = later.text
  next : p.next.Leads g later.next
  broken : p.next.rest ≠ [] → later.broken = p.broken

namespace Cursor

variable {g : Margin}
variable {c later next : Cursor}

theorem plainFrom?_within
    (g : Margin)
    (flow : Bool)
    (indent : Nat)
    (rest : List Char)
    (mark : Mark)
    (gap : Gap)
    (read : List Char) :
    ∀ later ∈ plainFrom? flow indent (rest ++ g.tail)
        (g.base.below mark) gap read,
      ∃ p ∈ plainFrom? flow indent rest mark gap read,
        p.Leads g later := by
  induction rest generalizing mark gap read with
  | nil =>
      intro later hLater
      have hEnd := (g.trails _).plainFrom? hLater
      exact ⟨_, rfl, hEnd.1.symm, .behind rfl hEnd.2,
        absurd rfl⟩
  | cons x rest ih =>
      have hLeads := leads_within g ⟨x :: rest, mark⟩
      have hHere :
          (⟨x :: (rest ++ g.tail), g.base.below mark⟩ :
              Cursor).atDocumentMarker =
            (⟨x :: rest, mark⟩ : Cursor).atDocumentMarker :=
        hLeads.atDocumentMarker_eq
      have hFlow :
          ((rest ++ g.tail).head?.any fun x =>
              x == '?' || isFlowMark x) =
            rest.head?.any fun x =>
              x == '?' || isFlowMark x := by
        refine (leads_within g ⟨rest, mark⟩).any_head? ?_
        exact not_of_isGap (by decide) (by decide)
          (by decide) (by decide) (by decide)
      simp only [List.cons_append, plainFrom?, hHere, hFlow,
        g.atGap_append, Mark.forward_below,
        Mark.nextLine_below, Mark.column_below]
      split
      · split
        · intro later hLater
          cases hLater
        · exact ih _ _ _
      · split
        · exact ih _ _ _
        · split
          · intro later hLater
            cases hLater
            exact ⟨_, rfl, rfl, hLeads, fun _ => rfl⟩
          · split
            · intro later hLater
              cases hLater
            · split
              · intro later hLater
                cases hLater
                exact ⟨_, rfl, rfl, hLeads, fun _ => rfl⟩
              · exact ih _ _ _

/- Plain scalars are the same with room around them. -/
theorem Leads.plain?
    {flow : Bool}
    {indent : Nat}
    {first : Char}
    {p : Plain}
    (hLeads : c.Leads g later)
    (hPlain : plain? flow indent first later = some p) :
    ∃ q, Yaml.plain? flow indent first c = some q ∧
      q.Leads g p := by
  cases hLeads with
  | inside => exact plainFrom?_within g _ _ _ _ _ _ _ hPlain
  | behind hRest hTrails =>
      have hEnd := hTrails.plainFrom? hPlain
      rcases c with ⟨rest, mark⟩
      subst hRest
      exact ⟨_, rfl, hEnd.1.symm, .behind rfl hEnd.2,
        absurd rfl⟩

------------------------------------------------------------
-- Quoted Scalars
------------------------------------------------------------

/- A quoted scalar does not end in a gap. -/
theorem Trails.quotedFrom?
    {single : Bool}
    {rest read : List Char}
    {m mark : Mark}
    {escape : Escape}
    {gap : Gap}
    (hTrails : (⟨rest, mark⟩ : Cursor).Trails m) :
    quotedFrom? single rest mark escape gap read = none := by
  fun_induction
    Yaml.quotedFrom? single rest mark escape gap read with
  | case1 | case2 | case13 | case14 | case16 => rfl
  | case3 | case8 | case9 | case11 | case12 | case15
  | case17 =>
      rename_i ih
      exact ih (hTrails.skip 1)
  | case4 | case10 =>
      rename_i ih
      exact ih hTrails.skipLine
  | case5 | case6 | case7 =>
      -- A gap has no quotes.
      rename_i hBlank hBreak _ _
      have hGap := hTrails.isGap_of_mem_head? rfl
      simp_all [isGap]

theorem quotedFrom?_within
    (g : Margin)
    (single : Bool)
    (rest : List Char)
    (mark : Mark)
    (escape : Escape)
    (gap : Gap)
    (read : List Char) :
    ∀ text later,
      quotedFrom? single (rest ++ g.tail) (g.base.below mark)
          escape gap read =
        some (text, later) →
      ∃ next,
        quotedFrom? single rest mark escape gap read =
          some (text, next) ∧
        next.Leads g later := by
  match rest, escape with
  | [], escape =>
      intro text later hLater
      rw [List.nil_append, (g.trails _).quotedFrom?] at hLater
      cases hLater
  | x :: rest, .none =>
      have hHere :
          (⟨x :: (rest ++ g.tail), g.base.below mark⟩ :
              Cursor).atDocumentMarker =
            (⟨x :: rest, mark⟩ : Cursor).atDocumentMarker :=
        (leads_within g ⟨x :: rest, mark⟩).atDocumentMarker_eq
      have hNext := leads_within g ⟨rest, mark.forward 1⟩
      have ih := fun mark escape gap read =>
        quotedFrom?_within g single rest mark escape gap read
      unfold quotedFrom?
      simp only [List.cons_append, hHere, Mark.forward_below,
        Mark.nextLine_below]
      split
      · intro text later hLater
        cases hLater
      · split
        · exact ih _ _ _ _
        · split
          · exact ih _ _ _ _
          · split
            · -- A quote ends the scalar unless it is doubled.
              rcases rest with _ | ⟨y, rest⟩
              · rw [List.nil_append]
                split
                · rename_i hTail
                  exact absurd (g.isGap_of_cons hTail)
                    (by decide)
                · intro text later hLater
                  cases hLater
                  exact ⟨_, rfl, hNext⟩
              · by_cases hQuote : y = '\''
                · subst hQuote
                  exact quotedFrom?_within g single rest
                    (mark.forward 2) .none .none _
                · simp only [List.cons_append]
                  split
                  · rename_i hText
                    exact absurd (List.cons.inj hText).1 hQuote
                  · intro text later hLater
                    cases hLater
                    refine ⟨_, ?_, hNext⟩
                    split
                    · rename_i hText
                      exact absurd (List.cons.inj hText).1
                        hQuote
                    · rfl
            · split
              · intro text later hLater
                cases hLater
                exact ⟨_, rfl, hNext⟩
              · split
                · exact ih _ _ _ _
                · exact ih _ _ _ _
  | x :: rest, .begun =>
      have ih := fun mark escape gap read =>
        quotedFrom?_within g single rest mark escape gap read
      simp only [List.cons_append, quotedFrom?,
        Mark.forward_below, Mark.nextLine_below]
      split
      · exact ih _ _ _ _
      · cases escapeWidth? x with
        | some width => exact ih _ _ _ _
        | none =>
            cases escapeChar? x with
            | some value => exact ih _ _ _ _
            | none =>
                intro text later hLater
                cases hLater
  | x :: rest, .digits left value =>
      have ih := fun mark escape gap read =>
        quotedFrom?_within g single rest mark escape gap read
      simp only [List.cons_append, quotedFrom?,
        Mark.forward_below]
      cases Json.Token.hexValue? x with
      | none =>
          intro text later hLater
          cases hLater
      | some digit =>
          simp only
          split
          · exact ih _ _ _ _
          · cases charOf? (value * 16 + digit) with
            | none =>
                intro text later hLater
                cases hLater
            | some value => exact ih _ _ _ _

/- Quoted scalars are the same with room around them. -/
theorem Leads.quoted?
    {single : Bool}
    {text : List Char}
    (hLeads : c.Leads g later)
    (hQuoted : quoted? single later = some (text, next)) :
    ∃ before, Yaml.quoted? single c = some (text, before) ∧
      before.Leads g next := by
  cases hLeads with
  | inside =>
      exact quotedFrom?_within g _ _ _ _ _ _ _ _ hQuoted
  | behind hRest hTrails =>
      unfold Yaml.quoted? at hQuoted
      rw [hTrails.quotedFrom?] at hQuoted
      cases hQuoted

------------------------------------------------------------
-- Block Scalars
------------------------------------------------------------

/- The mark for the breaks at the end is the next character. -/
theorem chomping?_eq
    (c : Cursor) :
    chomping? c =
      if c.rest.head? = some '+' then some (.keep, c.skip 1)
      else if c.rest.head? = some '-' then
        some (.strip, c.skip 1)
      else none := by
  unfold chomping?
  split
  · rename_i hText
    simp [hText]
  · rename_i hText
    simp [hText]
  · rename_i hPlus hMinus
    cases hText : c.rest with
    | nil => rfl
    | cons x rest =>
        have hx : x ≠ '+' ∧ x ≠ '-' := by
          constructor
          · rintro rfl
            exact hPlus rest hText
          · rintro rfl
            exact hMinus rest hText
        simp [hx.1, hx.2]

/- It is read in both, or in neither. -/
theorem Leads.chomping?
    (hLeads : c.Leads g later) :
    (Yaml.chomping? c = none ∧ Yaml.chomping? later = none) ∨
      ∃ chomping,
        Yaml.chomping? c = some (chomping, c.skip 1) ∧
          Yaml.chomping? later =
            some (chomping, later.skip 1) ∧
          (c.skip 1).Leads g (later.skip 1) := by
  have hPlus :=
    hLeads.head?_eq_some_iff
      (show isGap '+' = false from rfl)
  have hMinus :=
    hLeads.head?_eq_some_iff
      (show isGap '-' = false from rfl)
  rw [chomping?_eq, chomping?_eq]
  simp only [hPlus, hMinus]
  split
  · rename_i hHead
    exact .inr ⟨.keep, rfl, rfl, hLeads.skip_one hHead⟩
  · split
    · rename_i hHead
      exact .inr ⟨.strip, rfl, rfl, hLeads.skip_one hHead⟩
    · exact .inl ⟨rfl, rfl⟩

/- The digit for the indentation is the next character. -/
theorem increment?_eq
    (c : Cursor) :
    increment? c =
      match c.rest.head? with
      | none => some (0, c)
      | some d =>
          if d = '0' then none
          else if d.isDigit then
            some (d.toNat - '0'.toNat, c.skip 1)
          else some (0, c) := by
  unfold increment?
  split
  · rename_i hText
    simp [hText]
  · rename_i d left hd hText
    have hZero : d ≠ '0' := hd
    simp [hText, hZero]
  · rename_i hText
    simp [hText]

theorem Leads.increment?
    {increment : Nat}
    (hLeads : c.Leads g later)
    (hIncrement :
      increment? later = some (increment, next)) :
    ∃ before, Yaml.increment? c = some (increment, before) ∧
      before.Leads g next := by
  rw [increment?_eq] at hIncrement ⊢
  by_cases hRest : c.rest = []
  · have hTrails := hLeads.trails hRest
    have hGap : ∀ d ∈ later.rest.head?,
        d ≠ '0' ∧ d.isDigit = false := by
      intro d hHead
      have hTrue := hTrails.isGap_of_mem_head? hHead
      refine ⟨?_, isDigit_of_isGap d hTrue⟩
      rintro rfl
      cases hTrue
    rw [hRest]
    cases hHead : later.rest.head? with
    | none =>
        rw [hHead] at hIncrement
        cases hIncrement
        exact ⟨c, rfl, hLeads⟩
    | some d =>
        have hd := hGap d hHead
        simp only [hHead, if_neg hd.1, hd.2] at hIncrement
        cases hIncrement
        exact ⟨c, rfl, hLeads⟩
  · rw [hLeads.head?_eq hRest] at hIncrement
    cases hHead : c.rest.head? with
    | none =>
        rw [hHead] at hIncrement
        cases hIncrement
        exact ⟨c, rfl, hLeads⟩
    | some d =>
        simp only [hHead] at hIncrement ⊢
        split at hIncrement
        · cases hIncrement
        · rename_i hZero
          rw [if_neg hZero]
          split at hIncrement
          · rename_i hDigit
            cases hIncrement
            exact ⟨_, if_pos hDigit, hLeads.skip_one hHead⟩
          · rename_i hDigit
            cases hIncrement
            exact ⟨c, if_neg hDigit, hLeads⟩

theorem Leads.blockHeader?
    {chomping : Chomping}
    {increment : Nat}
    (hLeads : c.Leads g later)
    (hHeader :
      blockHeader? later = some (chomping, increment, next)) :
    ∃ before,
      Yaml.blockHeader? c =
        some (chomping, increment, before) ∧
      before.Leads g next := by
  unfold Yaml.blockHeader? at hHeader ⊢
  rcases hLeads.chomping? with
    ⟨hNone, hLater⟩ | ⟨first, hFirst, hLater, hSkip⟩
  · simp only [hLater, Option.bind_eq_bind] at hHeader
    rcases Option.bind_eq_some_iff.mp hHeader with
      ⟨⟨n, afterDigit⟩, hDigit, hHeader⟩
    rcases hLeads.increment? hDigit with
      ⟨before, hBefore, hAfter⟩
    simp only [hNone, hBefore, Option.bind_eq_bind,
      Option.bind_some]
    rcases hAfter.chomping? with
      ⟨hNone, hLater⟩ | ⟨second, hSecond, hLater, hSkip⟩
    · simp only [hLater] at hHeader
      rcases Option.bind_eq_some_iff.mp hHeader with
        ⟨afterLine, hLine, hHeader⟩
      rcases hAfter.endLine? hLine with ⟨last, hLast, hEnd⟩
      cases hHeader
      refine ⟨last, ?_, hEnd⟩
      simp only [hNone, hLast, Option.bind_some]
      rfl
    · simp only [hLater] at hHeader
      rcases Option.bind_eq_some_iff.mp hHeader with
        ⟨afterLine, hLine, hHeader⟩
      rcases hSkip.endLine? hLine with ⟨last, hLast, hEnd⟩
      cases hHeader
      refine ⟨last, ?_, hEnd⟩
      simp only [hSecond, hLast, Option.bind_some]
      rfl
  · simp only [hLater, Option.bind_eq_bind] at hHeader
    rcases Option.bind_eq_some_iff.mp hHeader with
      ⟨⟨n, afterDigit⟩, hDigit, hHeader⟩
    rcases hSkip.increment? hDigit with
      ⟨before, hBefore, hAfter⟩
    rcases Option.bind_eq_some_iff.mp hHeader with
      ⟨afterLine, hLine, hHeader⟩
    rcases hAfter.endLine? hLine with ⟨last, hLast, hEnd⟩
    cases hHeader
    refine ⟨last, ?_, hEnd⟩
    simp only [hFirst, hBefore, hLast, Option.bind_eq_bind,
      Option.bind_some]
    rfl

/- The end of a gap is a gap. -/
theorem all_isGap_of_suffix
    {rest text : List Char}
    (hSuffix : rest <:+ text)
    (hGap : text.all isGap = true) :
    rest.all isGap = true := by
  apply List.all_eq_true.mpr
  intro x hMem
  exact List.all_eq_true.mp hGap x (hSuffix.subset hMem)

/- Reading breaks leaves an end of the text. -/
theorem suffix_of_breaksFrom?
    {indent widest : Nat}
    {rest read : List Char}
    {mark : Mark}
    {b : Breaks}
    (hBreaks :
      breaksFrom? indent rest mark widest read = some b) :
    b.next.rest <:+ rest := by
  fun_induction breaksFrom? indent rest mark widest read with
  | case1 | case5 =>
      cases hBreaks
      exact List.suffix_rfl
  | case3 => cases hBreaks
  | case2 | case4 =>
      rename_i ih
      exact (ih hBreaks).trans (List.suffix_cons _ _)

theorem suffix_skipWhile
    (c : Cursor)
    (p : Char → Bool) :
    (c.skipWhile p).rest <:+ c.rest :=
  List.drop_suffix _ _

/- Reading lines leaves an end of the text. -/
theorem suffix_of_lines?
    {folded afterBlank : Bool}
    {indent : Nat}
    {last empty : List Char}
    {l : Lines}
    (hLines :
      lines? folded indent afterBlank last empty c =
        some l) :
    l.next.rest <:+ c.rest := by
  fun_induction lines? folded indent afterBlank last empty c
    generalizing l with
  | case1 | case2 =>
      cases hLines
      exact List.suffix_rfl
  | case3 => cases hLines
  | case4 =>
      rename_i c _ _ _ _ _ _ _ after hBreak b hBreaks ih
      rcases Option.bind_eq_some_iff.mp hLines with
        ⟨tail, hTail, hPure⟩
      cases hPure
      have hNext : b.next.rest <:+ after.skipLine.rest :=
        suffix_of_breaksFrom? hBreaks
      exact (ih hTail).trans
        (hNext.trans
          ((List.drop_suffix _ _).trans
            (suffix_skipWhile _ isInline)))
  | case5 =>
      cases hLines
      exact suffix_skipWhile _ isInline

/-
  Breaks are the same with room around them, unless they
  reach the gap behind the text.
-/
theorem breaksFrom?_within
    (g : Margin)
    (indent : Nat)
    (rest : List Char)
    (mark : Mark)
    (widest : Nat)
    (read : List Char) :
    ∀ later ∈ breaksFrom? indent (rest ++ g.tail)
        (g.base.below mark) widest read,
      later.next.rest.all isGap = true ∨
        ∃ b ∈ breaksFrom? indent rest mark widest read,
          b.next.rest ≠ [] ∧
            later = { b with next := b.next.within g } := by
  induction rest generalizing mark widest read with
  | nil =>
      intro later hLater
      exact .inl (all_isGap_of_suffix
        (suffix_of_breaksFrom? hLater) g.gap)
  | cons x rest ih =>
      simp only [List.cons_append, breaksFrom?,
        Mark.forward_below, Mark.nextLine_below,
        Mark.column_below]
      split
      · exact ih _ _ _
      · split
        · intro later hLater
          cases hLater
        · split
          · exact ih _ _ _
          · intro later hLater
            cases hLater
            exact .inr ⟨_, rfl, List.cons_ne_nil _ _, rfl⟩

/-
  What stands between the line before and one that begins
  with a given character.
-/
def joint
    (folded afterBlank : Bool)
    (last empty : List Char)
    (first : Char) : List Char :=
  if folded && last == ['\n'] && !afterBlank &&
      !isBlank first then
    if empty = [] then [' '] else empty
  else last ++ empty

/-
  A line that ends at a break, and the lines behind it.  Of
  the line itself the text is known.
-/
def linesBehind?
    (folded : Bool)
    (indent : Nat)
    (afterBlank : Bool)
    (text : List Char)
    (here : Cursor) : Option Lines :=
  (breaks? indent here.skipLine).bind fun b =>
    (lines? folded indent afterBlank (here.rest.take 1)
      b.breaks b.next).map fun lines =>
        { lines with text := text ++ lines.text }

section

variable {folded afterBlank : Bool}
variable {indent : Nat}
variable {last empty rest : List Char}
variable {first : Char}

/- A line of another indentation is not read. -/
theorem lines?_of_outside
    (hColumn : c.mark.column ≠ indent) :
    lines? folded indent afterBlank last empty c =
      some ⟨[], last, empty, c⟩ := by
  rw [lines?]
  split
  · rfl
  · rw [if_pos (by simp [hColumn])]

/- Any other line is read, and so are the ones behind it. -/
theorem lines?_of_inside
    (hRest : c.rest = first :: rest)
    (hColumn : c.mark.column = indent) :
    lines? folded indent afterBlank last empty c =
      if (c.skipWhile isInline).atBreak then
        linesBehind? folded indent (isBlank first)
          (joint folded afterBlank last empty first ++
            c.rest.takeWhile isInline)
          (c.skipWhile isInline)
      else
        some ⟨joint folded afterBlank last empty first ++
          c.rest.takeWhile isInline, [], [],
          c.skipWhile isInline⟩ := by
  rw [lines?]
  split
  · rename_i hNil
    rw [hNil] at hRest
    cases hRest
  · rename_i x tail hText
    have hFirst : x = first := by
      rw [hText] at hRest
      exact (List.cons.inj hRest).1
    subst hFirst
    rw [if_neg (by simp [hColumn])]
    simp only
    split
    · rename_i hBreak
      unfold linesBehind?
      split
      · rename_i hNone
        rw [hNone]
        rfl
      · rename_i b hSome
        rw [hSome, Option.bind_some]
        cases lines? folded indent (isBlank x)
          ((c.skipWhile isInline).rest.take 1) b.breaks
          b.next <;> rfl
    · rfl

end

/- Some lines leave an end of what is behind the first one. -/
theorem suffix_of_lines?_of_inside
    {folded afterBlank : Bool}
    {indent : Nat}
    {last empty rest : List Char}
    {first : Char}
    {l : Lines}
    (hRest : c.rest = first :: rest)
    (hColumn : c.mark.column = indent)
    (hLines :
      lines? folded indent afterBlank last empty c =
        some l) :
    l.next.rest <:+ (c.skipWhile isInline).rest := by
  rw [lines?_of_inside hRest hColumn] at hLines
  split at hLines
  · unfold linesBehind? at hLines
    rcases Option.bind_eq_some_iff.mp hLines with
      ⟨b, hBreaks, hMore⟩
    rcases Option.map_eq_some_iff.mp hMore with
      ⟨more, hLater, rfl⟩
    have hNext := suffix_of_breaksFrom? hBreaks
    exact (suffix_of_lines? hLater).trans
      (hNext.trans (List.drop_suffix _ _))
  · cases hLines
    exact List.suffix_rfl

/-
  Lines that are the same with room around them, unless they
  reach the gap behind the text.
-/
def Lines.AgreeWithin
    (g : Margin)
    (found later : Option Lines) : Prop :=
  ∀ l ∈ later,
    l.next.rest.all isGap = true ∨
      ∃ l' ∈ found,
        l'.next.rest ≠ [] ∧
          l = { l' with next := l'.next.within g }

/- This holds behind a line if it holds of what is shorter. -/
theorem linesBehind?_within
    {folded afterBlank : Bool}
    {indent : Nat}
    {text : List Char}
    {here : Cursor}
    (hBreak : here.atBreak = true)
    (hShorter :
      ∀ (c : Cursor) afterBlank last empty,
        c.rest.length < here.rest.length →
        Lines.AgreeWithin g
          (lines? folded indent afterBlank last empty c)
          (lines? folded indent afterBlank last empty
            (c.within g))) :
    Lines.AgreeWithin g
      (linesBehind? folded indent afterBlank text here)
      (linesBehind? folded indent afterBlank text
        (here.within g)) := by
  intro l hLines
  have hEnd := rest_ne_nil_of_atBreak hBreak
  have hTake :
      (here.within g).rest.take 1 = here.rest.take 1 :=
    List.take_append_of_le_length
      (List.length_pos_iff.mpr hEnd)
  unfold linesBehind? at hLines ⊢
  rw [skipLine_within hEnd, hTake] at hLines
  rcases Option.bind_eq_some_iff.mp hLines with
    ⟨b, hBreaks, hMap⟩
  rcases Option.map_eq_some_iff.mp hMap with
    ⟨more, hMore, rfl⟩
  rcases breaksFrom?_within g _ _ _ _ _ _ hBreaks with
    hGap | ⟨b', hBefore, _, rfl⟩
  · have hSuffix := suffix_of_lines? hMore
    exact .inl (all_isGap_of_suffix hSuffix hGap)
  · have hLess : b'.next.rest.length < here.rest.length :=
      Nat.lt_of_le_of_lt
        (suffix_of_breaksFrom? hBefore).length_le
        (length_skipLine_lt hBreak)
    rcases hShorter _ _ _ _ hLess _ hMore with
      hGap | ⟨more', hThere, hSome, rfl⟩
    · exact .inl hGap
    · refine .inr
        ⟨{ more' with text := text ++ more'.text }, ?_,
          hSome, rfl⟩
      exact Option.bind_eq_some_iff.mpr
        ⟨b', hBefore, Option.map_eq_some_iff.mpr
          ⟨more', hThere, rfl⟩⟩

/- By induction on the text, it holds of all lines. -/
theorem lines?_within
    (g : Margin)
    (c : Cursor)
    (folded : Bool)
    (indent : Nat)
    (afterBlank : Bool)
    (last empty : List Char) :
    Lines.AgreeWithin g
      (lines? folded indent afterBlank last empty c)
      (lines? folded indent afterBlank last empty
        (c.within g)) := by
  intro l hLines
  induction hLength : c.rest.length using Nat.strongRecOn
    generalizing c afterBlank last empty l with
  | ind n ih =>
      subst hLength
      cases hRest : c.rest with
      | nil =>
          -- The lines begin in the gap.
          left
          refine all_isGap_of_suffix (suffix_of_lines? hLines) ?_
          rw [within, hRest]
          exact g.gap
      | cons first rest =>
          have hLater :
              (c.within g).rest = first :: (rest ++ g.tail) := by
            rw [within, hRest]
            rfl
          by_cases hColumn : c.mark.column = indent
          · have hAfter :=
              (leads_within g c).skipWhile isInline
            by_cases hEnd : (c.skipWhile isInline).rest = []
            · -- The first line ends in the gap.
              left
              exact all_isGap_of_suffix
                (suffix_of_lines?_of_inside hLater hColumn
                  hLines)
                (hAfter.trails hEnd).gap
            · rw [lines?_of_inside hLater hColumn,
                hAfter.eq_within hEnd,
                (leads_within g _).atBreak_eq hEnd,
                takeWhile_within hEnd] at hLines
              rw [lines?_of_inside hRest hColumn]
              split at hLines
              · rename_i hBreak
                rw [if_pos hBreak]
                refine linesBehind?_within hBreak ?_ l hLines
                intro c' afterBlank last empty hLess l hMore
                exact ih _
                  (Nat.lt_of_lt_of_le hLess
                    (length_skipWhile_le c isInline))
                  c' afterBlank last empty l hMore rfl
              · rename_i hBreak
                rw [if_neg hBreak]
                cases hLines
                exact .inr ⟨_, rfl, hEnd, rfl⟩
          · have hOutside :
                (c.within g).mark.column ≠ indent := hColumn
            rw [lines?_of_outside hOutside] at hLines
            cases hLines
            refine .inr ⟨_, lines?_of_outside hColumn, ?_, rfl⟩
            rw [hRest]
            exact List.cons_ne_nil _ _

/-
  Block scalars are the same with room around them, unless
  they reach the gap behind the text.
-/
theorem Leads.block?
    {folded : Bool}
    {least : Nat}
    {text : List Char}
    (hLeads : c.Leads g later)
    (hBlock :
      block? folded least later = some (text, next)) :
    next.rest.all isGap = true ∨
      ∃ before,
        Yaml.block? folded least c = some (text, before) ∧
        before.Leads g next := by
  unfold Yaml.block? at hBlock ⊢
  rcases Option.bind_eq_some_iff.mp hBlock with
    ⟨⟨chomping, increment, afterHeader⟩, hHeader, hBlock⟩
  rcases Option.bind_eq_some_iff.mp hBlock with
    ⟨b, hBreaks, hBlock⟩
  rcases Option.bind_eq_some_iff.mp hBlock with
    ⟨lines, hLines, hBlock⟩
  cases hBlock
  rcases hLeads.blockHeader? hHeader with
    ⟨before, hBefore, hAfter⟩
  have hSuffix := suffix_of_lines? hLines
  cases hAfter with
  | behind _ hTrails =>
      left
      exact all_isGap_of_suffix
        (hSuffix.trans (suffix_of_breaksFrom? hBreaks))
        hTrails.gap
  | inside =>
      rcases breaksFrom?_within g _ _ _ _ _ _ hBreaks with
        hGap | ⟨b', hThere, _, rfl⟩
      · exact .inl (all_isGap_of_suffix hSuffix hGap)
      · rcases lines?_within g _ _ _ _ _ _ _ hLines with
          hGap | ⟨lines', hSame, _, rfl⟩
        · exact .inl hGap
        · refine .inr ⟨lines'.next, ?_, leads_within g _⟩
          have hBreaks :
              breaks?
                (if increment = 0 then 0
                  else least - 1 + increment) before =
                some b' := hThere
          simp only [hBefore, hBreaks, Option.bind_eq_bind,
            Option.bind_some]
          rw [Option.mem_def.mp hSame]
          rfl

end Cursor

end Yaml

end FactLayout
