import FactLayout.Proofs.Yaml.Margin
import FactLayout.Yaml.Property

/-
  Anchors, tags and directives with room around them.

  None of them reads on over a gap, so they are the same with
  other lines above and with a gap behind the text.

  Main results:
    * `Yaml.Cursor.Leads.anchor?`
    * `Yaml.Cursor.Leads.tag?`
    * `Yaml.Cursor.Leads.pragma?`
-/

------------------------------------------------------------
-- Classes
------------------------------------------------------------

namespace FactLayout

namespace Yaml

theorem isTagChar_of_isGap
    (literal : Bool) :
    ∀ c, isGap c = true → isTagChar literal c = false := by
  intro c hGap
  unfold isTagChar
  rw [String.contains_char_eq]
  cases literal <;>
    rcases isGap_iff.mp hGap with
      rfl | rfl | rfl | rfl | rfl <;> decide

theorem endsAnchor_of_isGap :
    ∀ c, isGap c = true → endsAnchor c = false :=
  not_of_isGap (by decide) (by decide) (by decide)
    (by decide) (by decide)

theorem hexValue?_of_isGap
    {c : Char}
    (hGap : isGap c = true) :
    Json.Token.hexValue? c = none := by
  rcases isGap_iff.mp hGap with
    rfl | rfl | rfl | rfl | rfl <;> rfl

namespace Cursor

variable {g : Margin}
variable {c later next : Cursor}

namespace Leads

------------------------------------------------------------
-- Anchors
------------------------------------------------------------

theorem word_eq
    (hLeads : c.Leads g later) :
    (word later).1 = (word c).1 :=
  hLeads.takeWhile_eq isWord_of_isGap

theorem word
    (hLeads : c.Leads g later) :
    (word c).2.Leads g (word later).2 :=
  hLeads.skipWhile isWord

theorem anchor?
    {name : String}
    (hLeads : c.Leads g later)
    (hAnchor : anchor? later = some (name, next)) :
    ∃ before, Yaml.anchor? c = some (name, before) ∧
      before.Leads g next := by
  have hWord := hLeads.word
  unfold Yaml.anchor? at hAnchor ⊢
  simp only [hLeads.word_eq, hWord.atGap,
    hWord.any_head? endsAnchor_of_isGap] at hAnchor ⊢
  split at hAnchor
  · rename_i hEnds
    cases hAnchor
    exact ⟨_, if_pos hEnds, hWord⟩
  · cases hAnchor

end Leads

------------------------------------------------------------
-- Octets
------------------------------------------------------------

section

variable {literal : Bool}
variable {mark : Mark}
variable {needed : Nat}
variable {read octets : List UInt8}

/- An escape sequence does not extend into a gap. -/
theorem octetsFrom?_of_short
    (g : Margin)
    {rest : List Char}
    (hShort :
      ∀ high low more, rest ≠ high :: low :: more) :
    octetsFrom? literal ('%' :: (rest ++ g.tail)) mark needed
      read = none := by
  unfold octetsFrom?
  split
  · rename_i high low more hText
    have hMember : isGap high = true ∨ isGap low = true := by
      match rest with
      | [] =>
          exact .inl (g.isGap_of_cons (List.cons.inj hText).2)
      | [a] =>
          have hTail := (List.cons.inj hText).2
          exact .inr (g.isGap_of_cons (List.cons.inj hTail).2)
      | a :: b :: left => exact absurd rfl (hShort a b left)
    rcases hMember with hHigh | hLow
    · rw [hexValue?_of_isGap hHigh]
    · rw [hexValue?_of_isGap hLow]
      split <;> simp_all
  · rename_i hText
    cases hText
    simp
  · rename_i hText
    cases hText

theorem octetsFrom?_cons_of_ne
    {x : Char}
    (hPercent : x ≠ '%')
    (rest : List Char) :
    octetsFrom? literal (x :: rest) mark needed read =
      if needed ≠ 0 then none
      else if isTagChar literal x then
        octetsFrom? literal rest (mark.forward 1) 0
          (x.toNat.toUInt8 :: read)
      else some (read.reverse, ⟨x :: rest, mark⟩) := by
  rw [octetsFrom?]
  · simp [hPercent]
  · simp [hPercent]

/- A gap holds no octets. -/
theorem Trails.octetsFrom?
    {m : Mark}
    (hTrails : later.Trails m)
    (hOctets :
      octetsFrom? literal later.rest later.mark needed read =
        some (octets, next)) :
    needed = 0 ∧ octets = read.reverse ∧ next = later := by
  rcases later with ⟨rest, mark⟩
  cases rest with
  | nil =>
      unfold Yaml.octetsFrom? at hOctets
      split at hOctets <;> simp_all
  | cons x rest =>
      have hx : isGap x = true :=
        hTrails.isGap_of_mem_head? rfl
      have hPercent : x ≠ '%' := by
        rintro rfl
        cases hx
      rw [octetsFrom?_cons_of_ne hPercent,
        isTagChar_of_isGap literal x hx] at hOctets
      split at hOctets <;> simp_all

/- Octets end where the text does, at the latest. -/
theorem octetsFrom?_within
    {rest : List Char}
    (hOctets :
      octetsFrom? literal (rest ++ g.tail)
        (g.base.below mark) needed read =
          some (octets, next)) :
    ∃ before,
      octetsFrom? literal rest mark needed read =
        some (octets, before) ∧
      before.Leads g next := by
  fun_induction octetsFrom? literal rest mark needed read with
  | case1 high low rest mark needed read u v hLow hHigh octet
      needed? n hNeeded ih =>
      apply ih
      simp only [List.cons_append, octetsFrom?, hHigh, hLow,
        Mark.forward_below, needed?, octet] at hOctets hNeeded ⊢
      rw [hNeeded] at hOctets
      exact hOctets
  | case2 high low rest mark needed read u v hLow hHigh octet
      needed? hNeeded =>
      simp only [List.cons_append, octetsFrom?, hHigh, hLow,
        needed?, octet] at hOctets hNeeded
      rw [hNeeded] at hOctets
      cases hOctets
  | case3 high low rest mark needed read hNone =>
      simp only [List.cons_append, octetsFrom?] at hOctets
      cases hOctets
  | case4 x rest mark needed read hShort hFails =>
      by_cases hPercent : x = '%'
      · subst hPercent
        rw [List.cons_append, octetsFrom?_of_short g
          fun high low more => hShort high low more rfl]
          at hOctets
        cases hOctets
      · rw [List.cons_append, octetsFrom?_cons_of_ne hPercent,
          if_pos (hFails.resolve_right hPercent)] at hOctets
        cases hOctets
  | case5 x rest mark needed read hShort hFails hChar ih =>
      rw [not_or] at hFails
      rw [List.cons_append, octetsFrom?_cons_of_ne hFails.2,
        if_neg hFails.1, if_pos hChar, Mark.forward_below]
        at hOctets
      exact ih hOctets
  | case6 x rest mark needed read hShort hFails hChar =>
      rw [not_or] at hFails
      rw [List.cons_append, octetsFrom?_cons_of_ne hFails.2,
        if_neg hFails.1, if_neg hChar] at hOctets
      cases hOctets
      exact ⟨_, rfl, leads_within g ⟨x :: rest, mark⟩⟩
  | case7 mark needed read hNeeded =>
      exact absurd ((g.trails _).octetsFrom? hOctets).1
        hNeeded
  | case8 mark needed read =>
      rcases (g.trails _).octetsFrom? hOctets with
        ⟨_, rfl, rfl⟩
      exact ⟨_, rfl, leads_within g ⟨[], mark⟩⟩

end

namespace Leads

theorem octets?
    {literal : Bool}
    {octets : List UInt8}
    (hLeads : c.Leads g later)
    (hOctets : octets? literal later = some (octets, next)) :
    ∃ before, Yaml.octets? literal c = some (octets, before) ∧
      before.Leads g next := by
  unfold Yaml.octets? at hOctets ⊢
  cases hLeads with
  | inside => exact octetsFrom?_within hOctets
  | behind hRest hTrails =>
      rcases hTrails.octetsFrom? hOctets with ⟨_, rfl, rfl⟩
      rw [hRest]
      exact ⟨⟨[], c.mark⟩, rfl, .behind rfl hTrails⟩

------------------------------------------------------------
-- Tags
------------------------------------------------------------

theorem tagName?
    {name : TagName}
    (hLeads : c.Leads g later)
    (hName : tagName? later = some (name, next)) :
    ∃ before, Yaml.tagName? c = some (name, before) ∧
      before.Leads g next := by
  have hWord := hLeads.word
  have hOpen :=
    hLeads.head?_eq_some_iff
      (show isGap '<' = false from rfl)
  have hHandle :=
    hWord.head?_eq_some_iff
      (show isGap '!' = false from rfl)
  unfold Yaml.tagName? at hName ⊢
  simp only [hOpen, hHandle, hLeads.word_eq,
    Option.bind_eq_bind, Option.pure_def] at hName ⊢
  split at hName
  · rename_i hHead
    rcases Option.bind_eq_some_iff.mp hName with
      ⟨⟨octets, after⟩, hOctets, hName⟩
    rcases (hLeads.skip_one hHead).octets? hOctets with
      ⟨before, hBefore, hAfter⟩
    have hClose :=
      hAfter.head?_eq_some_iff
        (show isGap '>' = false from rfl)
    simp only [hClose] at hName
    split at hName
    · rename_i hBoth
      cases hName
      refine ⟨before.skip 1, ?_, hAfter.skip_one hBoth.2⟩
      rw [if_pos hHead, hBefore, Option.bind_some,
        if_pos hBoth]
    · cases hName
  · rename_i hHead
    rw [if_neg hHead]
    split at hName
    · rename_i hMark
      rcases Option.bind_eq_some_iff.mp hName with
        ⟨⟨octets, after⟩, hOctets, hName⟩
      rcases (hWord.skip_one hMark).octets? hOctets with
        ⟨before, hBefore, hAfter⟩
      simp only at hName
      split at hName
      · rename_i hSome
        cases hName
        refine ⟨before, ?_, hAfter⟩
        rw [if_pos hMark, hBefore, Option.bind_some,
          if_pos hSome]
      · cases hName
    · rename_i hMark
      rcases Option.bind_eq_some_iff.mp hName with
        ⟨⟨octets, after⟩, hOctets, hName⟩
      rcases hLeads.octets? hOctets with
        ⟨before, hBefore, hAfter⟩
      refine ⟨before, ?_, ?_⟩
      · rw [if_neg hMark, hBefore, Option.bind_some]
        simp only at hName ⊢
        split at hName <;> cases hName <;> simp_all
      · simp only at hName
        split at hName <;> cases hName <;> exact hAfter

theorem tag?
    {flow : Bool}
    {name : TagName}
    (hLeads : c.Leads g later)
    (hTag : tag? flow later = some (name, next)) :
    ∃ before, Yaml.tag? flow c = some (name, before) ∧
      before.Leads g next := by
  unfold Yaml.tag? at hTag ⊢
  rcases Option.bind_eq_some_iff.mp hTag with
    ⟨⟨other, after⟩, hName, hTag⟩
  rcases hLeads.tagName? hName with
    ⟨before, hBefore, hAfter⟩
  have hComma :
      (after.rest.head? == some ',') =
        (before.rest.head? == some ',') := by
    rw [Bool.eq_iff_iff, beq_iff_eq, beq_iff_eq]
    exact hAfter.head?_eq_some_iff rfl
  simp only [hAfter.atGap, hComma] at hTag
  split at hTag
  · rename_i hEnds
    cases hTag
    refine ⟨before, ?_, hAfter⟩
    simp only [hBefore, Option.bind_eq_bind,
      Option.bind_some]
    rw [if_pos hEnds]
    rfl
  · cases hTag

------------------------------------------------------------
-- Directives
------------------------------------------------------------

theorem versionNumber?
    {n : Nat}
    (hLeads : c.Leads g later)
    (hNumber : versionNumber? later = some (n, next)) :
    ∃ before, Yaml.versionNumber? c = some (n, before) ∧
      before.Leads g next := by
  unfold Yaml.versionNumber? at hNumber ⊢
  simp only [hLeads.takeWhile_eq isDigit_of_isGap]
    at hNumber ⊢
  split at hNumber
  · rename_i hLength
    cases hNumber
    exact ⟨_, if_pos hLength, hLeads.skipWhile _⟩
  · cases hNumber

theorem version?
    {p : Pragma}
    (hLeads : c.Leads g later)
    (hVersion : version? later = some (p, next)) :
    ∃ before, Yaml.version? c = some (p, before) ∧
      before.Leads g next := by
  unfold Yaml.version? at hVersion ⊢
  rcases Option.bind_eq_some_iff.mp hVersion with
    ⟨⟨major, afterMajor⟩, hMajor, hVersion⟩
  rcases (hLeads.skipWhile isBlank).versionNumber? hMajor with
    ⟨before, hBefore, hAfter⟩
  have hPoint :=
    hAfter.head?_eq_some_iff
      (show isGap '.' = false from rfl)
  simp only [hPoint] at hVersion
  split at hVersion
  · rename_i hHead
    rcases Option.bind_eq_some_iff.mp hVersion with
      ⟨⟨minor, afterMinor⟩, hMinor, hVersion⟩
    rcases (hAfter.skip_one hHead).versionNumber? hMinor with
      ⟨last, hLast, hEnd⟩
    cases hVersion
    refine ⟨last, ?_, hEnd⟩
    simp only [Cursor.skipBlanks, hBefore, hHead, hLast,
      Option.bind_eq_bind, Option.bind_some, if_true]
    rfl
  · cases hVersion

theorem handle?
    {handle : String}
    (hLeads : c.Leads g later)
    (hHandle : handle? later = some (handle, next)) :
    ∃ before, Yaml.handle? c = some (handle, before) ∧
      before.Leads g next := by
  have hMark : isGap '!' = false := rfl
  unfold Yaml.handle? at hHandle ⊢
  simp only [hLeads.head?_eq_some_iff hMark] at hHandle ⊢
  split at hHandle
  · rename_i hHead
    have hWord := (hLeads.skip_one hHead).word
    simp only [(hLeads.skip_one hHead).word_eq,
      hWord.head?_eq_some_iff hMark] at hHandle
    rw [if_pos hHead]
    split at hHandle
    · rename_i hSecond
      cases hHandle
      exact ⟨_, if_pos hSecond, hWord.skip_one hSecond⟩
    · rename_i hSecond
      rw [if_neg hSecond]
      split at hHandle
      · rename_i hNil
        cases hHandle
        exact ⟨_, if_pos hNil, hWord⟩
      · cases hHandle
  · cases hHandle

theorem shorthand?
    {p : Pragma}
    (hLeads : c.Leads g later)
    (hShorthand : shorthand? later = some (p, next)) :
    ∃ before, Yaml.shorthand? c = some (p, before) ∧
      before.Leads g next := by
  unfold Yaml.shorthand? at hShorthand ⊢
  rcases Option.bind_eq_some_iff.mp hShorthand with
    ⟨⟨handle, afterHandle⟩, hHandle, hShorthand⟩
  rcases (hLeads.skipWhile isBlank).handle? hHandle with
    ⟨before, hBefore, hAfter⟩
  simp only at hShorthand
  split at hShorthand
  · rename_i hBlank
    rcases Option.bind_eq_some_iff.mp hShorthand with
      ⟨⟨octets, afterOctets⟩, hOctets, hShorthand⟩
    have hSkipped := hAfter.skipWhile isBlank
    rcases hSkipped.octets? hOctets with ⟨last, hLast, hEnd⟩
    simp only [hEnd.atGap] at hShorthand
    split at hShorthand
    · rename_i hSome
      cases hShorthand
      have hRest : before.rest ≠ [] := by
        -- A blank in the gap is followed by no octets.
        intro hNil
        have hTrails :=
          ((hAfter.trails hNil).skipWhile isBlank)
        exact hSome.1 (hTrails.octetsFrom? hOctets).2.1
      rw [hAfter.head?_eq hRest] at hBlank
      refine ⟨last, ?_, hEnd⟩
      simp only [Cursor.skipBlanks, hBefore, hLast,
        Option.bind_eq_bind, Option.bind_some]
      rw [if_pos hBlank, if_pos hSome]
      rfl
    · cases hShorthand
  · cases hShorthand

theorem content?
    {name : List Char}
    {p : Pragma}
    (hLeads : c.Leads g later)
    (hContent : content? name later = some (p, next)) :
    ∃ before, Yaml.content? name c = some (p, before) ∧
      before.Leads g next := by
  unfold Yaml.content? at hContent ⊢
  rw [hLeads.atGap] at hContent
  split at hContent
  · cases hContent
  · rename_i hGap
    rw [if_neg hGap]
    split at hContent
    · rename_i hYaml
      rw [if_pos hYaml]
      exact hLeads.version? hContent
    · rename_i hYaml
      rw [if_neg hYaml]
      split at hContent
      · rename_i hTag
        rw [if_pos hTag]
        exact hLeads.shorthand? hContent
      · cases hContent

theorem pragma?
    {p : Pragma}
    (hLeads : c.Leads g later)
    (hPragma : pragma? later = some (p, next)) :
    ∃ before, Yaml.pragma? c = some (p, before) ∧
      before.Leads g next := by
  unfold Yaml.pragma? at hPragma ⊢
  simp only [hLeads.word_eq] at hPragma
  rcases Option.bind_eq_some_iff.mp hPragma with
    ⟨⟨other, afterContent⟩, hContent, hPragma⟩
  rcases Option.bind_eq_some_iff.mp hPragma with
    ⟨afterLine, hLine, hPragma⟩
  cases hPragma
  rcases hLeads.word.content? hContent with
    ⟨before, hBefore, hAfter⟩
  rcases hAfter.endLine? hLine with ⟨last, hLast, hEnd⟩
  refine ⟨last, ?_, hEnd⟩
  simp only [hBefore, hLast, Option.bind_eq_bind,
    Option.bind_some]
  rfl

end Leads

end Cursor

end Yaml

end FactLayout
