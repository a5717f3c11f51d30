import FactLayout.Json.Token
import FactLayout.Proofs.Yaml.Context
import FactLayout.Proofs.Yaml.Lexeme

/-
  The tokens of a text with room around it.

  A text has the same tokens below blank lines and before a
  gap, unless its last token is a block scalar: the gap would
  belong to it.

  Key definitions include:
    * `Yaml.Token.resume?`
    * `Yaml.Token.readUpTo?`
    * `Yaml.Token.endsInBlock`

  Main results:
    * `Yaml.Token.readFrom?_of_leads`
    * `Yaml.Token.readFrom?_of_lines`
    * `Yaml.Token.ofChars?_of_margin`
-/

------------------------------------------------------------
-- One Token after the Other
------------------------------------------------------------

namespace FactLayout

namespace Yaml

namespace Context

/-
  The context of a token that stands at a mark, where a key
  may or may not begin.
-/
def arrive?
    (x : Context)
    (keyAllowed : Bool)
    (m : Mark) : Option Context :=
  ((x.allowKey keyAllowed).refresh? m).map
    (·.closeBlocks (· ≤ m.column))

/- There the blocks end alike, below other lines or not. -/
theorem arrive?_below
    (x : Context)
    (keyAllowed : Bool)
    (base m : Mark) :
    (x.below base).arrive? keyAllowed (base.below m) =
      (x.arrive? keyAllowed m).map (below base) := by
  have hAllow :
      (x.below base).allowKey keyAllowed =
        (x.allowKey keyAllowed).below base := rfl
  unfold arrive?
  rw [hAllow, refresh?_below]
  cases (x.allowKey keyAllowed).refresh? m with
  | none => rfl
  | some y =>
      simp only [Option.map_some, closeBlocks_below,
        Mark.column_below]

end Context

namespace Token

section

variable {next : Context → Cursor → Option (List Token)}
variable {x : Context}
variable {keyAllowed : Bool}
variable {here : Cursor}
variable {ts : List Token}

/-
  Read a token that has been skipped to, and then whatever
  comes next.
-/
def resume?
    (next : Context → Cursor → Option (List Token))
    (x : Context)
    (keyAllowed : Bool)
    (here : Cursor) : Option (List Token) :=
  if here.rest = [] then x.finishAt? here.mark
  else do
    let y ← x.arrive? keyAllowed here.mark
    let l ← lexeme? y.inFlow y.indent here
    let z ← y.accept? here.mark l
    next z l.next

/- Whether a key may begin is known of the token. -/
theorem resume?_allowKey
    (before : Bool) :
    resume? next (x.allowKey before) keyAllowed here =
      resume? next x keyAllowed here := by
  unfold resume?
  rw [Context.finishAt?_allowKey]
  rfl

/- At the end of the text, the tokens so far are all. -/
theorem resume?_of_nil
    (hRest : here.rest = []) :
    resume? next x keyAllowed here = x.finishAt? here.mark :=
  if_pos hRest

/- Before the end there is one more token. -/
theorem resume?_eq_some_iff
    (hRest : here.rest ≠ []) :
    resume? next x keyAllowed here = some ts ↔
      ∃ y l z,
        x.arrive? keyAllowed here.mark = some y ∧
          lexeme? y.inFlow y.indent here = some l ∧
          y.accept? here.mark l = some z ∧
          next z l.next = some ts := by
  unfold resume?
  rw [if_neg hRest]
  simp only [Option.bind_eq_bind, Option.bind_eq_some_iff]
  constructor
  · rintro ⟨y, hArrive, l, hLexeme, z, hAccept, hRead⟩
    exact ⟨y, l, z, hArrive, hLexeme, hAccept, hRead⟩
  · rintro ⟨y, l, z, hArrive, hLexeme, hAccept, hRead⟩
    exact ⟨y, hArrive, l, hLexeme, z, hAccept, hRead⟩

end

/- What is read does not depend on what is skipped. -/
theorem readFrom?_eq
    (x : Context)
    (c : Cursor) :
    readFrom? x c =
      resume? readFrom? x
        (c.toToken x.inFlow x.keyAllowed).1
        (c.toToken x.inFlow x.keyAllowed).2 := by
  rw [readFrom?]
  unfold resume?
  generalize c.toToken x.inFlow x.keyAllowed = found
  rcases found with ⟨keyAllowed, here⟩
  rw [← x.finishAt?_allowKey keyAllowed]
  simp only [Context.finishAt?, Context.arrive?]
  cases (x.allowKey keyAllowed).refresh? here.mark with
  | none => simp
  | some y =>
      simp only [Option.bind_some, Option.map_some,
        Option.bind_eq_bind, y.finish?_closeBlocks]
      split
      · rfl
      · split
        · rename_i hLexeme
          rw [hLexeme]
          rfl
        · rename_i l hLexeme
          rw [hLexeme]
          simp only [Option.bind_some]
          split <;> rename_i hAccept <;> rw [hAccept] <;> rfl

/-
  Read all tokens, if there are fewer than a given number.
  Other than the reader itself, this can be evaluated.
-/
def readUpTo? :
    Nat → Context → Cursor → Option (List Token)
| 0, _, _ => none
| n + 1, x, c =>
    let found := c.toToken x.inFlow x.keyAllowed
    resume? (readUpTo? n) x found.1 found.2

/- A text has no more tokens than characters. -/
theorem readFrom?_eq_readUpTo?
    {n : Nat}
    {c : Cursor}
    (x : Context)
    (hLength : c.rest.length < n) :
    readFrom? x c = readUpTo? n x c := by
  induction n generalizing x c with
  | zero => cases hLength
  | succ n ih =>
      have hShort :=
        c.length_toToken_le x.inFlow x.keyAllowed
      rw [readFrom?_eq]
      unfold readUpTo? resume?
      simp only
      split
      · rfl
      · refine Option.bind_congr fun y _ => ?_
        refine Option.bind_congr fun l hLexeme => ?_
        refine Option.bind_congr fun z _ => ?_
        have hLess := length_lt_of_lexeme? hLexeme
        exact ih z (by omega)

------------------------------------------------------------
-- The Gap behind a Text
------------------------------------------------------------

/- No token begins with a blank or a line break. -/
theorem lexeme?_of_isGap
    {flow : Bool}
    {indent : Nat}
    {c : Cursor}
    {first : Char}
    (hHead : c.rest.head? = some first)
    (hGap : isGap first = true) :
    lexeme? flow indent c = none := by
  rcases c with ⟨_ | ⟨x, rest⟩, mark⟩
  · cases hHead
  have hSame : x = first := Option.some.inj hHead
  subst x
  have hMarker :
      (⟨first :: rest, mark⟩ : Cursor).atDocumentMarker =
        false := by
    rw [Bool.eq_false_iff]
    intro hMarker
    rcases Cursor.atDocumentMarker_iff.mp hMarker with
      ⟨_, x, left, hMark, hText, _⟩
    cases hText
    rcases hMark with rfl | rfl <;> cases hGap
  have hMark : isMark first = true := by
    unfold isMark
    rw [show (isBlank first || isBreak first) = true
      from hGap]
    rfl
  unfold lexeme?
  simp only [hMarker]
  rcases isGap_iff.mp hGap with
    rfl | rfl | rfl | rfl | rfl <;> simp [hMark]

/- In a gap, there is nothing to read but the end. -/
theorem finishAt?_of_resume?
    {next : Context → Cursor → Option (List Token)}
    {x : Context}
    {keyAllowed : Bool}
    {m : Mark}
    {here : Cursor}
    {ts : List Token}
    (hTrails : here.Trails m)
    (hRead : resume? next x keyAllowed here = some ts) :
    x.finishAt? m = some ts := by
  cases hHead : here.rest.head? with
  | none =>
      rw [resume?_of_nil (List.head?_eq_none_iff.mp hHead)]
        at hRead
      exact x.finishAt?_of_precedes hTrails.mark hRead
  | some first =>
      have hRest : here.rest ≠ [] := by
        intro hNil
        simp [hNil] at hHead
      rcases (resume?_eq_some_iff hRest).mp hRead with
        ⟨y, l, z, _, hLexeme, _⟩
      rw [lexeme?_of_isGap hHead
        (hTrails.isGap_of_mem_head? hHead)] at hLexeme
      cases hLexeme

theorem finishAt?_of_readFrom?
    {x : Context}
    {m : Mark}
    {c : Cursor}
    {ts : List Token}
    (hTrails : c.Trails m)
    (hRead : readFrom? x c = some ts) :
    x.finishAt? m = some ts := by
  rw [readFrom?_eq] at hRead
  exact finishAt?_of_resume?
    (hTrails.toToken x.inFlow x.keyAllowed) hRead

/- The last token that is written is a block scalar. -/
def endsInBlock (ts : List Token) : Bool :=
  match (ts.reverse.dropWhile (· == .blockEnd)).head? with
  | some (.scalar .block _) => true
  | _ => false

theorem endsInBlock_ended
    {x : Context}
    {text : String}
    {ts : List Token}
    (hTokens : x.tokens = .scalar .block text :: ts) :
    endsInBlock x.ended = true := by
  unfold endsInBlock Context.ended
  rw [hTokens]
  simp

/- A text that a block scalar reaches the end of ends in it. -/
theorem endsInBlock_of_isLastBlock
    {x y : Context}
    {m : Mark}
    {l : Lexeme}
    {ts : List Token}
    (hLast : l.IsLastBlock)
    (hAccept : x.accept? m l = some y)
    (hRead : readFrom? y l.next = some ts) :
    endsInBlock ts = true := by
  rcases hLast.token with ⟨text, hText⟩
  have hTokens := Context.tokens_of_accept?_block hText hAccept
  have hFinish :=
    finishAt?_of_readFrom? ⟨hLast.gap, .refl _⟩ hRead
  rcases y.finishAt?_eq_some_iff.mp hFinish with ⟨_, _, rfl⟩
  rw [hText] at hTokens
  exact endsInBlock_ended hTokens

------------------------------------------------------------
-- Room around a Text
------------------------------------------------------------

section

variable {g : Margin}
variable {x : Context}
variable {ts : List Token}

/-
  A token that is taken in with room around the text is taken
  in without, unless the text ends in a block scalar.  Behind
  the token the contexts agree, except that at the end of the
  text they may differ in whether a key may begin.
-/
theorem exists_step_of_resume?
    {here : Cursor}
    {keyAllowed : Bool}
    (hRest : here.rest ≠ [])
    (hEnd : endsInBlock ts = false)
    (hRead :
      resume? readFrom? (x.below g.base) keyAllowed
          (here.within g) =
        some ts) :
    ∃ y l z,
      x.arrive? keyAllowed here.mark = some y ∧
        lexeme? y.inFlow y.indent here = some l ∧
        y.accept? here.mark l = some z ∧
        ∃ next laterAllowed,
          l.next.Leads g next ∧
            (l.next.rest ≠ [] → laterAllowed = z.keyAllowed) ∧
            readFrom? ((z.below g.base).allowKey laterAllowed)
                next =
              some ts := by
  have hMore : (here.within g).rest ≠ [] := fun hNil =>
    hRest (List.append_eq_nil_iff.mp hNil).1
  rcases (resume?_eq_some_iff hMore).mp hRead with
    ⟨_, l, _, hArrive, hLexeme, hAccept, hNext⟩
  change (x.below g.base).arrive? keyAllowed
    (g.base.below here.mark) = _ at hArrive
  rw [Context.arrive?_below] at hArrive
  rcases Option.map_eq_some_iff.mp hArrive with
    ⟨y, hHereArrive, rfl⟩
  rw [Context.inFlow_below, Context.indent_below] at hLexeme
  rcases (Cursor.leads_within g here).lexeme? hRest hLexeme
    with hLast | ⟨l', hHereLexeme, hLeads⟩
  · rw [endsInBlock_of_isLastBlock hLast hAccept hNext] at hEnd
    cases hEnd
  · change (y.below g.base).accept? (g.base.below here.mark) l =
      _ at hAccept
    rw [Context.accept?_below] at hAccept
    rcases Option.map_eq_some_iff.mp hAccept with
      ⟨z, hHereAccept, rfl⟩
    rcases Context.accept?_of_token_eq hLeads.token
      hHereAccept with ⟨k, hTaken, hBroken⟩
    refine ⟨y, l', z.allowKey k, hHereArrive, hHereLexeme,
      hTaken, l.next, z.keyAllowed, hLeads.next, ?_, hNext⟩
    intro hLeft
    exact (hBroken (hLeads.broken hLeft).symm).symm

/-
  A text has the tokens that it has with room around it.  At
  its end it does not matter whether a key may begin.

  By induction on the text that is left.
-/
theorem readFrom?_of_leads
    {c later : Cursor}
    {keyAllowed : Bool}
    (hLeads : c.Leads g later)
    (hAllowed : c.rest ≠ [] → keyAllowed = x.keyAllowed)
    (hEnd : endsInBlock ts = false)
    (hRead :
      readFrom? ((x.below g.base).allowKey keyAllowed) later =
        some ts) :
    readFrom? x c = some ts := by
  induction hLength : c.rest.length using Nat.strongRecOn
    generalizing x c later keyAllowed with
  | ind n ih =>
      have hFlow :
          ((x.below g.base).allowKey keyAllowed).inFlow =
            x.inFlow := x.inFlow_below g.base
      have hShort :=
        c.length_toToken_le x.inFlow x.keyAllowed
      rcases hLeads.toToken x.inFlow hAllowed with
        ⟨hHere, hSame⟩
      rw [readFrom?_eq, hFlow] at hRead
      rw [readFrom?_eq]
      change resume? _ _ (later.toToken x.inFlow keyAllowed).1
        (later.toToken x.inFlow keyAllowed).2 = _ at hRead
      generalize c.toToken x.inFlow x.keyAllowed = found
        at hShort hHere hSame ⊢
      generalize later.toToken x.inFlow keyAllowed = there
        at hHere hSame hRead
      rcases found with ⟨allowed, here⟩
      rcases there with ⟨laterAllowed, there⟩
      simp only at hShort
      rw [resume?_allowKey] at hRead
      by_cases hRest : here.rest = []
      · have hFinish :=
          finishAt?_of_resume? (hHere.trails hRest) hRead
        rw [Context.finishAt?_below] at hFinish
        exact (resume?_of_nil hRest).trans hFinish
      · have hThere : there = here.within g :=
          hHere.eq_within hRest
        have hKey : laterAllowed = allowed := hSame hRest
        subst hThere hKey
        rcases exists_step_of_resume? hRest hEnd hRead with
          ⟨y, l, z, hArrive, hLexeme, hAccept, next, k, hNext,
            hKey, hLeft⟩
        have hLess := length_lt_of_lexeme? hLexeme
        refine (resume?_eq_some_iff hRest).mpr
          ⟨y, l, z, hArrive, hLexeme, hAccept, ?_⟩
        exact ih _ (by omega) hNext hKey hLeft rfl

end

------------------------------------------------------------
-- Lines above a Text
------------------------------------------------------------

/- Blank lines, the last of which is ended. -/
structure IsBlankLines (lines : List Char) : Prop where
  blank : ∀ x ∈ lines, x = ' ' ∨ x = '\t' ∨ x = '\n'
  ended : ∀ x ∈ lines.getLast?, x = '\n'

/- A blank line is spaces, and then a break or a tab. -/
theorem IsBlankLines.eq_spaces_append
    {lines : List Char}
    (hLines : IsBlankLines lines)
    (hSome : lines ≠ []) :
    ∃ n x left,
      lines = List.replicate n ' ' ++ x :: left ∧
        (x = '\t' ∨ x = '\n' ∧ IsBlankLines left) := by
  induction lines with
  | nil => exact absurd rfl hSome
  | cons first lines ih =>
      have hLast : ∀ x ∈ lines.getLast?, x = '\n' := by
        intro x hx
        apply hLines.ended
        rw [List.getLast?_cons, hx]
        rfl
      have hBelow : IsBlankLines lines :=
        ⟨fun x hx => hLines.blank x (List.mem_cons_of_mem _ hx),
          hLast⟩
      rcases hLines.blank first List.mem_cons_self with
        rfl | rfl | rfl
      · have hMore : lines ≠ [] := by
          rintro rfl
          have hBreak := hLines.ended ' ' rfl
          revert hBreak
          decide
        rcases ih hBelow hMore with ⟨n, x, left, rfl, hLeft⟩
        exact ⟨n + 1, x, left, rfl, hLeft⟩
      · exact ⟨0, _, lines, rfl, .inl rfl⟩
      · exact ⟨0, _, lines, rfl, .inr ⟨rfl, hBelow⟩⟩

/- The spaces before a break or a tab are skipped. -/
theorem skipGap_of_spaces
    {x : Char}
    (n : Nat)
    (rest : List Char)
    (m : Mark)
    (hNext : x = '\t' ∨ x = '\n') :
    Cursor.skipGap false
        ⟨List.replicate n ' ' ++ x :: rest, m⟩ =
      ⟨x :: rest, m.forward n⟩ := by
  have hHead :
      (List.replicate n ' ' ++ x :: rest).head? ≠
        some byteOrderMark := by
    rcases hNext with rfl | rfl <;> cases n <;>
      simp [List.replicate_succ, byteOrderMark]
  have hSpaces :
      (List.replicate n ' ' ++ x :: rest).takeWhile
          (fun y => y == ' ' || false && y == '\t') =
        List.replicate n ' ' := by
    rcases hNext with rfl | rfl <;> simp
  have hMark :
      Cursor.skipByteOrderMark
          ⟨List.replicate n ' ' ++ x :: rest, m⟩ =
        ⟨List.replicate n ' ' ++ x :: rest, m⟩ :=
    if_neg fun hBoth => hHead hBoth.2
  unfold Cursor.skipGap
  rw [hMark, Cursor.skipWhile, hSpaces, List.length_replicate]
  unfold Cursor.skip
  rw [List.drop_left' (List.length_replicate ..)]
  rcases hNext with rfl | rfl <;> rfl

/- Blank lines are skipped, unless there is a tab in them. -/
theorem toToken_of_blankLines
    {lines rest : List Char}
    {m : Mark}
    (hLines : IsBlankLines lines)
    (hMark : m.column = 0) :
    (∃ base : Mark, base.column = 0 ∧
      Cursor.toToken false true ⟨lines ++ rest, m⟩ =
        Cursor.toToken false true ⟨rest, base⟩) ∨
      (Cursor.toToken false true
        ⟨lines ++ rest, m⟩).2.rest.head? = some '\t' := by
  induction hLength : lines.length using Nat.strongRecOn
    generalizing lines m with
  | ind size ih =>
      by_cases hSome : lines = []
      · subst hSome
        exact .inl ⟨m, hMark, rfl⟩
      · rcases hLines.eq_spaces_append hSome with
          ⟨n, x, left, rfl, hNext⟩
        have hSkip :=
          skipGap_of_spaces (x := x) n (left ++ rest) m
            (hNext.imp_right And.left)
        rw [List.append_assoc, List.cons_append]
        rcases hNext with rfl | ⟨rfl, hLeft⟩
        · right
          rw [Cursor.toToken_of_not_atBreak] <;>
            simp only [Bool.not_true, Bool.or_false, hSkip] <;>
            rfl
        · rw [Cursor.toToken_of_atBreak] <;>
            simp only [Bool.not_true, Bool.or_false, hSkip]
          · refine ih left.length ?_ hLeft rfl rfl
            rw [← hLength]
            simp
            omega
          · rfl

/- What stands below blank lines begins where they end. -/
theorem readFrom?_of_blankLines
    {lines rest : List Char}
    {ts : List Token}
    (hLines : IsBlankLines lines)
    (hRead : readFrom? {} ⟨lines ++ rest, {}⟩ = some ts) :
    ∃ base : Mark, base.column = 0 ∧
      readFrom? {} ⟨rest, base⟩ = some ts := by
  have hStart :
      ∀ c, readFrom? {} c =
        resume? readFrom? {} (c.toToken false true).1
          (c.toToken false true).2 := readFrom?_eq {}
  rw [hStart] at hRead
  rcases toToken_of_blankLines (m := {}) hLines rfl with
    ⟨base, hColumn, hSame⟩ | hTab
  · rw [hSame, ← hStart] at hRead
    exact ⟨base, hColumn, hRead⟩
  · -- No token begins with the tab.
    have hRest :
        (Cursor.toToken false true
          ⟨lines ++ rest, {}⟩).2.rest ≠ [] := by
      intro hNil
      simp [hNil] at hTab
    rcases (resume?_eq_some_iff hRest).mp hRead with
      ⟨_, _, _, _, hLexeme, _⟩
    rw [lexeme?_of_isGap hTab rfl] at hLexeme
    cases hLexeme

------------------------------------------------------------
-- Line Breaks
------------------------------------------------------------

/- Texts are unified apart if no break lies across them. -/
theorem unifyBreaks_append
    {front back : List Char}
    (hApart :
      front.getLast? = some '\r' → back.head? ≠ some '\n') :
    unifyBreaks (front ++ back) =
      unifyBreaks front ++ unifyBreaks back := by
  fun_induction unifyBreaks front with
  | case1 => rfl
  | case2 rest ih =>
      have hRest :
          rest.getLast? = some '\r' →
            back.head? ≠ some '\n' := by
        intro hLast
        apply hApart
        rw [List.getLast?_cons, List.getLast?_cons, hLast]
        rfl
      simp [unifyBreaks, ih hRest]
  | case3 c rest hOther ih =>
      have hRest :
          rest.getLast? = some '\r' →
            back.head? ≠ some '\n' := by
        intro hLast
        apply hApart
        rw [List.getLast?_cons, hLast]
        rfl
      have hAcross :
          ∀ more, c = '\r' → rest ++ back ≠ '\n' :: more := by
        intro more hReturn hFeed
        cases rest with
        | nil =>
            rw [hReturn] at hApart
            apply hApart rfl
            rw [show back = '\n' :: more from hFeed]
            rfl
        | cons x rest =>
            cases hFeed
            exact hOther rest hReturn rfl
      rw [List.cons_append, unifyBreaks, ih hRest]
      · rfl
      · exact hAcross

/- No carriage return remains, and no break is lost. -/
theorem mem_of_mem_unifyBreaks
    {text : List Char}
    {x : Char}
    (hMem : x ∈ unifyBreaks text) :
    x = '\n' ∨ x ∈ text ∧ x ≠ '\r' := by
  fun_induction unifyBreaks text with
  | case1 => cases hMem
  | case2 rest ih =>
      rcases List.mem_cons.mp hMem with hFeed | hMem
      · exact .inl hFeed
      · exact (ih hMem).imp_right (.imp_left (by simp_all))
  | case3 c rest hOther ih =>
      rcases List.mem_cons.mp hMem with hFirst | hMem
      · split at hFirst
        · exact .inl hFirst
        · rename_i hPlain
          subst hFirst
          exact .inr ⟨List.mem_cons_self,
            fun hReturn => hPlain (.inl hReturn)⟩
      · exact (ih hMem).imp_right
          (.imp_left (List.mem_cons_of_mem _))

theorem getLast?_unifyBreaks
    (text : List Char) :
    (unifyBreaks text).getLast? =
      text.getLast?.map fun c =>
        if c = '\r' ∨ c = '\x85' then '\n' else c := by
  fun_induction unifyBreaks text with
  | case1 => rfl
  | case2 rest ih =>
      rw [List.getLast?_cons, List.getLast?_cons,
        List.getLast?_cons, ih]
      cases rest.getLast? <;> rfl
  | case3 c rest hOther ih =>
      rw [List.getLast?_cons, List.getLast?_cons, ih]
      cases rest.getLast? <;> rfl

/- Blanks that end a line, or none, are blank lines. -/
theorem isBlankLines_unifyBreaks
    {lead : List Char}
    (hBlank : ∀ x ∈ lead, Json.Token.isBlank x = true)
    (hLine : ∀ x ∈ lead.getLast?, x = '\n' ∨ x = '\r') :
    IsBlankLines (unifyBreaks lead) where
  blank x hMem := by
    rcases mem_of_mem_unifyBreaks hMem with
      hFeed | ⟨hLead, hReturn⟩
    · exact .inr (.inr hFeed)
    · have hx := hBlank x hLead
      simp only [Json.Token.isBlank, Bool.or_eq_true,
        beq_iff_eq, hReturn, or_false, or_assoc] at hx
      exact hx
  ended x hLast := by
    rw [getLast?_unifyBreaks] at hLast
    rcases Option.map_eq_some_iff.mp hLast with
      ⟨c, hc, rfl⟩
    rcases hLine c hc with rfl | rfl <;> rfl

/- Blanks behind a text are a gap. -/
theorem isGap_unifyBreaks
    {tail : List Char}
    (hBlank : ∀ x ∈ tail, Json.Token.isBlank x = true) :
    (unifyBreaks tail).all isGap = true := by
  apply List.all_eq_true.mpr
  intro x hMem
  rcases mem_of_mem_unifyBreaks hMem with
    rfl | ⟨hTail, hReturn⟩
  · rfl
  · have hx := hBlank x hTail
    simp only [Json.Token.isBlank, Bool.or_eq_true,
      beq_iff_eq, hReturn, or_false] at hx
    rcases hx with (rfl | rfl) | rfl <;> rfl

theorem length_unifyBreaks_le
    (text : List Char) :
    (unifyBreaks text).length ≤ text.length := by
  fun_induction unifyBreaks text with
  | case1 => exact Nat.le_refl _
  | case2 rest ih =>
      simp only [List.length_cons]
      omega
  | case3 c rest _ ih =>
      simp only [List.length_cons]
      omega

------------------------------------------------------------
-- Whole Texts
------------------------------------------------------------

/- The tokens of a text can be evaluated. -/
theorem ofChars?_eq_readUpTo?
    (text : List Char) :
    ofChars? text =
      if text.all isAllowed then
        readUpTo? (text.length + 1) {} ⟨unifyBreaks text, {}⟩
      else none := by
  unfold ofChars?
  rw [readFrom?_eq_readUpTo?]
  exact Nat.lt_succ_of_le (length_unifyBreaks_le text)

/- There are no tokens in blanks. -/
theorem eq_nil_of_ofChars?_blank
    {blanks : List Char}
    {ts : List Token}
    (hBlank : ∀ x ∈ blanks, Json.Token.isBlank x = true)
    (hTokens : ofChars? blanks = some ts) :
    ts = [] := by
  unfold ofChars? at hTokens
  split at hTokens
  · have hFinish :=
      finishAt?_of_readFrom?
        ⟨isGap_unifyBreaks hBlank, .refl _⟩ hTokens
    exact (Option.some.inj hFinish).symm
  · cases hTokens

/-
  Blank lines above a text and blanks behind it do not count,
  unless its last token is a block scalar.
-/
theorem ofChars?_of_margin
    {lead body tail : List Char}
    {ts : List Token}
    (hLead : ∀ x ∈ lead, Json.Token.isBlank x = true)
    (hLine : ∀ x ∈ lead.getLast?, x = '\n' ∨ x = '\r')
    (hTail : ∀ x ∈ tail, Json.Token.isBlank x = true)
    (hFirst : ∀ x ∈ body.head?, Json.Token.isBlank x = false)
    (hLast :
      ∀ x ∈ body.getLast?, Json.Token.isBlank x = false)
    (hBody : body ≠ [])
    (hEnd : endsInBlock ts = false)
    (hTokens : ofChars? (lead ++ (body ++ tail)) = some ts) :
    ofChars? body = some ts := by
  have hBreaks :
      unifyBreaks (lead ++ (body ++ tail)) =
        unifyBreaks lead ++
          (unifyBreaks body ++ unifyBreaks tail) := by
    rw [unifyBreaks_append, unifyBreaks_append]
    · intro hReturn
      have hNot := hLast '\r' hReturn
      cases hNot
    · intro _ hFeed
      rw [List.head?_append, List.head?_eq_some_head hBody]
        at hFeed
      rw [List.head?_eq_some_head hBody] at hFirst
      have hNot := hFirst '\n' hFeed
      cases hNot
  unfold ofChars? at hTokens ⊢
  split at hTokens
  · rename_i hAllowed
    have hBodyAllowed : body.all isAllowed = true := by
      simp only [List.all_append, Bool.and_eq_true]
        at hAllowed
      exact hAllowed.2.1
    rw [if_pos hBodyAllowed]
    rw [hBreaks] at hTokens
    rcases readFrom?_of_blankLines
      (isBlankLines_unifyBreaks hLead hLine) hTokens with
      ⟨base, hColumn, hRead⟩
    let g : Margin :=
      ⟨base, unifyBreaks tail, isGap_unifyBreaks hTail⟩
    have hWithin :
        (⟨unifyBreaks body, {}⟩ : Cursor).within g =
          ⟨unifyBreaks body ++ unifyBreaks tail, base⟩ := by
      rcases base with ⟨index, line, column⟩
      subst hColumn
      rfl
    have hLeads :=
      Cursor.leads_within g ⟨unifyBreaks body, {}⟩
    rw [hWithin] at hLeads
    exact readFrom?_of_leads hLeads (fun _ => rfl) hEnd hRead
  · cases hTokens

end Token

end Yaml

end FactLayout
