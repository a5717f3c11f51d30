import FactLayout.Json.Source
import FactLayout.Proofs.Text.Trim
import Mathlib.Data.List.TakeWhile

/-
  JSON text between blanks.

  A token is read alike with and without blanks behind it,
  and neither begins nor ends with one.  So the blanks
  around a document do not count, and they are the only
  blanks that can be trimmed off it.

  Key definitions include:
    * `Json.Token.EndsSolid`

  Main results:
    * `Json.Token.next?_append`
    * `Json.Token.ofChars?_between`
    * `Json.Token.exists_between_of_ofChars?`
-/

------------------------------------------------------------
-- Blanks behind Scalars
------------------------------------------------------------

namespace FactLayout

namespace Json

namespace Token

/- What a reader has read, with more text left behind it. -/
def leaving
    {α : Type}
    (more : List Char)
    (result : α × List Char) : α × List Char :=
  (result.1, result.2 ++ more)

section

variable {blanks : List Char}

/- A character that is no blank stands before all blanks. -/
theorem eq_cons_of_append_blanks
    {c : Char}
    {rest left : List Char}
    (hBlank : ∀ x ∈ blanks, isBlank x = true)
    (hSolid : isBlank c = false)
    (hText : rest ++ blanks = c :: left) :
    ∃ more, rest = c :: more ∧ more ++ blanks = left := by
  cases rest with
  | nil =>
      have hTrue := hBlank c (by
        rw [show blanks = c :: left from hText]
        exact List.mem_cons_self)
      rw [hSolid] at hTrue
      cases hTrue
  | cons x more =>
      cases hText
      exact ⟨more, rfl, rfl⟩

/- A word without blanks stands before all of them, too. -/
theorem eq_append_of_append_blanks
    (word : List Char)
    {rest left : List Char}
    (hBlank : ∀ x ∈ blanks, isBlank x = true)
    (hSolid : word.any isBlank = false)
    (hText : rest ++ blanks = word ++ left) :
    ∃ more, rest = word ++ more ∧ more ++ blanks = left := by
  induction word generalizing rest with
  | nil => exact ⟨rest, rfl, hText⟩
  | cons c word ih =>
      rw [List.any_cons, Bool.or_eq_false_iff] at hSolid
      rcases eq_cons_of_append_blanks hBlank hSolid.1 hText
        with ⟨behind, rfl, hBehind⟩
      rcases ih hSolid.2 hBehind with ⟨more, rfl, hMore⟩
      exact ⟨more, rfl, hMore⟩

theorem isBlank_iff
    {c : Char} :
    isBlank c = true ↔
      c = ' ' ∨ c = '\t' ∨ c = '\n' ∨ c = '\r' := by
  simp [isBlank, or_assoc]

theorem isDigit_of_isBlank
    {c : Char}
    (hBlank : isBlank c = true) :
    c.isDigit = false := by
  rcases isBlank_iff.mp hBlank with
    rfl | rfl | rfl | rfl <;> rfl

theorem spanDigits_append
    (hBlank : ∀ x ∈ blanks, isBlank x = true)
    (chars : List Char) :
    spanDigits (chars ++ blanks) =
      leaving blanks (spanDigits chars) := by
  have hNone : ∀ x ∈ blanks, ¬ x.isDigit = true := by
    intro x hx
    simp [isDigit_of_isBlank (hBlank x hx)]
  induction chars with
  | nil =>
      cases blanks with
      | nil => rfl
      | cons x rest =>
          have hFirst := hNone x List.mem_cons_self
          simp [spanDigits, leaving, hFirst]
  | cons c chars ih =>
      cases hDigit : c.isDigit <;>
        simp_all [spanDigits, leaving]

theorem fraction?_append
    (hBlank : ∀ x ∈ blanks, isBlank x = true)
    (chars : List Char) :
    fraction? (chars ++ blanks) =
      (fraction? chars).map (leaving blanks) := by
  unfold fraction?
  split
  · rename_i rest hText
    rcases eq_cons_of_append_blanks hBlank rfl hText with
      ⟨more, rfl, rfl⟩
    simp only [spanDigits_append hBlank]
    rcases spanDigits more with ⟨_ | ⟨d, ds⟩, left⟩ <;> rfl
  · rename_i hOther
    split
    · rename_i rest
      exact absurd rfl (hOther (rest ++ blanks))
    · rfl

theorem exponentSign_append
    (hBlank : ∀ x ∈ blanks, isBlank x = true)
    (chars : List Char) :
    exponentSign (chars ++ blanks) =
      leaving blanks (exponentSign chars) := by
  unfold exponentSign
  split
  · rename_i rest hText
    rcases eq_cons_of_append_blanks hBlank rfl hText with
      ⟨more, rfl, rfl⟩
    rfl
  · rename_i rest hText
    rcases eq_cons_of_append_blanks hBlank rfl hText with
      ⟨more, rfl, rfl⟩
    rfl
  · rename_i hMinus hPlus
    split
    · rename_i rest
      exact absurd rfl (hMinus (rest ++ blanks))
    · rename_i rest
      exact absurd rfl (hPlus (rest ++ blanks))
    · rfl

theorem exponent?_append
    (hBlank : ∀ x ∈ blanks, isBlank x = true)
    (chars : List Char) :
    exponent? (chars ++ blanks) =
      (exponent? chars).map (leaving blanks) := by
  unfold exponent?
  split
  · rename_i rest hText
    rcases eq_cons_of_append_blanks hBlank rfl hText with
      ⟨more, rfl, rfl⟩
    simp only [exponentSign_append hBlank, leaving,
      spanDigits_append hBlank]
    rcases spanDigits (exponentSign more).2 with
      ⟨_ | ⟨d, ds⟩, left⟩ <;> rfl
  · rename_i rest hText
    rcases eq_cons_of_append_blanks hBlank rfl hText with
      ⟨more, rfl, rfl⟩
    simp only [exponentSign_append hBlank, leaving,
      spanDigits_append hBlank]
    rcases spanDigits (exponentSign more).2 with
      ⟨_ | ⟨d, ds⟩, left⟩ <;> rfl
  · rename_i hSmall hCapital
    split
    · rename_i rest
      exact absurd rfl (hSmall (rest ++ blanks))
    · rename_i rest
      exact absurd rfl (hCapital (rest ++ blanks))
    · rfl

theorem numeral?_append
    (hBlank : ∀ x ∈ blanks, isBlank x = true)
    (negative : Bool)
    (chars : List Char) :
    numeral? negative (chars ++ blanks) =
      (numeral? negative chars).map (leaving blanks) := by
  rcases hSpan : spanDigits chars with ⟨whole, rest⟩
  have hLater :
      spanDigits (chars ++ blanks) = (whole, rest ++ blanks) := by
    rw [spanDigits_append hBlank, hSpan]
    rfl
  unfold numeral?
  rw [hLater, hSpan]
  simp only [Option.bind_eq_bind, Option.pure_def]
  by_cases hWhole :
      whole = [] ∨ whole.head? = some '0' ∧ whole ≠ ['0']
  · rw [if_pos hWhole, if_pos hWhole]
    rfl
  · rw [if_neg hWhole, if_neg hWhole,
      fraction?_append hBlank]
    rcases fraction? rest with _ | ⟨fraction, rest⟩
    · rfl
    · simp only [Option.map_some, Option.bind_some, leaving]
      rw [exponent?_append hBlank]
      rcases exponent? rest with _ | ⟨exponent, rest⟩ <;> rfl

/- No quoted text ends in blanks alone. -/
theorem units?_blanks
    (hBlank : ∀ x ∈ blanks, isBlank x = true) :
    units? blanks = none := by
  induction blanks with
  | nil => rfl
  | cons x rest ih =>
      have hRest := ih fun y hy =>
        hBlank y (List.mem_cons_of_mem _ hy)
      rcases isBlank_iff.mp (hBlank x List.mem_cons_self) with
        rfl | rfl | rfl | rfl <;> simp [units?, hRest]

/- A blank is no hexadecimal digit and not escaped. -/
theorem hexValue?_of_isBlank
    {c : Char}
    (hBlank : isBlank c = true) :
    hexValue? c = none := by
  rcases isBlank_iff.mp hBlank with
    rfl | rfl | rfl | rfl <;> decide

theorem escaped?_of_isBlank
    {c : Char}
    (hBlank : isBlank c = true) :
    escaped? c = none := by
  rcases isBlank_iff.mp hBlank with
    rfl | rfl | rfl | rfl <;> decide

/- Fewer than four digits before blanks are no number. -/
theorem units?_of_short
    {rest : List Char}
    (hBlank : ∀ x ∈ blanks, isBlank x = true)
    (hShort : rest.length ≤ 3) :
    units? ('\\' :: 'u' :: (rest ++ blanks)) = none := by
  have hNumber :
      ∀ a b c d left,
        rest ++ blanks = a :: b :: c :: d :: left →
        hexFour? a b c d = none := by
    intro a b c d left hText
    have hMem : d ∈ (rest ++ blanks).drop 3 := by
      rw [hText]
      exact List.mem_cons_self
    have hLast : d ∈ (rest ++ blanks).drop rest.length :=
      (List.drop_suffix_drop_left _ hShort).subset hMem
    rw [List.drop_left] at hLast
    unfold hexFour?
    rw [hexValue?_of_isBlank (hBlank d hLast)]
    simp
  generalize rest ++ blanks = left at hNumber
  rcases left with _ | ⟨a, _ | ⟨b, _ | ⟨c, _ | ⟨d, left⟩⟩⟩⟩
  · simp [units?, escaped?]
  · simp [units?, escaped?]
  · simp [units?, escaped?]
  · simp [units?, escaped?]
  · simp [units?, hNumber a b c d left rfl]

theorem units?_append
    (hBlank : ∀ x ∈ blanks, isBlank x = true)
    (chars : List Char) :
    units? (chars ++ blanks) =
      (units? chars).map (leaving blanks) := by
  fun_induction units? chars with
  | case1 => exact units?_blanks hBlank
  | case2 rest => rfl
  | case3 a b c d rest ih =>
      simp only [List.cons_append, units?, ih,
        Option.bind_eq_bind, Option.pure_def]
      cases hexFour? a b c d with
      | none => rfl
      | some n =>
          rcases units? rest with _ | ⟨units, left⟩ <;> rfl
  | case4 c rest hNumber ih =>
      by_cases hMark : c = 'u'
      · subst hMark
        refine units?_of_short hBlank ?_
        match rest with
        | [] | [_] | [_, _] | [_, _, _] => simp
        | a :: b :: c :: d :: left =>
            exact absurd rfl (hNumber a b c d left rfl)
      · rw [List.cons_append, List.cons_append, units?, ih]
        · simp only [Option.bind_eq_bind, Option.pure_def]
          cases escaped? c with
          | none => rfl
          | some c =>
              rcases units? rest with _ | ⟨units, left⟩ <;> rfl
        · intro a b c d left hSame
          exact absurd hSame hMark
  | case5 c rest hQuote hNumber hEscape hNone =>
      by_cases hMark : c = '\\'
      · have hEnd : rest = [] := by
          cases rest with
          | nil => rfl
          | cons x rest => exact absurd rfl (hEscape x rest hMark)
        subst hEnd hMark
        cases blanks with
        | nil => simp [units?]
        | cons x more =>
            have hFirst := hBlank x List.mem_cons_self
            have hNot : x ≠ 'u' := by
              rintro rfl
              cases hFirst
            rw [List.singleton_append, units?,
              escaped?_of_isBlank hFirst]
            · rfl
            · intro a b c d left hSame
              exact absurd hSame hNot
      · rw [List.cons_append, units?, if_pos hNone]
        · rfl
        · exact hQuote
        · exact fun _ _ _ _ _ hSame => absurd hSame hMark
        · exact fun _ _ hSame => absurd hSame hMark
  | case6 c rest hQuote hNumber hEscape hSome ih =>
      have hMark : c ≠ '\\' := fun hSame => hSome (.inr hSame)
      rw [List.cons_append, units?, if_neg hSome, ih]
      · rcases units? rest with _ | ⟨units, left⟩ <;> rfl
      · exact hQuote
      · exact fun _ _ _ _ _ hSame => absurd hSame hMark
      · exact fun _ _ hSame => absurd hSame hMark

/- A token does not depend on the blanks behind it. -/
theorem next?_append
    (hBlank : ∀ x ∈ blanks, isBlank x = true)
    (chars : List Char) :
    next? (chars ++ blanks) =
      (next? chars).map (leaving blanks) := by
  unfold next?
  split
  case h_1 | h_2 | h_3 | h_4 | h_5 | h_6 =>
    rename_i rest hText
    rcases eq_cons_of_append_blanks hBlank rfl hText with
      ⟨more, rfl, rfl⟩
    rfl
  case h_7 =>
    rename_i rest hText
    rcases eq_append_of_append_blanks ['n', 'u', 'l', 'l']
      hBlank (by decide) hText with ⟨more, rfl, rfl⟩
    rfl
  case h_8 =>
    rename_i rest hText
    rcases eq_append_of_append_blanks ['t', 'r', 'u', 'e']
      hBlank (by decide) hText with ⟨more, rfl, rfl⟩
    rfl
  case h_9 =>
    rename_i rest hText
    rcases eq_append_of_append_blanks
      ['f', 'a', 'l', 's', 'e'] hBlank (by decide) hText
      with ⟨more, rfl, rfl⟩
    rfl
  case h_10 =>
    rename_i rest hText
    rcases eq_cons_of_append_blanks hBlank rfl hText with
      ⟨more, rfl, rfl⟩
    simp only [units?_append hBlank]
    rcases units? more with _ | ⟨units, left⟩ <;> rfl
  case h_11 =>
    rename_i rest hText
    rcases eq_cons_of_append_blanks hBlank rfl hText with
      ⟨more, rfl, rfl⟩
    simp only [numeral?_append hBlank]
    rcases numeral? true more with _ | ⟨n, left⟩ <;> rfl
  case h_12 =>
    -- A mark at the front is there with blanks behind, too.
    split
    case h_12 =>
      rw [numeral?_append hBlank]
      rcases numeral? false chars with _ | ⟨n, left⟩ <;> rfl
    all_goals simp_all

end

------------------------------------------------------------
-- Where Tokens Begin and End
------------------------------------------------------------

/- Text that does not end with a blank of any kind. -/
def EndsSolid (used : List Char) : Prop :=
  ∃ c, used.getLast? = some c ∧ Blank.isBlank c = false

theorem EndsSolid.append
    {back : List Char}
    (hBack : EndsSolid back)
    (front : List Char) :
    EndsSolid (front ++ back) := by
  rcases hBack with ⟨c, hLast, hSolid⟩
  refine ⟨c, ?_, hSolid⟩
  rw [List.getLast?_append, hLast]
  rfl

theorem isBlank_of_isDigit
    {c : Char}
    (hDigit : c.isDigit = true) :
    Blank.isBlank c = false := by
  have hBounds : 48 ≤ c.toNat ∧ c.toNat ≤ 57 := by
    simpa [Char.isDigit, UInt32.le_iff_toNat_le] using hDigit
  simp only [Blank.isBlank, Bool.or_eq_false_iff,
    Bool.and_eq_false_iff, decide_eq_false_iff_not,
    beq_eq_false_iff_ne]
  omega

theorem endsSolid_of_isDigit
    {ds : List Char}
    (hDigits : ∀ d ∈ ds, d.isDigit = true)
    (hSome : ds ≠ []) :
    EndsSolid ds :=
  ⟨_, List.getLast?_eq_some_getLast hSome,
    isBlank_of_isDigit (hDigits _ (List.getLast_mem hSome))⟩

/- A run of digits is taken off the front. -/
theorem append_of_spanDigits
    {chars ds left : List Char}
    (hSpan : spanDigits chars = (ds, left)) :
    chars = ds ++ left ∧ ∀ d ∈ ds, d.isDigit = true := by
  unfold spanDigits at hSpan
  cases hSpan
  exact ⟨List.takeWhile_append_dropWhile.symm,
    List.all_eq_true.mp List.all_takeWhile⟩

/- A part that may be missing is solid if it is there. -/
theorem append_of_fraction?
    {chars left : List Char}
    {fraction : Option (List Char)}
    (hFraction : fraction? chars = some (fraction, left)) :
    ∃ used, chars = used ++ left ∧
      (used ≠ [] → EndsSolid used) := by
  unfold fraction? at hFraction
  split at hFraction
  · rename_i rest
    split at hFraction
    · cases hFraction
    · rename_i ds after hSome hDigits
      cases hFraction
      rcases append_of_spanDigits hDigits with ⟨rfl, hAll⟩
      refine ⟨'.' :: ds, rfl, fun _ => ?_⟩
      exact (endsSolid_of_isDigit hAll hSome).append ['.']
  · cases hFraction
    exact ⟨[], rfl, absurd rfl⟩

theorem append_of_exponentSign
    (chars : List Char) :
    ∃ sign, chars = sign ++ (exponentSign chars).2 := by
  unfold exponentSign
  split
  · exact ⟨['-'], rfl⟩
  · exact ⟨['+'], rfl⟩
  · exact ⟨[], rfl⟩

theorem append_of_exponent?
    {chars left : List Char}
    {exponent : Option (Bool × List Char)}
    (hExponent : exponent? chars = some (exponent, left)) :
    ∃ used, chars = used ++ left ∧
      (used ≠ [] → EndsSolid used) := by
  -- Both marks are followed by a sign and by digits.
  have hMarked : ∀ (mark : Char) (rest ds : List Char),
      (ds = [] → False) →
      spanDigits (exponentSign rest).2 = (ds, left) →
      ∃ used, mark :: rest = used ++ left ∧
        (used ≠ [] → EndsSolid used) := by
    intro mark rest ds hSome hDigits
    rcases append_of_exponentSign rest with ⟨sign, hSign⟩
    rcases append_of_spanDigits hDigits with ⟨hLeft, hAll⟩
    refine ⟨mark :: sign ++ ds, ?_, fun _ => ?_⟩
    · rw [hLeft] at hSign
      rw [hSign]
      simp
    · exact (endsSolid_of_isDigit hAll hSome).append
        (mark :: sign)
  unfold exponent? at hExponent
  split at hExponent
  · rename_i rest
    split at hExponent
    · cases hExponent
    · rename_i ds after hSome hDigits
      cases hExponent
      exact hMarked 'e' rest ds hSome hDigits
  · rename_i rest
    split at hExponent
    · cases hExponent
    · rename_i ds after hSome hDigits
      cases hExponent
      exact hMarked 'E' rest ds hSome hDigits
  · cases hExponent
    exact ⟨[], rfl, absurd rfl⟩

/- A numeral begins with a digit and ends with one. -/
theorem append_of_numeral?
    {negative : Bool}
    {chars left : List Char}
    {n : Numeral}
    (hNumeral : numeral? negative chars = some (n, left)) :
    ∃ used, chars = used ++ left ∧ EndsSolid used ∧
      used.head?.any Char.isDigit = true := by
  rcases hSpan : spanDigits chars with ⟨whole, rest⟩
  unfold numeral? at hNumeral
  rw [hSpan] at hNumeral
  simp only [Option.bind_eq_bind, Option.pure_def] at hNumeral
  split at hNumeral
  · cases hNumeral
  · rename_i hWhole
    have hSome : whole ≠ [] := fun hNil => hWhole (.inl hNil)
    rcases Option.bind_eq_some_iff.mp hNumeral with
      ⟨⟨fraction, behind⟩, hFraction, hNumeral⟩
    rcases Option.bind_eq_some_iff.mp hNumeral with
      ⟨⟨exponent, last⟩, hExponent, hNumeral⟩
    cases hNumeral
    rcases append_of_spanDigits hSpan with ⟨rfl, hDigits⟩
    rcases append_of_fraction? hFraction with
      ⟨places, rfl, hPlaces⟩
    rcases append_of_exponent? hExponent with
      ⟨scale, rfl, hScale⟩
    refine ⟨whole ++ places ++ scale, by simp, ?_, ?_⟩
    · by_cases hEnd : scale = []
      · subst hEnd
        rw [List.append_nil]
        by_cases hMiddle : places = []
        · subst hMiddle
          rw [List.append_nil]
          exact endsSolid_of_isDigit hDigits hSome
        · exact (hPlaces hMiddle).append whole
      · exact (hScale hEnd).append (whole ++ places)
    · cases whole with
      | nil => exact absurd rfl hSome
      | cons d ds => exact hDigits d List.mem_cons_self

/- A quoted text ends with a quote. -/
theorem append_of_units?
    {chars left : List Char}
    {units : List TextUnit}
    (hUnits : units? chars = some (units, left)) :
    ∃ used, chars = used ++ left ∧ EndsSolid used := by
  fun_induction units? chars generalizing units left with
  | case1 => cases hUnits
  | case2 rest =>
      cases hUnits
      exact ⟨['"'], rfl, '"', rfl, rfl⟩
  | case3 a b c d rest =>
      rename_i ih
      rcases Option.bind_eq_some_iff.mp hUnits with
        ⟨_, _, hUnits⟩
      rcases Option.bind_eq_some_iff.mp hUnits with
        ⟨⟨_, _⟩, hRest, hUnits⟩
      cases hUnits
      rcases ih hRest with ⟨used, rfl, hSolid⟩
      exact ⟨['\\', 'u', a, b, c, d] ++ used, by simp,
        hSolid.append _⟩
  | case4 c rest =>
      rename_i ih
      rcases Option.bind_eq_some_iff.mp hUnits with
        ⟨_, _, hUnits⟩
      rcases Option.bind_eq_some_iff.mp hUnits with
        ⟨⟨_, _⟩, hRest, hUnits⟩
      cases hUnits
      rcases ih hRest with ⟨used, rfl, hSolid⟩
      exact ⟨['\\', c] ++ used, by simp, hSolid.append _⟩
  | case5 => cases hUnits
  | case6 c rest =>
      rename_i ih
      rcases Option.bind_eq_some_iff.mp hUnits with
        ⟨⟨_, _⟩, hRest, hUnits⟩
      cases hUnits
      rcases ih hRest with ⟨used, rfl, hSolid⟩
      exact ⟨[c] ++ used, by simp, hSolid.append _⟩

/- A token neither begins nor ends with a blank. -/
theorem append_of_next?
    {chars left : List Char}
    {t : Token}
    (hNext : next? chars = some (t, left)) :
    ∃ used, chars = used ++ left ∧ EndsSolid used ∧
      ∀ c ∈ used.head?, Blank.isBlank c = false := by
  unfold next? at hNext
  split at hNext
  case h_1 | h_2 | h_3 | h_4 | h_5 | h_6 =>
    cases hNext
    exact ⟨[_], rfl, ⟨_, rfl, rfl⟩, by simp; decide⟩
  case h_7 | h_8 =>
    cases hNext
    exact ⟨[_, _, _, _], rfl, ⟨_, rfl, rfl⟩, by simp; decide⟩
  case h_9 =>
    cases hNext
    exact ⟨[_, _, _, _, _], rfl, ⟨_, rfl, rfl⟩,
      by simp; decide⟩
  case h_10 =>
    rcases Option.bind_eq_some_iff.mp hNext with
      ⟨⟨_, _⟩, hUnits, hNext⟩
    cases hNext
    rcases append_of_units? hUnits with ⟨used, rfl, hSolid⟩
    exact ⟨'"' :: used, rfl, hSolid.append ['"'],
      by simp; decide⟩
  case h_11 =>
    rcases Option.bind_eq_some_iff.mp hNext with
      ⟨⟨_, _⟩, hNumeral, hNext⟩
    cases hNext
    rcases append_of_numeral? hNumeral with
      ⟨used, rfl, hSolid, _⟩
    exact ⟨'-' :: used, rfl, hSolid.append ['-'],
      by simp; decide⟩
  case h_12 =>
    rcases Option.bind_eq_some_iff.mp hNext with
      ⟨⟨_, _⟩, hNumeral, hNext⟩
    cases hNext
    rcases append_of_numeral? hNumeral with
      ⟨used, rfl, hSolid, hDigit⟩
    refine ⟨used, rfl, hSolid, ?_⟩
    intro c hFirst
    rw [hFirst] at hDigit
    exact isBlank_of_isDigit hDigit

------------------------------------------------------------
-- Token Lists
------------------------------------------------------------

section

variable {blanks : List Char}

theorem ofChars?_eq
    (chars : List Char) :
    ofChars? chars =
      if dropBlanks chars = [] then some []
      else
        (next? (dropBlanks chars)).bind fun r =>
          (ofChars? r.2).map (r.1 :: ·) := by
  rw [ofChars?]
  split
  · rfl
  · split <;> rename_i hNext <;> rw [hNext] <;> rfl

/- Blanks before a text do not count. -/
theorem ofChars?_blanks_append
    (hBlank : ∀ x ∈ blanks, isBlank x = true)
    (chars : List Char) :
    ofChars? (blanks ++ chars) = ofChars? chars := by
  have hDrop :
      dropBlanks (blanks ++ chars) = dropBlanks chars :=
    List.dropWhile_append_of_pos hBlank
  rw [ofChars?_eq, ofChars?_eq, hDrop]

theorem dropBlanks_append
    (hBlank : ∀ x ∈ blanks, isBlank x = true)
    (chars : List Char) :
    dropBlanks (chars ++ blanks) =
      if dropBlanks chars = [] then []
      else dropBlanks chars ++ blanks := by
  have hNone : blanks.dropWhile isBlank = [] :=
    List.dropWhile_eq_nil_iff.mpr hBlank
  unfold dropBlanks
  rw [List.dropWhile_append, hNone]
  simp only [List.isEmpty_iff]

/- Neither do the blanks behind it. -/
theorem ofChars?_append_blanks
    (hBlank : ∀ x ∈ blanks, isBlank x = true)
    (chars : List Char) :
    ofChars? (chars ++ blanks) = ofChars? chars := by
  induction hLength : chars.length using Nat.strongRecOn
    generalizing chars with
  | ind n ih =>
      rw [ofChars?_eq, ofChars?_eq chars,
        dropBlanks_append hBlank]
      split
      · rw [if_pos rfl]
      · rename_i hRest
        have hMore : dropBlanks chars ++ blanks ≠ [] :=
          fun hNil => hRest (List.append_eq_nil_iff.mp hNil).1
        rw [if_neg hMore, next?_append hBlank]
        cases hNext : next? (dropBlanks chars) with
        | none => rfl
        | some r =>
            have hLess := length_lt_of_next? hNext
            have hShort := length_dropBlanks_le chars
            simp only [Option.map_some, Option.bind_some,
              leaving]
            rw [ih r.2.length (by omega) r.2 rfl]

/- Accepted text ends with a token, or it is blank. -/
theorem append_of_ofChars?
    {chars : List Char}
    {ts : List Token}
    (hTokens : ofChars? chars = some ts) :
    ∃ used tail, chars = used ++ tail ∧
      (∀ x ∈ tail, isBlank x = true) ∧
      (used = [] ∧ ts = [] ∨ EndsSolid used) := by
  induction hLength : chars.length using Nat.strongRecOn
    generalizing chars ts with
  | ind n ih =>
      rw [ofChars?_eq] at hTokens
      split at hTokens
      · rename_i hDrop
        cases hTokens
        exact ⟨[], chars, rfl,
          List.dropWhile_eq_nil_iff.mp hDrop, .inl ⟨rfl, rfl⟩⟩
      · rcases Option.bind_eq_some_iff.mp hTokens with
          ⟨⟨t, left⟩, hNext, hLeft⟩
        rcases Option.map_eq_some_iff.mp hLeft with
          ⟨more, hMore, rfl⟩
        have hLess := length_lt_of_next? hNext
        have hShort := length_dropBlanks_le chars
        rcases append_of_next? hNext with
          ⟨token, hToken, hSolid, _⟩
        rcases ih left.length (by omega) hMore rfl with
          ⟨used, tail, rfl, hTail, hUsed⟩
        let front := chars.takeWhile isBlank ++ token
        have hSplit : chars = front ++ used ++ tail := by
          rw [List.append_assoc, List.append_assoc, ← hToken]
          exact List.takeWhile_append_dropWhile.symm
        refine ⟨front ++ used, tail, hSplit, hTail, .inr ?_⟩
        rcases hUsed with ⟨rfl, _⟩ | hUsed
        · rw [List.append_nil]
          exact hSolid.append _
        · exact hUsed.append front

end

end Token

------------------------------------------------------------
-- Margins
------------------------------------------------------------

/- Only blanks of JSON are trimmed off a text. -/
structure HasMargins (text : List Char) : Prop where
  leading : ∀ x ∈ Blank.leading text, Token.isBlank x = true
  trailing : ∀ x ∈ Blank.trailing text, Token.isBlank x = true

namespace Token

/- They do not count. -/
theorem ofChars?_trim
    {text : List Char}
    (hMargins : HasMargins text) :
    ofChars? (Blank.trim text) = ofChars? text := by
  have hText :
      ofChars? text =
        ofChars? (Blank.leading text ++
          (Blank.trim text ++ Blank.trailing text)) :=
    congrArg ofChars? (Blank.leading_append_trim text).symm
  rw [hText, ofChars?_blanks_append hMargins.leading,
    ofChars?_append_blanks hMargins.trailing]

theorem isBlank_of_isBlank
    {c : Char}
    (hBlank : isBlank c = true) :
    Blank.isBlank c = true := by
  rcases isBlank_iff.mp hBlank with
    rfl | rfl | rfl | rfl <;> decide

theorem EndsSolid.ne_nil
    {used : List Char}
    (hSolid : EndsSolid used) :
    used ≠ [] := by
  rintro rfl
  rcases hSolid with ⟨c, hLast, _⟩
  cases hLast

/- The first character behind the blanks begins a token. -/
theorem isBlank_of_mem_head?_dropBlanks
    {text : List Char}
    {t : Token}
    {ts : List Token}
    (hTokens : ofChars? text = some (t :: ts)) :
    ∀ c ∈ (dropBlanks text).head?,
      Blank.isBlank c = false := by
  rw [ofChars?_eq] at hTokens
  split at hTokens
  · cases hTokens
  · rcases Option.bind_eq_some_iff.mp hTokens with
      ⟨⟨_, left⟩, hNext, _⟩
    rcases append_of_next? hNext with
      ⟨used, hText, hSolid, hFirst⟩
    have hUsed := hSolid.ne_nil
    rw [hText, List.head?_append,
      List.head?_eq_some_head hUsed]
    rw [List.head?_eq_some_head hUsed] at hFirst
    exact hFirst

/- Nothing else is trimmed off a text that has tokens. -/
theorem hasMargins_of_ofChars?
    {text : List Char}
    {t : Token}
    {ts : List Token}
    (hTokens : ofChars? text = some (t :: ts)) :
    HasMargins text := by
  have hFirst := isBlank_of_mem_head?_dropBlanks hTokens
  rcases append_of_ofChars? hTokens with
    ⟨used, tail, rfl, hTail, ⟨_, hNil⟩ | ⟨c, hLast, hSolid⟩⟩
  · cases hNil
  · -- The first part ends with a token, so it is not blank.
    let lead := used.takeWhile isBlank
    have hSplit : lead ++ dropBlanks used = used :=
      List.takeWhile_append_dropWhile
    have hBody : dropBlanks used ≠ [] := by
      intro hNil
      have hBlank := List.dropWhile_eq_nil_iff.mp hNil c
        (List.mem_of_mem_getLast? hLast)
      rw [isBlank_of_isBlank hBlank] at hSolid
      cases hSolid
    rw [dropBlanks_append hTail, if_neg hBody,
      List.head?_append, List.head?_eq_some_head hBody]
      at hFirst
    rw [← hSplit, List.getLast?_append,
      List.getLast?_eq_some_getLast hBody] at hLast
    have hLead : ∀ x ∈ lead, isBlank x = true :=
      List.all_eq_true.mp List.all_takeWhile
    rcases Blank.trim_append
        (fun x hx => isBlank_of_isBlank (hLead x hx))
        (fun x hx => isBlank_of_isBlank (hTail x hx))
        (by rw [List.head?_eq_some_head hBody]; exact hFirst)
        (by
          rw [List.getLast?_eq_some_getLast hBody]
          intro x hx
          rw [← Option.some.inj (hLast.symm.trans hx)]
          exact hSolid)
        hBody with
      ⟨hLeading, _, hTrailing⟩
    rw [← hSplit, List.append_assoc]
    constructor
    · rw [hLeading]
      exact hLead
    · rw [hTrailing]
      exact hTail

end Token

end Json

end FactLayout
