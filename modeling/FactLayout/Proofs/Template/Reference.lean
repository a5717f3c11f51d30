import FactLayout.Proofs.Template.Item
import FactLayout.Template.Reference
import Mathlib.Data.List.TakeWhile
import Mathlib.Data.Nat.Digits.Defs

/-
  The grammar of references.

  A reference that names an argument has four parts: blank
  space, a plus sign or none, digits, and anything that is no
  digit.  Only the digits count, and exactly the numbers from
  one to the largest word name an argument.  The digits of a
  number are one such reference.

  Key definitions include:
    * `Reference.Parts`
    * `Reference.Parts.value`
    * `Reference.Parts.ofNumber`

  Main results:
    * `Reference.Parts.position?_text`
    * `Reference.exists_parts`
    * `Reference.position?_eq_some_iff`
    * `Reference.position?_eq_none_iff`
    * `Reference.isSound_argument`
    * `Reference.position?_toDigits`
-/

------------------------------------------------------------
-- Parts of a Reference
------------------------------------------------------------

namespace FactLayout

namespace Reference

/- The characters that make up blank space. -/
def blanks : List Char := [' ', '\t', '\n', '\x0c', '\r']

/- The number that a digit stands for. -/
def digitValue (c : Char) : ℕ := c.toNat - '0'.toNat

/-
  The parts that a reference is made of, from left to right.
  Neither run can be longer: a sign or a digit stands behind
  the blank space, and no digit stands behind the digits.
-/
structure Parts where
  blank : List Char
  sign : List Char
  digits : List Char
  rest : List Char
  blank_blanks : ∀ c ∈ blank, c ∈ blanks
  sign_plus : sign = [] ∨ sign = ['+']
  digits_ne_nil : digits ≠ []
  digits_digits : ∀ c ∈ digits, c.isDigit = true
  rest_head : ∀ c ∈ rest.head?, c.isDigit = false

namespace Parts

/- The reference itself. -/
def text (w : Parts) : List Char :=
  w.blank ++ w.sign ++ w.digits ++ w.rest

/- The number that the digits stand for, in place values. -/
def value (w : Parts) : ℕ :=
  Nat.ofDigits 10 (w.digits.reverse.map digitValue)

end Parts

------------------------------------------------------------
-- Blanks and Digits
------------------------------------------------------------

theorem isBlank_iff
    {c : Char} :
    isBlank c = true ↔ c ∈ blanks := by
  simp [isBlank, blanks, or_assoc]

/- A digit is neither blank nor a sign. -/
theorem isBlank_of_isDigit
    {c : Char}
    (hDigit : c.isDigit = true) :
    isBlank c = false := by
  by_contra hBlank
  simp only [isBlank, Bool.not_eq_false, Bool.or_eq_true,
    beq_iff_eq] at hBlank
  rcases hBlank with (((rfl | rfl) | rfl) | rfl) | rfl <;>
    cases hDigit

/- Reading digits one by one is adding up place values. -/
theorem ofDigitChars_eq_ofDigits
    (ds : List Char) :
    Nat.ofDigitChars 10 ds 0 =
      Nat.ofDigits 10 (ds.reverse.map digitValue) := by
  induction ds with
  | nil => rfl
  | cons c ds ih =>
      rw [Nat.ofDigitChars_cons,
        Nat.ofDigitChars_eq_ofDigitChars_zero, ih,
        List.reverse_cons, List.map_append,
        Nat.ofDigits_append, List.length_map,
        List.length_reverse]
      simp [digitValue, Nat.add_comm]

------------------------------------------------------------
-- Reading the Parts
------------------------------------------------------------

namespace Parts

/- Behind the blank space stands a sign or a digit. -/
theorem exists_signed_eq_cons
    (w : Parts) :
    ∃ c tail,
      w.sign ++ (w.digits ++ w.rest) = c :: tail ∧
        (c = '+' ∨ c.isDigit = true) := by
  rcases w.sign_plus with hSign | hSign
  · rcases List.exists_cons_of_ne_nil w.digits_ne_nil with
      ⟨d, ds, hDigits⟩
    refine ⟨d, ds ++ w.rest, by simp [hSign, hDigits], ?_⟩
    exact Or.inr (w.digits_digits d (by simp [hDigits]))
  · exact ⟨'+', w.digits ++ w.rest, by simp [hSign],
      Or.inl rfl⟩

/- No reference begins with anything else. -/
theorem exists_text_eq_cons
    (w : Parts) :
    ∃ c tail,
      w.text = c :: tail ∧
        (c ∈ blanks ∨ c = '+' ∨ c.isDigit = true) := by
  have hText :
      w.text =
        w.blank ++ (w.sign ++ (w.digits ++ w.rest)) := by
    simp [text]
  cases hBlank : w.blank with
  | nil =>
      rcases w.exists_signed_eq_cons with
        ⟨c, tail, hSigned, hFirst⟩
      refine ⟨c, tail, ?_, Or.inr hFirst⟩
      rw [hText, hBlank, hSigned]
      rfl
  | cons c blank =>
      have hFirst : c ∈ blanks :=
        w.blank_blanks c (by simp [hBlank])
      rw [hText, hBlank]
      exact ⟨c, _, rfl, Or.inl hFirst⟩

/- In particular, none begins with a mark of a template. -/
theorem head?_text_ne
    (w : Parts)
    {mark : Char}
    (hMark : mark ∈ ['-', '{', '?', '/', '#']) :
    w.text.head? ≠ some mark := by
  rcases w.exists_text_eq_cons with ⟨c, tail, hText, hFirst⟩
  rw [hText]
  intro hHead
  cases hHead
  revert hFirst
  revert hMark
  simp only [List.mem_cons, List.not_mem_nil, or_false]
  rintro (rfl | rfl | rfl | rfl | rfl) <;> decide

/- Exactly the digits are read. -/
theorem digits_text
    (w : Parts) :
    Reference.digits w.text = w.digits := by
  have hBlank :
      w.text.dropWhile isBlank =
        w.sign ++ (w.digits ++ w.rest) := by
    rcases w.exists_signed_eq_cons with
      ⟨c, tail, hSigned, hFirst⟩
    have hNot : isBlank c = false := by
      rcases hFirst with rfl | hDigit
      · rfl
      · exact isBlank_of_isDigit hDigit
    rw [text, List.append_assoc, List.append_assoc, hSigned]
    refine (takeWhile_dropWhile_append ?_ ?_).2
    · intro d hd
      exact isBlank_iff.mpr (w.blank_blanks d hd)
    · intro d hd
      cases hd
      exact hNot
  have hSign :
      dropPlus (w.sign ++ (w.digits ++ w.rest)) =
        w.digits ++ w.rest := by
    rcases w.sign_plus with hSign | hSign
    · rw [hSign, List.nil_append]
      unfold dropPlus
      split
      · -- The first digit would be a sign.
        rename_i tail hPlus
        rcases List.exists_cons_of_ne_nil w.digits_ne_nil
          with ⟨d, ds, hDigits⟩
        have hDigit :=
          w.digits_digits d (by simp [hDigits])
        rw [hDigits] at hPlus
        cases hPlus
        cases hDigit
      · rfl
    · rw [hSign]
      rfl
  unfold Reference.digits
  rw [hBlank, hSign]
  exact
    (takeWhile_dropWhile_append w.digits_digits
      w.rest_head).1

/-
  A reference names the argument of its number, unless the
  number is zero or too large.
-/
theorem position?_text
    (w : Parts) :
    position? w.text =
      if 1 ≤ w.value ∧ w.value ≤ maxNumber then
        some (w.value - 1)
      else none := by
  have hMinus : w.text.head? ≠ some '-' :=
    w.head?_text_ne (by simp)
  unfold position?
  rw [if_neg hMinus]
  simp only [digits_text, ofDigitChars_eq_ofDigits]
  simp only [w.digits_ne_nil, value, Nat.succ_le_iff, ne_eq,
    not_false_eq_true, true_and]

/- The digits of a number, and nothing else. -/
def ofNumber (n : ℕ) : Parts where
  blank := []
  sign := []
  digits := Nat.toDigits 10 n
  rest := []
  blank_blanks := by simp
  sign_plus := Or.inl rfl
  digits_ne_nil :=
    List.ne_nil_of_length_pos Nat.length_toDigits_pos
  digits_digits := fun _ hDigit =>
    Nat.isDigit_of_mem_toDigits (by decide) (by decide) hDigit
  rest_head := by simp

@[simp]
theorem text_ofNumber
    (n : ℕ) :
    (ofNumber n).text = Nat.toDigits 10 n := by
  simp [text, ofNumber]

@[simp]
theorem value_ofNumber
    (n : ℕ) :
    (ofNumber n).value = n := by
  unfold value
  rw [← ofDigitChars_eq_ofDigits]
  exact Nat.ofDigitChars_ten_toDigits

end Parts

------------------------------------------------------------
-- References That Name an Argument
------------------------------------------------------------

/- A text in which digits are read has the four parts. -/
theorem exists_parts
    {text : List Char}
    (hDigits : digits text ≠ []) :
    ∃ w : Parts, w.text = text := by
  have hBlanks :=
    List.takeWhile_append_dropWhile
      (p := isBlank) (l := text)
  have hRun :=
    List.takeWhile_append_dropWhile
      (p := Char.isDigit)
      (l := dropPlus (text.dropWhile isBlank))
  have hSign :
      ∃ sign : List Char,
        (sign = [] ∨ sign = ['+']) ∧
          sign ++ dropPlus (text.dropWhile isBlank) =
            text.dropWhile isBlank := by
    unfold dropPlus
    split
    · rename_i rest hText
      exact ⟨['+'], Or.inr rfl, hText.symm⟩
    · exact ⟨[], Or.inl rfl, rfl⟩
  rcases hSign with ⟨sign, hPlus, hSigned⟩
  refine ⟨⟨text.takeWhile isBlank, sign, digits text,
    (dropPlus (text.dropWhile isBlank)).dropWhile
      Char.isDigit, ?_, hPlus, hDigits, ?_, ?_⟩, ?_⟩
  · intro c hc
    exact isBlank_iff.mp (List.mem_takeWhile_imp hc)
  · intro c hc
    exact List.mem_takeWhile_imp hc
  · intro c hc
    have hStop :=
      List.head?_dropWhile_not Char.isDigit
        (dropPlus (text.dropWhile isBlank))
    rw [hc] at hStop
    simpa using hStop
  · simp only [Parts.text, digits, List.append_assoc]
    rw [hRun, hSigned, hBlanks]

theorem digits_ne_nil_of_position?
    {text : List Char}
    {position : ℕ}
    (hPosition : position? text = some position) :
    digits text ≠ [] := by
  unfold position? at hPosition
  split at hPosition
  · cases hPosition
  · simp only at hPosition
    split at hPosition
    · rename_i hNumber
      exact hNumber.1
    · cases hPosition

/- The references that name an argument, and which one. -/
theorem position?_eq_some_iff
    {text : List Char}
    {position : ℕ} :
    position? text = some position ↔
      ∃ w : Parts,
        w.text = text ∧ 1 ≤ w.value ∧
          w.value ≤ maxNumber ∧ position = w.value - 1 := by
  constructor
  · intro hPosition
    rcases exists_parts (digits_ne_nil_of_position? hPosition)
      with ⟨w, rfl⟩
    rw [w.position?_text] at hPosition
    split at hPosition
    · rename_i hValue
      exact ⟨w, rfl, hValue.1, hValue.2,
        (Option.some.inj hPosition).symm⟩
    · cases hPosition
  · rintro ⟨w, rfl, hPositive, hWord, rfl⟩
    rw [w.position?_text, if_pos ⟨hPositive, hWord⟩]

/- The others have no parts, or a number out of bounds. -/
theorem position?_eq_none_iff
    {text : List Char} :
    position? text = none ↔
      ∀ w : Parts, w.text = text →
        w.value = 0 ∨ maxNumber < w.value := by
  constructor
  · rintro hNone w rfl
    rw [w.position?_text] at hNone
    split at hNone
    · cases hNone
    · omega
  · intro hNumber
    rw [Option.eq_none_iff_forall_ne_some]
    intro position hPosition
    rcases position?_eq_some_iff.mp hPosition with
      ⟨w, hText, hPositive, hWord, -⟩
    have hOutside := hNumber w hText
    omega

/- A reference in parts reads as nothing but a reference. -/
theorem Parts.isSound_argument
    (w : Parts)
    (hClosing : '}' ∉ w.text) :
    (Directive.argument w.text).IsSound := by
  refine ⟨?_, hClosing, ?_, ?_⟩
  · intro hNil
    rcases w.exists_text_eq_cons with ⟨c, tail, hText, -⟩
    rw [hNil] at hText
    cases hText
  · intro hMinus
    have hHead : w.text.head? ≠ some '-' :=
      w.head?_text_ne (by simp)
    rw [hMinus] at hHead
    exact hHead rfl
  · simp only [List.mem_cons, List.not_mem_nil, or_false,
      not_or]
    exact ⟨w.head?_text_ne (by simp),
      w.head?_text_ne (by simp), w.head?_text_ne (by simp),
      w.head?_text_ne (by simp)⟩

/- So does any reference that names an argument. -/
theorem isSound_argument
    {text : List Char}
    {position : ℕ}
    (hPosition : position? text = some position)
    (hClosing : '}' ∉ text) :
    (Directive.argument text).IsSound := by
  rcases position?_eq_some_iff.mp hPosition with
    ⟨w, rfl, -⟩
  exact w.isSound_argument hClosing

------------------------------------------------------------
-- Numbers as References
------------------------------------------------------------

/- The digits of a number are a sound reference. -/
theorem isSound_toDigits
    (n : ℕ) :
    (Directive.argument (Nat.toDigits 10 n)).IsSound := by
  rw [← Parts.text_ofNumber]
  apply Parts.isSound_argument
  intro hClosing
  rw [Parts.text_ofNumber] at hClosing
  have hDigit :=
    (Parts.ofNumber n).digits_digits '}' hClosing
  cases hDigit

/- A number that is not too large names its argument. -/
theorem position?_toDigits
    {n : ℕ}
    (hWord : n < maxNumber) :
    position? (Nat.toDigits 10 (n + 1)) = some n := by
  rw [← Parts.text_ofNumber, Parts.position?_text,
    Parts.value_ofNumber, if_pos ⟨Nat.succ_pos n, hWord⟩]
  rfl

end Reference

end FactLayout
