import FactLayout.Json.Numeral

/-
  The lexical units of JSON text.

  A quoted text is kept as the units it is written in, since
  not every sequence of numbered units stands for text.

  This module and the others on JSON follow the documented
  behaviour of serde_json, a library that is not part of the
  program.

  Key definitions include:
    * `TextUnit`
    * `TextUnit.decode?`
    * `Json.Token`
    * `Json.Token.next?`
    * `Json.Token.ofText?`
-/

------------------------------------------------------------
-- Units of Quoted Text
------------------------------------------------------------

namespace FactLayout

/-
  A unit of a quoted text: a character, or the number of a
  16-bit unit.
-/
inductive TextUnit where
| char (value : Char)
| unit (number : Nat)
deriving DecidableEq, Repr

namespace TextUnit

/- The first half of a surrogate pair. -/
def isLeading (n : Nat) : Bool :=
  0xd800 ≤ n && n ≤ 0xdbff

/- The second half of a surrogate pair. -/
def isTrailing (n : Nat) : Bool :=
  0xdc00 ≤ n && n ≤ 0xdfff

/-
  The text that units stand for.  Halves of surrogate pairs
  must come in pairs.
-/
def decode? : List TextUnit → Option (List Char)
| [] => some []
| .char c :: rest => (c :: ·) <$> decode? rest
| .unit n :: .unit m :: rest =>
    if isLeading n && isTrailing m then
      let c :=
        0x10000 + (n - 0xd800) * 0x400 + (m - 0xdc00)
      (Char.ofNat c :: ·) <$> decode? rest
    else if isLeading n || isTrailing n then none
    else (Char.ofNat n :: ·) <$> decode? (.unit m :: rest)
| .unit n :: rest =>
    if isLeading n || isTrailing n then none
    else (Char.ofNat n :: ·) <$> decode? rest

end TextUnit

------------------------------------------------------------
-- Tokens
------------------------------------------------------------

/- A punctuation mark or a scalar. -/
inductive Json.Token where
| openArray
| closeArray
| openObject
| closeObject
| comma
| colon
| null
| bool (value : Bool)
| numeral (value : Numeral)
| text (units : List TextUnit)
deriving DecidableEq, Repr

namespace Json.Token

/- The value of a hexadecimal digit. -/
def hexValue? (c : Char) : Option Nat :=
  if '0' ≤ c ∧ c ≤ '9' then some (c.toNat - '0'.toNat)
  else if 'a' ≤ c ∧ c ≤ 'f' then
    some (c.toNat - 'a'.toNat + 10)
  else if 'A' ≤ c ∧ c ≤ 'F' then
    some (c.toNat - 'A'.toNat + 10)
  else none

/- The number written by four hexadecimal digits. -/
def hexFour?
    (a b c d : Char) : Option Nat := do
  let a ← hexValue? a
  let b ← hexValue? b
  let c ← hexValue? c
  let d ← hexValue? d
  pure (((a * 16 + b) * 16 + c) * 16 + d)

/- The character that follows a backslash. -/
def escaped? : Char → Option Char
| '"' => some '"'
| '\\' => some '\\'
| '/' => some '/'
| 'b' => some '\x08'
| 'f' => some '\x0c'
| 'n' => some '\n'
| 'r' => some '\r'
| 't' => some '\t'
| _ => none

/- Read the units of a quoted text up to its end. -/
def units? :
    List Char → Option (List TextUnit × List Char)
| [] => none
| '"' :: rest => some ([], rest)
| '\\' :: 'u' :: a :: b :: c :: d :: rest => do
    let n ← hexFour? a b c d
    let (units, left) ← units? rest
    pure (.unit n :: units, left)
| '\\' :: c :: rest => do
    let c ← escaped? c
    let (units, left) ← units? rest
    pure (.char c :: units, left)
| c :: rest =>
    if c < ' ' ∨ c = '\\' then none
    else do
      let (units, left) ← units? rest
      pure (.char c :: units, left)

/- Split off a run of digits. -/
def spanDigits
    (chars : List Char) : List Char × List Char :=
  (chars.takeWhile Char.isDigit,
    chars.dropWhile Char.isDigit)

/- Read a fraction, if there is a point. -/
def fraction? :
    List Char → Option (Option (List Char) × List Char)
| '.' :: rest =>
    match spanDigits rest with
    | ([], _) => none
    | (ds, left) => some (some ds, left)
| chars => some (none, chars)

/- Read the sign of an exponent. -/
def exponentSign : List Char → Bool × List Char
| '-' :: rest => (true, rest)
| '+' :: rest => (false, rest)
| chars => (false, chars)

/- Read an exponent, if there is a mark for one. -/
def exponent?
    (chars : List Char) :
    Option (Option (Bool × List Char) × List Char) :=
  match chars with
  | 'e' :: rest | 'E' :: rest =>
      match spanDigits (exponentSign rest).2 with
      | ([], _) => none
      | (ds, left) =>
          some (some ((exponentSign rest).1, ds), left)
  | _ => some (none, chars)

/-
  Read a numeral behind its sign.  Only zero itself begins
  with a zero.
-/
def numeral?
    (negative : Bool)
    (chars : List Char) : Option (Numeral × List Char) := do
  let (whole, rest) := spanDigits chars
  if whole = [] ∨ whole.head? = some '0' ∧ whole ≠ ['0'] then
    none
  let (fraction, rest) ← fraction? rest
  let (exponent, rest) ← exponent? rest
  pure (⟨negative, whole, fraction, exponent⟩, rest)

/- Blanks between tokens. -/
def isBlank (c : Char) : Bool :=
  c == ' ' || c == '\t' || c == '\n' || c == '\r'

/- Read the token at the front of a text. -/
def next? : List Char → Option (Token × List Char)
| '[' :: rest => some (openArray, rest)
| ']' :: rest => some (closeArray, rest)
| '{' :: rest => some (openObject, rest)
| '}' :: rest => some (closeObject, rest)
| ',' :: rest => some (comma, rest)
| ':' :: rest => some (colon, rest)
| 'n' :: 'u' :: 'l' :: 'l' :: rest => some (null, rest)
| 't' :: 'r' :: 'u' :: 'e' :: rest =>
    some (bool true, rest)
| 'f' :: 'a' :: 'l' :: 's' :: 'e' :: rest =>
    some (bool false, rest)
| '"' :: rest => do
    let (units, left) ← units? rest
    pure (text units, left)
| '-' :: rest => do
    let (n, left) ← numeral? true rest
    pure (numeral n, left)
| rest => do
    let (n, left) ← numeral? false rest
    pure (numeral n, left)

------------------------------------------------------------
-- Progress
------------------------------------------------------------

/- A quoted text takes at least its closing mark. -/
theorem length_lt_of_units?
    {chars left : List Char}
    {units : List TextUnit}
    (hUnits : units? chars = some (units, left)) :
    left.length < chars.length := by
  fun_induction units? chars generalizing units left
  all_goals
    simp_all only [Option.bind_eq_bind, Option.pure_def,
      Option.bind_eq_some_iff, Option.some.injEq,
      Prod.mk.injEq, Prod.exists, List.length_cons,
      reduceCtorEq]
  · omega
  · rename_i ih
    obtain ⟨_, _, _, _, hRest, _, rfl⟩ := hUnits
    have hLess := ih hRest
    omega
  · rename_i ih
    obtain ⟨_, _, _, _, hRest, _, rfl⟩ := hUnits
    have hLess := ih hRest
    omega
  · rename_i ih
    obtain ⟨_, _, hRest, _, rfl⟩ := hUnits
    have hLess := ih hRest
    omega

/- A run of digits is taken off the front. -/
theorem length_spanDigits
    (chars : List Char) :
    (spanDigits chars).1.length +
      (spanDigits chars).2.length = chars.length := by
  unfold spanDigits
  rw [← List.length_append,
    List.takeWhile_append_dropWhile]

theorem length_le_of_fraction?
    {chars left : List Char}
    {fraction : Option (List Char)}
    (hFraction :
      fraction? chars = some (fraction, left)) :
    left.length ≤ chars.length := by
  unfold fraction? at hFraction
  split at hFraction
  · rename_i rest
    have hSpan := length_spanDigits rest
    split at hFraction
    · cases hFraction
    · rename_i hDigits
      cases hFraction
      simp only [hDigits] at hSpan
      simp only [List.length_cons]
      omega
  · cases hFraction
    exact Nat.le_refl _

theorem length_exponentSign_le
    (chars : List Char) :
    (exponentSign chars).2.length ≤ chars.length := by
  unfold exponentSign
  split <;> simp

theorem length_le_of_exponent?
    {chars left : List Char}
    {exponent : Option (Bool × List Char)}
    (hExponent :
      exponent? chars = some (exponent, left)) :
    left.length ≤ chars.length := by
  unfold exponent? at hExponent
  split at hExponent
  · rename_i rest
    have hSign := length_exponentSign_le rest
    have hSpan := length_spanDigits (exponentSign rest).2
    split at hExponent
    · cases hExponent
    · rename_i hDigits
      cases hExponent
      simp only [hDigits] at hSpan
      simp only [List.length_cons]
      omega
  · rename_i rest
    have hSign := length_exponentSign_le rest
    have hSpan := length_spanDigits (exponentSign rest).2
    split at hExponent
    · cases hExponent
    · rename_i hDigits
      cases hExponent
      simp only [hDigits] at hSpan
      simp only [List.length_cons]
      omega
  · cases hExponent
    exact Nat.le_refl _

/- A numeral takes at least one digit. -/
theorem length_lt_of_numeral?
    {negative : Bool}
    {chars left : List Char}
    {n : Numeral}
    (hNumeral : numeral? negative chars = some (n, left)) :
    left.length < chars.length := by
  have hSpan := length_spanDigits chars
  unfold numeral? at hNumeral
  simp only [Option.bind_eq_bind, Option.pure_def] at hNumeral
  split at hNumeral
  · cases hNumeral
  · rename_i hWhole
    simp only [Option.bind_eq_some_iff, Option.some.injEq,
      Prod.mk.injEq, Prod.exists] at hNumeral
    obtain ⟨_, _, hFraction, _, _, hExponent, _, rfl⟩ :=
      hNumeral
    have hLeft := length_le_of_fraction? hFraction
    have hRest := length_le_of_exponent? hExponent
    have hSome : 0 < (spanDigits chars).1.length := by
      rcases hDigits : (spanDigits chars).1 with _ | ⟨d, ds⟩
      · simp [hDigits] at hWhole
      · simp
    omega

/- Every token takes at least one character. -/
theorem length_lt_of_next?
    {chars left : List Char}
    {token : Token}
    (hNext : next? chars = some (token, left)) :
    left.length < chars.length := by
  unfold next? at hNext
  split at hNext
  all_goals
    try
      cases hNext
      simp only [List.length_cons]
      omega
  · simp only [Option.bind_eq_bind, Option.pure_def,
      Option.bind_eq_some_iff, Option.some.injEq,
      Prod.mk.injEq, Prod.exists] at hNext
    obtain ⟨_, _, hUnits, _, rfl⟩ := hNext
    have hLess := length_lt_of_units? hUnits
    simp only [List.length_cons]
    omega
  · simp only [Option.bind_eq_bind, Option.pure_def,
      Option.bind_eq_some_iff, Option.some.injEq,
      Prod.mk.injEq, Prod.exists] at hNext
    obtain ⟨_, _, hNumeral, _, rfl⟩ := hNext
    have hLess := length_lt_of_numeral? hNumeral
    simp only [List.length_cons]
    omega
  · simp only [Option.bind_eq_bind, Option.pure_def,
      Option.bind_eq_some_iff, Option.some.injEq,
      Prod.mk.injEq, Prod.exists] at hNext
    obtain ⟨_, _, hNumeral, _, rfl⟩ := hNext
    exact length_lt_of_numeral? hNumeral

------------------------------------------------------------
-- Token Lists
------------------------------------------------------------

/- Drop the blanks at the front. -/
def dropBlanks (chars : List Char) : List Char :=
  chars.dropWhile isBlank

theorem length_dropBlanks_le
    (chars : List Char) :
    (dropBlanks chars).length ≤ chars.length :=
  (List.dropWhile_suffix isBlank).length_le

/- The tokens of a text. -/
def ofChars?
    (chars : List Char) : Option (List Token) :=
  if dropBlanks chars = [] then some []
  else
    match _hNext : next? (dropBlanks chars) with
    | none => none
    | some (token, left) => (token :: ·) <$> ofChars? left
termination_by chars.length
decreasing_by
  exact Nat.lt_of_lt_of_le (length_lt_of_next? _hNext)
    (length_dropBlanks_le chars)

end Json.Token

end FactLayout
