import FactLayout.Proofs.Template.Lexeme
import FactLayout.Proofs.Template.Marker

/-
  Reading a template by places in its bytes.

  The scanner works on the text that is still unread.  Here
  the same text is read through a cursor, which counts the
  bytes in front of it, looks at single bytes and cuts slices
  out of the template.  A byte behind the end and a slice
  that would cut a character in two are failures.  No
  sequence of calls ever fails, and what the cursor finds is
  what the scanner finds.

  Key definitions include:
    * `Scanner.slice?`
    * `Scanner.offset?`
    * `Scanner.Cursor`
    * `Scanner.Cursor.next?`
    * `Scanner.Cursor.skip?`

  Main results:
    * `Scanner.Cursor.next?_between`
    * `Scanner.Cursor.skip?_between`
-/

------------------------------------------------------------
-- Slices
------------------------------------------------------------

namespace FactLayout

namespace Scanner

/- The number of bytes that a text takes up. -/
def size (text : List Char) : Nat :=
  (String.ofList text).utf8ByteSize

@[simp]
theorem size_nil : size [] = 0 := rfl

@[simp]
theorem size_cons
    (c : Char)
    (text : List Char) :
    size (c :: text) = c.utf8Size + size text := by
  unfold size
  rw [String.ofList_cons, String.utf8ByteSize_append,
    String.utf8ByteSize_singleton]

@[simp]
theorem size_append
    (text more : List Char) :
    size (text ++ more) = size text + size more := by
  unfold size
  rw [String.ofList_append, String.utf8ByteSize_append]

/- Only the empty text takes up no bytes. -/
theorem size_pos
    {text : List Char}
    (hText : text ≠ []) :
    0 < size text := by
  cases text with
  | nil => exact absurd rfl hText
  | cons c text =>
      have hChar := c.utf8Size_pos
      rw [size_cons]
      omega

/-
  The part of a text between two places.  There is none if a
  place lies within a character or behind the end, or if the
  places are in the wrong order.
-/
def slice?
    (text : String)
    (start stop : Nat) : Option (List Char) :=
  if h : (⟨start⟩ : String.Pos.Raw).IsValid text ∧
      (⟨stop⟩ : String.Pos.Raw).IsValid text ∧
      start ≤ stop then
    some
      (text.extract ⟨⟨start⟩, h.1⟩ ⟨⟨stop⟩, h.2.1⟩).toList
  else none

/- A place behind some of the characters is a boundary. -/
theorem isValid_size
    (before rest : List Char) :
    (⟨size before⟩ : String.Pos.Raw).IsValid
      (String.ofList (before ++ rest)) :=
  String.Pos.Raw.isValid_iff_exists_append.mpr
    ⟨String.ofList before, String.ofList rest,
      String.ofList_append, rfl⟩

/- A text is cut out from between what stands around it. -/
theorem slice?_append
    (before text rest : List Char) :
    slice? (String.ofList (before ++ text ++ rest))
        (size before) (size before + size text) =
      some text := by
  have hStart := isValid_size before (text ++ rest)
  have hStop := isValid_size (before ++ text) rest
  rw [← List.append_assoc] at hStart
  rw [size_append] at hStop
  have hBytes :
      (String.ofList (before ++ text ++ rest)).toByteArray.extract
          (size before) (size before + size text) =
        (String.ofList text).toByteArray := by
    have hBehind :=
      ByteArray.extract_append_size_add
        (a := (String.ofList before).toByteArray)
        (b := (String.ofList text ++
          String.ofList rest).toByteArray)
        (i := 0) (j := (String.ofList text).utf8ByteSize)
    rw [Nat.add_zero] at hBehind
    rw [String.ofList_append, String.ofList_append,
      String.append_assoc, String.toByteArray_append]
    refine hBehind.trans ?_
    rw [String.toByteArray_append]
    exact ByteArray.extract_append_eq_left rfl
  have hExtract :
      (String.ofList (before ++ text ++ rest)).extract
          ⟨⟨size before⟩, hStart⟩
          ⟨⟨size before + size text⟩, hStop⟩ =
        String.ofList text :=
    String.toByteArray_inj.mp hBytes
  unfold slice?
  rw [dif_pos ⟨hStart, hStop, Nat.le_add_right _ _⟩,
    hExtract, String.toList_ofList]

------------------------------------------------------------
-- Bytes
------------------------------------------------------------

/- The byte of a character that takes up one. -/
def byteOf (c : Char) : UInt8 :=
  c.val.toUInt8

/- The first byte is cut off by itself. -/
theorem extract_zero_one
    {bytes : ByteArray}
    (hSize : 0 < bytes.size) :
    bytes.extract 0 1 = [bytes[0]].toByteArray := by
  apply ByteArray.ext_getElem
  · simp
    omega
  · intro place hLeft hRight
    have hPlace : place = 0 := by
      simp at hRight
      omega
    subst hPlace
    rw [ByteArray.getElem_extract]
    rfl

/-
  Text begins with a character of one byte exactly if its
  first byte is that byte.
-/
theorem getElem_zero_eq_iff
    {c d : Char}
    {rest : List Char}
    (hByte : d.utf8Size = 1)
    (hSize : 0 < (c :: rest).utf8Encode.size) :
    (c :: rest).utf8Encode[0] = byteOf d ↔ c = d := by
  have hSingle :
      [d].utf8Encode = [byteOf d].toByteArray := by
    rw [List.utf8Encode_singleton,
      String.utf8EncodeChar_eq_singleton hByte]
    rfl
  constructor
  · -- The byte is all of the other character, so the text
    -- begins with that character too.
    intro hFirst
    have hFront :
        [d].utf8Encode ++
            (c :: rest).utf8Encode.extract 1
              (c :: rest).utf8Encode.size =
          (c :: rest).utf8Encode := by
      rw [hSingle, ← hFirst, ← extract_zero_one hSize,
        ByteArray.extract_append_extract]
      simp
    have hPrefix :=
      List.isPrefix_of_utf8Encode_append_eq_utf8Encode _
        hFront
    exact (List.cons_prefix_cons.mp hPrefix).1.symm
  · rintro rfl
    have hFirst :
        (c :: rest).utf8Encode =
          [byteOf c].toByteArray ++ rest.utf8Encode := by
      rw [← hSingle, ← List.utf8Encode_cons]
    simp only [hFirst]
    rfl

/-
  Behind some of the characters is the first byte of the
  next one, which tells it from every character of one byte.
-/
theorem getElem?_size
    (before rest : List Char)
    (c : Char) :
    ∃ b,
      (String.ofList
          (before ++ c :: rest)).toByteArray[size before]? =
        some b ∧
      ∀ d : Char, d.utf8Size = 1 → (b = byteOf d ↔ c = d) := by
  have hSplit :
      (String.ofList (before ++ c :: rest)).toByteArray =
        (String.ofList before).toByteArray ++
          (c :: rest).utf8Encode := by
    rw [String.ofList_append, String.toByteArray_append,
      String.toByteArray_ofList (l := c :: rest)]
  have hBefore :
      (String.ofList before).toByteArray.size =
        size before := rfl
  have hSize : 0 < (c :: rest).utf8Encode.size := by
    rw [← String.toByteArray_ofList]
    exact size_pos (List.cons_ne_nil c rest)
  refine ⟨(c :: rest).utf8Encode[0], ?_,
    fun d hByte => getElem_zero_eq_iff hByte hSize⟩
  rw [hSplit, getElem?_pos _ _ (by
    rw [ByteArray.size_append]
    omega),
    ByteArray.getElem_append_right (Nat.le_of_eq hBefore)]
  simp only [hBefore, Nat.sub_self]

------------------------------------------------------------
-- Searches
------------------------------------------------------------

/- The bytes in front of the leftmost place of a marker. -/
def offset?
    (marker : List Char) : List Char → Option Nat
| [] => if marker = [] then some 0 else none
| c :: rest =>
    if marker.isPrefixOf (c :: rest) then some 0
    else (c.utf8Size + ·) <$> offset? marker rest

/-
  The bytes in front of a marker are those of the text in
  front of it, and skipping leaves what lies behind it.
-/
theorem behind?_of_offset?
    {marker text : List Char}
    {n : Nat}
    (hOffset : offset? marker text = some n) :
    ∃ before rest,
      text = before ++ marker ++ rest ∧
        n = size before ∧
        behind? marker text = some rest := by
  induction text generalizing n with
  | nil =>
      unfold offset? at hOffset
      split at hOffset
      · rename_i hNil
        cases hOffset
        exact ⟨[], [], by simp [hNil], rfl, by simp [hNil]⟩
      · cases hOffset
  | cons c tail ih =>
      unfold offset? at hOffset
      split at hOffset
      · rename_i hHere
        cases hOffset
        rcases List.isPrefixOf_iff_prefix.mp hHere with
          ⟨rest, hRest⟩
        refine ⟨[], rest, by simp [hRest], rfl, ?_⟩
        rw [behind?, if_pos hHere, ← hRest, List.drop_left]
      · rename_i hHere
        rcases Option.map_eq_some_iff.mp hOffset with
          ⟨m, hTail, rfl⟩
        rcases ih hTail with
          ⟨before, rest, hText, hSize, hBehind⟩
        refine ⟨c :: before, rest, by simp [hText],
          by simp [hSize], ?_⟩
        rw [behind?, if_neg hHere]
        exact hBehind

/- Skipping finds no marker where none is found. -/
theorem behind?_of_offset?_eq_none
    {marker text : List Char}
    (hOffset : offset? marker text = none) :
    behind? marker text = none := by
  induction text with
  | nil =>
      unfold offset? at hOffset
      split at hOffset
      · cases hOffset
      · rename_i hMarker
        simp [behind?, hMarker]
  | cons c tail ih =>
      unfold offset? at hOffset
      split at hOffset
      · cases hOffset
      · rename_i hHere
        rw [behind?, if_neg hHere]
        exact ih (Option.map_eq_none_iff.mp hOffset)

/- A character is found behind all that is not it. -/
theorem offset?_of_mem
    {c : Char}
    {text : List Char}
    (hMem : c ∈ text) :
    offset? [c] text =
      some (size (text.takeWhile (· != c))) := by
  induction text with
  | nil => cases hMem
  | cons d tail ih =>
      by_cases hHere : d = c
      · subst hHere
        simp [offset?]
      · have hTail : c ∈ tail := by
          simpa [Ne.symm hHere] using hMem
        simp [offset?, hHere, Ne.symm hHere, ih hTail]

theorem offset?_of_not_mem
    {c : Char}
    {text : List Char}
    (hMem : c ∉ text) :
    offset? [c] text = none := by
  induction text with
  | nil => rfl
  | cons d tail ih =>
      rw [List.mem_cons, not_or] at hMem
      simp [offset?, hMem.1, ih hMem.2]

------------------------------------------------------------
-- Cursors
------------------------------------------------------------

/- A template and a place in it. -/
structure Cursor where
  template : String
  position : Nat
deriving DecidableEq, Repr

namespace Cursor

/- The cursor in front of a template. -/
def start (template : String) : Cursor :=
  ⟨template, 0⟩

/- The place behind the last byte. -/
def stop (c : Cursor) : Nat :=
  c.template.utf8ByteSize

/- Go to a place. -/
def moveTo
    (c : Cursor)
    (place : Nat) : Cursor :=
  { c with position := place }

/- The byte at a place, unless the place is at the end. -/
def byte?
    (c : Cursor)
    (place : Nat) : Option UInt8 :=
  c.template.toByteArray[place]?

/- The text from a place to the end. -/
def restFrom?
    (c : Cursor)
    (place : Nat) : Option (List Char) :=
  slice? c.template place c.stop

/- The text that is still unread. -/
def unread? (c : Cursor) : Option (List Char) :=
  c.restFrom? c.position

/-
  Read a placeholder from the first character of its body
  on, up to the next closing brace or to the end.
-/
def placeholder?
    (c : Cursor)
    (first : Nat) : Option (Token × Cursor) := do
  let rest ← c.restFrom? first
  match offset? ['}'] rest with
  | some n => do
      let body ← slice? c.template first (first + n)
      pure (.placeholder body true, c.moveTo (first + n + 1))
  | none => pure (.placeholder rest false, c.moveTo c.stop)

/- Read literal text up to the next opening brace. -/
def literal? (c : Cursor) : Option (Token × Cursor) := do
  let rest ← c.unread?
  let stop :=
    match offset? ['{'] rest with
    | some n => c.position + n
    | none => c.stop
  let text ← slice? c.template c.position stop
  pure (.literal text, c.moveTo stop)

/-
  Read the next token, if the cursor is not at the end, by
  looking at the byte under the cursor and at the one behind
  it.
-/
def next? (c : Cursor) : Option (Option Token × Cursor) := do
  if c.stop ≤ c.position then pure (none, c)
  else
    let first ← c.byte? c.position
    if first ≠ byteOf '{' then
      let (token, next) ← c.literal?
      pure (some token, next)
    else if c.position = c.stop - 1 then
      pure (some (.empty false), c.moveTo c.stop)
    else
      let second ← c.byte? (c.position + 1)
      if second = byteOf '{' then
        pure (some .brace, c.moveTo (c.position + 2))
      else if second = byteOf '}' then
        pure (some (.empty true), c.moveTo (c.position + 2))
      else
        let (token, next) ← c.placeholder? (c.position + 1)
        pure (some token, next)

/-
  Go behind the next occurrence of a marker, or to the end,
  and tell which happened.
-/
def skip?
    (c : Cursor)
    (marker : String) : Option (Bool × Cursor) := do
  let rest ← c.unread?
  match offset? marker.toList rest with
  | some n =>
      pure (true,
        c.moveTo (c.position + n + marker.utf8ByteSize))
  | none => pure (false, c.moveTo c.stop)

------------------------------------------------------------
-- Cursors Between Characters
------------------------------------------------------------

/- The cursor between two parts of a template. -/
def between (before rest : List Char) : Cursor :=
  ⟨String.ofList (before ++ rest), size before⟩

@[simp]
theorem position_between
    (before rest : List Char) :
    (between before rest).position = size before := (rfl)

@[simp]
theorem stop_between
    (before rest : List Char) :
    (between before rest).stop = size before + size rest :=
  size_append before rest

/- Behind a text is between it and what follows it. -/
theorem moveTo_between
    (before text left : List Char) :
    (between before (text ++ left)).moveTo
        (size before + size text) =
      between (before ++ text) left := by
  unfold between moveTo
  rw [List.append_assoc, size_append]

/- The text in front of a place can be cut out. -/
theorem slice?_between
    (before text left : List Char) :
    slice? (between before (text ++ left)).template
        (size before) (size before + size text) =
      some text := by
  have hSlice := slice?_append before text left
  rw [List.append_assoc] at hSlice
  exact hSlice

/- All that is unread can be cut out. -/
theorem unread?_between
    (before rest : List Char) :
    (between before rest).unread? = some rest := by
  have hSlice := slice?_between before rest []
  rw [List.append_nil] at hSlice
  unfold unread? restFrom?
  rw [stop_between]
  exact hSlice

/- The rest behind some unread text can be cut out. -/
theorem restFrom?_between
    (before text left : List Char) :
    (between before (text ++ left)).restFrom?
        (size before + size text) =
      some left := by
  have hUnread := unread?_between (before ++ text) left
  rw [← moveTo_between] at hUnread
  exact hUnread

/- The byte behind some unread text tells what follows. -/
theorem byte?_between
    (before text left : List Char)
    (c : Char) :
    ∃ b,
      (between before (text ++ c :: left)).byte?
          (size before + size text) =
        some b ∧
      ∀ d : Char, d.utf8Size = 1 → (b = byteOf d ↔ c = d) := by
  have hByte := getElem?_size (before ++ text) left c
  rw [List.append_assoc, size_append] at hByte
  exact hByte

------------------------------------------------------------
-- Tokens
------------------------------------------------------------

/- The braces take up one byte each. -/
theorem utf8Size_braces :
    '{'.utf8Size = 1 ∧ '}'.utf8Size = 1 := by
  decide

/- Literal text is cut out up to the next opening brace. -/
theorem literal?_between
    (before rest : List Char) :
    (between before rest).literal? =
      some (.literal (rest.takeWhile (· != '{')),
        between (before ++ rest.takeWhile (· != '{'))
          (rest.dropWhile (· != '{'))) := by
  have hSplit :=
    List.takeWhile_append_dropWhile
      (p := (· != '{')) (l := rest)
  have hStop :
      (match offset? ['{'] rest with
        | some n => size before + n
        | none => size before + size rest) =
        size before + size (rest.takeWhile (· != '{')) := by
    by_cases hBrace : '{' ∈ rest
    · rw [offset?_of_mem hBrace]
    · rw [offset?_of_not_mem hBrace]
      have hAll := (span_append [] hBrace (by simp)).1
      rw [List.append_nil] at hAll
      rw [hAll]
  have hSlice :=
    slice?_between before (rest.takeWhile (· != '{'))
      (rest.dropWhile (· != '{'))
  have hMove :=
    moveTo_between before (rest.takeWhile (· != '{'))
      (rest.dropWhile (· != '{'))
  rw [hSplit] at hSlice hMove
  unfold literal?
  simp only [unread?_between, Option.bind_eq_bind,
    Option.bind_some, position_between, stop_between, hStop,
    hSlice, hMove]
  rfl

/- A text with a closing brace is split at the first one. -/
theorem exists_eq_append_close
    {text : List Char}
    (hClose : '}' ∈ text) :
    ∃ body rest, '}' ∉ body ∧ text = body ++ '}' :: rest := by
  have hSplit :=
    List.takeWhile_append_dropWhile
      (p := (· != '}')) (l := text)
  have hBody := not_mem_takeWhile '}' text
  cases hRest : text.dropWhile (· != '}') with
  | nil =>
      rw [hRest, List.append_nil] at hSplit
      rw [hSplit] at hBody
      exact absurd hClose hBody
  | cons c rest =>
      have hHead :
          c ∈ (text.dropWhile (· != '}')).head? := by
        rw [hRest]
        rfl
      have hc : c = '}' := eq_of_mem_head?_dropWhile hHead
      rw [hRest, hc] at hSplit
      exact ⟨_, rest, hBody, hSplit.symm⟩

/-
  A placeholder is cut out as the scanner reads it, with its
  opening brace already read.
-/
theorem placeholder?_between
    (before tail : List Char) :
    (between before ('{' :: tail)).placeholder?
        (size before + 1) =
      some ((placeholder tail).1,
        between (before ++ (placeholder tail).1.source)
          (placeholder tail).2) := by
  have hRest :
      (between before ('{' :: tail)).restFrom?
          (size before + size ['{']) =
        some tail :=
    restFrom?_between before ['{'] tail
  have hMove :=
    moveTo_between before (placeholder tail).1.source
      (placeholder tail).2
  rw [source_append_placeholder] at hMove
  have hBrace : size ['{'] = 1 := rfl
  rw [hBrace] at hRest
  unfold placeholder?
  simp only [hRest, Option.bind_eq_bind, Option.bind_some]
  by_cases hClose : '}' ∈ tail
  · rcases exists_eq_append_close hClose with
      ⟨body, rest, hBody, rfl⟩
    have hSpan := (span_append ('}' :: rest) hBody (by simp)).1
    have hSlice :=
      slice?_append (before ++ ['{']) body ('}' :: rest)
    have hTemplate :
        (between before
          ('{' :: (body ++ '}' :: rest))).template =
          String.ofList
            (before ++ ['{'] ++ body ++ '}' :: rest) := by
      simp [between]
    have hPlace :
        size before + 1 + size body + 1 =
          size before +
            size (Token.placeholder body true).source := by
      rw [Token.source_placeholder_closed]
      simp [utf8Size_braces]
      omega
    rw [size_append, hBrace, ← hTemplate] at hSlice
    rw [placeholder_append hBody] at hMove ⊢
    rw [offset?_of_mem hClose, hSpan]
    simp only [hSlice, Option.bind_some, hPlace, hMove]
    rfl
  · have hPlace :
        (between before ('{' :: tail)).stop =
          size before +
            size (Token.placeholder tail false).source := by
      rw [Token.source_placeholder_open, stop_between]
    rw [placeholder_of_not_mem hClose] at hMove ⊢
    rw [offset?_of_not_mem hClose, hPlace, hMove]
    rfl

/- The byte under the cursor tells an opening brace. -/
theorem byte?_position
    (before tail : List Char)
    (c : Char) :
    ∃ b,
      (between before (c :: tail)).byte? (size before) =
          some b ∧
        (b = byteOf '{' ↔ c = '{') := by
  rcases byte?_between before [] tail c with
    ⟨b, hByte, hTells⟩
  rw [size_nil, Nat.add_zero] at hByte
  exact ⟨b, hByte, hTells _ utf8Size_braces.1⟩

/- Behind an opening brace, the next byte tells a brace. -/
theorem byte?_behind_open
    (before tail : List Char)
    (c : Char) :
    ∃ b,
      (between before ('{' :: c :: tail)).byte?
          (size before + 1) =
          some b ∧
        (b = byteOf '{' ↔ c = '{') ∧
        (b = byteOf '}' ↔ c = '}') := by
  rcases byte?_between before ['{'] tail c with
    ⟨b, hByte, hTells⟩
  exact ⟨b, hByte, hTells _ utf8Size_braces.1,
    hTells _ utf8Size_braces.2⟩

/-
  Behind an opening brace the cursor tells the forms of a
  placeholder by the next byte.
-/
theorem next?_open
    (before tail : List Char) :
    ∃ token left,
      Scanner.next? ('{' :: tail) = some (token, left) ∧
        (between before ('{' :: tail)).next? =
          some (some token,
            between (before ++ token.source) left) := by
  rcases byte?_position before tail '{' with
    ⟨first, hFirst, hFirstOpen⟩
  have hOpen : first = byteOf '{' := hFirstOpen.mpr rfl
  have hWithin :
      ¬ (between before ('{' :: tail)).stop ≤ size before := by
    rw [stop_between, size_cons, utf8Size_braces.1]
    omega
  unfold next?
  simp only [position_between, if_neg hWithin, hFirst,
    Option.bind_eq_bind, Option.bind_some, hOpen, ne_eq,
    not_true_eq_false, if_false]
  cases tail with
  | nil =>
      refine ⟨.empty false, [], rfl, ?_⟩
      have hStop := stop_between before ['{']
      have hMove :
          (between before ['{']).moveTo
              (size before + size ['{']) =
            between (before ++ ['{']) [] :=
        moveTo_between before ['{'] []
      have hLast :
          size before = (between before ['{']).stop - 1 := by
        rw [hStop]
        rfl
      rw [if_pos hLast, hStop, hMove]
      rfl
  | cons c tail =>
      rcases byte?_behind_open before tail c with
        ⟨second, hSecond, hSecondOpen, hSecondClose⟩
      have hNotLast :
          size before ≠
            (between before ('{' :: c :: tail)).stop - 1 := by
        have hSize := c.utf8Size_pos
        rw [stop_between, size_cons, size_cons,
          utf8Size_braces.1]
        omega
      simp only [if_neg hNotLast, hSecond, Option.bind_some]
      by_cases hBrace : c = '{'
      · subst hBrace
        refine ⟨.brace, tail, rfl, ?_⟩
        rw [if_pos (hSecondOpen.mpr rfl)]
        exact congrArg (fun d => some (some Token.brace, d))
          (moveTo_between before ['{', '{'] tail)
      · by_cases hClose : c = '}'
        · subst hClose
          refine ⟨.empty true, tail, rfl, ?_⟩
          rw [if_neg (mt hSecondOpen.mp hBrace),
            if_pos (hSecondClose.mpr rfl)]
          exact congrArg
            (fun d => some (some (Token.empty true), d))
            (moveTo_between before ['{', '}'] tail)
        · refine ⟨_, _, next?_open_cons hBrace hClose tail, ?_⟩
          rw [if_neg (mt hSecondOpen.mp hBrace),
            if_neg (mt hSecondClose.mp hClose),
            placeholder?_between]
          rfl

/-
  Between two parts of a template the cursor never fails.  It
  takes off the token that the scanner takes off, and stands
  behind the text of the token then.
-/
theorem next?_between
    (before rest : List Char) :
    (between before rest).next? =
      some
        (match Scanner.next? rest with
        | none => (none, between before rest)
        | some (token, left) =>
            (some token,
              between (before ++ token.source) left)) := by
  cases rest with
  | nil =>
      unfold next?
      simp [Scanner.next?]
  | cons c tail =>
      by_cases hOpen : c = '{'
      · subst hOpen
        rcases next?_open before tail with
          ⟨token, left, hNext, hCursor⟩
        rw [hCursor, hNext]
      · rcases byte?_position before tail c with
          ⟨first, hFirst, hFirstOpen⟩
        have hWithin :
            ¬ (between before (c :: tail)).stop ≤
              size before := by
          have hSize := c.utf8Size_pos
          simp
          omega
        unfold next?
        simp only [position_between, if_neg hWithin, hFirst,
          Option.bind_eq_bind, Option.bind_some,
          ne_eq, mt hFirstOpen.mp hOpen, not_false_eq_true,
          if_true, literal?_between, next?_literal_cons hOpen]
        rfl

/-
  Skipping never fails either, and goes where the scanner
  goes.
-/
theorem skip?_between
    (before rest : List Char)
    (marker : String) :
    ∃ skipped,
      rest = skipped ++ (skipPast marker.toList rest).2 ∧
        (between before rest).skip? marker =
          some ((skipPast marker.toList rest).1,
            between (before ++ skipped)
              (skipPast marker.toList rest).2) := by
  have hBehind : ∀ left,
      behind? marker.toList rest = some left →
        skipPast marker.toList rest = (true, left) := by
    intro left hLeft
    unfold skipPast
    rw [hLeft]
  have hNowhere :
      behind? marker.toList rest = none →
        skipPast marker.toList rest = (false, []) := by
    intro hNone
    unfold skipPast
    rw [hNone]
  unfold skip?
  simp only [unread?_between, Option.bind_eq_bind,
    Option.bind_some]
  cases hOffset : offset? marker.toList rest with
  | none =>
      rw [hNowhere (behind?_of_offset?_eq_none hOffset)]
      refine ⟨rest, (List.append_nil rest).symm, ?_⟩
      have hMove := moveTo_between before rest []
      rw [List.append_nil] at hMove
      simp only [stop_between, hMove]
      rfl
  | some n =>
      rcases behind?_of_offset? hOffset with
        ⟨front, left, hRest, hSize, hLeft⟩
      have hMarker :
          size marker.toList = marker.utf8ByteSize := by
        unfold size
        rw [String.ofList_toList]
      have hMove :=
        moveTo_between before (front ++ marker.toList) left
      rw [← hRest, size_append, ← hSize, hMarker,
        ← Nat.add_assoc] at hMove
      rw [hBehind left hLeft]
      refine ⟨front ++ marker.toList, hRest, ?_⟩
      simp only [position_between, hMove]
      rfl

end Cursor

end Scanner

end FactLayout
