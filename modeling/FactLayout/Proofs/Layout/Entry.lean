import FactLayout.Entry
import FactLayout.Proofs.Number.Conversion

/-
  Entries and the cells they stand for.

  Every cell has a natural entry, and stands for it.  An
  entry of a known type stands for a cell exactly if its
  value has the shape and the range of the type.  The natural
  entry of that cell has the same value again, except for
  numbers that are rounded and for values that do not count.

  Key definitions include:
    * `Cell.type?`
    * `Cell.IsNatural`
    * `Entry.ofCell`
    * `EntryType.Admits`
    * `EntryType.Keeps`

  Main results:
    * `EntryType.read?_value`
    * `EntryType.keeps_of_read?`
    * `EntryType.exists_read?_iff`
    * `Entry.toCell_inverse`
-/

------------------------------------------------------------
-- Natural Entries
------------------------------------------------------------

namespace FactLayout

/- A natural number below `2 ^ 64` as a value. -/
def Json.ofWord
    (n : Nat)
    (hWord : n < 2 ^ 64) : Json :=
  .number (.integer ⟨n, by omega, by omega⟩)

namespace Cell

/- The type of a fact, unless its kind is unsupported. -/
def type? : Cell → Option EntryType
| int _ => some .int
| uint _ => some .uint
| uint64 _ => some .uint64
| uint16 _ => some .uint16
| uint8 _ => some .uint8
| string _ => some .string
| strbuf _ => some .strbuf
| float _ => some .float
| double _ => some .double
| bool _ => some .bool
| list _ => some .list
| null => some .null
| unsupported _ => none

/- The name of the kind of a fact. -/
def kind : Cell → String
| unsupported kind => kind
| int _ => EntryType.int.name
| uint _ => EntryType.uint.name
| uint64 _ => EntryType.uint64.name
| uint16 _ => EntryType.uint16.name
| uint8 _ => EntryType.uint8.name
| string _ => EntryType.string.name
| strbuf _ => EntryType.strbuf.name
| float _ => EntryType.float.name
| double _ => EntryType.double.name
| bool _ => EntryType.bool.name
| list _ => EntryType.list.name
| null => EntryType.null.name

/- The value that a fact is written with. -/
def value : Cell → Json
| int v =>
    .number (.integer ⟨v.toInt,
      le_trans (by decide) v.le_toInt,
      v.toInt_lt.trans (by decide)⟩)
| uint v => .ofWord v.toNat (v.toNat_lt.trans (by decide))
| uint64 v => .ofWord v.toNat v.toNat_lt
| uint16 v => .ofWord v.toNat (v.toNat_lt.trans (by decide))
| uint8 v => .ofWord v.toNat (v.toNat_lt.trans (by decide))
| string v => .text v
| strbuf v => .text v
| float v => .ofDouble v.toDouble
| double v => .ofDouble v
| bool v => .bool v
| list items => .array (items.map .text)
| null => .null
| unsupported _ => .null

/-
  The facts that an entry can hold: numbers are finite, and
  no known type is unsupported.
-/
def IsNatural : Cell → Prop
| float v => v.isFinite = true
| double v => v.isFinite = true
| unsupported kind => ∀ t : EntryType, t.name ≠ kind
| _ => True

theorem kind_of_type?
    {c : Cell}
    {t : EntryType}
    (hType : c.type? = some t) :
    c.kind = t.name := by
  cases c <;> cases hType <;> rfl

end Cell

/- The natural entry of a cell. -/
def Entry.ofCell (c : Cell) : Entry :=
  ⟨c.kind, c.value⟩

------------------------------------------------------------
-- Shapes and Ranges
------------------------------------------------------------

/- A value is an exact integer within bounds. -/
def Json.IsIntegerWithin
    (lower upper : ℤ)
    (value : Json) : Prop :=
  ∃ i : Json.Integer, value = .number (.integer i) ∧
    lower ≤ i.val ∧ i.val < upper

namespace EntryType

/-
  A value has the shape and the range of a type.  A double
  rounds to infinity in single precision if it is half a unit
  above the greatest single, which is `2 ^ 128 - 2 ^ 104`, or
  farther from zero.
-/
def Admits : EntryType → Json → Prop
| int, value => value.IsIntegerWithin (-2 ^ 31) (2 ^ 31)
| uint, value => value.IsIntegerWithin 0 (2 ^ 32)
| uint64, value => value.IsIntegerWithin 0 (2 ^ 64)
| uint16, value => value.IsIntegerWithin 0 (2 ^ 16)
| uint8, value => value.IsIntegerWithin 0 (2 ^ 8)
| string, value => ∃ s, value = .text s
| strbuf, value => ∃ s, value = .text s
| float, value => ∃ n : Json.Number, value = .number n ∧
    |n.toDouble.rational| < 2 ^ 128 - 2 ^ 103
| double, value => ∃ n, value = .number n
| bool, value => ∃ b, value = .bool b
| list, value => ∃ items, value = .array items ∧
    ∀ item ∈ items, ∃ s, item = .text s
| null, _ => True

/-
  What a type keeps of a value.  Numbers become the nearest
  double, and in single precision the single nearest to that
  double; nothing else is changed.
-/
def Keeps : EntryType → Json → Json → Prop
| double, value, kept =>
    ∃ (n : Json.Number) (d : Double)
      (finite : d.isFinite = true),
      value = .number n ∧
        d.IsNearest n.isNegative n.rational ∧
        kept = .number (.float d finite)
| float, value, kept =>
    ∃ (n : Json.Number) (d : Double) (s : Single)
      (wide : Double) (finite : wide.isFinite = true),
      value = .number n ∧
        d.IsNearest n.isNegative n.rational ∧
        s.IsNearest d.value.isNegative d.rational ∧
        wide.value.isNegative = s.value.isNegative ∧
        wide.rational = s.rational ∧
        kept = .number (.float wide finite)
| null, _, kept => kept = .null
| _, value, kept => kept = value

------------------------------------------------------------
-- Readers of Values
------------------------------------------------------------

section

variable {value : Json}

theorem intWithin?_eq_some_iff
    {lower upper i : ℤ} :
    intWithin? lower upper value = some i ↔
      ∃ n : Json.Integer, value = .number (.integer n) ∧
        n.val = i ∧ lower ≤ i ∧ i < upper := by
  constructor
  · intro hRead
    cases value with
    | number n =>
        cases n with
        | integer n =>
            simp only [intWithin?, Json.Number.int?,
              Option.bind_eq_bind, Option.bind_some] at hRead
            split at hRead
            · rename_i hBounds
              cases hRead
              exact ⟨n, rfl, rfl, hBounds⟩
            · cases hRead
        | float d finite => cases hRead
    | null => cases hRead
    | bool b => cases hRead
    | text s => cases hRead
    | array items => cases hRead
    | object fields => cases hRead
  · rintro ⟨n, rfl, rfl, hBounds⟩
    simp [intWithin?, Json.Number.int?, hBounds]

theorem wordOf?_eq_some_iff
    {width n : ℕ} :
    wordOf? width value = some n ↔
      ∃ i : Json.Integer, value = .number (.integer i) ∧
        i.val = n ∧ n < 2 ^ width := by
  unfold wordOf?
  rw [Option.map_eq_map, Option.map_eq_some_iff]
  constructor
  · rintro ⟨i, hRead, rfl⟩
    rcases intWithin?_eq_some_iff.mp hRead with
      ⟨w, hValue, hInteger, hLower, hUpper⟩
    rw [Nat.pow_eq] at hUpper
    refine ⟨w, hValue, by omega, ?_⟩
    zify
    rw [Int.toNat_of_nonneg hLower]
    exact_mod_cast hUpper
  · rintro ⟨i, hValue, hInteger, hWord⟩
    refine ⟨n, intWithin?_eq_some_iff.mpr
      ⟨i, hValue, hInteger, by omega, ?_⟩, by simp⟩
    rw [Nat.pow_eq]
    exact_mod_cast hWord

theorem textOf?_eq_some_iff
    {s : String} :
    textOf? value = some s ↔ value = .text s := by
  cases value <;> simp [textOf?]

theorem boolOf?_eq_some_iff
    {b : Bool} :
    boolOf? value = some b ↔ value = .bool b := by
  cases value <;> simp [boolOf?]

theorem doubleOf?_eq_some_iff
    {d : Double} :
    doubleOf? value = some d ↔
      ∃ n : Json.Number, value = .number n ∧
        n.toDouble = d := by
  cases value <;> simp [doubleOf?]

theorem singleOf?_eq_some_iff
    {s : Single} :
    singleOf? value = some s ↔
      ∃ n : Json.Number, value = .number n ∧
        n.toDouble.toSingle = s ∧ s.isFinite = true := by
  cases value with
  | number n =>
      simp only [singleOf?, doubleOf?, Option.bind_eq_bind,
        Option.bind_some, Json.number.injEq,
        exists_eq_left', Option.ite_none_right_eq_some,
        Option.some.injEq]
      constructor
      · rintro ⟨hFinite, rfl⟩
        exact ⟨rfl, hFinite⟩
      · rintro ⟨rfl, hFinite⟩
        exact ⟨hFinite, rfl⟩
  | null => simp [singleOf?, doubleOf?]
  | bool b => simp [singleOf?, doubleOf?]
  | text s => simp [singleOf?, doubleOf?]
  | array items => simp [singleOf?, doubleOf?]
  | object fields => simp [singleOf?, doubleOf?]

/- Items that are all texts. -/
theorem mapM_textOf?_eq_some_iff
    {items : List Json}
    {texts : List String} :
    items.mapM textOf? = some texts ↔
      items = texts.map .text := by
  induction items generalizing texts with
  | nil => cases texts <;> simp
  | cons item items ih =>
      rw [List.mapM_cons]
      simp only [Option.bind_eq_bind,
        Option.bind_eq_some_iff, textOf?_eq_some_iff, ih,
        Option.pure_def, Option.some.injEq]
      constructor
      · rintro ⟨s, rfl, rest, rfl, rfl⟩
        rfl
      · intro hItems
        cases texts with
        | nil => cases hItems
        | cons s rest =>
            cases hItems
            exact ⟨s, rfl, rest, rfl, rfl⟩

theorem textsOf?_eq_some_iff
    {texts : List String} :
    textsOf? value = some texts ↔
      value = .array (texts.map .text) := by
  cases value <;>
    simp [textsOf?, mapM_textOf?_eq_some_iff]

------------------------------------------------------------
-- Values That Are Read
------------------------------------------------------------

theorem isSome_intWithin?_iff
    {lower upper : ℤ} :
    (intWithin? lower upper value).isSome ↔
      value.IsIntegerWithin lower upper := by
  rw [Option.isSome_iff_exists]
  constructor
  · rintro ⟨i, hRead⟩
    rcases intWithin?_eq_some_iff.mp hRead with
      ⟨n, hValue, rfl, hBounds⟩
    exact ⟨n, hValue, hBounds⟩
  · rintro ⟨n, hValue, hBounds⟩
    exact ⟨n.val, intWithin?_eq_some_iff.mpr
      ⟨n, hValue, rfl, hBounds⟩⟩

theorem isSome_wordOf?_iff
    {width : ℕ} :
    (wordOf? width value).isSome ↔
      value.IsIntegerWithin 0 (2 ^ width) := by
  unfold wordOf?
  rw [Option.map_eq_map, Option.isSome_map,
    isSome_intWithin?_iff, Nat.pow_eq]
  push_cast
  rfl

/- A number fits a single unless it rounds to infinity. -/
theorem isSome_singleOf?_iff :
    (singleOf? value).isSome ↔ float.Admits value := by
  rw [Option.isSome_iff_exists]
  constructor
  · rintro ⟨s, hRead⟩
    rcases singleOf?_eq_some_iff.mp hRead with
      ⟨n, hValue, rfl, hFinite⟩
    exact ⟨n, hValue, (Double.isFinite_toSingle_iff
      n.isNearest_toDouble.isFinite).mp hFinite⟩
  · rintro ⟨n, hValue, hLess⟩
    exact ⟨n.toDouble.toSingle, singleOf?_eq_some_iff.mpr
      ⟨n, hValue, rfl, (Double.isFinite_toSingle_iff
        n.isNearest_toDouble.isFinite).mpr hLess⟩⟩

theorem isSome_textsOf?_iff :
    (textsOf? value).isSome ↔ list.Admits value := by
  rw [Option.isSome_iff_exists]
  constructor
  · rintro ⟨texts, hRead⟩
    refine ⟨texts.map .text, textsOf?_eq_some_iff.mp hRead,
      ?_⟩
    intro item hItem
    rcases List.mem_map.mp hItem with ⟨s, -, rfl⟩
    exact ⟨s, rfl⟩
  · rintro ⟨items, rfl, hItems⟩
    choose! textOf hText using hItems
    refine ⟨items.map textOf, textsOf?_eq_some_iff.mpr ?_⟩
    rw [List.map_map]
    congr 1
    calc
      items
      _ = items.map id := (List.map_id items).symm
      _ = items.map (Json.text ∘ textOf) :=
        List.map_congr_left hText

/- A value is read exactly if the type admits it. -/
theorem isSome_read?_iff
    {t : EntryType} :
    (t.read? value).isSome ↔ t.Admits value := by
  cases t with
  | int =>
      rw [read?, Option.map_eq_map, Option.isSome_map,
        isSome_intWithin?_iff]
      norm_num [Admits]
  | uint =>
      rw [read?, Option.map_eq_map, Option.isSome_map]
      exact isSome_wordOf?_iff
  | uint64 =>
      rw [read?, Option.map_eq_map, Option.isSome_map]
      exact isSome_wordOf?_iff
  | uint16 =>
      rw [read?, Option.map_eq_map, Option.isSome_map]
      exact isSome_wordOf?_iff
  | uint8 =>
      rw [read?, Option.map_eq_map, Option.isSome_map]
      exact isSome_wordOf?_iff
  | string =>
      simp [read?, Option.isSome_iff_exists,
        textOf?_eq_some_iff, Admits]
  | strbuf =>
      simp [read?, Option.isSome_iff_exists,
        textOf?_eq_some_iff, Admits]
  | float =>
      rw [read?, Option.map_eq_map, Option.isSome_map]
      exact isSome_singleOf?_iff
  | double =>
      simp [read?, Option.isSome_iff_exists,
        doubleOf?_eq_some_iff, Admits]
  | bool =>
      simp [read?, Option.isSome_iff_exists,
        boolOf?_eq_some_iff, Admits]
  | list =>
      rw [read?, Option.map_eq_map, Option.isSome_map]
      exact isSome_textsOf?_iff
  | null => simp [read?, Admits]

------------------------------------------------------------
-- Values That Are Kept
------------------------------------------------------------

/- An integer is written back as it was. -/
theorem ofWord_of_wordOf?
    {width n m : ℕ}
    (hRead : wordOf? width value = some n)
    (hSame : n < 2 ^ width → m = n)
    (hWord : m < 2 ^ 64) :
    Json.ofWord m hWord = value := by
  rcases wordOf?_eq_some_iff.mp hRead with
    ⟨⟨i, hLower, hUpper⟩, rfl, rfl, hBound⟩
  cases hSame hBound
  rfl

/- The number of a single is written as a double. -/
theorem keeps_float
    {s : Single}
    (hRead : singleOf? value = some s) :
    float.Keeps value (Json.ofDouble s.toDouble) := by
  rcases singleOf?_eq_some_iff.mp hRead with
    ⟨n, hValue, rfl, hFinite⟩
  have hDouble := n.isNearest_toDouble
  have hWide := Single.isFinite_toDouble hFinite
  rcases Single.value_toDouble hFinite with
    ⟨hSign, hRational⟩
  refine ⟨n, n.toDouble, n.toDouble.toSingle, _, hWide,
    hValue, hDouble,
    Double.isNearest_toSingle hDouble.isFinite hFinite,
    hSign, hRational, ?_⟩
  simp [Json.ofDouble, Json.Number.ofDouble?, hWide]

theorem keeps_double
    {d : Double}
    (hRead : doubleOf? value = some d) :
    double.Keeps value (Json.ofDouble d) := by
  rcases doubleOf?_eq_some_iff.mp hRead with
    ⟨n, hValue, rfl⟩
  have hDouble := n.isNearest_toDouble
  refine ⟨n, n.toDouble, hDouble.isFinite, hValue, hDouble,
    ?_⟩
  simp [Json.ofDouble, Json.Number.ofDouble?,
    hDouble.isFinite]

/-
  The cell that is read off a value has the type that the
  value was read with, and the value that the type keeps.
-/
theorem keeps_of_read?
    {t : EntryType}
    {c : Cell}
    (hRead : t.read? value = some c) :
    c.type? = some t ∧ t.Keeps value c.value := by
  cases t with
  | int =>
      rcases Option.map_eq_some_iff.mp hRead with
        ⟨i, hInteger, rfl⟩
      rcases intWithin?_eq_some_iff.mp hInteger with
        ⟨⟨i, hLower, hUpper⟩, rfl, rfl, hLow, hHigh⟩
      refine ⟨rfl, ?_⟩
      simp only [Keeps, Cell.value, Json.number.injEq,
        Json.Number.integer.injEq, Json.Integer.mk.injEq]
      exact Int32.toInt_ofInt_of_le hLow hHigh
  | uint =>
      rcases Option.map_eq_some_iff.mp hRead with
        ⟨n, hWord, rfl⟩
      exact ⟨rfl, ofWord_of_wordOf? hWord
        UInt32.toNat_ofNat_of_lt'
        ((UInt32.toNat_lt _).trans (by decide))⟩
  | uint64 =>
      rcases Option.map_eq_some_iff.mp hRead with
        ⟨n, hWord, rfl⟩
      exact ⟨rfl, ofWord_of_wordOf? hWord
        UInt64.toNat_ofNat_of_lt'
        (UInt64.toNat_lt _)⟩
  | uint16 =>
      rcases Option.map_eq_some_iff.mp hRead with
        ⟨n, hWord, rfl⟩
      exact ⟨rfl, ofWord_of_wordOf? hWord
        UInt16.toNat_ofNat_of_lt'
        ((UInt16.toNat_lt _).trans (by decide))⟩
  | uint8 =>
      rcases Option.map_eq_some_iff.mp hRead with
        ⟨n, hWord, rfl⟩
      exact ⟨rfl, ofWord_of_wordOf? hWord
        UInt8.toNat_ofNat_of_lt'
        ((UInt8.toNat_lt _).trans (by decide))⟩
  | string =>
      rcases Option.map_eq_some_iff.mp hRead with
        ⟨s, hText, rfl⟩
      exact ⟨rfl, (textOf?_eq_some_iff.mp hText).symm⟩
  | strbuf =>
      rcases Option.map_eq_some_iff.mp hRead with
        ⟨s, hText, rfl⟩
      exact ⟨rfl, (textOf?_eq_some_iff.mp hText).symm⟩
  | float =>
      rcases Option.map_eq_some_iff.mp hRead with
        ⟨s, hSingle, rfl⟩
      exact ⟨rfl, keeps_float hSingle⟩
  | double =>
      rcases Option.map_eq_some_iff.mp hRead with
        ⟨d, hDouble, rfl⟩
      exact ⟨rfl, keeps_double hDouble⟩
  | bool =>
      rcases Option.map_eq_some_iff.mp hRead with
        ⟨b, hBool, rfl⟩
      exact ⟨rfl, (boolOf?_eq_some_iff.mp hBool).symm⟩
  | list =>
      rcases Option.map_eq_some_iff.mp hRead with
        ⟨texts, hTexts, rfl⟩
      exact ⟨rfl, (textsOf?_eq_some_iff.mp hTexts).symm⟩
  | null =>
      cases hRead
      exact ⟨rfl, rfl⟩

/- The value of a word is read back. -/
theorem wordOf?_ofWord
    {width n : ℕ}
    (hBound : n < 2 ^ width)
    (hWord : n < 2 ^ 64) :
    wordOf? width (.ofWord n hWord) = some n :=
  wordOf?_eq_some_iff.mpr ⟨_, rfl, rfl, hBound⟩

/- A natural fact is read off its own value. -/
theorem read?_value
    {t : EntryType}
    {c : Cell}
    (hNatural : c.IsNatural)
    (hType : c.type? = some t) :
    t.read? c.value = some c := by
  cases c with
  | int v =>
      cases hType
      have hRead :
          intWithin? (-2147483648) 2147483648
              (Cell.int v).value =
            some v.toInt :=
        intWithin?_eq_some_iff.mpr
          ⟨_, rfl, rfl, v.le_toInt, v.toInt_lt⟩
      rw [read?, hRead]
      exact congrArg (some ∘ Cell.int) v.ofInt_toInt
  | uint v =>
      cases hType
      rw [read?, Cell.value, wordOf?_ofWord v.toNat_lt]
      exact congrArg (some ∘ Cell.uint) v.ofNat_toNat
  | uint64 v =>
      cases hType
      rw [read?, Cell.value, wordOf?_ofWord v.toNat_lt]
      exact congrArg (some ∘ Cell.uint64) v.ofNat_toNat
  | uint16 v =>
      cases hType
      rw [read?, Cell.value, wordOf?_ofWord v.toNat_lt]
      exact congrArg (some ∘ Cell.uint16) v.ofNat_toNat
  | uint8 v =>
      cases hType
      rw [read?, Cell.value, wordOf?_ofWord v.toNat_lt]
      exact congrArg (some ∘ Cell.uint8) v.ofNat_toNat
  | string s =>
      cases hType
      rfl
  | strbuf s =>
      cases hType
      rfl
  | float s =>
      cases hType
      have hWide := Single.isFinite_toDouble hNatural
      have hRead :
          singleOf? (Json.ofDouble s.toDouble) = some s := by
        refine singleOf?_eq_some_iff.mpr
          ⟨.float s.toDouble hWide, ?_,
            Single.toSingle_toDouble hNatural, hNatural⟩
        simp [Json.ofDouble, Json.Number.ofDouble?, hWide]
      rw [read?, Cell.value, hRead]
      rfl
  | double d =>
      cases hType
      have hRead : doubleOf? (Json.ofDouble d) = some d := by
        refine doubleOf?_eq_some_iff.mpr
          ⟨.float d hNatural, ?_, rfl⟩
        have hFinite : d.isFinite = true := hNatural
        simp [Json.ofDouble, Json.Number.ofDouble?, hFinite]
      rw [read?, Cell.value, hRead]
      rfl
  | bool b =>
      cases hType
      rfl
  | list items =>
      cases hType
      rw [read?, Cell.value, textsOf?_eq_some_iff.mpr rfl]
      rfl
  | null =>
      cases hType
      rfl
  | unsupported kind => cases hType

end

------------------------------------------------------------
-- Names of Types
------------------------------------------------------------

theorem ofName?_eq_some_iff
    {kind : String}
    {t : EntryType} :
    ofName? kind = some t ↔ t.name = kind := by
  constructor
  · intro hFind
    simpa using List.find?_some hFind
  · rintro rfl
    exact ofName?_name t

theorem ofName?_eq_none_iff
    {kind : String} :
    ofName? kind = none ↔ ∀ t : EntryType, t.name ≠ kind := by
  rw [Option.eq_none_iff_forall_ne_some]
  exact forall_congr' fun t => ofName?_eq_some_iff.not

end EntryType

------------------------------------------------------------
-- Entries
------------------------------------------------------------

theorem Fault.message_argument
    (cause : ArgumentFault) :
    (Fault.argument cause).message =
      "Argument error: " ++ cause.text ++ "." := rfl

theorem ArgumentFault.text_mismatch
    (value : Json)
    (kind : String) :
    (mismatch value kind).text =
      "value " ++ String.ofList value.compact ++
        " is not a valid " ++ kind := rfl

namespace Entry

/-
  A cell is what an entry says: it is of the named type, and
  its natural entry has what the type keeps of the value.  If
  there is no such type, only the name is kept.
-/
structure ReadsAs
    (e : Entry)
    (c : Cell) : Prop where
  kind : (ofCell c).kind = e.kind
  known : ∀ t : EntryType, t.name = e.kind →
    c.type? = some t ∧ t.Keeps e.value (ofCell c).value
  unknown : (∀ t : EntryType, t.name ≠ e.kind) →
    c = .unsupported e.kind ∧ (ofCell c).value = .null

section

variable {e : Entry} {t : EntryType}

theorem toCell_of_name
    (hName : t.name = e.kind) :
    e.toCell =
      match t.read? e.value with
      | some c => pure c
      | none => .fail (.argument (.mismatch e.value e.kind)) := by
  have hOf := EntryType.ofName?_eq_some_iff.mpr hName
  cases hRead : t.read? e.value with
  | none => simp only [toCell, hOf, hRead]
  | some c => simp only [toCell, hOf, hRead]

theorem toCell_of_unknown
    (hUnknown : ∀ t : EntryType, t.name ≠ e.kind) :
    e.toCell =
      ⟨[.unknownType e.kind], .ok (.unsupported e.kind)⟩ := by
  rw [toCell, EntryType.ofName?_eq_none_iff.mpr hUnknown]
  rfl

/- A natural fact is what its natural entry stands for. -/
theorem toCell_ofCell
    {c : Cell}
    (hNatural : c.IsNatural) :
    (ofCell c).toCell.result = .ok c := by
  cases hType : c.type? with
  | some t =>
      have hName : t.name = (ofCell c).kind :=
        (Cell.kind_of_type? hType).symm
      have hRead : t.read? (ofCell c).value = some c :=
        EntryType.read?_value hNatural hType
      rw [toCell_of_name hName, hRead]
      rfl
  | none =>
      cases c with
      | unsupported kind =>
          have hUnknown : ∀ t : EntryType,
              t.name ≠ (ofCell (.unsupported kind)).kind :=
            hNatural
          rw [toCell_of_unknown hUnknown]
          rfl
      | _ => cases hType

theorem readsAs_of_toCell
    {c : Cell}
    (hCell : e.toCell.result = .ok c) :
    e.ReadsAs c := by
  by_cases hKnown : ∃ t : EntryType, t.name = e.kind
  · rcases hKnown with ⟨t, hName⟩
    rw [toCell_of_name hName] at hCell
    cases hRead : t.read? e.value with
    | none =>
        rw [hRead] at hCell
        cases hCell
    | some read =>
        rw [hRead] at hCell
        cases hCell
        have hKept := EntryType.keeps_of_read? hRead
        refine ⟨(Cell.kind_of_type? hKept.1).trans hName,
          ?_, ?_⟩
        · intro other hOther
          have hSame : some other = some t := by
            rw [← EntryType.ofName?_eq_some_iff.mpr hOther]
            exact EntryType.ofName?_eq_some_iff.mpr hName
          cases hSame
          exact hKept
        · intro hUnknown
          exact absurd hName (hUnknown t)
  · have hUnknown := not_exists.mp hKnown
    rw [toCell_of_unknown hUnknown] at hCell
    cases hCell
    exact ⟨rfl, fun t hName => absurd hName (hUnknown t),
      fun _ => ⟨rfl, rfl⟩⟩

/-
  The fault of an entry of a known type whose value does not
  fit.  No other entry has a fault.
-/
theorem toCell_eq_error_iff
    {fault : Fault} :
    e.toCell.result = .error fault ↔
      fault = .argument (.mismatch e.value e.kind) ∧
        ∃ t : EntryType, t.name = e.kind ∧
          ¬ t.Admits e.value := by
  constructor
  · intro hError
    by_cases hKnown : ∃ t : EntryType, t.name = e.kind
    · rcases hKnown with ⟨t, hName⟩
      rw [toCell_of_name hName] at hError
      cases hRead : t.read? e.value with
      | none =>
          rw [hRead] at hError
          cases hError
          refine ⟨rfl, t, hName, ?_⟩
          rw [← EntryType.isSome_read?_iff, hRead]
          exact Bool.false_ne_true
      | some c =>
          rw [hRead] at hError
          cases hError
    · rw [toCell_of_unknown (not_exists.mp hKnown)] at hError
      cases hError
  · rintro ⟨rfl, t, hName, hAdmits⟩
    rw [← EntryType.isSome_read?_iff,
      Option.not_isSome_iff_eq_none] at hAdmits
    rw [toCell_of_name hName, hAdmits]
    rfl

end

/-
  Natural facts and their entries belong together.  An entry
  stands for a cell that is what it says, unless its value
  has not the shape or the range of its type; then the fault
  gives the value and the name of the type.
-/
theorem toCell_inverse :
    (∀ c : Cell, c.IsNatural →
      (ofCell c).toCell.result = .ok c) ∧
    ∀ e : Entry,
      (∀ c, e.toCell.result = .ok c → e.ReadsAs c) ∧
      ((∃ fault, e.toCell.result = .error fault) ↔
        ∃ t : EntryType, t.name = e.kind ∧
          ¬ t.Admits e.value) ∧
      ∀ fault, e.toCell.result = .error fault →
        (∃ cause, fault = .argument cause) ∧
          fault.message =
            "Argument error: value " ++
              String.ofList e.value.compact ++
              " is not a valid " ++ e.kind ++ "." := by
  refine ⟨fun c hNatural => toCell_ofCell hNatural, ?_⟩
  intro e
  refine ⟨fun c hCell => readsAs_of_toCell hCell, ?_, ?_⟩
  · constructor
    · rintro ⟨fault, hError⟩
      exact (toCell_eq_error_iff.mp hError).2
    · intro hRefused
      exact ⟨_, toCell_eq_error_iff.mpr ⟨rfl, hRefused⟩⟩
  · intro fault hError
    rcases toCell_eq_error_iff.mp hError with ⟨rfl, -⟩
    have hOpening :
        "Argument error: value " =
          "Argument error: " ++ "value " := by decide
    refine ⟨⟨_, rfl⟩, ?_⟩
    rw [Fault.message_argument, ArgumentFault.text_mismatch,
      hOpening]
    simp only [String.append_assoc]

/-
  The greatest single, the last double that is rounded to
  it, and the first one that is not.
-/
theorem toCell_inverse_greatest_single :
    let greatest : Single := ⟨0x7F7FFFFF⟩
    let fits : Entry :=
      ⟨"float", .ofDouble ⟨0x47EFFFFFEFFFFFFF⟩⟩
    let exceeds : Entry :=
      ⟨"float", .ofDouble ⟨0x47EFFFFFF0000000⟩⟩
    (ofCell (.float greatest)).toCell.result =
        .ok (.float greatest) ∧
      fits.toCell.result = .ok (.float greatest) ∧
      fits.ReadsAs (.float greatest) ∧
      ∃ fault, exceeds.toCell.result = .error fault ∧
        fault.message =
          "Argument error: value " ++
            String.ofList exceeds.value.compact ++
            " is not a valid float." := by
  intro greatest fits exceeds
  have hFits : fits.toCell.result = .ok (.float greatest) := by
    rfl
  have hExceeds :
      ∃ fault, exceeds.toCell.result = .error fault :=
    ⟨_, rfl⟩
  rcases hExceeds with ⟨fault, hError⟩
  have hFinite : greatest.isFinite = true := by decide
  exact ⟨toCell_inverse.1 (.float greatest) hFinite, hFits,
    (toCell_inverse.2 fits).1 _ hFits, fault, hError,
    ((toCell_inverse.2 exceeds).2.2 fault hError).2⟩

end Entry

end FactLayout
