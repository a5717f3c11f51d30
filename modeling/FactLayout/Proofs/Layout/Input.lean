import FactLayout.Layout.Reading
import FactLayout.Proofs.Json.Blank
import FactLayout.Proofs.Yaml.Token
import Mathlib.Data.List.Basic
import Mathlib.Data.List.Permutation
import Mathlib.Data.List.TakeWhile

/-
  Arguments on input and arguments in a text.

  Input is trimmed before it is read.  Of a list in JSON this
  takes nothing that counts.  Of a list in YAML it takes the
  indentation of the first line, and the line break behind a
  block scalar at the end.  As long as neither is there, input
  holds the arguments that its text holds.

  Key definitions include:
    * `HasPlainMargins`

  Main results:
    * `readInput_eq_readArguments`
-/

------------------------------------------------------------
-- Trimmed Documents
------------------------------------------------------------

namespace FactLayout

/- A text is a list of entries in JSON. -/
def IsJsonEntries (text : String) : Prop :=
  ((Json.Source.ofString? text).bind
    Json.dialect.entries).isSome

/-
  A text whose blanks do not count in YAML either: its first
  line is not indented, and its last token is not a block
  scalar.
-/
structure HasPlainMargins (text : String) : Prop where
  blank : Json.HasMargins text.toList
  line :
    Blank.trim text.toList ≠ [] →
      ∀ c ∈ (Blank.leading text.toList).getLast?,
        c = '\n' ∨ c = '\r'
  last :
    ∀ ts, Yaml.Token.ofChars? text.toList = some ts →
      Yaml.Token.endsInBlock ts = false

/- Without tokens there is no document in JSON. -/
theorem Json.Source.ofTokens?_nil :
    ofTokens? [] = none := by
  simp [ofTokens?, read?]

section

variable {text : String}

/- What does not begin with a JSON token is read as YAML. -/
theorem readDocument?_of_next?
    {α : Type}
    {json : Json.Source → Option α}
    {yaml : Yaml.Document → Yaml.Following α}
    (hNext :
      Json.Token.next? (Json.Token.dropBlanks text.toList) =
        none) :
    readDocument? json yaml text =
      (Yaml.Document.ofString? text).bind fun d =>
        StateT.run' (yaml d) 0 := by
  have hSource : Json.Source.ofString? text = none := by
    unfold Json.Source.ofString?
    rw [Json.Token.ofChars?_eq, hNext]
    split
    · exact Json.Source.ofTokens?_nil
    · rfl
  unfold readDocument?
  rw [hSource]
  rfl

/- A list in JSON has tokens. -/
theorem IsJsonEntries.hasMargins
    (hJson : IsJsonEntries text) :
    Json.HasMargins text.toList := by
  rcases Option.isSome_iff_exists.mp hJson with
    ⟨entries, hEntries⟩
  rcases Option.bind_eq_some_iff.mp hEntries with
    ⟨source, hSource, _⟩
  rcases Option.bind_eq_some_iff.mp hSource with
    ⟨ts, hTokens, hTree⟩
  cases ts with
  | nil =>
      rw [Json.Source.ofTokens?_nil] at hTree
      cases hTree
  | cons t ts => exact Json.Token.hasMargins_of_ofChars? hTokens

/- Trimming takes nothing of a document in JSON. -/
theorem Json.Source.ofString?_trim
    (hBlank : Json.HasMargins text.toList) :
    Json.Source.ofString?
        (String.ofList (Blank.trim text.toList)) =
      Json.Source.ofString? text := by
  unfold Json.Source.ofString?
  rw [String.toList_ofList, Json.Token.ofChars?_trim hBlank]

/- Nor of one in YAML that has plain margins. -/
theorem Yaml.Document.ofString?_trim
    {d : Yaml.Document}
    (hPlain : HasPlainMargins text)
    (hTrim : Blank.trim text.toList ≠ [])
    (hDocument : Yaml.Document.ofString? text = some d) :
    Yaml.Document.ofString?
        (String.ofList (Blank.trim text.toList)) =
      some d := by
  rcases Option.bind_eq_some_iff.mp hDocument with
    ⟨ts, hTokens, hTree⟩
  have hSolid : ∀ c, Blank.isBlank c = false →
      Json.Token.isBlank c = false := by
    intro c hNot
    rw [Bool.eq_false_iff]
    intro hBlank
    rw [Json.Token.isBlank_of_isBlank hBlank] at hNot
    cases hNot
  have hSame :
      Yaml.Token.ofChars? (Blank.trim text.toList) = some ts := by
    refine Yaml.Token.ofChars?_of_margin
      hPlain.blank.leading (hPlain.line hTrim)
      hPlain.blank.trailing ?_ ?_ hTrim (hPlain.last ts hTokens)
      ?_
    · exact fun c hFirst => hSolid c
        (Blank.isBlank_of_mem_head?_trim text.toList c hFirst)
    · exact fun c hLast => hSolid c
        (Blank.isBlank_of_mem_getLast?_trim text.toList c hLast)
    · rw [Blank.leading_append_trim]
      exact hTokens
  unfold Yaml.Document.ofString?
  rw [String.toList_ofList, hSame]
  exact hTree

/- There are no entries in blanks. -/
theorem readEntries?_of_blank
    {entries : List Entry}
    (hBlank : Json.HasMargins text.toList)
    (hTrim : Blank.trim text.toList = [])
    (hRead : readEntries? text = some entries) :
    entries = [] := by
  have hText :
      ∀ c ∈ text.toList, Json.Token.isBlank c = true := by
    intro c hMem
    rw [← Blank.leading_append_trim text.toList, hTrim,
      List.nil_append] at hMem
    rcases List.mem_append.mp hMem with hLead | hTail
    · exact hBlank.leading c hLead
    · exact hBlank.trailing c hTail
  have hJson : Json.Source.ofString? text = none := by
    have hDrop : Json.Token.dropBlanks text.toList = [] :=
      List.dropWhile_eq_nil_iff.mpr hText
    unfold Json.Source.ofString?
    rw [Json.Token.ofChars?_eq, if_pos hDrop]
    exact Json.Source.ofTokens?_nil
  unfold readEntries? readDocument? at hRead
  rw [hJson] at hRead
  rcases Option.bind_eq_some_iff.mp hRead with
    ⟨d, hDocument, hEntries⟩
  rcases Option.bind_eq_some_iff.mp hDocument with
    ⟨ts, hTokens, hTree⟩
  rw [Yaml.Token.eq_nil_of_ofChars?_blank hText hTokens]
    at hTree
  cases hTree
  cases hEntries
  rfl

/- Trimming takes nothing of a list of entries. -/
theorem readEntries?_trim
    {entries : List Entry}
    (hPlain : IsJsonEntries text ∨ HasPlainMargins text)
    (hTrim : Blank.trim text.toList ≠ [])
    (hRead : readEntries? text = some entries) :
    readEntries? (String.ofList (Blank.trim text.toList)) =
      some entries := by
  have hBlank : Json.HasMargins text.toList :=
    hPlain.elim (·.hasMargins) (·.blank)
  unfold readEntries? readDocument? at hRead ⊢
  rw [Json.Source.ofString?_trim hBlank]
  cases hJson :
      (Json.Source.ofString? text).bind
        Json.dialect.entries with
  | some found =>
      rw [hJson] at hRead
      exact hRead
  | none =>
      rw [hJson] at hRead
      rcases Option.bind_eq_some_iff.mp hRead with
        ⟨d, hDocument, hEntries⟩
      rcases hPlain with hSome | hPlain
      · rw [IsJsonEntries, hJson] at hSome
        cases hSome
      · simp only
        rw [Yaml.Document.ofString?_trim hPlain hTrim hDocument]
        exact hEntries

end

------------------------------------------------------------
-- Entries of Plain Values
------------------------------------------------------------

/- A scalar has the same value at any depth. -/
theorem Yaml.Document.value_scalar
    (d : Document)
    (depth : Nat)
    (label : Label Nat)
    (plain : Bool)
    (text : String) :
    d.value depth (.scalar label plain text) =
      liftM (Resolution.scalar? label.tag plain text) := by
  unfold value
  rfl

/- A mapping of a type and of a plain value is an entry. -/
theorem Yaml.entry_mapping
    (d : Document)
    (enclosing : Nat)
    (kind text : String) :
    (dialect d).entry enclosing
        (.mapping {}
          [(.scalar {} true "type", .scalar {} true kind),
            (.scalar {} true "value",
              .scalar {} true text)]) =
      (liftM (Resolution.plain? text) >>= fun value =>
        pure ⟨kind, value⟩ : Following Entry) := by
  change
    ((dialect d).value (enclosing + 1)
        (.scalar {} true text) >>= fun value =>
      (pure ⟨kind, value⟩ : Following Entry)) = _
  exact congrArg (· >>= _)
    (Document.value_scalar d _ {} true text)

------------------------------------------------------------
-- Input
------------------------------------------------------------

/- Text is written in UTF-8. -/
theorem decode_toUTF8
    (text : String) :
    decode text.toUTF8 = pure text := by
  have hText : String.fromUTF8? text.toUTF8 = some text :=
    dif_pos text.isValidUTF8
  unfold decode
  rw [hText]

/- Input is trimmed, and blank input holds no arguments. -/
theorem readInput_toUTF8
    (text : String) :
    readInput (.ok text.toUTF8) =
      match Blank.trim text.toList with
      | [] => pure []
      | trimmed => readArguments (String.ofList trimmed) := by
  unfold readInput
  simp only [decode_toUTF8]
  rfl

/-
  Input holds the arguments that its text holds, if this is a
  list in JSON or has plain margins.
-/
theorem readInput_eq_readArguments
    {text : String}
    {entries : List Entry}
    (hPlain : IsJsonEntries text ∨ HasPlainMargins text)
    (hRead : readEntries? text = some entries) :
    readInput (.ok text.toUTF8) = readArguments text := by
  have hArguments :
      readArguments text = Entry.toCells entries := by
    unfold readArguments
    rw [hRead]
  rw [readInput_toUTF8, hArguments]
  split
  · rename_i hTrim
    have hBlank : Json.HasMargins text.toList :=
      hPlain.elim (·.hasMargins) (·.blank)
    rw [readEntries?_of_blank hBlank hTrim hRead]
    rfl
  · rename_i hTrim
    unfold readArguments
    rw [readEntries?_trim hPlain hTrim hRead]

/- A list of one entry between blank lines. -/
theorem readInput_eq_readArguments_blank_lines :
    HasPlainMargins "\n- type: 'null'\n \n" ∧
      readEntries? "\n- type: 'null'\n \n" =
        some [⟨"null", .null⟩] ∧
      readInput (.ok "\n- type: 'null'\n \n".toUTF8) =
        readArguments "\n- type: 'null'\n \n" := by
  have hTokens :
      Yaml.Token.ofChars? "\n- type: 'null'\n \n".toList =
        some [.blockSequence, .entry, .blockMapping, .key,
          .scalar .plain "type", .value,
          .scalar .quoted "null", .blockEnd, .blockEnd] := by
    rw [Yaml.Token.ofChars?_eq_readUpTo?]
    cbv
  have hPlain : HasPlainMargins "\n- type: 'null'\n \n" := by
    refine ⟨⟨?_, ?_⟩, ?_, ?_⟩
    · exact List.all_eq_true.mp (by decide)
    · exact List.all_eq_true.mp (by decide)
    · intro _ c hLast
      exact .inl (Option.some.inj hLast).symm
    · intro ts hSome
      rw [hTokens] at hSome
      cases hSome
      rfl
  have hDocument :
      Yaml.Document.ofString? "\n- type: 'null'\n \n" =
        some
          ⟨.sequence {}
            [.mapping {}
              [(.scalar {} true "type",
                .scalar {} false "null")]], []⟩ := by
    rw [Yaml.Document.ofString?, hTokens, Option.bind_some]
    unfold Yaml.Document.ofTokens? Yaml.Document.readRoot?
    -- No token has a tag, so any shorthands will do, and the
    -- octets of the standard ones need no evaluation.
    generalize Yaml.Shorthands.standard = shorthands
    cbv
  have hRead :
      readEntries? "\n- type: 'null'\n \n" =
        some [⟨"null", .null⟩] := by
    unfold readEntries?
    rw [readDocument?_of_next? (by decide), hDocument]
    rfl
  exact ⟨hPlain, hRead,
    readInput_eq_readArguments (.inr hPlain) hRead⟩

/-
  Two entries whose lines are all indented alike.  Trimming
  takes the indentation of the first line only, and so the
  second line belongs to its scalar.
-/
def indentedEntries : String :=
  "  - type: string\n    value: a\n" ++
    "  - type: string\n    value: b\n"

/- Input that is indented is refused, its text is not. -/
theorem readInput_indentedEntries :
    readArguments indentedEntries =
        pure [.string "a", .string "b"] ∧
      readInput (.ok indentedEntries.toUTF8) =
        .fail (.layout .invalidArguments) := by
  constructor
  · have hTokens :
        Yaml.Token.ofChars? indentedEntries.toList =
          some [.blockSequence, .entry, .blockMapping, .key,
            .scalar .plain "type", .value,
            .scalar .plain "string", .key,
            .scalar .plain "value", .value,
            .scalar .plain "a", .blockEnd, .entry,
            .blockMapping, .key, .scalar .plain "type",
            .value, .scalar .plain "string", .key,
            .scalar .plain "value", .value,
            .scalar .plain "b", .blockEnd, .blockEnd] := by
      rw [Yaml.Token.ofChars?_eq_readUpTo?]
      cbv
    have hDocument :
        Yaml.Document.ofString? indentedEntries =
          some
            ⟨.sequence {}
              [.mapping {}
                [(.scalar {} true "type",
                    .scalar {} true "string"),
                  (.scalar {} true "value",
                    .scalar {} true "a")],
                .mapping {}
                  [(.scalar {} true "type",
                      .scalar {} true "string"),
                    (.scalar {} true "value",
                      .scalar {} true "b")]], []⟩ := by
      rw [Yaml.Document.ofString?, hTokens,
        Option.bind_some]
      unfold Yaml.Document.ofTokens? Yaml.Document.readRoot?
      generalize Yaml.Shorthands.standard = shorthands
      cbv
    have hRead :
        readEntries? indentedEntries =
          some [⟨"string", .text "a"⟩,
            ⟨"string", .text "b"⟩] := by
      unfold readEntries?
      rw [readDocument?_of_next? (by decide), hDocument,
        Option.bind_some]
      change
        StateT.run'
            (List.mapM ((Yaml.dialect _).entry 1) [_, _]) 0 =
          _
      rw [List.mapM_cons, List.mapM_cons,
        Yaml.entry_mapping, Yaml.entry_mapping]
      rfl
    unfold readArguments
    rw [hRead]
    rfl
  · have hTokens :
        Yaml.Token.ofChars?
            (Blank.trim indentedEntries.toList) =
          none := by
      rw [Yaml.Token.ofChars?_eq_readUpTo?]
      cbv
    have hRead :
        readEntries? (String.ofList
          (Blank.trim indentedEntries.toList)) = none := by
      unfold readEntries?
      rw [readDocument?_of_next? (by decide),
        Yaml.Document.ofString?, String.toList_ofList, hTokens]
      rfl
    rw [readInput_toUTF8]
    split
    · rename_i hTrim
      exact absurd hTrim (by decide)
    · unfold readArguments
      rw [hRead]

end FactLayout
