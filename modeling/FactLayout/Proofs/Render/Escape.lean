import FactLayout.Proofs.Render.Prefix
import FactLayout.Proofs.Render.Skeleton

/-
  Text that stands for itself.

  An opening brace is the only character with a meaning in a
  template, and a doubled one is written as it is.  So text
  whose opening braces are doubled is rendered to itself,
  wherever it stands.

  Key definitions include:
    * `escape`

  Main results:
    * `run_escape_append`
    * `segments_escape`
    * `render_escape`
-/

------------------------------------------------------------
-- Doubling Braces
------------------------------------------------------------

namespace FactLayout

namespace Render

/- A character that stands for itself. -/
def escapeChar (c : Char) : List Char :=
  if c = '{' then ['{', '{'] else [c]

/- Double the opening braces of a text. -/
def escape (text : List Char) : List Char :=
  text.flatMap escapeChar

@[simp]
theorem escape_nil : escape [] = [] := rfl

@[simp]
theorem escape_cons
    (c : Char)
    (text : List Char) :
    escape (c :: text) = escapeChar c ++ escape text := rfl

------------------------------------------------------------
-- Rendering Doubled Braces
------------------------------------------------------------

section

variable {cells : List Cell}

/- A doubled brace is written as one, whatever follows. -/
theorem run_brace_append
    (more : List Char)
    (tracker : Tracker)
    (sink : Sink) :
    run cells (['{', '{'] ++ more) tracker sink =
      run cells more tracker (sink.write ['{']) := by
  have hNext :
      Scanner.next? (['{', '{'] ++ more) =
        some (.brace, more) := rfl
  rw [run_of_more hNext rfl]
  rfl

/- An escaped character is written as it is. -/
theorem run_escapeChar_append
    (c : Char)
    (more : List Char)
    (tracker : Tracker)
    (sink : Sink) :
    run cells (escapeChar c ++ more) tracker sink =
      run cells more tracker (sink.write [c]) := by
  unfold escapeChar
  split
  · rename_i hBrace
    rw [hBrace]
    exact run_brace_append more tracker sink
  · rename_i hOther
    have hLiteral : '{' ∉ [c] := by
      simpa [eq_comm] using hOther
    exact run_literal_append hLiteral more tracker sink

/-
  Escaped text in front of any text is written as it is, and
  leaves the tracker alone.
-/
theorem run_escape_append
    (text more : List Char)
    (tracker : Tracker)
    (sink : Sink) :
    run cells (escape text ++ more) tracker sink =
      run cells more tracker (sink.write text) := by
  induction text generalizing sink with
  | nil => simp
  | cons c text ih =>
      rw [escape_cons, List.append_assoc,
        run_escapeChar_append, ih, ← Sink.write_append]
      rfl

/- Escaped text by itself is written as it is. -/
theorem run_escape
    (text : List Char)
    (tracker : Tracker)
    (sink : Sink) :
    run cells (escape text) tracker sink =
      (tracker, sink.write text) := by
  have hRun :
      run cells (escape text ++ []) tracker sink =
        run cells [] tracker (sink.write text) :=
    run_escape_append text [] tracker sink
  rwa [List.append_nil, run_nil] at hRun

end

------------------------------------------------------------
-- Tokens of Escaped Text
------------------------------------------------------------

/- From the first brace on, the text is escaped. -/
theorem dropWhile_escape
    (text : List Char) :
    (escape text).dropWhile (· != '{') =
      escape (text.dropWhile (· != '{')) := by
  induction text with
  | nil => rfl
  | cons c text ih =>
      by_cases hBrace : c = '{'
      · simp [escapeChar, hBrace]
      · simp [escapeChar, hBrace, ih]

/-
  Escaped text begins with a doubled brace or with literal
  text, and escaped text is left behind.
-/
theorem next?_escape
    {text unread : List Char}
    {token : Token}
    (hNext :
      Scanner.next? (escape text) = some (token, unread)) :
    (token = .brace ∨ ∃ lit, token = .literal lit) ∧
      ∃ rest, unread = escape rest := by
  cases text with
  | nil => cases hNext
  | cons c text =>
      rw [escape_cons] at hNext
      unfold escapeChar at hNext
      split at hNext
      · cases hNext
        exact ⟨.inl rfl, text, rfl⟩
      · rename_i hOther
        rw [List.singleton_append,
          Scanner.next?_literal_cons hOther] at hNext
        cases hNext
        refine ⟨.inr ⟨_, rfl⟩,
          text.dropWhile (· != '{'), ?_⟩
        simp [hOther, dropWhile_escape]

/-
  A run only ever sees escaped text, so every token it takes
  is a doubled brace or literal text.
-/
theorem token_of_mem_visits_escape
    {cells : List Cell}
    {text : List Char}
    {tracker : Tracker}
    {v : Visit}
    (hVisit : v ∈ visits cells (escape text) tracker) :
    v.token = .brace ∨ ∃ lit, v.token = .literal lit := by
  generalize hEscaped : escape text = escaped at hVisit
  induction escaped, tracker using run_induction cells
    generalizing text with
  | nil tracker => simp at hVisit
  | stop escaped tracker token unread hNext hStop =>
      rw [← hEscaped] at hNext
      rcases (next?_escape hNext).1 with rfl | ⟨lit, rfl⟩
      · cases hStop
      · cases hStop
  | more escaped tracker token unread rest tracker' hNext
      hMore ih =>
      rw [visits_of_more hNext hMore] at hVisit
      rw [← hEscaped] at hNext
      rcases next?_escape hNext with ⟨hToken, left, hLeft⟩
      have hRest : unread = rest := by
        rcases hToken with rfl | ⟨lit, rfl⟩
        · cases hMore
          rfl
        · cases hMore
          rfl
      rcases List.mem_cons.mp hVisit with hFirst | hLater
      · rw [hFirst]
        exact hToken
      · exact ih (hLeft.symm.trans hRest) hLater

/- Escaped text draws no cell. -/
theorem segments_escape
    {cells : List Cell}
    {text : List Char}
    {tracker : Tracker}
    {s : Segment}
    (hSegment :
      s ∈ segments cells (escape text) tracker) :
    ∃ t, s = .text t := by
  rcases List.mem_flatMap.mp hSegment with ⟨v, hVisit, hv⟩
  have hToken := token_of_mem_visits_escape hVisit
  rcases v with ⟨token, unread, tracker'⟩
  rcases hToken with rfl | ⟨lit, rfl⟩
  · exact ⟨_, List.mem_singleton.mp hv⟩
  · exact ⟨_, List.mem_singleton.mp hv⟩

------------------------------------------------------------
-- Rendering Escaped Text
------------------------------------------------------------

/-
  Escaping is undone by rendering.  Escaped text is written
  as it was, draws no cell and leaves no record, and behind
  a complete piece it adds itself to what the piece writes.
-/
theorem render_escape
    (cells : List Cell)
    (text : List Char) :
    render (String.ofList (escape text)) cells =
        { output :=
            String.ofList (text ++ Sink.resetSequence)
          log := [] } ∧
      (∀ tracker,
        after cells (escape text) tracker = tracker ∧
          ∀ s ∈ segments cells (escape text) tracker,
            ∃ t, s = .text t) ∧
      ∀ front, Complete cells front Tracker.fresh →
        (render (String.ofList front) cells).output =
            written cells front Tracker.fresh ++
              String.ofList Sink.resetSequence ∧
          (render (String.ofList (front ++ escape text))
              cells).output =
            written cells front Tracker.fresh ++
              String.ofList text ++
              String.ofList Sink.resetSequence ∧
          (render (String.ofList (front ++ escape text))
              cells).log =
            (render (String.ofList front) cells).log ∧
          ∀ sink,
            run cells (front ++ escape text) Tracker.fresh
                sink =
              (after cells front Tracker.fresh,
                (run cells front Tracker.fresh
                  sink).2.write text) := by
  refine ⟨?_, ?_, ?_⟩
  · unfold render renderInto
    rw [String.toList_ofList, run_escape, String.ofList_append]
    simp [Sink.reset, Sink.write]
  · intro tracker
    refine ⟨?_, fun s hSegment => segments_escape hSegment⟩
    unfold after
    rw [run_escape]
  · intro front hFront
    have hRun :
        ∀ sink,
          run cells (front ++ escape text) Tracker.fresh
              sink =
            (after cells front Tracker.fresh,
              (run cells front Tracker.fresh sink).2.write
                text) := by
      intro sink
      rw [run_append hFront, run_escape]
    refine ⟨?_, ?_, ?_, hRun⟩
    · unfold render renderInto
      rw [String.toList_ofList]
      rfl
    · unfold render renderInto
      rw [String.toList_ofList, hRun]
      rfl
    · unfold render renderInto
      rw [String.toList_ofList, String.toList_ofList, hRun]
      rfl

/-
  Braces in a row, in front of what would be a stop, and at
  the very end, behind an open style and a literal run.
-/
theorem render_escape_behind_open_style :
    Complete [.uint8 7] "\x7b#1\x7d\x7b\x7da".toList
        Tracker.fresh ∧
      (render
          (String.ofList
            ("\x7b#1\x7d\x7b\x7da".toList ++
              escape "\x7b\x7b-\x7d\x7d\x7b".toList))
          [.uint8 7]).output =
        written [.uint8 7] "\x7b#1\x7d\x7b\x7da".toList
            Tracker.fresh ++
          String.ofList "\x7b\x7b-\x7d\x7d\x7b".toList ++
          String.ofList Sink.resetSequence := by
  have hComplete :
      Complete [.uint8 7] "\x7b#1\x7d\x7b\x7da".toList
        Tracker.fresh := by
    decide +kernel
  have hEscape :=
    (render_escape [.uint8 7]
      "\x7b\x7b-\x7d\x7d\x7b".toList).2.2 _ hComplete
  exact ⟨hComplete, hEscape.2.1⟩

end Render

end FactLayout
