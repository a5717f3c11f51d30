import FactLayout.Proofs.Render.Visit
import FactLayout.Proofs.Template.Marker

/-
  Rendering a template piece by piece.

  A piece of a template is complete if its run comes to the
  end of the piece and leaves nothing unfinished there.  A
  complete piece is rendered in front of any text as it is
  rendered alone, and the text behind it goes on from the
  tracker it leaves.

  Key definitions include:
    * `Visit.IsSettled`
    * `Complete`

  Main results:
    * `Complete.induction`
    * `run_literal_append`
    * `run_append`
    * `render_append_of_complete`
-/

------------------------------------------------------------
-- Complete Pieces
------------------------------------------------------------

namespace FactLayout

namespace Render

/-
  A move that more text behind the unread text cannot
  change: it is no stop, and a skip finds its marker.
-/
def Move.Settles
    (unread : List Char) : Move → Prop
| stop => False
| skip block =>
    (Scanner.skipPast block.marker unread).1 = true
| _ => True

instance (unread : List Char) (m : Move) :
    Decidable (m.Settles unread) := by
  cases m <;> unfold Move.Settles <;> infer_instance

namespace Move

/- A move that settles goes on. -/
theorem Settles.next?_ne_none
    {unread : List Char}
    {m : Move}
    (hSettles : m.Settles unread)
    (tracker : Tracker) :
    m.next? unread tracker ≠ none := by
  cases m with
  | stop => exact hSettles.elim
  | _ => simp [next?]

/- A move that settles does so in front of more text. -/
theorem Settles.append
    {unread : List Char}
    {m : Move}
    (hSettles : m.Settles unread)
    (more : List Char) :
    m.Settles (unread ++ more) := by
  cases m with
  | stop => exact hSettles.elim
  | skip block =>
      simp only [Settles]
      rw [Scanner.skipPast_append hSettles more]
  | _ => trivial

/- More text lies behind where a move that settles ends. -/
theorem Settles.next?_append
    {unread rest : List Char}
    {tracker tracker' : Tracker}
    {m : Move}
    (hSettles : m.Settles unread)
    (hNext : m.next? unread tracker = some (rest, tracker'))
    (more : List Char) :
    m.next? (unread ++ more) tracker =
      some (rest ++ more, tracker') := by
  cases m with
  | stop => exact hSettles.elim
  | skip block =>
      cases hNext
      simp only [next?]
      rw [Scanner.skipPast_append hSettles more]
  | _ => cases hNext; rfl

end Move

/-
  A visit to a token that is not cut off, with a move that
  settles.
-/
def Visit.IsSettled
    (cells : List Cell)
    (v : Visit) : Prop :=
  v.token.isClosed = true ∧ (v.move cells).Settles v.unread

instance (cells : List Cell) (v : Visit) :
    Decidable (v.IsSettled cells) := by
  unfold Visit.IsSettled
  infer_instance

/-
  A text whose run comes to its end without a stop, without
  a placeholder or a brace that is cut off, and with every
  skip ending at a marker.
-/
def Complete
    (cells : List Cell)
    (text : List Char)
    (tracker : Tracker) : Prop :=
  ∀ v ∈ visits cells text tracker, v.IsSettled cells

instance (cells : List Cell) (text : List Char)
    (tracker : Tracker) :
    Decidable (Complete cells text tracker) := by
  unfold Complete
  infer_instance

theorem complete_nil
    (cells : List Cell)
    (tracker : Tracker) :
    Complete cells [] tracker := by
  simp [Complete]

/-
  Induction over a complete run: every visit settles, and
  what it leaves is complete.
-/
@[elab_as_elim]
theorem Complete.induction
    {cells : List Cell}
    {motive : ∀ text tracker,
      Complete cells text tracker → Prop}
    (nil : ∀ tracker,
      motive [] tracker (complete_nil cells tracker))
    (visit : ∀ text tracker token unread rest tracker'
      (hComplete : Complete cells text tracker)
      (_ : Scanner.next? text = some (token, unread))
      (_ : Visit.IsSettled cells ⟨token, unread, tracker⟩)
      (_ : Visit.next? cells ⟨token, unread, tracker⟩ =
        some (rest, tracker'))
      (hRest : Complete cells rest tracker'),
      motive rest tracker' hRest →
      motive text tracker hComplete)
    {text : List Char}
    {tracker : Tracker}
    (hComplete : Complete cells text tracker) :
    motive text tracker hComplete := by
  induction text, tracker using run_induction cells with
  | nil tracker => exact nil tracker
  | stop text tracker token unread hNext hStop =>
      have hSettled :
          Visit.IsSettled cells ⟨token, unread, tracker⟩ :=
        hComplete _ (by
          rw [visits_of_stop hNext hStop]
          simp)
      exact absurd hStop
        (hSettled.2.next?_ne_none tracker)
  | more text tracker token unread rest tracker' hNext
      hMore ih =>
      have hVisits := visits_of_more hNext hMore
      have hSettled :
          Visit.IsSettled cells ⟨token, unread, tracker⟩ :=
        hComplete _ (by
          rw [hVisits]
          simp)
      have hRest : Complete cells rest tracker' := by
        intro v hv
        apply hComplete
        rw [hVisits]
        exact List.mem_cons_of_mem _ hv
      exact visit text tracker token unread rest tracker'
        hComplete hNext hSettled hMore hRest (ih hRest)

------------------------------------------------------------
-- Visits in Front of More Text
------------------------------------------------------------

namespace Visit

/- A visit with more text behind it. -/
def followedBy
    (v : Visit)
    (more : List Char) : Visit :=
  { v with unread := v.unread ++ more }

@[simp]
theorem segments_followedBy
    (cells : List Cell)
    (v : Visit)
    (more : List Char) :
    (v.followedBy more).segments cells =
      v.segments cells := rfl

/- A visit that settles has nothing to report. -/
theorem records_of_isSettled
    {cells : List Cell}
    {v : Visit}
    (hSettled : v.IsSettled cells) :
    v.records cells = [] := by
  rcases hSettled with ⟨-, hMove⟩
  unfold records
  split
  · rename_i hKind
    rw [hKind] at hMove
    exact if_pos hMove
  · rfl

/- A visit that settles makes the same of a sink. -/
theorem act_followedBy
    {cells : List Cell}
    {v : Visit}
    (hSettled : v.IsSettled cells)
    (more : List Char)
    (sink : Sink) :
    (v.followedBy more).act cells sink =
      v.act cells sink := by
  have hMore : (v.followedBy more).IsSettled cells :=
    ⟨hSettled.1, hSettled.2.append more⟩
  unfold act
  rw [records_of_isSettled hSettled,
    records_of_isSettled hMore, segments_followedBy]

end Visit

------------------------------------------------------------
-- Runs in Front of More Text
------------------------------------------------------------

section

variable {cells : List Cell}

/- Literal text in front of an opening brace is one token. -/
theorem run_literal
    {text rest : List Char}
    (hText : '{' ∉ text)
    (hRest : ∀ c ∈ rest.head?, c = '{')
    (tracker : Tracker)
    (sink : Sink) :
    run cells (text ++ rest) tracker sink =
      run cells rest tracker (sink.write text) := by
  by_cases hNil : text = []
  · rw [hNil, List.nil_append, Sink.write_nil]
  · have hLexeme : (Token.literal text).IsLexeme :=
      ⟨hNil, hText⟩
    have hPrecede : (Token.literal text).CanPrecede rest :=
      ⟨by simp [Token.isClosed], fun _ => hRest⟩
    have hNext :
        Scanner.next? (text ++ rest) =
          some (.literal text, rest) :=
      Scanner.next?_source_append hLexeme hPrecede
    rw [run_of_more hNext rfl]
    rfl

/-
  Literal text is written even if it is not a token, because
  more literal text follows.
-/
theorem run_literal_append
    {text : List Char}
    (hText : '{' ∉ text)
    (more : List Char)
    (tracker : Tracker)
    (sink : Sink) :
    run cells (text ++ more) tracker sink =
      run cells more tracker (sink.write text) := by
  have hSplit :=
    List.takeWhile_append_dropWhile
      (p := (· != '{')) (l := more)
  have hLiteral := Scanner.not_mem_takeWhile '{' more
  have hRest :
      ∀ c ∈ (more.dropWhile (· != '{')).head?, c = '{' :=
    fun _ hc => Scanner.eq_of_mem_head?_dropWhile hc
  have hBoth :
      '{' ∉ text ++ more.takeWhile (· != '{') := by
    intro hMem
    rcases List.mem_append.mp hMem with hMem | hMem
    · exact hText hMem
    · exact hLiteral hMem
  calc
    run cells (text ++ more) tracker sink
    _ = run cells (text ++ more.takeWhile (· != '{') ++
          more.dropWhile (· != '{')) tracker sink := by
        rw [List.append_assoc, hSplit]
    _ = run cells (more.dropWhile (· != '{')) tracker
          ((sink.write text).write
            (more.takeWhile (· != '{'))) := by
        rw [run_literal hBoth hRest, Sink.write_append]
    _ = run cells more tracker (sink.write text) := by
        rw [← run_literal hLiteral hRest, hSplit]

/-
  A complete piece is rendered as if it stood alone, and the
  text behind it goes on from there.
-/
theorem run_append
    {text : List Char}
    {tracker : Tracker}
    (hComplete : Complete cells text tracker)
    (more : List Char)
    (sink : Sink) :
    run cells (text ++ more) tracker sink =
      run cells more (after cells text tracker)
        (run cells text tracker sink).2 := by
  induction hComplete using Complete.induction
    generalizing sink with
  | nil tracker => simp
  | visit text tracker token unread rest tracker' _ hNext
      hSettled hMore _ ih =>
      rw [after_of_more hNext hMore,
        run_of_more hNext hMore, ← ih]
      have hSource := Scanner.source_append_of_next? hNext
      have hLexeme := (Scanner.isLexeme_of_next? hNext).1
      by_cases hLiteral : token.isLiteral = true
      · cases token with
        | literal lit =>
            cases hMore
            rw [← hSource, List.append_assoc]
            exact run_literal_append hLexeme.2 _ _ _
        | _ => cases hLiteral
      · -- A closed token that is no literal text is taken
        -- off whatever follows.
        have hPrecede :
            token.CanPrecede (unread ++ more) := by
          constructor
          · intro hOpen
            rw [hSettled.1] at hOpen
            cases hOpen
          · intro hKind
            exact absurd hKind hLiteral
        have hNextMore :
            Scanner.next? (text ++ more) =
              some (token, unread ++ more) := by
          rw [← hSource, List.append_assoc]
          exact Scanner.next?_source_append hLexeme hPrecede
        rw [run_of_more hNextMore
          (hSettled.2.next?_append hMore more)]
        congr 1
        exact Visit.act_followedBy hSettled more sink

/- A complete piece and the text behind it write in turn. -/
theorem written_append
    {text : List Char}
    {tracker : Tracker}
    (hComplete : Complete cells text tracker)
    (more : List Char) :
    written cells (text ++ more) tracker =
      written cells text tracker ++
        written cells more (after cells text tracker) := by
  rw [written, run_append hComplete, output_run, ← written]

/- A stop keeps whatever is behind it from being rendered. -/
theorem run_stop
    (more : List Char)
    (tracker : Tracker)
    (sink : Sink) :
    run cells (['{', '-', '}'] ++ more) tracker sink =
      (tracker, sink) := by
  have hNext :
      Scanner.next? (['{', '-', '}'] ++ more) =
        some (.placeholder ['-'] true, more) := rfl
  rw [run_of_stop hNext rfl]
  rfl

end

------------------------------------------------------------
-- Composing Templates
------------------------------------------------------------

/- A rendering goes on behind a complete piece. -/
theorem render_append
    {cells : List Cell}
    {front : List Char}
    (hFront : Complete cells front Tracker.fresh)
    (more : List Char) :
    render (String.ofList (front ++ more)) cells =
      (run cells more (after cells front Tracker.fresh)
        (run cells front Tracker.fresh {}).2).2.reset := by
  unfold render renderInto
  rw [String.toList_ofList, run_append hFront]

/-
  A complete piece composes with any text behind it, and
  with a stop in between the text behind is not rendered.
-/
theorem render_append_of_complete
    (cells : List Cell)
    (text : List Char) :
    (∀ tracker, Complete cells text tracker →
      ∀ more : List Char,
        written cells (text ++ more) tracker =
            written cells text tracker ++
              written cells more
                (after cells text tracker) ∧
          ∀ sink,
            run cells (text ++ more) tracker sink =
              run cells more (run cells text tracker sink).1
                (run cells text tracker sink).2) ∧
      (Complete cells text Tracker.fresh →
        ∀ more : List Char,
          render
              (String.ofList
                (text ++ ['{', '-', '}'] ++ more)) cells =
            render (String.ofList text) cells) := by
  constructor
  · intro tracker hComplete more
    refine ⟨written_append hComplete more, ?_⟩
    intro sink
    rw [tracker_run]
    exact run_append hComplete more sink
  · intro hComplete more
    rw [List.append_assoc, render_append hComplete, run_stop]
    unfold render renderInto
    rw [String.toList_ofList]

/-
  A piece that opens a style, skips a stop and ends in the
  middle of literal text.
-/
theorem render_append_of_skipped_stop :
    Complete [.null]
        "\x7b#1\x7d\x7b?1\x7d\x7b-\x7d\x7b?\x7da".toList
        Tracker.fresh ∧
      written [.null]
          ("\x7b#1\x7d\x7b?1\x7d\x7b-\x7d\x7b?\x7da".toList ++
            "b\x7b#\x7d".toList) Tracker.fresh =
        written [.null]
            "\x7b#1\x7d\x7b?1\x7d\x7b-\x7d\x7b?\x7da".toList
            Tracker.fresh ++
          written [.null] "b\x7b#\x7d".toList
            (after [.null]
              "\x7b#1\x7d\x7b?1\x7d\x7b-\x7d\x7b?\x7da".toList
              Tracker.fresh) ∧
      render
          (String.ofList
            ("\x7b#1\x7d\x7b?1\x7d\x7b-\x7d\x7b?\x7da".toList ++
              ['{', '-', '}'] ++ "b\x7b#\x7d".toList))
          [.null] =
        render
          (String.ofList
            "\x7b#1\x7d\x7b?1\x7d\x7b-\x7d\x7b?\x7da".toList)
          [.null] := by
  have hComplete :
      Complete [.null]
        "\x7b#1\x7d\x7b?1\x7d\x7b-\x7d\x7b?\x7da".toList
        Tracker.fresh := by
    decide +kernel
  refine ⟨hComplete, ?_, ?_⟩
  · exact
      ((render_append_of_complete _ _).1 _ hComplete _).1
  · exact (render_append_of_complete _ _).2 hComplete _

end Render

end FactLayout
