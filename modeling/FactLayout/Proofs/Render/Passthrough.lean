import FactLayout.Proofs.Render.Visit
import FactLayout.Proofs.Template.Item

/-
  Rendering without cells.

  Without cells a guard names nothing, so it opens no block
  and skips no text, and no marker finds anything to close.
  A template that opens no style and does not stop is then
  written back token by token.

  Key definitions include:
    * `Directive.IsPassive`
    * `Token.IsPassive`
    * `Token.passed`
    * `Tracker.IsClosed`

  Main results:
    * `Visit.next?_of_isPassive`
    * `Visit.act_of_isPassive`
    * `visits_of_isPassive`
    * `render_without_cells`
-/

------------------------------------------------------------
-- Passive Tokens
------------------------------------------------------------

namespace FactLayout

/- A directive that neither stops nor opens a style. -/
def Directive.IsPassive : Directive → Prop
| stop => False
| color _ => False
| _ => True

instance : (d : Directive) → Decidable d.IsPassive
| .stop => .isFalse id
| .color _ => .isFalse id
| .close _ => .isTrue trivial
| .guard .. => .isTrue trivial
| .argument _ => .isTrue trivial

namespace Token

/- Any token but a stop and the opening of a style. -/
def IsPassive : Token → Prop
| placeholder body _ => (Directive.ofBody body).IsPassive
| _ => True

instance : (token : Token) → Decidable token.IsPassive
| .literal _ => .isTrue trivial
| .brace => .isTrue trivial
| .empty _ => .isTrue trivial
| .placeholder body _ =>
    inferInstanceAs
      (Decidable (Directive.ofBody body).IsPassive)

/-
  What a token is written as if it is not carried out.  A
  doubled brace is written once.
-/
def passed : Token → List Char
| brace => ['{']
| token => token.source

end Token

/- The tokens of a template make up the template. -/
theorem Scanner.flatMap_source_tokens
    (text : List Char) :
    (tokens text).flatMap Token.source = text := by
  have hSource :
      ∀ token : Token,
        (Item.ofToken token).source = token.source := by
    intro token
    rw [← Item.source_token, Item.token_ofToken]
  have hPrint := Item.print_read text
  unfold Item.print Item.read at hPrint
  rw [List.flatMap_map] at hPrint
  simpa only [hSource] using hPrint

------------------------------------------------------------
-- Trackers Without Open Blocks
------------------------------------------------------------

namespace Tracker

/- No block is open. -/
def IsClosed (t : Tracker) : Prop :=
  ∀ b, t.openCount b = 0

theorem isClosed_fresh : fresh.IsClosed := by
  intro b
  cases b <;> rfl

theorem IsClosed.advance
    {t : Tracker}
    (hClosed : t.IsClosed) :
    t.advance.IsClosed := by
  intro b
  rw [openCount_advance]
  exact hClosed b

end Tracker

namespace Render

------------------------------------------------------------
-- Visits Without Cells
------------------------------------------------------------

/- No reference names a cell of an empty list. -/
theorem referent?_nil
    (reference : List Char) :
    referent? [] reference = none := by
  unfold referent?
  cases Reference.position? reference with
  | none => rfl
  | some position => rfl

namespace Visit

/- A passive directive stays where it is. -/
theorem directiveMove_of_isPassive
    {d : Directive}
    {tracker : Tracker}
    (hPassive : d.IsPassive)
    (hClosed : tracker.IsClosed) :
    directiveMove [] tracker d = .stay := by
  cases d with
  | stop => exact hPassive.elim
  | color code => exact hPassive.elim
  | close block => exact if_pos (hClosed block)
  | guard reference negated =>
      simp only [directiveMove, referent?_nil]
  | argument reference => rfl

/- A passive directive is echoed. -/
theorem directiveSegments_of_isPassive
    {d : Directive}
    {tracker : Tracker}
    (hPassive : d.IsPassive)
    (hClosed : tracker.IsClosed)
    (source : List Char) :
    directiveSegments [] tracker source d =
      [.text source] := by
  cases d with
  | stop => exact hPassive.elim
  | color code => exact hPassive.elim
  | close block => exact if_pos (hClosed block)
  | guard reference negated =>
      simp only [directiveSegments, referent?_nil]
  | argument reference =>
      simp only [directiveSegments]
      cases Reference.position? reference with
      | none => rfl
      | some position => rfl

variable {v : Visit}

/-
  Behind a passive token a run goes on with the text that
  follows it, and still nothing is open.
-/
theorem next?_of_isPassive
    (hPassive : v.token.IsPassive)
    (hClosed : v.tracker.IsClosed) :
    ∃ tracker', v.next? [] = some (v.unread, tracker') ∧
      tracker'.IsClosed := by
  rcases v with ⟨token, unread, tracker⟩
  cases token with
  | literal text => exact ⟨tracker, rfl, hClosed⟩
  | brace => exact ⟨tracker, rfl, hClosed⟩
  | empty closed =>
      exact ⟨tracker.advance, rfl, hClosed.advance⟩
  | placeholder body closed =>
      have hMove :
          move [] ⟨.placeholder body closed, unread, tracker⟩ =
            .stay :=
        directiveMove_of_isPassive hPassive hClosed
      refine ⟨tracker, ?_, hClosed⟩
      unfold next?
      rw [hMove]
      rfl

/- A passive token is all that its visit puts. -/
theorem segments_of_isPassive
    (hPassive : v.token.IsPassive)
    (hClosed : v.tracker.IsClosed) :
    v.segments [] = [.text v.token.passed] := by
  rcases v with ⟨token, unread, tracker⟩
  cases token with
  | literal text => rfl
  | brace => rfl
  | empty closed => rfl
  | placeholder body closed =>
      exact
        directiveSegments_of_isPassive hPassive hClosed _

/- A visit that skips nothing reports nothing. -/
theorem records_of_isPassive
    (hPassive : v.token.IsPassive)
    (hClosed : v.tracker.IsClosed) :
    v.records [] = [] := by
  rcases v with ⟨token, unread, tracker⟩
  cases token with
  | placeholder body closed =>
      simp only [records, move,
        directiveMove_of_isPassive hPassive hClosed]
  | _ => rfl

/- A visit to a passive token writes the token back. -/
theorem act_of_isPassive
    (hPassive : v.token.IsPassive)
    (hClosed : v.tracker.IsClosed)
    (sink : Sink) :
    v.act [] sink = sink.write v.token.passed := by
  unfold act
  rw [segments_of_isPassive hPassive hClosed,
    records_of_isPassive hPassive hClosed]
  rfl

end Visit

------------------------------------------------------------
-- Runs Without Cells
------------------------------------------------------------

section

variable {text : List Char}
variable {tracker : Tracker}

/-
  A run over passive tokens visits all of them, and opens
  nothing on its way.
-/
theorem visits_of_isPassive
    (hPassive :
      ∀ token ∈ Scanner.tokens text, token.IsPassive)
    (hClosed : tracker.IsClosed) :
    (visits [] text tracker).map Visit.token =
        Scanner.tokens text ∧
      ∀ v ∈ visits [] text tracker, v.tracker.IsClosed := by
  induction text, tracker using run_induction [] with
  | nil tracker => simp
  | stop text tracker token unread hNext hStop =>
      have hTokens := Scanner.tokens_of_next? hNext
      have hFirst : token.IsPassive :=
        hPassive token (by simp [hTokens])
      rcases Visit.next?_of_isPassive
          (v := ⟨token, unread, tracker⟩) hFirst hClosed with
        ⟨tracker', hMore, -⟩
      rw [hStop] at hMore
      cases hMore
  | more text tracker token unread rest tracker' hNext
      hMore ih =>
      have hTokens := Scanner.tokens_of_next? hNext
      have hFirst : token.IsPassive :=
        hPassive token (by simp [hTokens])
      rcases Visit.next?_of_isPassive
          (v := ⟨token, unread, tracker⟩) hFirst hClosed with
        ⟨left, hLeft, hStill⟩
      rw [hMore] at hLeft
      cases hLeft
      have hLater :
          ∀ next ∈ Scanner.tokens unread,
            next.IsPassive := by
        intro next hNextToken
        apply hPassive
        rw [hTokens]
        exact List.mem_cons_of_mem _ hNextToken
      rcases ih hLater hStill with ⟨hMap, hAll⟩
      rw [visits_of_more hNext hMore, hTokens]
      constructor
      · rw [List.map_cons, hMap]
      · intro v hVisit
        rcases List.mem_cons.mp hVisit with rfl | hVisit
        · exact hClosed
        · exact hAll v hVisit

/- Visits to passive tokens write the tokens in order. -/
theorem foldl_act_of_isPassive
    {vs : List Visit}
    (hPassive : ∀ v ∈ vs, v.token.IsPassive)
    (hClosed : ∀ v ∈ vs, v.tracker.IsClosed)
    (sink : Sink) :
    vs.foldl (fun s v => v.act [] s) sink =
      sink.write
        ((vs.map Visit.token).flatMap Token.passed) := by
  induction vs generalizing sink with
  | nil => simp
  | cons v vs ih =>
      have hFirst :
          v.act [] sink = sink.write v.token.passed :=
        Visit.act_of_isPassive
          (hPassive v List.mem_cons_self)
          (hClosed v List.mem_cons_self) sink
      rw [List.foldl_cons, hFirst, ih
        (fun w hw => hPassive w (List.mem_cons_of_mem _ hw))
        (fun w hw => hClosed w (List.mem_cons_of_mem _ hw)),
        List.map_cons, List.flatMap_cons,
        Sink.write_append]

/- A run over passive tokens writes them back. -/
theorem sink_run_of_isPassive
    (hPassive :
      ∀ token ∈ Scanner.tokens text, token.IsPassive)
    (hClosed : tracker.IsClosed)
    (sink : Sink) :
    (run [] text tracker sink).2 =
      sink.write
        ((Scanner.tokens text).flatMap Token.passed) := by
  rcases visits_of_isPassive hPassive hClosed with
    ⟨hTokens, hAll⟩
  have hVisits :
      ∀ v ∈ visits [] text tracker, v.token.IsPassive := by
    intro v hVisit
    apply hPassive
    rw [← hTokens]
    exact List.mem_map_of_mem hVisit
  rw [sink_run, foldl_act_of_isPassive hVisits hAll, hTokens]

end

------------------------------------------------------------
-- Templates Without Cells
------------------------------------------------------------

/-
  A template that opens no style and does not stop is made
  up of its tokens.  Rendered without cells, it is written
  back token by token, with doubled braces written once.
  All of it is visited, and nothing is reported.
-/
theorem render_without_cells
    (template : String)
    (hPassive :
      ∀ token ∈ Scanner.tokens template.toList,
        token.IsPassive) :
    (Scanner.tokens template.toList).flatMap Token.source =
        template.toList ∧
      render template [] =
        { output :=
            String.ofList
              ((Scanner.tokens template.toList).flatMap
                  Token.passed ++
                Sink.resetSequence)
          log := [] } ∧
      (visits [] template.toList Tracker.fresh).map
          Visit.token =
        Scanner.tokens template.toList := by
  have hFresh := Tracker.isClosed_fresh
  refine ⟨Scanner.flatMap_source_tokens _, ?_,
    (visits_of_isPassive hPassive hFresh).1⟩
  unfold render renderInto
  rw [sink_run_of_isPassive hPassive hFresh]
  simp [Sink.reset, Sink.write, String.ofList_append]

/-
  Doubled braces, guards with markers that close nothing, a
  reference to zero, and a guard cut off by the end.
-/
theorem render_without_cells_unmatched_markers :
    (∀ token ∈
        Scanner.tokens
          "\x7b\x7b\x7d\x7b?1\x7da\x7b?\x7d\x7b/\x7d\x7b#\x7d\x7b\x7d\x7b0\x7d\x7b/2".toList,
        token.IsPassive) ∧
      (render
          "\x7b\x7b\x7d\x7b?1\x7da\x7b?\x7d\x7b/\x7d\x7b#\x7d\x7b\x7d\x7b0\x7d\x7b/2"
          []).output =
        "\x7b\x7d\x7b?1\x7da\x7b?\x7d\x7b/\x7d\x7b#\x7d\x7b\x7d\x7b0\x7d\x7b/2" ++
          String.ofList Sink.resetSequence := by
  have hPassive :
      ∀ token ∈
        Scanner.tokens
          "\x7b\x7b\x7d\x7b?1\x7da\x7b?\x7d\x7b/\x7d\x7b#\x7d\x7b\x7d\x7b0\x7d\x7b/2".toList,
        token.IsPassive := by
    decide +kernel
  refine ⟨hPassive, ?_⟩
  rw [(render_without_cells _ hPassive).2.1]
  decide +kernel

end Render

end FactLayout
