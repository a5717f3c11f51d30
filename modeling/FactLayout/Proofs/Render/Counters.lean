import FactLayout.Proofs.Render.Calls
import FactLayout.Proofs.Render.Directive
import FactLayout.Proofs.Render.Stages

/-
  Counters that do not overflow.

  A run only ever moves its tracker by calls, and which calls
  it makes does not depend on what is counted.  So the same
  calls can be counted without a bound.  What is counted is
  paid for by the bytes in front of the cursor, hence the
  words of a tracker hold the unbounded counts throughout any
  template that is not too large.  One byte more is too much.

  Key definitions include:
    * `Tracker.tally`
    * `Visit.call?`
    * `calls`

  Main results:
    * `Tracker.isGreatest_tally`
    * `tracker_of_mem_visits`
    * `weight_le_of_mem_stages`
    * `openCount_lt_maxCount_of_enter`
    * `openCount_eq_tally`
    * `counters_never_wrap`
    * `exists_wrap`
-/

------------------------------------------------------------
-- Unbounded Counts
------------------------------------------------------------

namespace FactLayout

namespace Tracker

/-
  The number of blocks of a kind that a list of calls leaves
  open, counted up and down without an upper bound.
-/
def tally
    (b : Block)
    (calls : List Call) : Nat :=
  calls.foldl
    (fun n c => ((n : ℤ) + c.effect b).toNat) 0

@[simp]
theorem tally_nil
    (b : Block) :
    tally b [] = 0 := rfl

@[simp]
theorem tally_concat
    (b : Block)
    (calls : List Call)
    (c : Call) :
    tally b (calls ++ [c]) =
      (tally b calls + c.effect b).toNat := by
  simp [tally]

/-
  The unbounded count is the largest surplus of openings that
  calls at the end have, however many calls there are.
-/
theorem isGreatest_tally
    (b : Block)
    (calls : List Call) :
    IsGreatest (surpluses b calls) (tally b calls) := by
  induction calls using List.reverseRecOn with
  | nil => exact isGreatest_surpluses_nil b
  | append_singleton calls c ih =>
      rw [tally_concat, Int.toNat_eq_max, max_comm]
      exact isGreatest_surpluses_concat ih c

/-
  A word that holds the unbounded count still does so behind
  a call, unless the call opens a block on top of the largest
  count.
-/
theorem openCount_perform_eq_tally
    {t : Tracker}
    {b : Block}
    {calls : List Call}
    {c : Call}
    (hExact : t.openCount b = tally b calls)
    (hRoom : c = .open b → t.openCount b < maxCount) :
    (t.perform c).2.openCount b = tally b (calls ++ [c]) := by
  have hCount := openCount_perform hRoom
  rw [tally_concat, ← hExact]
  omega

/- Behind the largest count, a word comes back to zero. -/
theorem openCount_open_of_eq_maxCount
    {t : Tracker}
    {b : Block}
    (hLargest : t.openCount b = maxCount) :
    (t.open b).openCount b = 0 := by
  unfold openCount maxCount at *
  rw [Tracker.open, count_setCount, if_pos rfl,
    UInt32.toNat_add, hLargest]
  rfl

end Tracker

/- The end of a template cuts off one character at most. -/
theorem Token.missing_le_one
    (token : Token) :
    token.missing ≤ 1 := by
  unfold missing
  split <;> omega

namespace Render

------------------------------------------------------------
-- Calls of Visits
------------------------------------------------------------

namespace Visit

/- The call that a directive makes to the tracker. -/
def directiveCall?
    (cells : List Cell) : Directive → Option Tracker.Call
| .stop => none
| .close block => some (.close block)
| .guard reference negated =>
    match referent? cells reference with
    | none => none
    | some cell =>
        if cell.isSet != negated then
          some (.open (guardBlock negated))
        else none
| .color _ => some (.open .color)
| .argument _ => none

/-
  The call that a visit makes to the tracker.  It does not
  depend on the tracker.
-/
def call?
    (cells : List Cell)
    (v : Visit) : Option Tracker.Call :=
  match v.token with
  | .literal _ => none
  | .brace => none
  | .empty _ => some .next
  | .placeholder body _ =>
      directiveCall? cells (Directive.ofBody body)

end Visit

/- The calls that visits make, in order. -/
def calls
    (cells : List Cell)
    (vs : List Visit) : List Tracker.Call :=
  vs.filterMap (Visit.call? cells)

theorem calls_cons
    (cells : List Cell)
    (v : Visit)
    (vs : List Visit) :
    calls cells (v :: vs) =
      (v.call? cells).toList ++ calls cells vs := by
  unfold calls
  rw [List.filterMap_cons]
  cases v.call? cells <;> rfl

theorem calls_concat
    (cells : List Cell)
    (vs : List Visit)
    (v : Visit) :
    calls cells (vs ++ [v]) =
      calls cells vs ++ (v.call? cells).toList := by
  have hLast : calls cells [v] = (v.call? cells).toList :=
    (calls_cons cells v []).trans (List.append_nil _)
  rw [← hLast]
  exact List.filterMap_append

namespace Visit

section

variable {cells : List Cell}
variable {v : Visit}

/- A directive moves the tracker as its call does. -/
theorem tracker_of_directiveMove
    {tracker tracker' : Tracker}
    {unread rest : List Char}
    {d : Directive}
    (hNext :
      (directiveMove cells tracker d).next? unread tracker =
        some (rest, tracker')) :
    tracker' =
      tracker.performAll (directiveCall? cells d).toList := by
  cases d with
  | stop => cases hNext
  | color code =>
      cases hNext
      rfl
  | argument reference =>
      cases hNext
      rfl
  | close block =>
      by_cases hZero : tracker.openCount block = 0
      · rw [directiveMove, if_pos hZero] at hNext
        cases hNext
        have hRefused :=
          (Tracker.perform_close tracker block).2 hZero
        exact hRefused.symm
      · rw [directiveMove, if_neg hZero] at hNext
        cases hNext
        rcases Tracker.perform_close_of_some hZero with
          ⟨left, hClose, hPerform⟩
        rw [hClose]
        exact (congrArg Prod.snd hPerform).symm
  | guard reference negated =>
      simp only [directiveMove, directiveCall?] at hNext ⊢
      cases hCell : referent? cells reference with
      | none =>
          rw [hCell] at hNext
          cases hNext
          rfl
      | some cell =>
          simp only [hCell] at hNext ⊢
          by_cases hHolds : (cell.isSet != negated) = true
          · rw [if_pos hHolds] at hNext ⊢
            cases hNext
            rfl
          · rw [if_neg hHolds] at hNext ⊢
            cases hNext
            rfl

/- A visit moves the tracker by its call, if it makes one. -/
theorem tracker_of_next?
    {rest : List Char}
    {tracker' : Tracker}
    (hNext : v.next? cells = some (rest, tracker')) :
    tracker' =
      v.tracker.performAll (v.call? cells).toList := by
  rcases v with ⟨token, unread, tracker⟩
  cases token with
  | literal text =>
      cases hNext
      rfl
  | brace =>
      cases hNext
      rfl
  | empty closed =>
      cases hNext
      rfl
  | placeholder body closed =>
      exact tracker_of_directiveMove hNext

/- The visits that open a block are those that enter it. -/
theorem move_eq_enter_iff
    {block : Block} :
    v.move cells = .enter block ↔
      v.call? cells = some (.open block) := by
  rcases v with ⟨token, unread, tracker⟩
  cases token with
  | literal text => simp [move, call?]
  | brace => simp [move, call?]
  | empty closed => simp [move, call?]
  | placeholder body closed =>
      simp only [move, call?]
      cases Directive.ofBody body with
      | stop => simp [directiveMove, directiveCall?]
      | color code => simp [directiveMove, directiveCall?]
      | argument reference =>
          simp [directiveMove, directiveCall?]
      | close b =>
          simp only [directiveMove, directiveCall?]
          split <;> simp
      | guard reference negated =>
          simp only [directiveMove, directiveCall?]
          cases referent? cells reference with
          | none => simp
          | some cell =>
              simp only
              split <;> simp

/-
  A marker is written back exactly if no block of its kind is
  open.
-/
theorem segments_eq_source_iff
    {block : Block}
    (hClose : v.directive? = some (.close block)) :
    v.segments cells = [.text v.token.source] ↔
      v.tracker.openCount block = 0 := by
  rcases v with ⟨token, unread, tracker⟩
  cases token with
  | placeholder body closed =>
      have hBody : Directive.ofBody body = .close block :=
        Option.some.inj hClose
      simp only [segments, hBody, directiveSegments]
      by_cases hZero : tracker.openCount block = 0
      · simp [hZero, Token.source]
      · cases block <;>
          simp [hZero, Token.source, echo,
            Sink.resetSequence, Sink.styleSequence]
  | literal text => cases hClose
  | brace => cases hClose
  | empty closed => cases hClose

end

end Visit

/-
  The tracker in front of a visit is what the calls of the
  visits before it have made of the one in front of the run.
-/
theorem tracker_of_mem_visits
    {cells : List Cell}
    {text : List Char}
    {tracker : Tracker}
    {earlier later : List Visit}
    {v : Visit}
    (hVisits :
      visits cells text tracker = earlier ++ v :: later) :
    v.tracker = tracker.performAll (calls cells earlier) := by
  apply visits_induction
    (motive := fun earlier s =>
      s.tracker = tracker.performAll (calls cells earlier))
    _ _ hVisits
  · rfl
  · intro earlier w s _ hNext hStart
    rw [calls_concat, Tracker.performAll_append, ← hStart]
    exact Visit.tracker_of_next? hNext

------------------------------------------------------------
-- What Has Been Read
------------------------------------------------------------

section

variable {cells : List Cell}
variable {text : List Char}
variable {tracker : Tracker}

/-
  Behind a token no more is counted than has been read, but
  for one character that the end of the template may have cut
  off.
-/
theorem weight_finish_le
    {v : Visit}
    (hVisit : v ∈ visits cells text tracker) :
    (v.finish cells).tracker.weight +
        (v.finish cells).unread.length ≤
      tracker.weight + text.length + 1 := by
  have hWeight := weight_le_of_mem_visits hVisit
  have hMissing := v.token.missing_le_one
  unfold Visit.finish
  split
  · dsimp only
    omega
  · rename_i rest tracker' hNext
    have hStep := Visit.weight_next?_le hNext
    dsimp only
    omega

/- So it is at every stage of a run. -/
theorem weight_le_of_mem_stages
    {s : Stage}
    (hStage : s ∈ stages cells text tracker) :
    s.tracker.weight + s.unread.length ≤
      tracker.weight + text.length + 1 := by
  rcases mem_stages_cases hStage with
    rfl | ⟨v, hVisit, rfl | rfl⟩
  · exact Nat.le_succ _
  · have hWeight := weight_le_of_mem_visits hVisit
    simp only [Visit.start, List.length_append]
    omega
  · exact weight_finish_le hVisit

/- A brace at the very end uses up that one character. -/
example :
    ∃ s ∈ stages [] ['{'] Tracker.fresh,
      s.tracker.weight + s.unread.length =
        Tracker.fresh.weight + ['{'].length + 1 := by
  decide +kernel

end

------------------------------------------------------------
-- Room for Every Block
------------------------------------------------------------

section

variable {cells : List Cell}
variable {text : List Char}

/-
  A short text never opens a block on top of the largest
  count.
-/
theorem openCount_lt_maxCount_of_enter
    {v : Visit}
    {b : Block}
    (hShort : text.length ≤ maxTemplateSize)
    (hVisit : v ∈ visits cells text Tracker.fresh)
    (hEnter : v.move cells = .enter b) :
    v.tracker.openCount b < Tracker.maxCount := by
  have hWeight := weight_le_of_mem_visits hVisit
  have hFresh : Tracker.fresh.weight = 0 := rfl
  have hFour := v.tracker.four_mul_openCount_le_weight b
  have hCost := v.cost_move_le cells
  have hMissing := v.token.missing_le_one
  rw [hEnter, Move.cost] at hCost
  unfold maxTemplateSize at hShort
  omega

/-
  In a short text, the word of each kind of block is at every
  visit what the calls before it come to without a bound.
-/
theorem openCount_eq_tally
    {earlier later : List Visit}
    {v : Visit}
    (hShort : text.length ≤ maxTemplateSize)
    (hVisits :
      visits cells text Tracker.fresh =
        earlier ++ v :: later)
    (b : Block) :
    v.tracker.openCount b =
      Tracker.tally b (calls cells earlier) := by
  apply visits_induction
    (motive := fun earlier s =>
      s.tracker.openCount b =
        Tracker.tally b (calls cells earlier)) _ _ hVisits
  · cases b <;> rfl
  · intro earlier w s hVisit hNext hStart
    rw [calls_concat, Visit.tracker_of_next? hNext]
    cases hCall : w.call? cells with
    | none =>
        rw [Option.toList_none, List.append_nil]
        exact hStart
    | some c =>
        apply Tracker.openCount_perform_eq_tally hStart
        rintro rfl
        exact openCount_lt_maxCount_of_enter hShort hVisit
          (Visit.move_eq_enter_iff.mpr hCall)

end

/-
  The loop of a run makes the visits in their order, whatever
  it writes to, and stands at the stages only.  At each of
  them, four times the open blocks and twice the position are
  no more than the bytes it has passed and one.  So in a
  template of fewer than `2 ^ 34 - 1` bytes no block is opened
  on top of the largest word, every word is the unbounded
  count, and a marker is refused and written back exactly if
  there is nothing to close.
-/
theorem counters_never_wrap
    (template : String)
    (cells : List Cell) :
    let vs := visits cells template.toList Tracker.fresh
    let first : Stage := ⟨template.toList, Tracker.fresh⟩
    (∀ sink,
      (∃ unread,
        Reaches cells first sink vs
          ⟨unread,
            (run cells template.toList Tracker.fresh sink).1⟩
          (run cells template.toList Tracker.fresh
            sink).2) ∧
        ∀ made s sink',
          Reaches cells first sink made s sink' →
            made <+: vs ∧
              s ∈ stages cells template.toList
                Tracker.fresh) ∧
      (∀ s ∈ stages cells template.toList Tracker.fresh,
        ∃ c : Scanner.Cursor,
          c.IsWithin template ∧
            c.unread? = some s.unread ∧
            4 * (s.tracker.openCount .whenSet +
                  s.tracker.openCount .whenUnset +
                  s.tracker.openCount .color) +
                2 * s.tracker.position ≤
              c.position + 1) ∧
      (template.utf8ByteSize ≤ 2 ^ 34 - 2 →
        ∀ earlier v later, vs = earlier ++ v :: later →
          v.tracker =
              Tracker.fresh.performAll (calls cells earlier) ∧
            (∀ b, v.tracker.openCount b =
              Tracker.tally b (calls cells earlier)) ∧
            (∀ b, v.move cells = .enter b →
              v.tracker.openCount b + 1 < 2 ^ 32) ∧
            (∀ b, v.directive? = some (.close b) →
              (v.tracker.close? b = none ↔
                Tracker.tally b (calls cells earlier) =
                  0) ∧
                (v.segments cells = [.text v.token.source] ↔
                  Tracker.tally b (calls cells earlier) =
                    0))) := by
  intro vs first
  refine ⟨?_, ?_, ?_⟩
  · intro sink
    refine ⟨reaches_run sink, ?_⟩
    intro made s sink' hLoop
    exact ⟨prefix_of_reaches hLoop,
      mem_stages_of_reaches hLoop⟩
  · intro s hStage
    have hFresh : Tracker.fresh.weight = 0 := rfl
    have hWeight := weight_le_of_mem_stages hStage
    rcases exists_cursor (suffix_of_mem_stages hStage) with
      ⟨c, hWithin, hUnread, hBytes⟩
    refine ⟨c, hWithin, hUnread, ?_⟩
    change s.tracker.weight ≤ c.position + 1
    omega
  · intro hSize earlier v later hVisits
    have hShort :
        template.toList.length ≤ maxTemplateSize := by
      have hBytes := length_le_utf8ByteSize template.toList
      rw [String.ofList_toList] at hBytes
      unfold maxTemplateSize Tracker.maxCount
      omega
    have hMem : v ∈ vs := by
      rw [hVisits]
      simp
    have hExact := openCount_eq_tally hShort hVisits
    refine ⟨tracker_of_mem_visits hVisits, hExact, ?_, ?_⟩
    · intro b hEnter
      have hRoom :=
        openCount_lt_maxCount_of_enter hShort hMem hEnter
      unfold Tracker.maxCount at hRoom
      omega
    · intro b hClose
      rw [Visit.segments_eq_source_iff hClose,
        Tracker.close?_eq_none_iff, hExact]
      exact ⟨Iff.rfl, Iff.rfl⟩

/-
  Behind the style the loop stands in front of the opening.
  The second of two markers finds the block of its kind
  closed, and is written back although a style is open.  The
  brace that is cut off at the end is paid for.
-/
theorem counters_never_wrap_refused_marker :
    let template :=
      "\x7b#1\x7d\x7b?1\x7d\x7b?\x7d\x7b?\x7d\x7b"
    let cells : List Cell := [.string "a"]
    let vs := visits cells template.toList Tracker.fresh
    let opening : Visit :=
      ⟨.placeholder "?1".toList true,
        "\x7b?\x7d\x7b?\x7d\x7b".toList, ⟨0, 0, 0, 1⟩⟩
    let marker : Visit :=
      ⟨.placeholder ['?'] true, ['{'], ⟨0, 0, 0, 1⟩⟩
    let last : Stage := ⟨[], ⟨1, 0, 0, 1⟩⟩
    let first : Stage := ⟨template.toList, Tracker.fresh⟩
    let styled : Sink := Sink.startStyle {} ['1']
    Reaches cells first {} (vs.take 1) opening.start styled ∧
      opening.start ∈
        stages cells template.toList Tracker.fresh ∧
      template.utf8ByteSize ≤ 2 ^ 34 - 2 ∧
      vs = vs.take 1 ++ opening :: vs.drop 2 ∧
      opening.move cells = .enter .whenSet ∧
      opening.tracker.openCount .whenSet + 1 < 2 ^ 32 ∧
      vs = vs.take 3 ++ marker :: vs.drop 4 ∧
      marker.directive? = some (.close .whenSet) ∧
      Tracker.tally .whenSet (calls cells (vs.take 3)) = 0 ∧
      marker.segments cells = [.text marker.token.source] ∧
      last ∈ stages cells template.toList Tracker.fresh ∧
      ∃ c : Scanner.Cursor,
        c.IsWithin template ∧
          c.unread? = some [] ∧
          4 * (0 + 0 + 1) + 2 * 1 ≤ c.position + 1 := by
  intro template cells vs opening marker last first styled
  have hStyle :
      Scanner.next? first.unread =
        some (.placeholder "#1".toList true,
          opening.start.unread) := by
    decide +kernel
  have hFlow :
      step cells (.placeholder "#1".toList true)
          opening.start.unread first.tracker {} =
        .more opening.start.unread ⟨0, 0, 0, 1⟩ styled := by
    decide +kernel
  have hMade :
      vs.take 1 =
        [⟨.placeholder "#1".toList true,
          opening.start.unread, first.tracker⟩] := by
    decide +kernel
  have hLoop :
      Reaches cells first {} (vs.take 1) opening.start
        styled := by
    rw [hMade]
    exact .more hStyle hFlow (.here _ _)
  have hSize : template.utf8ByteSize ≤ 2 ^ 34 - 2 := by
    decide +kernel
  have hOpening :
      vs = vs.take 1 ++ opening :: vs.drop 2 := by
    decide +kernel
  have hEnter : opening.move cells = .enter .whenSet := by
    decide +kernel
  have hMarker : vs = vs.take 3 ++ marker :: vs.drop 4 := by
    decide +kernel
  have hTally :
      Tracker.tally .whenSet (calls cells (vs.take 3)) =
        0 := by
    decide +kernel
  have hLast :
      last ∈ stages cells template.toList Tracker.fresh := by
    decide +kernel
  rcases counters_never_wrap template cells with
    ⟨hRun, hPaid, hExact⟩
  rcases hExact hSize _ opening _ hOpening with
    ⟨-, -, hRoom, -⟩
  rcases hExact hSize _ marker _ hMarker with
    ⟨-, -, -, hClosings⟩
  refine ⟨hLoop, ((hRun {}).2 _ _ _ hLoop).2, hSize,
    hOpening, hEnter, hRoom _ hEnter, hMarker, rfl, hTally,
    (hClosings _ rfl).2.mpr hTally, hLast, ?_⟩
  exact hPaid last hLast

------------------------------------------------------------
-- One Byte More
------------------------------------------------------------

/- Styles that are opened one behind the other. -/
def styles (n : Nat) : List Char :=
  (List.replicate n
    (Directive.color ['1']).source).flatten

theorem styles_succ_append
    (n : Nat)
    (text : List Char) :
    styles (n + 1) ++ text =
      (Directive.color ['1']).source ++
        (styles n ++ text) := by
  unfold styles
  rw [List.replicate_succ, List.flatten_cons,
    List.append_assoc]

theorem size_styles
    (n : Nat) :
    Scanner.size (styles n) = 4 * n := by
  induction n with
  | zero => rfl
  | succ n ih =>
      have hSplit := styles_succ_append n []
      rw [List.append_nil, List.append_nil] at hSplit
      have hSource :
          Scanner.size (Directive.color ['1']).source = 4 :=
        rfl
      rw [hSplit, Scanner.size_append, ih, hSource]
      omega

/- A run opens all of the styles in front of a text. -/
theorem mem_visits_styles
    {cells : List Cell}
    {v : Visit}
    {text : List Char}
    {tracker : Tracker}
    (n : Nat)
    (hVisit :
      v ∈ visits cells text
        (tracker.performAll
          (List.replicate n (.open .color)))) :
    v ∈ visits cells (styles n ++ text) tracker := by
  induction n generalizing tracker with
  | zero => exact hVisit
  | succ n ih =>
      have hSound : (Directive.color ['1']).IsSound := by
        decide
      have hStyle :=
        Directive.next?_source_append hSound
          (styles n ++ text)
      have hMore :
          Visit.next? cells
              ⟨.placeholder (Directive.color ['1']).body true,
                styles n ++ text, tracker⟩ =
            some (styles n ++ text, tracker.open .color) :=
        rfl
      rw [styles_succ_append, visits_of_more hStyle hMore]
      exact List.mem_cons_of_mem _ (ih hVisit)

/- As many styles are open as have been opened. -/
theorem openCount_performAll_styles
    {n : Nat}
    (hCount : n ≤ Tracker.maxCount) :
    (Tracker.fresh.performAll
        (List.replicate n (.open .color))).openCount
      .color = n := by
  induction n with
  | zero => rfl
  | succ n ih =>
      have hBelow := ih (Nat.le_of_succ_le hCount)
      rw [List.replicate_succ', Tracker.performAll_concat]
      change
        (Tracker.open _ .color).openCount .color = n + 1
      rw [Tracker.openCount_open (by omega), hBelow,
        if_pos rfl]

/-
  Behind the styles another one can be opened that the end of
  the template cuts off.
-/
theorem exists_cut_off_style
    (cells : List Cell)
    {n : Nat}
    (hCount : n ≤ Tracker.maxCount) :
    ∃ v ∈ visits cells (styles n ++ ['{', '#', '1'])
        Tracker.fresh,
      v.move cells = .enter .color ∧
        v.tracker.openCount .color = n ∧
        (v.finish cells).tracker = v.tracker.open .color := by
  let full :=
    Tracker.fresh.performAll (List.replicate n (.open .color))
  have hNext :
      Scanner.next? ['{', '#', '1'] =
        some (.placeholder ['#', '1'] false, []) :=
    rfl
  have hMore :
      Visit.next? cells
          ⟨.placeholder ['#', '1'] false, [], full⟩ =
        some ([], full.open .color) :=
    rfl
  have hVisit :
      ⟨.placeholder ['#', '1'] false, [], full⟩ ∈
        visits cells ['{', '#', '1'] full := by
    rw [visits_of_more hNext hMore]
    exact List.mem_cons_self
  exact ⟨_, mem_visits_styles n hVisit, rfl,
    openCount_performAll_styles hCount, rfl⟩

/-
  In a template of `2 ^ 34 - 1` bytes the word of a kind of
  block can come back to zero: the last style is cut off by
  the end, and is opened on top of the largest word.
-/
theorem exists_wrap
    (cells : List Cell) :
    ∃ template : String,
      template.utf8ByteSize = 2 ^ 34 - 1 ∧
        ∃ v ∈ visits cells template.toList Tracker.fresh,
          v.move cells = .enter .color ∧
            v.tracker.openCount .color + 1 = 2 ^ 32 ∧
            (v.finish cells).tracker.openCount .color =
              0 := by
  rcases exists_cut_off_style cells
      (Nat.le_refl Tracker.maxCount) with
    ⟨v, hVisit, hEnter, hLargest, hFinish⟩
  have hSize :=
    Scanner.size_append (styles Tracker.maxCount)
      ['{', '#', '1']
  have hLast : Scanner.size ['{', '#', '1'] = 3 := rfl
  rw [size_styles, hLast] at hSize
  refine ⟨String.ofList
    (styles Tracker.maxCount ++ ['{', '#', '1']), ?_, v, ?_,
    hEnter, ?_, ?_⟩
  · exact hSize.trans (by unfold Tracker.maxCount; omega)
  · rw [String.toList_ofList]
    exact hVisit
  · rw [hLargest, Tracker.maxCount]
    omega
  · rw [hFinish]
    exact Tracker.openCount_open_of_eq_maxCount hLargest

end Render

end FactLayout
