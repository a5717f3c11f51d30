import FactLayout.Proofs.Render.Prefix

/-
  How much a run can open and draw.

  A placeholder that opens a block is at least four
  characters long, and one that draws a cell by position is
  at least two.  The weight of a tracker charges it for
  these characters, so a run never adds more weight than it
  has read, and no short template counts up to the largest
  count.

  Key definitions include:
    * `Tracker.weight`
    * `Move.cost`
    * `Token.missing`

  Main results:
    * `Visit.weight_next?_le`
    * `weight_le_of_mem_visits`
    * `Complete.weight_after_le`
-/

------------------------------------------------------------
-- Weights
------------------------------------------------------------

namespace FactLayout

/-
  The least number of characters that open the open blocks
  of a tracker and move it to its position.
-/
def Tracker.weight (t : Tracker) : Nat :=
  4 * (t.openCount .whenSet + t.openCount .whenUnset +
    t.openCount .color) + 2 * t.position

namespace Tracker

theorem four_mul_openCount_le_weight
    (t : Tracker)
    (b : Block) :
    4 * t.openCount b ≤ t.weight := by
  unfold weight
  cases b <;> omega

/- Opening a block adds no more than four. -/
theorem weight_open_le
    (t : Tracker)
    (b : Block) :
    (t.open b).weight ≤ t.weight + 4 := by
  have hSet := t.openCount_open_le b .whenSet
  have hUnset := t.openCount_open_le b .whenUnset
  have hColor := t.openCount_open_le b .color
  unfold weight
  rw [position_open]
  cases b <;> simp only [reduceCtorEq, if_true, if_false]
    at hSet hUnset hColor <;> omega

/- Closing a block adds nothing. -/
theorem weight_of_close?_le
    {t t' : Tracker}
    {b : Block}
    (hClose : t.close? b = some t') :
    t'.weight ≤ t.weight := by
  have hCount := openCount_of_close? hClose
  unfold weight
  rw [position_of_close? hClose, hCount .whenSet,
    hCount .whenUnset, hCount .color]
  omega

theorem weight_advance
    (t : Tracker) :
    t.advance.weight = t.weight + 2 := by
  unfold weight
  simp only [openCount_advance, position_advance]
  omega

end Tracker

/-
  The number of characters that the end of the template
  cuts off a token.
-/
def Token.missing (token : Token) : Nat :=
  if token.isClosed then 0 else 1

namespace Render

------------------------------------------------------------
-- Moves and Their Costs
------------------------------------------------------------

namespace Move

/- The weight that a move may add. -/
def cost : Move → Nat
| advance => 2
| enter _ => 4
| _ => 0

/- A move adds no more weight than it costs. -/
theorem weight_next?_le
    {unread rest : List Char}
    {tracker tracker' : Tracker}
    {m : Move}
    (hNext : m.next? unread tracker = some (rest, tracker')) :
    tracker'.weight ≤ tracker.weight + m.cost := by
  cases m with
  | stay => cases hNext; exact Nat.le_refl _
  | advance =>
      cases hNext
      exact Nat.le_of_eq tracker.weight_advance
  | enter block =>
      cases hNext
      exact tracker.weight_open_le block
  | leave block =>
      cases hNext
      cases hClose : tracker.close? block with
      | none => exact Nat.le_refl _
      | some left => exact Tracker.weight_of_close?_le hClose
  | skip block => cases hNext; exact Nat.le_refl _
  | stop => cases hNext

end Move

namespace Visit

/- A body that opens a block is more than a sigil. -/
theorem two_le_length_of_enter
    {cells : List Cell}
    {body : List Char}
    {tracker : Tracker}
    {block : Block}
    (hEnter :
      directiveMove cells tracker (Directive.ofBody body) =
        .enter block) :
    2 ≤ body.length := by
  match body with
  | [] => cases hEnter
  | [c] =>
      exfalso
      unfold Directive.ofBody at hEnter
      split at hEnter
      · cases hEnter
      · simp only [directiveMove] at hEnter
        split at hEnter <;> cases hEnter
      · simp only [directiveMove] at hEnter
        split at hEnter <;> cases hEnter
      · simp only [directiveMove] at hEnter
        split at hEnter <;> cases hEnter
      · simp_all
      · simp_all
      · simp_all
      · cases hEnter
  | _ :: _ :: tail => simp

/- The characters of a token pay for its move. -/
theorem cost_move_le
    (cells : List Cell)
    (v : Visit) :
    (v.move cells).cost ≤
      v.token.source.length + v.token.missing := by
  rcases v with ⟨token, unread, tracker⟩
  cases token with
  | literal text => exact Nat.zero_le _
  | brace => exact Nat.zero_le _
  | empty closed => cases closed <;> exact Nat.le_refl _
  | placeholder body closed =>
      have hLength :
          (Token.placeholder body closed).source.length +
              (Token.placeholder body closed).missing =
            body.length + 2 := by
        cases closed <;>
          simp [Token.source, Token.missing, Token.isClosed,
            echo]
      rw [hLength]
      simp only [move]
      cases hMove : directiveMove cells tracker
          (Directive.ofBody body) with
      | enter block =>
          have hBody := two_le_length_of_enter hMove
          simp only [Move.cost]
          omega
      | advance => simp [Move.cost]
      | _ => exact Nat.zero_le _

/-
  A visit adds no more weight than the characters it reads
  and the one that the end of the template may cut off.
-/
theorem weight_next?_le
    {cells : List Cell}
    {v : Visit}
    {rest : List Char}
    {tracker' : Tracker}
    (hNext : v.next? cells = some (rest, tracker')) :
    tracker'.weight + rest.length ≤
      v.tracker.weight + v.token.source.length +
        v.unread.length + v.token.missing := by
  have hLength := Move.length_le_of_next? hNext
  have hWeight := Move.weight_next?_le hNext
  have hCost := v.cost_move_le cells
  omega

end Visit

------------------------------------------------------------
-- Runs and Their Weights
------------------------------------------------------------

section

variable {cells : List Cell}
variable {text : List Char}
variable {tracker : Tracker}

/- A token and the text behind it are as long as the text. -/
theorem length_of_next?
    {unread : List Char}
    {token : Token}
    (hNext : Scanner.next? text = some (token, unread)) :
    text.length = token.source.length + unread.length := by
  rw [← Scanner.source_append_of_next? hNext,
    List.length_append]

/- Nothing is visited behind an open token. -/
theorem visits_of_open
    {unread rest : List Char}
    {tracker' : Tracker}
    {token : Token}
    (hNext : Scanner.next? text = some (token, unread))
    (hMore :
      Visit.next? cells ⟨token, unread, tracker⟩ =
        some (rest, tracker'))
    (hOpen : token.isClosed = false) :
    visits cells rest tracker' = [] := by
  have hUnread : unread = [] :=
    (Scanner.isLexeme_of_next? hNext).2.1 hOpen
  have hLength := Move.length_le_of_next? hMore
  have hRest : rest = [] := by
    rw [hUnread] at hLength
    exact List.length_eq_zero_iff.mp
      (Nat.le_zero.mp hLength)
  rw [hRest, visits_nil]

/-
  Up to any visit of a run, the weight grows by no more than
  the text read so far.
-/
theorem weight_le_of_mem_visits
    {v : Visit}
    (hVisit : v ∈ visits cells text tracker) :
    v.tracker.weight + v.token.source.length +
        v.unread.length ≤
      tracker.weight + text.length := by
  induction text, tracker using run_induction cells with
  | nil tracker => simp at hVisit
  | stop text tracker token unread hNext hStop =>
      have hLength := length_of_next? hNext
      rw [visits_of_stop hNext hStop] at hVisit
      rw [List.mem_singleton.mp hVisit]
      dsimp only
      omega
  | more text tracker token unread rest tracker' hNext
      hMore ih =>
      have hLength := length_of_next? hNext
      rw [visits_of_more hNext hMore] at hVisit
      rcases List.mem_cons.mp hVisit with hFirst | hLater
      · rw [hFirst]
        dsimp only
        omega
      · have hWeight := Visit.weight_next?_le hMore
        cases hClosed : token.isClosed with
        | false =>
            rw [visits_of_open hNext hMore hClosed]
              at hLater
            cases hLater
        | true =>
            simp only [Token.missing, hClosed, if_true]
              at hWeight
            have hRun := ih hLater
            omega

/- A complete text adds no more weight than it is long. -/
theorem Complete.weight_after_le
    (hComplete : Complete cells text tracker) :
    (after cells text tracker).weight ≤
      tracker.weight + text.length := by
  induction hComplete using Complete.induction with
  | nil tracker =>
      rw [after_nil]
      exact Nat.le_add_right _ _
  | visit text tracker token unread rest tracker' _ hNext
      hSettled hMore _ ih =>
      have hLength := length_of_next? hNext
      have hWeight := Visit.weight_next?_le hMore
      rw [after_of_more hNext hMore]
      simp only [Token.missing, hSettled.1, if_true]
        at hWeight
      omega

end

------------------------------------------------------------
-- Sizes
------------------------------------------------------------

/-
  The largest size, in bytes, of a template that cannot
  count past the largest count.
-/
def maxTemplateSize : Nat :=
  4 * Tracker.maxCount + 2

/- Every character takes up a byte or more. -/
theorem length_le_utf8ByteSize
    (text : List Char) :
    text.length ≤ (String.ofList text).utf8ByteSize := by
  induction text with
  | nil => exact Nat.zero_le _
  | cons c tail ih =>
      have hByte := c.utf8Size_pos
      rw [String.ofList_cons, String.utf8ByteSize_append,
        String.utf8ByteSize_singleton, List.length_cons]
      omega

end Render

end FactLayout
