import FactLayout.Proofs.Render.Weight
import FactLayout.Proofs.Template.Cursor

/-
  What is read of a template.

  The scanner can be asked for the next token and for the
  place behind a marker, in any order.  Whatever it is asked
  for, its cursor stays between two characters and never goes
  back, and the parts it passes over make up the template.

  Key definitions include:
    * `Scanner.Call`
    * `Scanner.Step`
    * `Scanner.Cursor.trace?`
    * `Scanner.Step.IsSound`

  Main results:
    * `Scanner.Cursor.perform?_between`
    * `Scanner.Cursor.trace?_between`
    * `Render.length_visits_le`
    * `Scanner.trace_start`
-/

------------------------------------------------------------
-- Calls
------------------------------------------------------------

namespace FactLayout

namespace Scanner

/- What the scanner can be asked to do. -/
inductive Call where
| next
| skip (marker : String)
deriving DecidableEq, Repr

/- A token, unless the end is reached, or whether a marker
  was found. -/
inductive Answer where
| token (token : Option Token)
| found (found : Bool)
deriving DecidableEq, Repr

/- A call and its answer, between two cursors. -/
structure Step where
  start : Cursor
  call : Call
  answer : Answer
  stop : Cursor
deriving DecidableEq, Repr

namespace Cursor

/- Carry out a call. -/
def perform?
    (c : Cursor) : Call → Option (Answer × Cursor)
| .next =>
    c.next?.map fun (token, stop) => (.token token, stop)
| .skip marker =>
    (c.skip? marker).map fun (found, stop) =>
      (.found found, stop)

/- Carry out calls in order. -/
def trace?
    (c : Cursor) : List Call → Option (List Step × Cursor)
| [] => some ([], c)
| call :: calls => do
    let (answer, stop) ← c.perform? call
    let (steps, last) ← stop.trace? calls
    pure (⟨c, call, answer, stop⟩ :: steps, last)

/- A cursor between two characters of a template. -/
def IsWithin
    (template : String)
    (c : Cursor) : Prop :=
  c.template = template ∧
    (⟨c.position⟩ : String.Pos.Raw).IsValid template

end Cursor

------------------------------------------------------------
-- Sound Steps
------------------------------------------------------------

namespace Step

/- The text that a step passes over. -/
def consumed? (s : Step) : Option (List Char) :=
  slice? s.start.template s.start.position s.stop.position

/-
  What an answer says about the text that was unread and the
  text that was passed over.  The end is answered at the end
  only, a token has passed over the text it stands for, and
  a marker is found at its leftmost place if it has one.
-/
def Keeps
    (s : Step)
    (unread consumed : List Char) : Prop :=
  match s.call, s.answer with
  | .next, .token none =>
      s.start.position = s.start.stop ∧ s.stop = s.start
  | .next, .token (some token) =>
      s.start.position < s.stop.position ∧
        consumed = token.source
  | .skip marker, .found true =>
      ∃ before,
        consumed = before ++ marker.toList ∧
          ∀ shorter longer,
            unread = shorter ++ marker.toList ++ longer →
            before.length ≤ shorter.length
  | .skip marker, .found false =>
      ¬ marker.toList <:+: unread ∧ consumed = unread
  | _, _ => False

/-
  The answer and the text that is left are those of the
  scanner, which works on the unread text alone.
-/
def Agrees
    (s : Step)
    (unread left : List Char) : Prop :=
  match s.call with
  | .next =>
      match Scanner.next? unread with
      | none => s.answer = .token none ∧ left = []
      | some (token, rest) =>
          s.answer = .token (some token) ∧ left = rest
  | .skip marker =>
      s.answer =
          .found (skipPast marker.toList unread).1 ∧
        left = (skipPast marker.toList unread).2

/-
  A step between two places of a template that does not go
  back, keeps what its answer says, and agrees with the
  scanner.
-/
structure IsSound
    (template : String)
    (s : Step) : Prop where
  start : s.start.IsWithin template
  stop : s.stop.IsWithin template
  forward : s.start.position ≤ s.stop.position
  keeps : ∃ unread consumed left,
    s.start.unread? = some unread ∧
      s.consumed? = some consumed ∧
      s.stop.unread? = some left ∧
      unread = consumed ++ left ∧
      s.Keeps unread consumed ∧
      s.Agrees unread left

end Step

namespace Cursor

theorem isWithin_between
    (before rest : List Char) :
    (between before rest).IsWithin
      (String.ofList (before ++ rest)) :=
  ⟨rfl, isValid_size before rest⟩

end Cursor

namespace Step

/- The step over a text between two others. -/
def across
    (before consumed left : List Char)
    (call : Call)
    (answer : Answer) : Step :=
  ⟨.between before (consumed ++ left), call, answer,
    .between (before ++ consumed) left⟩

theorem consumed?_across
    (before consumed left : List Char)
    (call : Call)
    (answer : Answer) :
    (across before consumed left call answer).consumed? =
      some consumed := by
  change
    slice? (String.ofList (before ++ (consumed ++ left)))
        (size before) (size (before ++ consumed)) =
      some consumed
  rw [size_append, ← List.append_assoc]
  exact slice?_append before consumed left

/- A step over a text is sound if its answer fits. -/
theorem isSound_across
    {before unread consumed left : List Char}
    {call : Call}
    {answer : Answer}
    (hUnread : unread = consumed ++ left)
    (hKeeps :
      (across before consumed left call answer).Keeps unread
        consumed)
    (hAgrees :
      (across before consumed left call answer).Agrees unread
        left) :
    (across before consumed left call answer).IsSound
      (String.ofList (before ++ unread)) := by
  subst hUnread
  constructor
  · exact Cursor.isWithin_between before (consumed ++ left)
  · rw [← List.append_assoc]
    exact Cursor.isWithin_between (before ++ consumed) left
  · change size before ≤ size (before ++ consumed)
    rw [size_append]
    exact Nat.le_add_right _ _
  · exact ⟨consumed ++ left, consumed, left,
      Cursor.unread?_between before _,
      consumed?_across before consumed left call answer,
      Cursor.unread?_between _ left, rfl, hKeeps, hAgrees⟩

/- Skipping keeps what it says about its marker. -/
theorem keeps_skip
    {before unread consumed : List Char}
    {marker : String}
    (hUnread :
      unread =
        consumed ++ (skipPast marker.toList unread).2) :
    (across before consumed (skipPast marker.toList unread).2
        (.skip marker)
        (.found (skipPast marker.toList unread).1)).Keeps
      unread consumed := by
  cases hBehind : behind? marker.toList unread with
  | some rest =>
      rcases exists_eq_append_of_behind? hBehind with
        ⟨front, hFront, hLeftmost⟩
      have hSkip :
          skipPast marker.toList unread = (true, rest) := by
        unfold skipPast
        rw [hBehind]
      have hConsumed : consumed = front ++ marker.toList := by
        rw [hSkip] at hUnread
        exact List.append_cancel_right
          (hUnread.symm.trans hFront)
      rw [hSkip]
      exact ⟨front, hConsumed, hLeftmost⟩
  | none =>
      have hSkip :
          skipPast marker.toList unread = (false, []) := by
        unfold skipPast
        rw [hBehind]
      have hConsumed : consumed = unread := by
        rw [hSkip, List.append_nil] at hUnread
        exact hUnread.symm
      rw [hSkip]
      exact ⟨not_infix_of_behind? hBehind, hConsumed⟩

end Step

namespace Cursor

/- Reading a token between two characters is a sound step. -/
theorem perform?_next_between
    (before unread : List Char) :
    ∃ answer consumed left,
      unread = consumed ++ left ∧
        (between before unread).perform? .next =
          some (answer, between (before ++ consumed) left) ∧
        (Step.across before consumed left .next
            answer).IsSound
          (String.ofList (before ++ unread)) := by
  cases hNext : Scanner.next? unread with
  | none =>
      have hNil := next?_eq_none_iff.mp hNext
      subst hNil
      refine ⟨.token none, [], [], rfl, ?_, ?_⟩
      · rw [perform?, next?_between, hNext, List.append_nil]
        rfl
      · refine Step.isSound_across rfl ?_ ⟨rfl, rfl⟩
        simp [Step.Keeps, Step.across]
  | some step =>
      rcases step with ⟨token, left⟩
      have hSource := source_append_of_next? hNext
      have hNonempty := size_pos (source_ne_nil_of_next? hNext)
      refine ⟨.token (some token), token.source, left,
        hSource.symm, ?_, ?_⟩
      · rw [perform?, next?_between, hNext]
        rfl
      · refine Step.isSound_across hSource.symm ⟨?_, rfl⟩ ?_
        · change size before < size (before ++ token.source)
          rw [size_append]
          omega
        · unfold Step.Agrees
          simp only [Step.across, hNext]
          exact ⟨trivial, trivial⟩

/- Skipping between two characters is a sound step. -/
theorem perform?_skip_between
    (before unread : List Char)
    (marker : String) :
    ∃ answer consumed left,
      unread = consumed ++ left ∧
        (between before unread).perform? (.skip marker) =
          some (answer, between (before ++ consumed) left) ∧
        (Step.across before consumed left (.skip marker)
            answer).IsSound
          (String.ofList (before ++ unread)) := by
  rcases skip?_between before unread marker with
    ⟨consumed, hUnread, hSkip⟩
  refine ⟨.found (skipPast marker.toList unread).1, consumed,
    (skipPast marker.toList unread).2, hUnread, ?_, ?_⟩
  · rw [perform?, hSkip]
    rfl
  · exact Step.isSound_across hUnread (Step.keeps_skip hUnread)
      ⟨rfl, rfl⟩

/- Any call between two characters is a sound step. -/
theorem perform?_between
    (before unread : List Char)
    (call : Call) :
    ∃ answer consumed left,
      unread = consumed ++ left ∧
        (between before unread).perform? call =
          some (answer, between (before ++ consumed) left) ∧
        (Step.across before consumed left call answer).IsSound
          (String.ofList (before ++ unread)) := by
  cases call with
  | next => exact perform?_next_between before unread
  | skip marker =>
      exact perform?_skip_between before unread marker

/-
  Calls in any order are carried out from a place between
  two characters on.  Every one of them is a sound step, and
  the parts that the steps pass over and the rest that is
  left make up the text that was unread.
-/
theorem trace?_between
    (before unread : List Char)
    (calls : List Call) :
    ∃ (steps : List Step) (slices : List (List Char))
      (left : List Char),
      unread = slices.flatten ++ left ∧
        (between before unread).trace? calls =
          some (steps,
            between (before ++ slices.flatten) left) ∧
        steps.map Step.consumed? = slices.map some ∧
        ∀ s ∈ steps,
          s.IsSound (String.ofList (before ++ unread)) := by
  induction calls generalizing before unread with
  | nil =>
      exact ⟨[], [], unread, rfl, by simp [trace?], rfl,
        by simp⟩
  | cons call calls ih =>
      rcases perform?_between before unread call with
        ⟨answer, consumed, rest, rfl, hPerform, hSound⟩
      rcases ih (before ++ consumed) rest with
        ⟨steps, slices, left, rfl, hTrace, hSlices, hSteps⟩
      let step :=
        Step.across before consumed (slices.flatten ++ left)
          call answer
      refine ⟨step :: steps, consumed :: slices, left, ?_, ?_,
        ?_, ?_⟩
      · rw [List.flatten_cons, List.append_assoc]
      · rw [trace?, hPerform, Option.bind_eq_bind,
          Option.bind_some]
        simp only [hTrace, Option.bind_eq_bind,
          Option.bind_some, List.flatten_cons]
        rw [← List.append_assoc before]
        rfl
      · rw [List.map_cons, List.map_cons, hSlices,
          Step.consumed?_across]
      · intro s hMem
        rcases List.mem_cons.mp hMem with rfl | hLater
        · exact hSound
        · rw [← List.append_assoc]
          exact hSteps s hLater

end Cursor

end Scanner

------------------------------------------------------------
-- Visits
------------------------------------------------------------

namespace Render

/- A run visits no more tokens than there are characters. -/
theorem length_visits_le
    (cells : List Cell)
    (text : List Char)
    (tracker : Tracker) :
    (visits cells text tracker).length ≤ text.length := by
  induction text, tracker using run_induction cells with
  | nil tracker => simp
  | stop text tracker token unread hNext hStop =>
      have hLess := Scanner.length_lt_of_next? hNext
      rw [visits_of_stop hNext hStop, List.length_singleton]
      omega
  | more text tracker token unread rest tracker' hNext
      hMore ih =>
      have hLess := Scanner.length_lt_of_next? hNext
      have hMove : rest.length ≤ unread.length :=
        Move.length_le_of_next? hMore
      rw [visits_of_more hNext hMore, List.length_cons]
      omega

end Render

namespace Scanner

/-
  Asked for tokens and for markers in any order, the scanner
  stays between two characters of its template and never
  goes back.  Each answer says what was passed over, and the
  parts passed over and the rest make up the template.  So a
  rendering is done after as many visits as the template has
  bytes at most.
-/
theorem trace_start
    (template : String)
    (calls : List Call) :
    (∃ (steps : List Step) (last : Cursor)
      (slices : List (List Char)) (left : List Char),
      (Cursor.start template).trace? calls =
          some (steps, last) ∧
        (∀ s ∈ steps, s.IsSound template) ∧
        last.IsWithin template ∧
        last.unread? = some left ∧
        steps.map Step.consumed? = slices.map some ∧
        slices.flatten ++ left = template.toList) ∧
    ∀ (cells : List Cell) (tracker : Tracker) (sink : Sink),
      (Render.run cells template.toList tracker sink).2 =
          (Render.visits cells template.toList tracker).foldl
            (fun s v => v.act cells s) sink ∧
        (Render.visits cells template.toList tracker).length ≤
          template.utf8ByteSize := by
  have hStart :
      Cursor.start template =
        Cursor.between [] template.toList := by
    simp [Cursor.start, Cursor.between]
  constructor
  · rcases Cursor.trace?_between [] template.toList calls with
      ⟨steps, slices, left, hUnread, hTrace, hSlices, hSteps⟩
    have hWithin :=
      Cursor.isWithin_between ([] ++ slices.flatten) left
    rw [List.nil_append, String.ofList_toList] at hSteps
    rw [List.nil_append, ← hUnread, String.ofList_toList]
      at hWithin
    refine ⟨steps, _, slices, left, hStart ▸ hTrace, hSteps,
      hWithin, Cursor.unread?_between _ left, hSlices,
      hUnread.symm⟩
  · intro cells tracker sink
    refine ⟨Render.sink_run cells template.toList tracker
      sink, ?_⟩
    have hVisits :=
      Render.length_visits_le cells template.toList tracker
    have hBytes :=
      Render.length_le_utf8ByteSize template.toList
    rw [String.ofList_toList] at hBytes
    exact Nat.le_trans hVisits hBytes

end Scanner

end FactLayout
