import FactLayout.Render.Tracker
import Mathlib.Algebra.Group.Nat.Defs
import Mathlib.Data.List.Infix
import Mathlib.Order.Bounds.Basic

/-
  Trackers and the calls made to them.

  A tracker is asked to open and to close blocks, and for the
  next position.  The three kinds of blocks and the positions
  do not influence each other, in whatever order the calls
  come.  How many blocks of a kind are open is the largest
  surplus of openings that the latest calls can be said to
  have, because closing stops at zero.

  Key definitions include:
    * `Tracker.Call`
    * `Tracker.Answer`
    * `Tracker.perform`
    * `Tracker.performAll`
    * `Tracker.trace`
    * `Tracker.surplus`
    * `Tracker.surpluses`

  Main results:
    * `Tracker.openCount_perform`
    * `Tracker.filter_trace`
    * `Tracker.positions_trace`
    * `Tracker.openCount_performAll`
    * `Tracker.trace_by_kind`
-/

------------------------------------------------------------
-- Calls and Answers
------------------------------------------------------------

namespace FactLayout

namespace Tracker

/- What a tracker is asked for. -/
inductive Call where
| «open» (block : Block)
| close (block : Block)
| next
deriving DecidableEq, Repr

/- What a tracker answers. -/
inductive Answer where
| opened
| closed (accepted : Bool)
| position (position : Nat)
deriving DecidableEq, Repr

namespace Call

/- The call is about a kind of block. -/
def concerns
    (b : Block) : Call → Bool
| .open c => c = b
| .close c => c = b
| .next => false

/- What the call adds to the blocks of a kind, if it can. -/
def effect
    (b : Block)
    (c : Call) : ℤ :=
  if c = .open b then 1
  else if c = .close b then -1
  else 0

@[simp]
theorem effect_open
    (b : Block) :
    (Call.open b).effect b = 1 :=
  if_pos rfl

@[simp]
theorem effect_close
    (b : Block) :
    (Call.close b).effect b = -1 := by
  simp [effect]

/- A call about anything else adds nothing. -/
theorem effect_of_not_concerns
    {b : Block}
    {c : Call}
    (hOther : c.concerns b = false) :
    c.effect b = 0 := by
  cases c <;> simp_all [concerns, effect]

end Call

/- The position in an answer. -/
def Answer.position? : Answer → Option Nat
| .position n => some n
| _ => none

/- The answer to a call and the tracker behind it. -/
def perform
    (t : Tracker) : Call → Answer × Tracker
| .open b => (.opened, t.open b)
| .close b =>
    match t.close? b with
    | none => (.closed false, t)
    | some left => (.closed true, left)
| .next => (.position t.position, t.advance)

/- The tracker behind a list of calls. -/
def performAll
    (t : Tracker)
    (calls : List Call) : Tracker :=
  calls.foldl (fun t c => (t.perform c).2) t

/- Calls in order, each with its answer. -/
def trace
    (t : Tracker) : List Call → List (Call × Answer)
| [] => []
| c :: calls =>
    (c, (t.perform c).1) :: (t.perform c).2.trace calls

/- By how much a kind of block is opened more than closed. -/
def surplus
    (b : Block)
    (calls : List Call) : ℤ :=
  calls.count (.open b) - calls.count (.close b)

/- The surpluses of all calls that a list ends with. -/
def surpluses
    (b : Block)
    (calls : List Call) : Set ℤ :=
  {n | ∃ later, later <:+ calls ∧ n = surplus b later}

@[simp]
theorem performAll_nil
    (t : Tracker) :
    t.performAll [] = t := rfl

@[simp]
theorem performAll_cons
    (t : Tracker)
    (c : Call)
    (calls : List Call) :
    t.performAll (c :: calls) =
      (t.perform c).2.performAll calls := rfl

@[simp]
theorem performAll_concat
    (t : Tracker)
    (calls : List Call)
    (c : Call) :
    t.performAll (calls ++ [c]) =
      ((t.performAll calls).perform c).2 := by
  simp [performAll]

theorem performAll_append
    (t : Tracker)
    (calls later : List Call) :
    t.performAll (calls ++ later) =
      (t.performAll calls).performAll later :=
  List.foldl_append

/- A trace goes on from the tracker that it has come to. -/
theorem trace_append
    (t : Tracker)
    (calls later : List Call) :
    t.trace (calls ++ later) =
      t.trace calls ++ (t.performAll calls).trace later := by
  induction calls generalizing t with
  | nil => rfl
  | cons c calls ih => simp [trace, ih]

theorem surplus_concat
    (b : Block)
    (calls : List Call)
    (c : Call) :
    surplus b (calls ++ [c]) =
      surplus b calls + c.effect b := by
  have hEffect :
      ([c].count (.open b) : ℤ) - [c].count (.close b) =
        c.effect b := by
    rw [List.count_singleton, List.count_singleton]
    cases c with
    | «open» block =>
        by_cases hKind : block = b <;>
          simp [Call.effect, hKind]
    | close block =>
        by_cases hKind : block = b <;>
          simp [Call.effect, hKind]
    | next => simp [Call.effect]
  unfold surplus
  rw [List.count_append, List.count_append]
  omega

------------------------------------------------------------
-- Single Calls
------------------------------------------------------------

/- Closing is refused if no block of the kind is open. -/
theorem perform_close_of_none
    {t : Tracker}
    {b : Block}
    (hZero : t.openCount b = 0) :
    t.perform (.close b) = (.closed false, t) := by
  simp only [perform, close?_eq_none_iff.mpr hZero]

/- Otherwise one block of the kind is closed. -/
theorem perform_close_of_some
    {t : Tracker}
    {b : Block}
    (hOpen : t.openCount b ≠ 0) :
    ∃ left,
      t.close? b = some left ∧
        t.perform (.close b) = (.closed true, left) := by
  cases hClose : t.close? b with
  | none =>
      exact absurd (close?_eq_none_iff.mp hClose) hOpen
  | some left =>
      refine ⟨left, rfl, ?_⟩
      simp only [perform, hClose]

/-
  A block is closed exactly if one of its kind is open, and
  a refusal leaves the tracker as it is.
-/
theorem perform_close
    (t : Tracker)
    (b : Block) :
    (t.perform (.close b)).1 =
        .closed (decide (0 < t.openCount b)) ∧
      (t.openCount b = 0 →
        (t.perform (.close b)).2 = t) := by
  by_cases hZero : t.openCount b = 0
  · rw [perform_close_of_none hZero]
    simp [hZero]
  · rcases perform_close_of_some hZero with
      ⟨left, -, hPerform⟩
    rw [hPerform]
    simp [hZero, Nat.pos_of_ne_zero hZero]

/- A call about anything else leaves the count of a kind. -/
theorem count_perform_of_not_concerns
    {c : Call}
    {b : Block}
    (hOther : c.concerns b = false)
    (t : Tracker) :
    (t.perform c).2.count b = t.count b := by
  cases c with
  | «open» block =>
      have hKind : b ≠ block := by
        rintro rfl
        simp [Call.concerns] at hOther
      simp [perform, Tracker.open, hKind]
  | close block =>
      have hKind : b ≠ block := by
        rintro rfl
        simp [Call.concerns] at hOther
      by_cases hZero : t.count block = 0
      · simp [perform, close?, hZero]
      · simp [perform, close?, hZero, hKind]
  | next => cases b <;> rfl

/-
  A call adds its effect to the number of open blocks, which
  does not fall below zero.
-/
theorem openCount_perform
    {t : Tracker}
    {c : Call}
    {b : Block}
    (hCount : c = .open b → t.openCount b < maxCount) :
    ((t.perform c).2.openCount b : ℤ) =
      max 0 (t.openCount b + c.effect b) := by
  cases hOwn : c.concerns b with
  | false =>
      have hSame :
          (t.perform c).2.openCount b = t.openCount b :=
        congrArg UInt32.toNat
          (count_perform_of_not_concerns hOwn t)
      rw [hSame, Call.effect_of_not_concerns hOwn]
      omega
  | true =>
      cases c with
      | «open» block =>
          obtain rfl : block = b := by
            simpa [Call.concerns] using hOwn
          have hOpened := openCount_open (hCount rfl) block
          rw [if_pos rfl] at hOpened
          rw [Call.effect_open, perform, hOpened]
          omega
      | close block =>
          obtain rfl : block = b := by
            simpa [Call.concerns] using hOwn
          rw [Call.effect_close]
          by_cases hZero : t.openCount block = 0
          · rw [perform_close_of_none hZero, hZero]
            rfl
          · rcases perform_close_of_some hZero with
              ⟨left, hClose, hPerform⟩
            have hClosed := openCount_of_close? hClose block
            rw [if_pos rfl] at hClosed
            have hLeft :
                (t.perform (.close block)).2 = left :=
              congrArg Prod.snd hPerform
            rw [hLeft]
            omega
      | next => cases hOwn

/- Only a call for the next position moves it on. -/
theorem position_perform
    (t : Tracker)
    (c : Call) :
    (t.perform c).2.position =
      t.position + if c = .next then 1 else 0 := by
  cases c with
  | «open» block => simp [perform]
  | close block =>
      by_cases hZero : t.openCount block = 0
      · rw [perform_close_of_none hZero]
        simp
      · rcases perform_close_of_some hZero with
          ⟨left, hClose, hPerform⟩
        rw [hPerform]
        simp [position_of_close? hClose]
  | next => simp [perform]

/-
  A call about a kind of block has the same answer and leaves
  the same count of the kind whenever it finds the same one.
-/
theorem perform_congr
    {t u : Tracker}
    {c : Call}
    {b : Block}
    (hOwn : c.concerns b = true)
    (hCount : t.count b = u.count b) :
    (t.perform c).1 = (u.perform c).1 ∧
      (t.perform c).2.count b = (u.perform c).2.count b := by
  cases c with
  | «open» block =>
      have hKind : block = b := by
        simpa [Call.concerns] using hOwn
      subst hKind
      simp [perform, Tracker.open, hCount]
  | close block =>
      have hKind : block = b := by
        simpa [Call.concerns] using hOwn
      subst hKind
      by_cases hZero : u.count block = 0
      · simp [perform, close?, hCount, hZero]
      · simp [perform, close?, hCount, hZero]
  | next => cases hOwn

------------------------------------------------------------
-- Histories
------------------------------------------------------------

/-
  The answers to the calls about a kind of block, and the
  count they leave, are the same without all other calls.
-/
theorem filter_trace
    {t u : Tracker}
    {b : Block}
    (hCount : t.count b = u.count b)
    (calls : List Call) :
    (t.trace calls).filter (fun e => e.1.concerns b) =
        u.trace (calls.filter (Call.concerns b)) ∧
      (t.performAll calls).count b =
        (u.performAll
          (calls.filter (Call.concerns b))).count b := by
  -- The trackers agree on the one count and on nothing else.
  induction calls generalizing t u with
  | nil => exact ⟨rfl, hCount⟩
  | cons c calls ih =>
      cases hOwn : c.concerns b with
      | false =>
          have hSame :=
            (count_perform_of_not_concerns hOwn t).trans
              hCount
          simpa [trace, hOwn] using ih hSame
      | true =>
          rcases perform_congr hOwn hCount with
            ⟨hAnswer, hLeft⟩
          rcases ih hLeft with ⟨hTrace, hBehind⟩
          simp [trace, hOwn, hAnswer, hTrace, hBehind]

/- Positions are counted up, whatever stands between. -/
theorem positions_trace
    (t : Tracker)
    (calls : List Call) :
    (t.trace calls).filterMap (fun e => e.2.position?) =
      List.range' t.position (calls.count .next) := by
  induction calls generalizing t with
  | nil => rfl
  | cons c calls ih =>
      rw [trace, List.filterMap_cons, ih, position_perform]
      cases c with
      | «open» block =>
          simp [perform, Answer.position?]
      | close block =>
          simp [(perform_close t block).1, Answer.position?]
      | next =>
          simp [perform, Answer.position?, List.range'_succ]

------------------------------------------------------------
-- Largest Surpluses
------------------------------------------------------------

theorem isGreatest_surpluses_nil
    (b : Block) :
    IsGreatest (surpluses b []) 0 := by
  constructor
  · exact ⟨[], List.suffix_rfl, rfl⟩
  · rintro n ⟨later, hLater, rfl⟩
    rw [List.suffix_nil.mp hLater]
    exact le_rfl

/-
  One more call adds its effect to the largest surplus, unless
  no calls at all have a larger one then.
-/
theorem isGreatest_surpluses_concat
    {b : Block}
    {calls : List Call}
    {n : ℤ}
    (hGreatest : IsGreatest (surpluses b calls) n)
    (c : Call) :
    IsGreatest (surpluses b (calls ++ [c]))
      (max 0 (n + c.effect b)) := by
  rcases hGreatest with ⟨⟨best, hBest, hValue⟩, hUpper⟩
  constructor
  · by_cases hPositive : 0 ≤ n + c.effect b
    · refine ⟨best ++ [c], ?_, ?_⟩
      · exact List.suffix_concat_iff.mpr
          (Or.inr ⟨best, rfl, hBest⟩)
      · rw [surplus_concat, ← hValue,
          max_eq_right hPositive]
    · refine ⟨[], List.nil_suffix, ?_⟩
      rw [max_eq_left (by omega)]
      rfl
  · rintro m ⟨later, hLater, rfl⟩
    -- A list of calls at the end is empty or ends with `c`.
    rcases List.suffix_concat_iff.mp hLater with
      rfl | ⟨rest, rfl, hRest⟩
    · exact le_max_left _ _
    · have hLess := hUpper ⟨rest, hRest, rfl⟩
      rw [surplus_concat]
      omega

/- No surplus is larger than the number of openings. -/
theorem le_count_of_mem_surpluses
    {b : Block}
    {calls : List Call}
    {n : ℤ}
    (hMem : n ∈ surpluses b calls) :
    n ≤ calls.count (.open b) := by
  rcases hMem with ⟨later, hLater, rfl⟩
  have hOpened := hLater.sublist.count_le (.open b)
  unfold surplus
  omega

/-
  With few enough openings, the number of open blocks is the
  largest surplus of openings that calls at the end have.
-/
theorem openCount_performAll
    {b : Block}
    (calls : List Call)
    (hCount : calls.count (.open b) ≤ maxCount) :
    IsGreatest (surpluses b calls)
      ((fresh.performAll calls).openCount b) := by
  induction calls using List.reverseRecOn with
  | nil =>
      have hZero :
          ((fresh.performAll []).openCount b : ℤ) = 0 := by
        cases b <;> rfl
      rw [hZero]
      exact isGreatest_surpluses_nil b
  | append_singleton calls c ih =>
      rw [List.count_append] at hCount
      have hGreatest := ih (Nat.le_of_add_right_le hCount)
      have hBelow :
          c = .open b →
            (fresh.performAll calls).openCount b <
              maxCount := by
        -- No more blocks are open than have been opened.
        rintro rfl
        have hOpened := le_count_of_mem_surpluses hGreatest.1
        rw [List.count_singleton_self] at hCount
        omega
      rw [performAll_concat, openCount_perform hBelow]
      exact isGreatest_surpluses_concat hGreatest c

------------------------------------------------------------
-- Calls in Any Order
------------------------------------------------------------

/-
  Whatever calls are made to a fresh tracker in whatever
  order, the answers about a kind of block and the number of
  its open blocks are those of the calls about it alone; with
  fewer openings than there are words, that number is the
  largest surplus of openings in any such calls at the end; a
  block is closed exactly if one of its kind is open, and a
  refusal leaves the tracker as it is; and positions are
  counted up from zero.  A position stands for a 64-bit word:
  what is said about positions is meant for as many of them
  as such a word can count, and no run asks for more.
-/
theorem trace_by_kind
    (calls : List Call) :
    (∀ b,
      (fresh.trace calls).filter
            (fun e => e.1.concerns b) =
          fresh.trace (calls.filter (Call.concerns b)) ∧
        (fresh.performAll calls).openCount b =
          (fresh.performAll
            (calls.filter (Call.concerns b))).openCount b ∧
        (calls.count (.open b) < 2 ^ 32 →
          IsGreatest
            {n : ℤ |
              ∃ later,
                later <:+ calls.filter (Call.concerns b) ∧
                  n = later.count (.open b) -
                    later.count (.close b)}
            ((fresh.performAll calls).openCount b))) ∧
      (∀ before b later,
        calls = before ++ .close b :: later →
          ∃ left,
            fresh.trace calls =
                fresh.trace before ++
                  (.close b,
                    .closed (decide (0 <
                      (fresh.performAll
                        before).openCount b))) ::
                    left.trace later ∧
              left = fresh.performAll (before ++ [.close b]) ∧
              ((fresh.performAll before).openCount b = 0 →
                left = fresh.performAll before)) ∧
      (fresh.trace calls).filterMap
          (fun e => e.2.position?) =
        List.range (calls.count .next) := by
  refine ⟨?_, ?_, ?_⟩
  · intro b
    have hSame : fresh.count b = fresh.count b := rfl
    rcases filter_trace hSame calls with ⟨hTrace, hCount⟩
    have hOpen :
        (fresh.performAll calls).openCount b =
          (fresh.performAll
            (calls.filter (Call.concerns b))).openCount b :=
      congrArg UInt32.toNat hCount
    refine ⟨hTrace, hOpen, ?_⟩
    intro hFew
    have hOwn :
        (calls.filter (Call.concerns b)).count (.open b) ≤
          maxCount := by
      rw [List.count_filter (by simp [Call.concerns])]
      unfold maxCount
      omega
    rw [hOpen]
    exact openCount_performAll _ hOwn
  · rintro before b later rfl
    rcases perform_close (fresh.performAll before) b with
      ⟨hAnswer, hRefused⟩
    refine ⟨_, ?_, (performAll_concat _ _ _).symm,
      hRefused⟩
    rw [trace_append, trace, hAnswer]
  · rw [positions_trace, List.range_eq_range']
    rfl

/-
  As many blocks are closed as are opened, but one closing is
  refused, because only a style is open by then.
-/
theorem trace_by_kind_refusal :
    let before : List Call :=
      [.open .whenSet, .next, .close .whenSet, .open .color]
    let later : List Call := [.next, .open .whenSet]
    let calls := before ++ .close .whenSet :: later
    IsGreatest
        {n : ℤ |
          ∃ later,
            later <:+ calls.filter (Call.concerns .whenSet) ∧
              n = later.count (.open .whenSet) -
                later.count (.close .whenSet)} 1 ∧
      fresh.trace calls =
        fresh.trace before ++
          (.close .whenSet, .closed false) ::
            (fresh.performAll before).trace later ∧
      (fresh.trace calls).filterMap
          (fun e => e.2.position?) =
        [0, 1] := by
  intro before later calls
  rcases trace_by_kind calls with
    ⟨hKinds, hClosings, hPositions⟩
  rcases hClosings before .whenSet later rfl with
    ⟨left, hTrace, -, hRefused⟩
  refine ⟨?_, ?_, hPositions⟩
  · exact (hKinds .whenSet).2.2 (by decide)
  · rw [hTrace, hRefused (by decide)]
    rfl

end Tracker

end FactLayout
