import FactLayout.Proofs.Render.Reading
import FactLayout.Proofs.Render.Turns
import Mathlib.Data.List.Basic
import Mathlib.Data.List.Induction

/-
  Where a run stands between two tokens.

  A stage is the text that is unread and the tracker.  Each
  visit starts at the stage that the visit before it has left,
  so what is passed on from visit to visit holds at all of
  them.  The loop of a run, read off its steps, makes these
  visits and stands at no other stages.  At every stage there
  is a cursor in front of what is unread.

  Key definitions include:
    * `Stage`
    * `Visit.start`
    * `Visit.finish`
    * `stages`
    * `Reaches`

  Main results:
    * `next?_of_visits_eq_append`
    * `visits_induction`
    * `prefix_of_reaches`
    * `mem_stages_of_reaches`
    * `reaches_run`
    * `suffix_of_mem_stages`
    * `exists_cursor`
-/

------------------------------------------------------------
-- Stages
------------------------------------------------------------

namespace FactLayout

namespace Render

/- What is unread and what is counted between two tokens. -/
structure Stage where
  unread : List Char
  tracker : Tracker
deriving DecidableEq, Repr

namespace Visit

/- The stage at which a visit takes its token. -/
def start (v : Visit) : Stage :=
  ⟨v.token.source ++ v.unread, v.tracker⟩

/- The stage that a visit leaves, also if it stops. -/
def finish
    (cells : List Cell)
    (v : Visit) : Stage :=
  match v.next? cells with
  | none => ⟨v.unread, v.tracker⟩
  | some (rest, tracker') => ⟨rest, tracker'⟩

end Visit

/-
  The stages of a run: the one in front of it, and those in
  front of and behind each of its visits.
-/
def stages
    (cells : List Cell)
    (text : List Char)
    (tracker : Tracker) : List Stage :=
  ⟨text, tracker⟩ ::
    (visits cells text tracker).flatMap fun v =>
      [v.start, v.finish cells]

section

variable {cells : List Cell}
variable {text : List Char}
variable {tracker : Tracker}

/- A stage is that of the run or one of a visit. -/
theorem mem_stages_cases
    {s : Stage}
    (hStage : s ∈ stages cells text tracker) :
    s = ⟨text, tracker⟩ ∨
      ∃ v ∈ visits cells text tracker,
        s = v.start ∨ s = v.finish cells := by
  rcases List.mem_cons.mp hStage with hFirst | hLater
  · exact Or.inl hFirst
  · rcases List.mem_flatMap.mp hLater with
      ⟨v, hVisit, hEnds⟩
    exact Or.inr ⟨v, hVisit, List.mem_pair.mp hEnds⟩

------------------------------------------------------------
-- From Visit to Visit
------------------------------------------------------------

/- The first visit starts where the run does. -/
theorem start_of_visits_eq_cons
    {v : Visit}
    {later : List Visit}
    (hVisits : visits cells text tracker = v :: later) :
    v.start = ⟨text, tracker⟩ := by
  cases hNext : Scanner.next? text with
  | none =>
      rw [Scanner.next?_eq_none_iff.mp hNext, visits_nil]
        at hVisits
      cases hVisits
  | some step =>
      rcases step with ⟨token, unread⟩
      have hSource := Scanner.source_append_of_next? hNext
      have hFirst : v = ⟨token, unread, tracker⟩ := by
        cases hMore :
            Visit.next? cells ⟨token, unread, tracker⟩ with
        | none =>
            rw [visits_of_stop hNext hMore] at hVisits
            exact (List.cons.inj hVisits).1.symm
        | some left =>
            rw [visits_of_more hNext hMore] at hVisits
            exact (List.cons.inj hVisits).1.symm
      rw [hFirst, Visit.start, hSource]

/- Any other visit starts where the one before it goes on. -/
theorem next?_of_visits_eq_append
    {earlier later : List Visit}
    {w v : Visit}
    (hVisits :
      visits cells text tracker =
        earlier ++ w :: v :: later) :
    w.next? cells =
      some (v.start.unread, v.start.tracker) := by
  induction text, tracker using run_induction cells
    generalizing earlier with
  | nil tracker =>
      rw [visits_nil] at hVisits
      cases earlier <;> cases hVisits
  | stop text tracker token unread hNext hStop =>
      rw [visits_of_stop hNext hStop] at hVisits
      cases earlier with
      | nil => cases hVisits
      | cons first earlier =>
          have hNone := (List.cons.inj hVisits).2
          cases earlier <;> cases hNone
  | more text tracker token unread rest tracker' hNext
      hMore ih =>
      rw [visits_of_more hNext hMore] at hVisits
      cases earlier with
      | nil =>
          rcases List.cons.inj hVisits with ⟨rfl, hLater⟩
          rw [start_of_visits_eq_cons hLater]
          exact hMore
      | cons first earlier =>
          exact ih (List.cons.inj hVisits).2

/-
  Induction up to a visit of a run: what holds in front of
  the run, and is passed on from the start of any visit to
  the stage it goes on from, holds at the start of the visit.
-/
theorem visits_induction
    {motive : List Visit → Stage → Prop}
    (first : motive [] ⟨text, tracker⟩)
    (next : ∀ earlier w s,
      w ∈ visits cells text tracker →
      w.next? cells = some (s.unread, s.tracker) →
      motive earlier w.start →
      motive (earlier ++ [w]) s)
    {earlier later : List Visit}
    {v : Visit}
    (hVisits :
      visits cells text tracker = earlier ++ v :: later) :
    motive earlier v.start := by
  induction earlier using List.reverseRecOn
    generalizing v later with
  | nil =>
      rw [start_of_visits_eq_cons hVisits]
      exact first
  | append_singleton earlier w ih =>
      rw [List.append_assoc, List.singleton_append]
        at hVisits
      have hMem : w ∈ visits cells text tracker := by
        rw [hVisits]
        simp
      exact next earlier w v.start hMem
        (next?_of_visits_eq_append hVisits) (ih hVisits)

------------------------------------------------------------
-- The Loop
------------------------------------------------------------

/-
  The loop of a run comes from a stage with a sink to a stage
  with a sink, and makes the listed visits on the way.  It
  goes on with what its step leaves; a step that halts leaves
  the loop at the text behind its token.
-/
inductive Reaches
    (cells : List Cell) :
    Stage → Sink → List Visit → Stage → Sink → Prop
| here
    (s : Stage)
    (sink : Sink) :
    Reaches cells s sink [] s sink
| halt
    {s : Stage}
    {token : Token}
    {unread : List Char}
    {tracker' : Tracker}
    {sink sink' : Sink}
    (hNext : Scanner.next? s.unread = some (token, unread))
    (hFlow :
      step cells token unread s.tracker sink =
        .halt tracker' sink') :
    Reaches cells s sink [⟨token, unread, s.tracker⟩]
      ⟨unread, tracker'⟩ sink'
| more
    {s last : Stage}
    {token : Token}
    {unread rest : List Char}
    {tracker' : Tracker}
    {sink sink' sink'' : Sink}
    {later : List Visit}
    (hNext : Scanner.next? s.unread = some (token, unread))
    (hFlow :
      step cells token unread s.tracker sink =
        .more rest tracker' sink')
    (hLater :
      Reaches cells ⟨rest, tracker'⟩ sink' later last
        sink'') :
    Reaches cells s sink
      (⟨token, unread, s.tracker⟩ :: later) last sink''

section

variable {token : Token}
variable {unread rest : List Char}
variable {tracker' : Tracker}
variable {sink sink' : Sink}

/- A visit whose step halts stops, with its own tracker. -/
theorem next?_of_step_eq_halt
    (hFlow :
      step cells token unread tracker sink =
        .halt tracker' sink') :
    Visit.next? cells ⟨token, unread, tracker⟩ = none ∧
      tracker' = tracker := by
  rw [step_visit cells ⟨token, unread, tracker⟩] at hFlow
  split at hFlow
  · rename_i hStop
    cases hFlow
    exact ⟨hStop, rfl⟩
  · cases hFlow

/- Any other visit goes on where its step does. -/
theorem next?_of_step_eq_more
    (hFlow :
      step cells token unread tracker sink =
        .more rest tracker' sink') :
    Visit.next? cells ⟨token, unread, tracker⟩ =
      some (rest, tracker') := by
  rw [step_visit cells ⟨token, unread, tracker⟩] at hFlow
  split at hFlow
  · cases hFlow
  · rename_i hMore
    cases hFlow
    exact hMore

end

/- What a visit leaves is a stage of its run. -/
theorem finish_mem_stages
    {v : Visit}
    (hVisit : v ∈ visits cells text tracker) :
    v.finish cells ∈ stages cells text tracker := by
  apply List.mem_cons_of_mem
  apply List.mem_flatMap_of_mem hVisit
  simp

/- So is every stage of the run behind its first visit. -/
theorem mem_stages_of_more
    {token : Token}
    {unread rest : List Char}
    {tracker' : Tracker}
    {s : Stage}
    (hNext : Scanner.next? text = some (token, unread))
    (hMore :
      Visit.next? cells ⟨token, unread, tracker⟩ =
        some (rest, tracker'))
    (hStage : s ∈ stages cells rest tracker') :
    s ∈ stages cells text tracker := by
  have hVisits := visits_of_more hNext hMore
  have hFinish :
      Visit.finish cells ⟨token, unread, tracker⟩ =
        ⟨rest, tracker'⟩ := by
    rw [Visit.finish, hMore]
  rcases List.mem_cons.mp hStage with rfl | hLater
  · rw [← hFinish]
    apply finish_mem_stages
    rw [hVisits]
    exact List.mem_cons_self
  · apply List.mem_cons_of_mem
    rw [hVisits, List.flatMap_cons]
    exact List.mem_append_right _ hLater

section

variable {first last : Stage}
variable {made : List Visit}
variable {sink sink' : Sink}

/- The loop makes the visits of the run in their order. -/
theorem prefix_of_reaches
    (hLoop : Reaches cells first sink made last sink') :
    made <+: visits cells first.unread first.tracker := by
  induction hLoop with
  | here s sink => exact List.nil_prefix
  | halt hNext hFlow =>
      have hStop := (next?_of_step_eq_halt hFlow).1
      have hVisits := visits_of_stop hNext hStop
      exact hVisits.symm ▸ List.prefix_rfl
  | more hNext hFlow _ ih =>
      have hMore := next?_of_step_eq_more hFlow
      rw [visits_of_more hNext hMore]
      exact (List.prefix_cons_inj _).mpr ih

/- The loop stands at a stage of the run wherever it is. -/
theorem mem_stages_of_reaches
    (hLoop : Reaches cells first sink made last sink') :
    last ∈ stages cells first.unread first.tracker := by
  induction hLoop with
  | here s sink => exact List.mem_cons_self
  | halt hNext hFlow =>
      rcases next?_of_step_eq_halt hFlow with
        ⟨hStop, rfl⟩
      have hVisits := visits_of_stop hNext hStop
      have hFinish := finish_mem_stages
        (hVisits ▸ List.mem_singleton_self _)
      rw [Visit.finish, hStop] at hFinish
      exact hFinish
  | more hNext hFlow _ ih =>
      exact mem_stages_of_more hNext
        (next?_of_step_eq_more hFlow) ih

end

/-
  A run is its loop: it makes all of the visits, and ends with
  the tracker and the sink that the loop comes to.
-/
theorem reaches_run
    (sink : Sink) :
    ∃ unread,
      Reaches cells ⟨text, tracker⟩ sink
        (visits cells text tracker)
        ⟨unread, (run cells text tracker sink).1⟩
        (run cells text tracker sink).2 := by
  induction text, tracker using run_induction cells
    generalizing sink with
  | nil tracker =>
      rw [visits_nil, run_nil]
      exact ⟨[], .here _ _⟩
  | stop text tracker token unread hNext hStop =>
      have hFlow :=
        step_visit cells ⟨token, unread, tracker⟩ sink
      rw [hStop] at hFlow
      rw [visits_of_stop hNext hStop,
        run_of_stop hNext hStop]
      exact ⟨unread, .halt hNext hFlow⟩
  | more text tracker token unread rest tracker' hNext
      hMore ih =>
      have hFlow :=
        step_visit cells ⟨token, unread, tracker⟩ sink
      rw [hMore] at hFlow
      rw [visits_of_more hNext hMore,
        run_of_more hNext hMore]
      rcases ih _ with ⟨left, hLater⟩
      exact ⟨left, .more hNext hFlow hLater⟩

------------------------------------------------------------
-- What Is Unread
------------------------------------------------------------

/- The text behind a token is an end of the text it is in. -/
theorem Visit.unread_suffix
    (v : Visit) :
    v.unread <:+ v.start.unread :=
  List.suffix_append v.token.source v.unread

/- A visit leaves an end of the text behind its token. -/
theorem Visit.finish_suffix
    (cells : List Cell)
    (v : Visit) :
    (v.finish cells).unread <:+ v.unread := by
  unfold finish
  split
  · exact List.suffix_rfl
  · rename_i rest tracker' hNext
    exact ⟨v.skipped cells, v.skipped_append hNext⟩

/- A run takes every token off an end of its text. -/
theorem start_suffix_of_mem_visits
    {v : Visit}
    (hVisit : v ∈ visits cells text tracker) :
    v.start.unread <:+ text := by
  rcases List.append_of_mem hVisit with
    ⟨earlier, later, hVisits⟩
  apply visits_induction
    (motive := fun _ s => s.unread <:+ text) _ _ hVisits
  · exact List.suffix_rfl
  · intro earlier w s _ hNext hStart
    have hRest : s.unread <:+ w.unread :=
      ⟨_, Visit.skipped_append hNext⟩
    exact hRest.trans (w.unread_suffix.trans hStart)

/- What is unread at any stage is an end of the text. -/
theorem suffix_of_mem_stages
    {s : Stage}
    (hStage : s ∈ stages cells text tracker) :
    s.unread <:+ text := by
  rcases mem_stages_cases hStage with
    rfl | ⟨v, hVisit, rfl | rfl⟩
  · exact List.suffix_rfl
  · exact start_suffix_of_mem_visits hVisit
  · exact (v.finish_suffix cells).trans
      (v.unread_suffix.trans
        (start_suffix_of_mem_visits hVisit))

end

/-
  The cursor at a stage has passed as many bytes as the stage
  has read characters, or more.
-/
theorem exists_cursor
    {template : String}
    {s : Stage}
    (hSuffix : s.unread <:+ template.toList) :
    ∃ c : Scanner.Cursor,
      c.IsWithin template ∧
        c.unread? = some s.unread ∧
        template.toList.length ≤
          c.position + s.unread.length := by
  rcases hSuffix with ⟨read, hRead⟩
  have hWithin :=
    Scanner.Cursor.isWithin_between read s.unread
  rw [hRead, String.ofList_toList] at hWithin
  have hBytes : read.length ≤ Scanner.size read :=
    length_le_utf8ByteSize read
  refine ⟨.between read s.unread, hWithin,
    Scanner.Cursor.unread?_between read s.unread, ?_⟩
  rw [← hRead, List.length_append,
    Scanner.Cursor.position_between]
  omega

end Render

end FactLayout
