/-
  What is left of a list.

  Reading takes items off the front of a list.  What it
  leaves comes with a proof that it is no longer than before,
  so a reader that calls itself on the rest comes to an end.

  Key definitions include:
    * `Remainder`
    * `Shorter`
-/

------------------------------------------------------------
-- Remainders
------------------------------------------------------------

namespace FactLayout

/- What is left of a list, possibly all of it. -/
abbrev Remainder
    {α : Type}
    (ts : List α) : Type :=
  { left : List α // left.length ≤ ts.length }

/- What is left of a list after something was taken off. -/
abbrev Shorter
    {α : Type}
    (ts : List α) : Type :=
  { left : List α // left.length < ts.length }

end FactLayout
