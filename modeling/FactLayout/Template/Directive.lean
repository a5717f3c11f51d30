import FactLayout.Template.Block

/-
  What a placeholder asks for.

  The body of a placeholder is a directive: it stops the
  rendering, closes or opens a block, or refers to an
  argument.

  Key definitions include:
    * `Directive`
    * `Directive.ofBody`
    * `Directive.body`
-/

------------------------------------------------------------
-- Directives
------------------------------------------------------------

namespace FactLayout

/- The action requested by the body of a placeholder. -/
inductive Directive where
| stop
| close (block : Block)
| guard (reference : List Char) (negated : Bool)
| color (code : List Char)
| argument (reference : List Char)
deriving DecidableEq, Repr

namespace Directive

/-
  Read the body of a placeholder.  A sigil alone closes a
  block, and a sigil with more text opens one.
-/
def ofBody : List Char → Directive
| ['-'] => stop
| ['?'] => close .whenSet
| ['/'] => close .whenUnset
| ['#'] => close .color
| '?' :: reference => guard reference false
| '/' :: reference => guard reference true
| '#' :: code => color code
| reference => argument reference

/- The body that a directive is written as. -/
def body : Directive → List Char
| stop => ['-']
| close b => [b.sigil]
| guard reference false => '?' :: reference
| guard reference true => '/' :: reference
| color code => '#' :: code
| argument reference => reference

/- Writing back a body that was read gives the body. -/
@[simp]
theorem body_ofBody
    (text : List Char) :
    (ofBody text).body = text := by
  unfold ofBody
  split <;> rfl

end Directive

end FactLayout
