/-
  The kinds of block a template can open and close.

  A block is opened by a placeholder that carries an
  argument reference or a style code, and closed by its
  marker.

  Key definitions include:
    * `Block`
    * `Block.sigil`
    * `Block.marker`
-/

------------------------------------------------------------
-- Blocks
------------------------------------------------------------

namespace FactLayout

/-
  Text kept only if an argument is set, text kept only if
  it is not, and styled text.
-/
inductive Block where
| whenSet
| whenUnset
| color
deriving DecidableEq, Repr

namespace Block

/- The character that names a kind of block. -/
def sigil : Block → Char
| whenSet => '?'
| whenUnset => '/'
| color => '#'

/- The placeholder that closes a kind of block. -/
def marker (b : Block) : List Char :=
  ['{', b.sigil, '}']

/- Every marker is three characters long. -/
@[simp]
theorem length_marker
    (b : Block) :
    b.marker.length = 3 := rfl

end Block

end FactLayout
