import FactLayout.Template.Block

/-
  What a rendering remembers between tokens.

  The tracker counts the open blocks of each kind and the
  empty placeholders met so far.  Blocks are counted and not
  stacked, so a marker closes any open block of its kind.

  Key definitions include:
    * `Tracker`
    * `Tracker.count`
    * `Tracker.openCount`
    * `Tracker.open`
    * `Tracker.close?`
    * `Tracker.advance`
-/

------------------------------------------------------------
-- Counters
------------------------------------------------------------

namespace FactLayout

/-
  The position that the next empty placeholder draws from,
  and the numbers of open blocks.  Blocks are counted in
  32-bit words, which wrap around.  The position stands for a
  64-bit word, as the sizes of texts do.  An empty placeholder
  takes up a byte of the template or more, so no run makes
  that word wrap around, and a number will do.
-/
structure Tracker where
  position : Nat := 0
  whenSet : UInt32 := 0
  whenUnset : UInt32 := 0
  color : UInt32 := 0
deriving DecidableEq, Repr

namespace Tracker

/- Nothing is open and nothing is drawn. -/
def fresh : Tracker := {}

/- The word that counts the open blocks of a kind. -/
def count
    (t : Tracker) : Block → UInt32
| .whenSet => t.whenSet
| .whenUnset => t.whenUnset
| .color => t.color

/- The number of open blocks of a kind. -/
def openCount
    (t : Tracker)
    (b : Block) : Nat :=
  (t.count b).toNat

/- The largest number of blocks that can be counted. -/
def maxCount : Nat := 4294967295

/- Replace the word that counts a kind of block. -/
def setCount
    (t : Tracker)
    (b : Block)
    (n : UInt32) : Tracker :=
  match b with
  | .whenSet => { t with whenSet := n }
  | .whenUnset => { t with whenUnset := n }
  | .color => { t with color := n }

/- Open a block. -/
def «open»
    (t : Tracker)
    (b : Block) : Tracker :=
  t.setCount b (t.count b + 1)

/- Close a block, unless none of its kind is open. -/
def close?
    (t : Tracker)
    (b : Block) : Option Tracker :=
  if t.count b = 0 then none
  else some (t.setCount b (t.count b - 1))

/- Move on to the next position. -/
def advance (t : Tracker) : Tracker :=
  { t with position := t.position + 1 }

------------------------------------------------------------
-- Counts After a Step
------------------------------------------------------------

@[simp]
theorem count_setCount
    (t : Tracker)
    (b c : Block)
    (n : UInt32) :
    (t.setCount b n).count c =
      if c = b then n else t.count c := by
  cases b <;> cases c <;> rfl

@[simp]
theorem position_setCount
    (t : Tracker)
    (b : Block)
    (n : UInt32) :
    (t.setCount b n).position = t.position := by
  cases b <;> rfl

@[simp]
theorem setCount_setCount
    (t : Tracker)
    (b : Block)
    (m n : UInt32) :
    (t.setCount b m).setCount b n = t.setCount b n := by
  cases b <;> rfl

@[simp]
theorem setCount_count
    (t : Tracker)
    (b : Block) :
    t.setCount b (t.count b) = t := by
  cases b <;> rfl

/- No count is above the largest one. -/
theorem openCount_le_maxCount
    (t : Tracker)
    (b : Block) :
    t.openCount b ≤ maxCount :=
  Nat.le_of_lt_succ (t.count b).toNat_lt

/-
  Below the largest count, opening raises the count of its
  own kind only.
-/
theorem openCount_open
    {t : Tracker}
    {b : Block}
    (hCount : t.openCount b < maxCount)
    (c : Block) :
    (t.open b).openCount c =
      t.openCount c + if c = b then 1 else 0 := by
  unfold openCount maxCount at *
  unfold Tracker.open
  rw [count_setCount]
  split
  · rename_i hKind
    rw [hKind, UInt32.toNat_add]
    exact Nat.mod_eq_of_lt (by simp; omega)
  · rfl

/- Opening never raises a count by more than one. -/
theorem openCount_open_le
    (t : Tracker)
    (b c : Block) :
    (t.open b).openCount c ≤
      t.openCount c + if c = b then 1 else 0 := by
  unfold openCount Tracker.open
  rw [count_setCount]
  split
  · rename_i hKind
    rw [hKind, UInt32.toNat_add]
    exact Nat.mod_le _ _
  · exact Nat.le_refl _

@[simp]
theorem position_open
    (t : Tracker)
    (b : Block) :
    (t.open b).position = t.position := by
  simp [Tracker.open]

/- The word is zero exactly if nothing is open. -/
theorem count_eq_zero_iff
    {t : Tracker}
    {b : Block} :
    t.count b = 0 ↔ t.openCount b = 0 := by
  unfold openCount
  rw [← UInt32.toNat_inj]
  rfl

/- Closing is refused exactly if nothing is open. -/
@[simp]
theorem close?_eq_none_iff
    {t : Tracker}
    {b : Block} :
    t.close? b = none ↔ t.openCount b = 0 := by
  unfold close?
  rw [← count_eq_zero_iff]
  split <;> simp_all

/- Opening undoes closing. -/
theorem open_of_close?
    {t t' : Tracker}
    {b : Block}
    (hClose : t.close? b = some t') :
    t'.open b = t := by
  unfold close? at hClose
  split at hClose
  · cases hClose
  · cases hClose
    simp [Tracker.open]

/- Closing lowers the count of its own kind only. -/
theorem openCount_of_close?
    {t t' : Tracker}
    {b : Block}
    (hClose : t.close? b = some t')
    (c : Block) :
    t.openCount c =
      t'.openCount c + if c = b then 1 else 0 := by
  have hOpen : t.openCount b ≠ 0 := by
    intro hZero
    rw [close?_eq_none_iff.mpr hZero] at hClose
    cases hClose
  have hBelow : t'.openCount b < maxCount := by
    unfold close? at hClose
    split at hClose
    · cases hClose
    · cases hClose
      have hLargest := t.openCount_le_maxCount b
      unfold openCount at *
      rw [count_setCount, if_pos rfl,
        UInt32.toNat_sub_of_le _ _ (by
          rw [UInt32.le_iff_toNat_le]
          exact Nat.pos_of_ne_zero hOpen)]
      have hOne : (1 : UInt32).toNat = 1 := rfl
      omega
  rw [← open_of_close? hClose, openCount_open hBelow]

theorem position_of_close?
    {t t' : Tracker}
    {b : Block}
    (hClose : t.close? b = some t') :
    t'.position = t.position := by
  rw [← open_of_close? hClose, position_open]

/- Below the largest count, closing undoes opening. -/
theorem close?_open
    {t : Tracker}
    {b : Block}
    (hCount : t.openCount b < maxCount) :
    (t.open b).close? b = some t := by
  have hOpen : (t.open b).count b ≠ 0 := by
    rw [Ne, count_eq_zero_iff, openCount_open hCount]
    simp
  unfold close?
  rw [if_neg hOpen]
  simp [Tracker.open]

@[simp]
theorem openCount_advance
    (t : Tracker)
    (b : Block) :
    t.advance.openCount b = t.openCount b := by
  cases b <;> rfl

@[simp]
theorem position_advance
    (t : Tracker) :
    t.advance.position = t.position + 1 := rfl

------------------------------------------------------------
-- Steps With One More Open Block
------------------------------------------------------------

/- Opening leaves the counts of other kinds alone. -/
theorem openCount_open_of_ne
    {b c : Block}
    (hKind : c ≠ b)
    (t : Tracker) :
    (t.open b).openCount c = t.openCount c := by
  unfold openCount Tracker.open
  rw [count_setCount, if_neg hKind]

/- Blocks can be opened in either order. -/
theorem open_comm
    (t : Tracker)
    (b c : Block) :
    (t.open b).open c = (t.open c).open b := by
  cases b <;> cases c <;> rfl

/- Opening does not disturb the position. -/
theorem advance_open
    (t : Tracker)
    (b : Block) :
    (t.open b).advance = t.advance.open b := by
  cases b <;> rfl

/- A block that can be closed can be closed after opening. -/
theorem close?_open_comm
    {t t' : Tracker}
    {b c : Block}
    (hClose : t.close? c = some t')
    (hCount : t.openCount b < maxCount) :
    (t.open b).close? c = some (t'.open b) := by
  have hLeft := open_of_close? hClose
  have hBelow : (t'.open b).openCount c < maxCount := by
    have hLargest := t.openCount_le_maxCount c
    have hClosed := openCount_of_close? hClose c
    rw [if_pos rfl] at hClosed
    by_cases hKind : c = b
    · subst hKind
      have hOpened := t'.openCount_open_le c c
      rw [if_pos rfl] at hOpened
      omega
    · rw [openCount_open_of_ne hKind]
      omega
  rw [← hLeft, open_comm]
  exact close?_open hBelow

end Tracker

end FactLayout
