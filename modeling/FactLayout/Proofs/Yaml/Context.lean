import FactLayout.Proofs.Yaml.Margin
import FactLayout.Yaml.Token
import Mathlib.Data.List.TakeWhile

/-
  What the tokens of a text say, below other lines.

  A context knows where keys may begin.  Below other lines
  these places are further on, and nothing else is changed.
  At the end of a text it does not matter how far on that is.

  Key definitions include:
    * `Yaml.Context.below`
    * `Yaml.Context.ended`
    * `Yaml.Context.finishAt?`

  Main results:
    * `Yaml.Context.refresh?_below`
    * `Yaml.Context.accept?_below`
    * `Yaml.Context.finishAt?_of_precedes`
-/

------------------------------------------------------------
-- Keys Below a Mark
------------------------------------------------------------

namespace FactLayout

namespace Yaml

/- A key of a text that begins below a mark. -/
def PendingKey.below
    (base : Mark)
    (key : PendingKey) : PendingKey :=
  { key with mark := base.below key.mark }

/- A key is too long in both places, or in neither. -/
theorem PendingKey.isStale_below
    (base : Mark)
    (key : PendingKey)
    (m : Mark) :
    (key.below base).isStale (base.below m) =
      key.isStale m := by
  simp [isStale, below, Mark.below, Nat.add_assoc]

/- It is given up in both places, or in neither. -/
theorem PendingKey.refresh?_below
    (base m : Mark)
    (key : Option PendingKey) :
    refresh? (base.below m) (key.map (.below base)) =
      (refresh? m key).map (Option.map (.below base)) := by
  cases key with
  | none => rfl
  | some key =>
      simp only [Option.map_some, refresh?,
        isStale_below base key m]
      have hRequired :
          (key.below base).required = key.required := rfl
      rw [hRequired]
      split
      · rfl
      · split <;> rfl

------------------------------------------------------------
-- Keys Further On
------------------------------------------------------------

/- A key that is too long stays so further on. -/
theorem PendingKey.isStale_of_precedes
    {key : PendingKey}
    {m later : Mark}
    (hMark : m.Precedes later)
    (hStale : key.isStale m = true) :
    key.isStale later = true := by
  have hLine := hMark.line
  have hIndex := hMark.index
  simp only [isStale, Bool.or_eq_true, decide_eq_true_eq]
    at hStale ⊢
  omega

/- Only a key that is required is refused. -/
theorem PendingKey.required_of_refresh?
    {m : Mark}
    {key : Option PendingKey}
    (hRefresh : refresh? m key = none) :
    key.any (·.required) = true := by
  cases key with
  | none => cases hRefresh
  | some key =>
      simp only [refresh?] at hRefresh
      split at hRefresh
      · cases hRefresh
      · split at hRefresh
        · rename_i hRequired
          exact hRequired
        · cases hRefresh

/- A key that is required is not given up. -/
theorem PendingKey.any_required_of_refresh?
    {m : Mark}
    {key kept : Option PendingKey}
    (hRefresh : refresh? m key = some kept) :
    kept.any (·.required) = key.any (·.required) := by
  cases key with
  | none =>
      cases hRefresh
      rfl
  | some key =>
      simp only [refresh?] at hRefresh
      split at hRefresh
      · cases hRefresh
        rfl
      · split at hRefresh
        · cases hRefresh
        · rename_i hRequired
          cases hRefresh
          exact (Bool.eq_false_iff.mpr hRequired).symm

/- Every key that is kept at a mark is kept before. -/
theorem PendingKey.isSome_refresh?
    {m later : Mark}
    {key : Option PendingKey}
    (hMark : m.Precedes later)
    (hRefresh : (refresh? later key).isSome) :
    (refresh? m key).isSome := by
  cases key with
  | none => rfl
  | some key =>
      simp only [refresh?] at hRefresh ⊢
      split
      · rfl
      · rename_i hStale
        simp only [Bool.not_eq_true, Bool.not_eq_false']
          at hStale
        have hLater : (!key.isStale later) = false := by
          rw [isStale_of_precedes hMark hStale]
          rfl
        simp only [hLater, Bool.false_eq_true, if_false]
          at hRefresh
        split
        · rename_i hRequired
          simp [hRequired] at hRefresh
        · rfl

theorem PendingKey.isSome_mapM_refresh?
    {m later : Mark}
    {keys : List (Option PendingKey)}
    (hMark : m.Precedes later)
    (hRefresh : (keys.mapM (refresh? later)).isSome) :
    (keys.mapM (refresh? m)).isSome := by
  induction keys with
  | nil => rfl
  | cons key keys ih =>
      rw [List.mapM_cons] at hRefresh ⊢
      rcases Option.isSome_iff_exists.mp hRefresh with
        ⟨_, hBoth⟩
      rcases Option.bind_eq_some_iff.mp hBoth with
        ⟨_, hKey, hKeys⟩
      rcases Option.bind_eq_some_iff.mp hKeys with
        ⟨_, hKeys, _⟩
      have hFirst : (refresh? m key).isSome :=
        isSome_refresh? hMark (by rw [hKey]; rfl)
      have hMore := ih (by rw [hKeys]; rfl)
      rcases Option.isSome_iff_exists.mp hFirst with
        ⟨first, hFirst⟩
      rcases Option.isSome_iff_exists.mp hMore with
        ⟨more, hMore⟩
      rw [hFirst, hMore]
      rfl

theorem PendingKey.isEmpty_of_mapM_refresh?
    {m : Mark}
    {keys kept : List (Option PendingKey)}
    (hRefresh : keys.mapM (refresh? m) = some kept) :
    kept.isEmpty = keys.isEmpty := by
  cases keys with
  | nil =>
      cases hRefresh
      rfl
  | cons key keys =>
      rw [List.mapM_cons] at hRefresh
      rcases Option.bind_eq_some_iff.mp hRefresh with
        ⟨_, _, hKeys⟩
      rcases Option.bind_eq_some_iff.mp hKeys with
        ⟨_, _, hKept⟩
      cases hKept
      rfl

------------------------------------------------------------
-- Contexts Below a Mark
------------------------------------------------------------

namespace Context

/- The context of a text that begins below a mark. -/
def below
    (base : Mark)
    (x : Context) : Context :=
  { x with
    key := x.key.map (.below base)
    outer := x.outer.map (Option.map (.below base)) }

section

variable (base m : Mark)
variable (x : Context)

@[simp]
theorem inFlow_below :
    (x.below base).inFlow = x.inFlow := by
  simp [inFlow, below]

@[simp]
theorem indent_below :
    (x.below base).indent = x.indent := (rfl)

@[simp]
theorem isInner_below
    (column : Nat) :
    (x.below base).isInner column = x.isInner column := by
  simp [isInner]

theorem closeBlocks_below
    (keep : Nat → Bool) :
    (x.below base).closeBlocks keep =
      (x.closeBlocks keep).below base := by
  unfold closeBlocks
  rw [inFlow_below]
  split <;> rfl

theorem dropKey?_below :
    (x.below base).dropKey? =
      x.dropKey?.map (below base) := by
  have hKey :
      (x.below base).key.any (·.required) =
        x.key.any (·.required) := by
    simp only [below]
    cases x.key <;> rfl
  unfold dropKey?
  rw [hKey]
  split <;> rfl

theorem saveKey?_below :
    (x.below base).saveKey? (base.below m) =
      (x.saveKey? m).map (below base) := by
  have hAllowed : (x.below base).keyAllowed = x.keyAllowed :=
    rfl
  unfold saveKey?
  rw [hAllowed, dropKey?_below, inFlow_below]
  split
  · cases x.dropKey? <;> rfl
  · rfl

theorem openBlock?_below
    (column : Nat)
    (t : Token) :
    (x.below base).openBlock? column t =
      (x.openBlock? column t).map (below base) := by
  have hAllowed : (x.below base).keyAllowed = x.keyAllowed :=
    rfl
  unfold openBlock?
  rw [inFlow_below, isInner_below, hAllowed]
  split
  · rfl
  · split
    · rfl
    · split <;> rfl

theorem openAtKey_below
    (key : PendingKey) :
    (x.below base).openAtKey (key.below base) =
      (x.openAtKey key).below base := by
  have hColumn : (key.below base).mark.column = key.mark.column :=
    rfl
  unfold openAtKey
  simp only [hColumn, isInner_below]
  split <;> rfl

theorem refresh?_below :
    (x.below base).refresh? (base.below m) =
      (x.refresh? m).map (below base) := by
  have hOuter :
      (x.outer.map (Option.map (.below base))).mapM
          (PendingKey.refresh? (base.below m)) =
        (x.outer.mapM (PendingKey.refresh? m)).map
          (List.map (Option.map (.below base))) := by
    induction x.outer with
    | nil => rfl
    | cons key keys ih =>
        rw [List.map_cons, List.mapM_cons, List.mapM_cons,
          PendingKey.refresh?_below, ih]
        cases PendingKey.refresh? m key with
        | none => rfl
        | some key =>
            cases keys.mapM (PendingKey.refresh? m) <;> rfl
  unfold refresh? below
  simp only [PendingKey.refresh?_below, hOuter]
  cases PendingKey.refresh? m x.key with
  | none => rfl
  | some key =>
      cases x.outer.mapM (PendingKey.refresh? m) <;> rfl

theorem finish?_below :
    (x.below base).finish? = x.finish? := by
  unfold finish?
  rw [closeBlocks_below, dropKey?_below]
  cases (x.closeBlocks fun _ => false).dropKey? <;> rfl

/- What is done behind a step alike is alike. -/
theorem bind_below
    {first : Option Context}
    {more : Context → Option Context}
    (hMore : ∀ y,
      more (y.below base) = (more y).map (below base)) :
    (first.map (below base)).bind more =
      (first.bind more).map (below base) := by
  cases first with
  | none => rfl
  | some y => exact hMore y

/- The key that a flow collection has set aside. -/
theorem outer_below :
    (x.below base).outer.head?.join =
      x.outer.head?.join.map (.below base) ∧
    (x.below base).outer.tail =
      x.outer.tail.map (Option.map (.below base)) := by
  simp only [below]
  cases x.outer with
  | nil => exact ⟨rfl, rfl⟩
  | cons key keys => exact ⟨rfl, rfl⟩

/- A token is taken in alike in both places. -/
theorem accept?_below
    (l : Lexeme) :
    (x.below base).accept? (base.below m) l =
      (x.accept? m l).map (below base) := by
  rcases l with ⟨token, broken, next⟩
  unfold accept?
  simp only [Option.bind_eq_bind, Option.pure_def]
  cases token with
  | blockSequence | blockMapping | blockEnd => rfl
  | pragma | documentStart | documentEnd =>
      simp only
      rw [closeBlocks_below, dropKey?_below]
      exact bind_below base fun y => rfl
  | openSequence | openMapping =>
      simp only
      rw [saveKey?_below]
      exact bind_below base fun y => rfl
  | closeSequence | closeMapping =>
      simp only
      rw [dropKey?_below]
      refine bind_below base fun y => ?_
      rw [(outer_below base y).1, (outer_below base y).2]
      rfl
  | comma =>
      simp only
      rw [dropKey?_below]
      exact bind_below base fun y => rfl
  | entry =>
      simp only
      rw [Mark.column_below, openBlock?_below]
      refine bind_below base fun y => ?_
      rw [dropKey?_below]
      exact bind_below base fun z => rfl
  | key =>
      simp only
      rw [Mark.column_below, openBlock?_below]
      refine bind_below base fun y => ?_
      rw [dropKey?_below]
      refine bind_below base fun z => ?_
      rw [inFlow_below]
      rfl
  | value =>
      simp only
      cases hKey : x.key with
      | some key =>
          have hBelow :
              (x.below base).key = some (key.below base) := by
            simp [below, hKey]
          simp only [hBelow, openAtKey_below]
          rfl
      | none =>
          have hBelow : (x.below base).key = none := by
            simp [below, hKey]
          simp only [hBelow]
          rw [Mark.column_below, openBlock?_below]
          refine bind_below base fun y => ?_
          rw [inFlow_below]
          rfl
  | reference | anchor | tag =>
      simp only
      rw [saveKey?_below]
      exact bind_below base fun y => rfl
  | scalar style text =>
      cases style with
      | plain | quoted =>
          simp only
          rw [saveKey?_below]
          exact bind_below base fun y => rfl
      | block =>
          simp only
          rw [dropKey?_below]
          exact bind_below base fun y => rfl

end

------------------------------------------------------------
-- The Last Token
------------------------------------------------------------

section

variable {x y : Context}
variable {m : Mark}

/-
  Where a token ends is not taken in, and whether it is
  broken says only if a key may begin behind it.
-/
theorem accept?_of_token_eq
    {l other : Lexeme}
    (hToken : other.token = l.token)
    (hAccept : x.accept? m l = some y) :
    ∃ keyAllowed,
      x.accept? m other = some (y.allowKey keyAllowed) ∧
      (other.broken = l.broken →
        keyAllowed = y.keyAllowed) := by
  rcases l with ⟨token, broken, next⟩
  rcases other with ⟨otherToken, otherBroken, otherNext⟩
  have hSame : otherToken = token := hToken
  subst otherToken
  -- Behind most tokens nothing depends on where they end.
  have hPlain :
      x.accept? m ⟨token, otherBroken, otherNext⟩ = some y →
      ∃ keyAllowed,
        x.accept? m ⟨token, otherBroken, otherNext⟩ =
          some (y.allowKey keyAllowed) ∧
        (otherBroken = broken → keyAllowed = y.keyAllowed) :=
    fun h => ⟨y.keyAllowed, h, fun _ => rfl⟩
  -- Behind one that may be a key, a break may matter.
  have hSave :
      (∀ b n, x.accept? m ⟨token, b, n⟩ =
        (x.saveKey? m).bind fun z =>
          some ((z.push token).allowKey b)) →
      ∃ keyAllowed,
        x.accept? m ⟨token, otherBroken, otherNext⟩ =
          some (y.allowKey keyAllowed) ∧
        (otherBroken = broken → keyAllowed = y.keyAllowed) := by
    intro hEq
    rw [hEq] at hAccept
    rcases Option.bind_eq_some_iff.mp hAccept with
      ⟨z, hz, hy⟩
    cases hy
    refine ⟨otherBroken, ?_, id⟩
    rw [hEq, hz]
    rfl
  cases token with
  | reference | anchor | tag => exact hSave fun _ _ => rfl
  | scalar style text =>
      cases style with
      | plain | quoted => exact hSave fun _ _ => rfl
      | block => exact hPlain hAccept
  | blockSequence | blockMapping | blockEnd | pragma
  | documentStart | documentEnd | openSequence
  | closeSequence | openMapping | closeMapping | comma
  | entry | key | value => exact hPlain hAccept

/- A block scalar is the last token behind its place. -/
theorem tokens_of_accept?_block
    {l : Lexeme}
    {text : String}
    (hToken : l.token = .scalar .block text)
    (hAccept : x.accept? m l = some y) :
    y.tokens = l.token :: x.tokens := by
  unfold accept? at hAccept
  simp only [hToken, Option.bind_eq_bind, Option.pure_def]
    at hAccept
  rcases Option.bind_eq_some_iff.mp hAccept with ⟨z, hz, hy⟩
  cases hy
  unfold dropKey? at hz
  split at hz <;> cases hz
  rw [hToken]
  rfl

end

------------------------------------------------------------
-- The End of a Text
------------------------------------------------------------

/- The tokens of a text that ends here. -/
def ended (x : Context) : List Token :=
  x.tokens.reverse ++
    List.replicate (if x.inFlow then 0 else x.columns.length)
      .blockEnd

section

variable (x : Context)

theorem ended_closeBlocks
    (keep : Nat → Bool) :
    (x.closeBlocks keep).ended = x.ended := by
  unfold closeBlocks
  by_cases hFlow : x.inFlow = true
  · rw [if_pos hFlow]
  · have hLength :=
      (List.takeWhile_prefix
        (p := fun c => !keep c) (l := x.columns)).length_le
    rw [if_neg hFlow]
    unfold ended
    simp only [inFlow] at hFlow ⊢
    simp only [hFlow, List.reverse_append,
      List.reverse_replicate, List.append_assoc,
      List.replicate_append_replicate, List.length_drop]
    congr 2
    simp only [Bool.false_eq_true, if_false]
    omega

/- A text can end unless a key is required. -/
theorem finish?_eq :
    x.finish? =
      if x.key.any (·.required) then none
      else some x.ended := by
  have hKey :
      (x.closeBlocks fun _ => false).key = x.key := by
    unfold closeBlocks
    split <;> rfl
  have hTokens :
      (x.closeBlocks fun _ => false).tokens.reverse =
        x.ended := by
    have hAll :
        x.columns.takeWhile (fun _ => !false) = x.columns :=
      List.takeWhile_eq_self_iff.mpr fun _ _ => rfl
    unfold closeBlocks ended
    split
    · simp
    · rw [hAll]
      simp
  unfold finish? dropKey?
  rw [hKey]
  split
  · rfl
  · exact congrArg some hTokens

/- Blocks that end before the end of the text end there. -/
theorem finish?_closeBlocks
    (keep : Nat → Bool) :
    (x.closeBlocks keep).finish? = x.finish? := by
  have hKey : (x.closeBlocks keep).key = x.key := by
    unfold closeBlocks
    split <;> rfl
  rw [finish?_eq, finish?_eq, ended_closeBlocks, hKey]

/- The tokens of a text that ends at a mark. -/
def finishAt?
    (m : Mark) : Option (List Token) :=
  (x.refresh? m).bind finish?

theorem finishAt?_allowKey
    (keyAllowed : Bool)
    (m : Mark) :
    (x.allowKey keyAllowed).finishAt? m = x.finishAt? m := by
  unfold finishAt? refresh? allowKey
  simp only [Option.bind_eq_bind]
  cases PendingKey.refresh? m x.key with
  | none => rfl
  | some key =>
      cases x.outer.mapM (PendingKey.refresh? m) <;>
        simp [finish?_eq, ended, inFlow]

theorem finishAt?_below
    (base m : Mark) :
    (x.below base).finishAt? (base.below m) =
      x.finishAt? m := by
  unfold finishAt?
  rw [refresh?_below]
  cases x.refresh? m with
  | none => rfl
  | some y => exact finish?_below base y

/-
  A text can end at a mark if no key is required there, and
  none that is required has been set aside for too long.
-/
theorem finishAt?_eq_some_iff
    {m : Mark}
    {ts : List Token} :
    x.finishAt? m = some ts ↔
      x.key.any (·.required) = false ∧
        (x.outer.mapM (PendingKey.refresh? m)).isSome ∧
        x.ended = ts := by
  unfold finishAt? refresh?
  simp only [Option.bind_eq_bind, Option.pure_def]
  cases hOuter : x.outer.mapM (PendingKey.refresh? m) with
  | none =>
      cases PendingKey.refresh? m x.key <;> simp
  | some outer =>
      have hEmpty : outer.isEmpty = x.outer.isEmpty :=
        PendingKey.isEmpty_of_mapM_refresh? hOuter
      cases hKey : PendingKey.refresh? m x.key with
      | none =>
          have hRequired :=
            PendingKey.required_of_refresh? hKey
          simp [hRequired]
      | some key =>
          have hRequired :=
            PendingKey.any_required_of_refresh? hKey
          simp only [Option.bind_some, finish?_eq, ended,
            inFlow, hEmpty, hRequired]
          cases x.key.any (·.required) <;> simp

/- A text that can end can end before. -/
theorem finishAt?_of_precedes
    {m later : Mark}
    {ts : List Token}
    (hMark : m.Precedes later)
    (hFinish : x.finishAt? later = some ts) :
    x.finishAt? m = some ts := by
  rcases x.finishAt?_eq_some_iff.mp hFinish with
    ⟨hKey, hOuter, hTokens⟩
  exact x.finishAt?_eq_some_iff.mpr
    ⟨hKey, PendingKey.isSome_mapM_refresh? hMark hOuter,
      hTokens⟩

end

end Context

end Yaml

end FactLayout
