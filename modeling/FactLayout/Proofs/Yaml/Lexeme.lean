import FactLayout.Proofs.Yaml.Property
import FactLayout.Proofs.Yaml.Scalar
import FactLayout.Yaml.Token

/-
  One token with room around it.

  Every token is the same with and without room around the
  text, except for a block scalar that reaches the gap.

  Key definitions include:
    * `Yaml.Lexeme.Leads`
    * `Yaml.Lexeme.IsLastBlock`

  Main results:
    * `Yaml.Cursor.Leads.lexeme?`
-/

------------------------------------------------------------
-- Lexemes
------------------------------------------------------------

namespace FactLayout

namespace Yaml

/-
  The same token, read with and without room around it.
-/
structure Lexeme.Leads
    (g : Margin)
    (l later : Lexeme) : Prop where
  token : l.token = later.token
  next : l.next.Leads g later.next
  broken : l.next.rest ≠ [] → later.broken = l.broken

/- A block scalar with nothing but a gap behind it. -/
structure Lexeme.IsLastBlock (l : Lexeme) : Prop where
  token : ∃ text, l.token = .scalar .block text
  gap : l.next.rest.all isGap = true

namespace Cursor

variable {g : Margin}
variable {c later : Cursor}
variable {flow : Bool}
variable {indent : Nat}
variable {l : Lexeme}

namespace Leads

theorem plainLexeme?
    {first : Char}
    (hLeads : (c.skip 1).Leads g (later.skip 1))
    (hLexeme : plainLexeme? flow indent first later = some l) :
    ∃ l', Yaml.plainLexeme? flow indent first c = some l' ∧
      l'.Leads g l := by
  unfold Yaml.plainLexeme? at hLexeme ⊢
  rcases Option.bind_eq_some_iff.mp hLexeme with
    ⟨p, hPlain, hLexeme⟩
  cases hLexeme
  rcases hLeads.plain? hPlain with ⟨q, hBefore, hAfter⟩
  rw [hBefore]
  refine ⟨_, rfl, ?_, hAfter.next, hAfter.broken⟩
  rw [hAfter.text]

theorem quotedLexeme?
    {single : Bool}
    (hLeads : (c.skip 1).Leads g (later.skip 1))
    (hLexeme : quotedLexeme? single later = some l) :
    ∃ l', Yaml.quotedLexeme? single c = some l' ∧
      l'.Leads g l := by
  unfold Yaml.quotedLexeme? at hLexeme ⊢
  rcases Option.bind_eq_some_iff.mp hLexeme with
    ⟨⟨text, next⟩, hQuoted, hLexeme⟩
  cases hLexeme
  rcases hLeads.quoted? hQuoted with
    ⟨before, hBefore, hAfter⟩
  rw [hBefore]
  exact ⟨_, rfl, rfl, hAfter, fun _ => rfl⟩

theorem blockLexeme?
    {folded : Bool}
    (hLeads : (c.skip 1).Leads g (later.skip 1))
    (hLexeme : blockLexeme? folded indent later = some l) :
    l.IsLastBlock ∨
      ∃ l', Yaml.blockLexeme? folded indent c = some l' ∧
        l'.Leads g l := by
  unfold Yaml.blockLexeme? at hLexeme ⊢
  rcases Option.bind_eq_some_iff.mp hLexeme with
    ⟨⟨text, next⟩, hBlock, hLexeme⟩
  cases hLexeme
  rcases hLeads.block? hBlock with
    hGap | ⟨before, hBefore, hAfter⟩
  · exact .inl ⟨⟨_, rfl⟩, hGap⟩
  · right
    rw [hBefore]
    exact ⟨_, rfl, rfl, hAfter, fun _ => rfl⟩

/- A token of one character. -/
theorem single
    {t : Token}
    (hLeads : (c.skip 1).Leads g (later.skip 1))
    (hLexeme :
      some (Lexeme.mk t false (later.skip 1)) = some l) :
    ∃ l', some (Lexeme.mk t false (c.skip 1)) = some l' ∧
      l'.Leads g l := by
  cases hLexeme
  exact ⟨_, rfl, rfl, hLeads, fun _ => rfl⟩

/- A token that begins with a mark and holds what follows. -/
theorem marked
    {α : Type}
    {read : Cursor → Option (α × Cursor)}
    {make : α → Token}
    (hRead : ∀ a next,
      read (later.skip 1) = some (a, next) →
      ∃ before, read (c.skip 1) = some (a, before) ∧
        before.Leads g next)
    (hLexeme :
      (read (later.skip 1)).bind
          (fun r => some (Lexeme.mk (make r.1) false r.2)) =
        some l) :
    ∃ l',
      (read (c.skip 1)).bind
          (fun r => some (Lexeme.mk (make r.1) false r.2)) =
        some l' ∧
      l'.Leads g l := by
  rcases Option.bind_eq_some_iff.mp hLexeme with
    ⟨⟨a, next⟩, hNext, hLexeme⟩
  cases hLexeme
  rcases hRead a next hNext with ⟨before, hBefore, hAfter⟩
  rw [hBefore]
  exact ⟨_, rfl, rfl, hAfter, fun _ => rfl⟩

/-
  One token is the same with room around it, unless it is a
  block scalar that reaches the gap behind the text.
-/
theorem lexeme?
    (hLeads : c.Leads g later)
    (hRest : c.rest ≠ [])
    (hLexeme : lexeme? flow indent later = some l) :
    l.IsLastBlock ∨
      ∃ l', Yaml.lexeme? flow indent c = some l' ∧
        l'.Leads g l := by
  have hLater := hLeads.eq_within hRest
  have hMarker := hLeads.atDocumentMarker_eq
  rcases c with ⟨_ | ⟨first, rest⟩, mark⟩
  · exact absurd rfl hRest
  have hSkip := hLeads.skip_one rfl
  subst hLater
  unfold Yaml.lexeme? at hLexeme ⊢
  rw [hMarker] at hLexeme
  simp only [within, List.cons_append, g.atGap_append,
    Mark.column_below] at hLexeme ⊢
  split at hLexeme
  · rename_i hPragma
    rw [if_pos hPragma]
    exact .inr (marked (fun _ _ => hSkip.pragma?) hLexeme)
  · rename_i hPragma
    rw [if_neg hPragma]
    split at hLexeme
    · rename_i hDocument
      rw [if_pos hDocument]
      cases hLexeme
      refine .inr ⟨_, rfl, rfl, hLeads.skip ?_, fun _ => rfl⟩
      rcases atDocumentMarker_iff.mp hDocument with
        ⟨_, x, left, _, hText, _⟩
      rw [hText]
      simp
    · rename_i hDocument
      rw [if_neg hDocument]
      split at hLexeme
      case h_1 | h_2 | h_3 | h_4 | h_5 =>
        exact .inr (hSkip.single hLexeme)
      case h_6 | h_7 | h_8 =>
        split at hLexeme
        · rename_i hGap
          rw [if_pos hGap]
          exact .inr (hSkip.single hLexeme)
        · rename_i hGap
          rw [if_neg hGap]
          exact .inr (hSkip.plainLexeme? hLexeme)
      case h_9 | h_10 =>
        exact .inr (marked (fun _ _ => hSkip.anchor?) hLexeme)
      case h_11 =>
        exact .inr (marked (fun _ _ => hSkip.tag?) hLexeme)
      case h_12 | h_13 =>
        split at hLexeme
        · cases hLexeme
        · rename_i hBlock
          rw [if_neg hBlock]
          exact hSkip.blockLexeme? hLexeme
      case h_14 | h_15 =>
        exact .inr (hSkip.quotedLexeme? hLexeme)
      case h_16 =>
        split at hLexeme
        · cases hLexeme
        · rename_i hPlain
          rw [if_neg hPlain]
          exact .inr (hSkip.plainLexeme? hLexeme)

end Leads

end Cursor

end Yaml

end FactLayout
