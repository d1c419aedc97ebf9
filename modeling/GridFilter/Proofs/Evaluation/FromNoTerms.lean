/-
Taking a phrase out of a query without terms.

A phrase can only be taken out of rows that are visible, and a full stop is put in front of
it to have some if there is no query yet. Whether there is one is decided by blanks alone.
A query may hold more than blanks and still have no terms: commas only separate, and lone
signs are passed over. Such a query is kept, the full stop is left out, and the phrase is
hidden from rows of which none is visible.

`terms_composeQuery_subtract_of_no_terms` says of all queries without terms which of them
get the full stop, and what becomes of the others.
-/
import GridFilter.Proofs.Evaluation.InertFront
import GridFilter.Proofs.Query.Picked

set_option autoImplicit false

namespace GridFilter

open Query

variable {current phrase : Text}

/-- Behind anything but blanks that holds no term, the phrase is the only term. -/
theorem terms_composeQuery_subtract_alone (hp : phrase.IsPiece) (no_terms : terms current = [])
    (there : ∃ c ∈ current, Text.isBlank c = false) :
    terms (composeQuery current phrase { subtract := true }) = [⟨.hide, phrase⟩] := by
  rw [terms_composeQuery_subtract hp there, no_terms, List.nil_append]

/-- **When taking a phrase out of a query without terms begins with all rows.** The phrase is
a single piece. The terms of the composed query are a full stop that reveals and the phrase
that is hidden exactly if the query that is there is blank. If it holds anything else,
commas or lone signs, the phrase alone is hidden, and in every grid and every mode, as long
as the composed query filters and no columns are ignored, no row is visible and no cell
is highlighted afterwards. -/
theorem terms_composeQuery_subtract_of_no_terms (hp : phrase.IsPiece)
    (no_terms : terms current = []) :
    let composed := composeQuery current phrase { subtract := true }
    (terms composed = [⟨.reveal, ['.']⟩, ⟨.hide, phrase⟩] ↔
      ∀ c ∈ current, Text.isBlank c = true) ∧
    ((∃ c ∈ current, Text.isBlank c = false) →
      terms composed = [⟨.hide, phrase⟩] ∧
      ∀ (g : Grid) (mode : MatchMode) (ignore : IgnoreSet) (minChars : UInt64),
        isDegenerate composed minChars = false → ignore.hasColumns = false →
          (evaluate g composed mode ignore minChars).grid = g.reset false) := by
  intro composed
  constructor
  · constructor
    · intro shown
      by_contra solid
      have there : ∃ c ∈ current, Text.isBlank c = false := by simpa using solid
      rw [terms_composeQuery_subtract_alone hp no_terms there] at shown
      have one_two : 1 = 2 := congrArg List.length shown
      contradiction
    · exact terms_composeQuery_subtract_of_blanks hp
  · intro there
    have alone : terms composed = [⟨.hide, phrase⟩] :=
      terms_composeQuery_subtract_alone hp no_terms there
    refine ⟨alone, fun g mode ignore minChars long no_columns => ?_⟩
    refine evaluate_grid_of_not_reveal g mode long no_columns ?_
    rw [alone, List.forall_mem_singleton]
    exact Sign.noConfusion

/-- A comma and a lone sign: nothing is left of two rows, the phrase being in one of them. -/
theorem terms_composeQuery_subtract_of_no_terms_lone_sign :
    let g : Grid :=
      ⟨[{ cells := [{ text := "tart".toList }] }, { cells := [{ text := "pie".toList }] }]⟩
    let composed := composeQuery ", +".toList "pie".toList { subtract := true }
    Text.IsPiece "pie".toList ∧ terms ", +".toList = [] ∧
      terms composed = [⟨.hide, "pie".toList⟩] ∧
      (evaluate g composed .findFirst {} 1).grid = g.reset false := by
  intro g composed
  have own_piece : "pie".toList ∈ Text.pieces "pie".toList := by decide
  have piece : Text.IsPiece "pie".toList := Text.isPiece_of_mem_pieces own_piece
  have no_terms : terms ", +".toList = [] := by decide
  obtain ⟨_, left⟩ := @terms_composeQuery_subtract_of_no_terms ", +".toList "pie".toList piece
    no_terms
  obtain ⟨alone, hidden⟩ := left ⟨',', by decide, by decide⟩
  exact ⟨piece, no_terms, alone, hidden g .findFirst {} 1 (by decide) (by decide)⟩

/-- After a comma there is no full stop, and the row without the phrase is not shown. -/
theorem terms_composeQuery_subtract_after_comma :
    let g : Grid :=
      ⟨[{ cells := [{ text := "tart".toList }] }, { cells := [{ text := "pie".toList }] }]⟩
    let composed := composeQuery [','] "pie".toList { subtract := true }
    Text.IsPiece "pie".toList ∧ terms [','] = [] ∧
      terms composed ≠ [⟨.reveal, ['.']⟩, ⟨.hide, "pie".toList⟩] ∧
      (evaluate g composed .findFirst {} 1).grid.rows.map (·.visible) = [false, false] := by
  intro g composed
  have own_piece : "pie".toList ∈ Text.pieces "pie".toList := by decide
  exact ⟨Text.isPiece_of_mem_pieces own_piece, by decide, by decide, by decide +kernel⟩

end GridFilter
