/-
Picking a phrase and typing it.

A phrase that is picked replaces the query and is followed by a blank, so that typing
can go on. One would expect the grid to be the one that typing the phrase leaves. Where
the query is taken apart it is: the blank separates, and is in no term. Where the query
is matched as a whole, because columns are ignored, the blank is part of the fragment.
The modes that look for phrases cut it off again, but only if the phrase alone is no
literal, since with a blank at the end it never is one. And in the mode that reads
expressions the blank is looked for like any other character, so that a cell that holds
the phrase and nothing behind it is not found.

`setQuery_composeQuery_iff` says exactly when the two are the same.
-/
import GridFilter.Proofs.Evaluation.SameAnswers
import GridFilter.Proofs.Evaluation.TermAlgebra
import GridFilter.Proofs.Query.Picked
import GridFilter.Session

set_option autoImplicit false

namespace GridFilter

open RegexLiteral (IsAccepted)

/-! ## A blank behind a query -/

/-- **When a blank behind a query makes no difference.** Taken apart, the query has the
same terms with and without the blank. Matched as a whole, it leaves the same grid exactly
if every text that is seen matches the two alike. -/
theorem evaluate_append_blank_iff {mode : MatchMode} {ignore : IgnoreSet} {minChars : UInt64}
    {raw : Text} (g : Grid) (long : Query.isDegenerate raw minChars = false) :
    let blank := evaluate g (raw ++ [' ']) mode ignore minChars
    let plain := evaluate g raw mode ignore minChars
    (blank.grid = plain.grid ∧ blank.summary = plain.summary) ↔
      (ignore.hasColumns = true → ∀ t, g.Seen ignore t →
        matchesFragment t (raw ++ [' ']) mode = matchesFragment t raw mode) := by
  intro blank plain
  have long' : Query.isDegenerate (raw ++ [' ']) minChars = false := by
    obtain ⟨_, enough⟩ := Query.isDegenerate_eq_false_iff.1 long
    refine Query.isDegenerate_eq_false_iff.2 ⟨by simp, ?_⟩
    rw [List.length_append, List.length_singleton]
    omega
  by_cases columns : ignore.hasColumns = true
  · have grid_iff := @evaluate_whole_grid_eq_iff mode ignore (raw ++ [' ']) raw minChars g
      long' long columns
    rw [forall_prop_of_true columns, ← grid_iff, and_iff_left_iff_imp]
    intro same
    -- The summary is read off the grid, so the grids decide.
    rw [evaluate_summary, evaluate_summary, same, long, long']
  · have no_columns : ignore.hasColumns = false := Bool.eq_false_iff.2 columns
    have terms_eq : Query.terms (raw ++ [' ']) = Query.terms raw :=
      Query.terms_congr (Text.pieces_append_gap .blank raw)
    refine iff_of_true ?_ fun named => absurd named columns
    exact evaluate_eq_of_terms g long' long no_columns fun r => by rw [terms_eq]

/-! ## A phrase that is picked -/

/-- **When picking a phrase filters like typing it.** The phrase is a single piece and
long enough to filter by. Picked without modifiers, it leaves the same grid and the same
summary as when it is typed exactly if no columns are ignored or every text that is seen
matches the phrase with a blank behind it as it matches the phrase. In the modes that
look for phrases that is so for every text, unless the phrase is taken for a literal. -/
theorem setQuery_composeQuery_iff (s : Session) (g : Grid) (current : Text) {phrase : Text}
    (hp : phrase.IsPiece) (long : s.config.minChars.toNat ≤ phrase.length) :
    let picked := s.setQuery g (composeQuery current phrase {})
    let typed := s.setQuery g phrase
    let mode := s.config.matchMode
    (picked.grid = typed.grid ∧ picked.session.summary = typed.session.summary ↔
      (s.config.ignoreSet.hasColumns = true → ∀ t, g.Seen s.config.ignoreSet t →
        matchesFragment t (phrase ++ [' ']) mode = matchesFragment t phrase mode)) ∧
    (mode ≠ .findFirst → ¬ IsAccepted phrase → ∀ t,
      matchesFragment t (phrase ++ [' ']) mode = matchesFragment t phrase mode) := by
  intro picked typed mode
  have composed : composeQuery current phrase {} = phrase ++ [' '] := by
    simp [composeQuery_plain, Query.appendPiece]
  have picked_eq : picked = s.setQuery g (phrase ++ [' ']) := by rw [← composed]
  have typed_long : Query.isDegenerate phrase s.config.minChars = false :=
    Query.isDegenerate_eq_false_iff.2 ⟨hp.ne_nil, long⟩
  constructor
  · rw [picked_eq]
    exact evaluate_append_blank_iff g typed_long
  · intro phrased plain t
    rw [matchesFragment, matchesFragment, Matcher.prepare_append_blank phrased plain]

/-- A phrase that is picked under ignored columns, in a mode that looks for phrases. -/
theorem setQuery_composeQuery_iff_any_phrase :
    let s : Session :=
      { config := { matchMode := .findAny, ignoreColumns := ColumnSet.empty.insert 1 } }
    let g : Grid := ⟨[{ cells := [{ text := "Open".toList }, { text := ['x'] }] }]⟩
    Text.IsPiece "open".toList ∧ s.config.minChars.toNat ≤ "open".toList.length ∧
      (s.setQuery g (composeQuery ['x'] "open".toList {})).grid =
        (s.setQuery g "open".toList).grid ∧
      (s.setQuery g "open".toList).grid.rows.map (·.visible) = [true] := by
  intro s g
  have own_piece : "open".toList ∈ Text.pieces "open".toList := by decide
  have piece : Text.IsPiece "open".toList := Text.isPiece_of_mem_pieces own_piece
  have plain : ¬ IsAccepted "open".toList := RegexLiteral.not_isAccepted_of_head? (by decide)
  obtain ⟨same_iff, agree⟩ :=
    setQuery_composeQuery_iff s g ['x'] piece (by decide)
  exact ⟨piece, by decide, (same_iff.2 fun _ t _ => agree (by decide) plain t).1, by decide⟩

/-- In the mode that reads expressions, a cell that holds the phrase and nothing else is
found when the phrase is typed, and is not when it is picked. -/
theorem setQuery_composeQuery_loses_row :
    let s : Session := { config := { ignoreColumns := ColumnSet.empty.insert 1 } }
    let g : Grid :=
      ⟨[{ cells := [{ text := "Open".toList }, { text := ['x'] }] },
        { cells := [{ text := "open door".toList }, { text := ['x'] }] }]⟩
    let picked := s.setQuery g (composeQuery [] "open".toList {})
    let typed := s.setQuery g "open".toList
    Text.IsPiece "open".toList ∧ s.config.minChars.toNat ≤ "open".toList.length ∧
      picked.grid.rows.map (·.visible) = [false, true] ∧
      typed.grid.rows.map (·.visible) = [true, true] ∧
      ¬(picked.grid = typed.grid ∧ picked.session.summary = typed.session.summary) := by
  intro s g picked typed
  have own_piece : "open".toList ∈ Text.pieces "open".toList := by decide
  have piece : Text.IsPiece "open".toList := Text.isPiece_of_mem_pieces own_piece
  have picked_rows : picked.grid.rows.map (·.visible) = [false, true] := by decide +kernel
  have typed_rows : typed.grid.rows.map (·.visible) = [true, true] := by decide +kernel
  refine ⟨piece, by decide, picked_rows, typed_rows, ?_⟩
  rintro ⟨same, _⟩
  rw [same, typed_rows] at picked_rows
  exact absurd picked_rows (by decide)

end GridFilter
