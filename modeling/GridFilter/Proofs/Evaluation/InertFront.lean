/-
Terms in front of the first one that reveals.

An evaluation that filters begins with every row hidden. A term that hides or narrows
looks at visible rows only, so until some term reveals a row there is nothing for it to
look at, and it neither shows nor highlights anything. This holds of one such term, and so
of any number and mix of them (`Row.applyTerms_of_hidden`).

A query therefore does what it does without the terms in front of its first one that
reveals (`evaluate_front_inert`); one that has no term that reveals leaves the grid as a
reset leaves it. There are such queries although the first piece reveals if it has no
sign: the first piece may have a minus, or it may be a lone sign, which is passed over
and yet keeps the next piece from being first.
-/
import GridFilter.Proofs.Evaluation.Extension
import Mathlib.Data.List.TakeWhile

set_option autoImplicit false

namespace GridFilter

variable {mode : MatchMode} {ignore : IgnoreSet}

namespace Row

/-- While a row is hidden, terms that hide or narrow may be left out in front of others. -/
theorem applyTerms_append_of_hidden {r : Row} {front : List Term}
    (takes : ∀ t ∈ front, t.sign ≠ .reveal) (hidden : r.visible = false) (back : List Term) :
    r.applyTerms mode ignore (front ++ back) = r.applyTerms mode ignore back := by
  rw [applyTerms_append, applyTerms_of_hidden takes hidden]

/-- So a hidden row may begin with the first term that reveals. -/
theorem applyTerms_dropWhile_of_hidden {r : Row} (hidden : r.visible = false) (ts : List Term) :
    r.applyTerms mode ignore (ts.dropWhile fun t => t.sign ≠ .reveal) =
      r.applyTerms mode ignore ts := by
  have takes : ∀ t ∈ ts.takeWhile (fun t => t.sign ≠ .reveal), t.sign ≠ .reveal := by
    intro t ht
    have passed : decide (t.sign ≠ .reveal) = true :=
      List.mem_takeWhile_imp (p := fun t : Term => t.sign ≠ .reveal) ht
    exact of_decide_eq_true passed
  rw [← applyTerms_append_of_hidden takes hidden, List.takeWhile_append_dropWhile]

end Row

/-- A query without a term that reveals leaves the grid as a reset leaves it. -/
theorem evaluate_grid_of_not_reveal {raw : Text} {minChars : UInt64} (g : Grid)
    (mode : MatchMode) (long : Query.isDegenerate raw minChars = false)
    (no_columns : ignore.hasColumns = false)
    (takes : ∀ t ∈ Query.terms raw, t.sign ≠ .reveal) :
    (evaluate g raw mode ignore minChars).grid = g.reset false := by
  refine congrArg Grid.mk ?_
  rw [evaluate_rows_of_terms g mode long no_columns]
  refine List.map_congr_left fun r _ => ?_
  have hidden : (r.reset false).visible = false := rfl
  exact Row.applyTerms_of_hidden takes hidden

/-- **Terms in front of the first one that reveals do nothing.** The query is long enough to
filter by, and no columns are ignored. A second query that is long enough and has the same
terms but for those in front of the first one that reveals leaves the same grid and the same
summary. And if no term reveals, every row is hidden afterwards, no cell is highlighted, and
nothing is counted but the rows. -/
theorem evaluate_front_inert (g : Grid) (mode : MatchMode) (ignore : IgnoreSet)
    (minChars : UInt64) {raw : Text} (long : Query.isDegenerate raw minChars = false)
    (no_columns : ignore.hasColumns = false) :
    (∀ raw' : Text, Query.isDegenerate raw' minChars = false →
      Query.terms raw' = (Query.terms raw).dropWhile (fun t => t.sign ≠ .reveal) →
      (evaluate g raw' mode ignore minChars).grid = (evaluate g raw mode ignore minChars).grid ∧
        (evaluate g raw' mode ignore minChars).summary =
          (evaluate g raw mode ignore minChars).summary) ∧
    ((∀ t ∈ Query.terms raw, t.sign ≠ .reveal) →
      (∀ r ∈ (evaluate g raw mode ignore minChars).grid.rows,
        r.visible = false ∧ ∀ c ∈ r.cells, c.highlighted = false) ∧
      (evaluate g raw mode ignore minChars).summary =
        { active := true, totalRows := g.rows.length, visibleRows := 0, highlightedCells := 0 }) := by
  constructor
  · intro raw' long' shortened
    refine evaluate_eq_of_terms g long' long no_columns fun r => ?_
    -- Rows begin hidden, and that is all that is needed of them.
    have hidden : (r.reset false).visible = false := rfl
    rw [shortened]
    exact Row.applyTerms_dropWhile_of_hidden hidden _
  · intro takes
    have grid_eq : (evaluate g raw mode ignore minChars).grid = g.reset false :=
      evaluate_grid_of_not_reveal g mode long no_columns takes
    constructor
    · rw [grid_eq, Grid.reset]
      refine List.forall_mem_map.2 fun r _ => ⟨rfl, ?_⟩
      exact List.forall_mem_map.2 fun c _ => rfl
    · have total : (g.reset false).rows.length = g.rows.length := by
        rw [Grid.reset, List.length_map]
      rw [evaluate_summary, grid_eq, long, Summary.ofGrid, total, Grid.visibleCount_reset,
        Grid.highlightedCount_reset]
      rfl

/-- A lone sign in front, a term that narrows and one that hides, each of them found in a
cell; and the same terms with none behind them that reveals. -/
theorem evaluate_front_inert_lone_sign :
    let g : Grid :=
      ⟨[{ cells := [{ text := ['a', 'b'] }, { text := ['x'] }] }, { cells := [{ text := ['a'] }] }]⟩
    let run (raw : String) := evaluate g raw.toList .findAny {} 1
    (Query.terms "- a -x +b a".toList =
        [⟨.narrow, ['a']⟩, ⟨.hide, ['x']⟩, ⟨.reveal, ['b']⟩, ⟨.narrow, ['a']⟩] ∧
      Query.terms "+b a".toList = [⟨.reveal, ['b']⟩, ⟨.narrow, ['a']⟩] ∧
      (run "+b a").grid = (run "- a -x +b a").grid ∧
      (run "- a -x +b a").grid.rows.map (fun r => (r.visible, r.highlightedColumns)) =
        [(true, [0]), (false, [])]) ∧
    ((∀ t ∈ Query.terms "- a -x".toList, t.sign ≠ .reveal) ∧
      (run "- a -x").summary =
        { active := true, totalRows := 2, visibleRows := 0, highlightedCells := 0 }) := by
  intro g run
  have takes : ∀ t ∈ Query.terms "- a -x".toList, t.sign ≠ .reveal := by decide
  obtain ⟨front, _⟩ :=
    @evaluate_front_inert g .findAny {} 1 "- a -x +b a".toList (by decide) (by decide)
  obtain ⟨_, alone⟩ :=
    @evaluate_front_inert g .findAny {} 1 "- a -x".toList (by decide) (by decide)
  exact ⟨⟨by decide, by decide, (front "+b a".toList (by decide) (by decide)).1, by decide⟩,
    takes, (alone takes).2⟩

end GridFilter
