/-
Grids put together and taken apart.

The engine goes through the terms and, for each of them, through all the rows, so what
happens to one row is interleaved with what happens to the others. Nothing passes between
them: an evaluation is a map over the rows, on each of its paths (`evaluateParsed_grid`).

What a host may do because of that is said here for two ways of changing a grid. Two grids
may be put together (`Grid.rows_append`), before they are evaluated or after: the flags are
the same, and the counts of the summaries add up. And rows may be picked by their places
(`Grid.pick`), so that some are left out and the others stand in another order, before an
evaluation or after.
-/
import GridFilter.Proofs.Evaluation.RowWise

set_option autoImplicit false

namespace GridFilter

/-! ## Two grids, one below the other -/

/-- The rows of one grid and, below them, those of another. -/
instance : Append Grid where
  append g h := ⟨g.rows ++ h.rows⟩

namespace Grid

theorem rows_append (g h : Grid) : (g ++ h).rows = g.rows ++ h.rows := rfl

theorem visibleCount_append (g h : Grid) :
    (g ++ h).visibleCount = g.visibleCount + h.visibleCount := by
  rw [visibleCount, rows_append, List.countP_append]
  rfl

theorem highlightedCount_append (g h : Grid) :
    (g ++ h).highlightedCount = g.highlightedCount + h.highlightedCount := by
  rw [highlightedCount, rows_append, List.flatMap_append, List.countP_append]
  rfl

/-! ## Rows picked by their places -/

/-- The rows at some places, in the order in which the places are listed. Where there is
no row, none is picked. -/
def pick (places : List Nat) (g : Grid) : Grid := ⟨places.filterMap (g.rows[·]?)⟩

/-- What is done to every row may be done before rows are picked or after. -/
theorem pick_map (f : Row → Row) (places : List Nat) (g : Grid) :
    pick places ⟨g.rows.map f⟩ = ⟨(g.pick places).rows.map f⟩ := by
  have at_place : ∀ place : Nat, (g.rows.map f)[place]? = g.rows[place]?.map f := by
    intro place
    exact List.getElem?_map
  simp only [pick, at_place, List.map_filterMap]

end Grid

/-! ## Evaluations -/

variable {mode : MatchMode} {ignore : IgnoreSet}

/-- Grids are evaluated one below the other as they are evaluated apart. -/
theorem evaluateParsed_append_grid (g h : Grid) (q : ParsedQuery) (minChars : UInt64) :
    (evaluateParsed (g ++ h) q mode ignore minChars).grid =
      (evaluateParsed g q mode ignore minChars).grid ++
        (evaluateParsed h q mode ignore minChars).grid := by
  simp only [evaluateParsed_grid, Grid.rows_append, List.map_append]
  rfl

/-- Rows are evaluated as they are evaluated among others. -/
theorem evaluateParsed_pick_grid (places : List Nat) (g : Grid) (q : ParsedQuery)
    (minChars : UInt64) :
    (evaluateParsed (g.pick places) q mode ignore minChars).grid =
      (evaluateParsed g q mode ignore minChars).grid.pick places := by
  rw [evaluateParsed_grid, evaluateParsed_grid, Grid.pick_map]

/-- **Rows are filtered apart.** On every path of an evaluation, a grid made of two is left
with the rows that its parts are left with; it is filtered if they are, and its summary counts
what theirs count together. And when rows are picked from a grid, in any order and whichever
are left out, they are left as they are in the whole grid, and the summary is that of the
picked rows. -/
theorem evaluateParsed_rows_apart (q : ParsedQuery) (mode : MatchMode) (ignore : IgnoreSet)
    (minChars : UInt64) :
    (∀ g h : Grid,
      let first := evaluateParsed g q mode ignore minChars
      let second := evaluateParsed h q mode ignore minChars
      let whole := evaluateParsed (g ++ h) q mode ignore minChars
      whole.grid.rows = first.grid.rows ++ second.grid.rows ∧
      whole.summary.active = first.summary.active ∧
      whole.summary.active = second.summary.active ∧
      whole.summary.totalRows = first.summary.totalRows + second.summary.totalRows ∧
      whole.summary.visibleRows = first.summary.visibleRows + second.summary.visibleRows ∧
      whole.summary.highlightedCells =
        first.summary.highlightedCells + second.summary.highlightedCells) ∧
    (∀ (g : Grid) (places : List Nat),
      let whole := evaluateParsed g q mode ignore minChars
      let picked := evaluateParsed (g.pick places) q mode ignore minChars
      picked.grid = whole.grid.pick places ∧
      picked.summary = Summary.ofGrid (whole.grid.pick places) whole.summary.active) := by
  constructor
  · intro g h first second whole
    -- A summary counts the grid that the evaluation leaves, so grids are all there is to join.
    have grid_eq : whole.grid = first.grid ++ second.grid :=
      evaluateParsed_append_grid g h q minChars
    have first_eq : first.summary = Summary.ofGrid first.grid _ :=
      evaluateParsed_summary g q minChars
    have second_eq : second.summary = Summary.ofGrid second.grid _ :=
      evaluateParsed_summary h q minChars
    have whole_eq : whole.summary = Summary.ofGrid whole.grid _ :=
      evaluateParsed_summary (g ++ h) q minChars
    rw [first_eq, second_eq, whole_eq, grid_eq]
    refine ⟨rfl, rfl, rfl, ?_, ?_, ?_⟩
    · exact List.length_append
    · exact Grid.visibleCount_append first.grid second.grid
    · exact Grid.highlightedCount_append first.grid second.grid
  · intro g places whole picked
    have grid_eq : picked.grid = whole.grid.pick places :=
      evaluateParsed_pick_grid places g q minChars
    have whole_eq : whole.summary = Summary.ofGrid whole.grid _ :=
      evaluateParsed_summary g q minChars
    have picked_eq : picked.summary = Summary.ofGrid picked.grid _ :=
      evaluateParsed_summary (g.pick places) q minChars
    refine ⟨grid_eq, ?_⟩
    rw [picked_eq, whole_eq, grid_eq]
    rfl

/-- The last row before the first, and the row between them left out. -/
example :
    let g : Grid :=
      ⟨[{ cells := [{ text := ['a'] }] }, { cells := [{ text := ['b'] }] },
        { cells := [{ text := ['a', 'b'] }] }]⟩
    (evaluate (g.pick [2, 0]) "+a -b".toList .findAny {} 1).grid.rows =
      [{ cells := [{ text := ['a', 'b'], highlighted := true }], visible := false },
        { cells := [{ text := ['a'], highlighted := true }] }] := by
  decide

end GridFilter
