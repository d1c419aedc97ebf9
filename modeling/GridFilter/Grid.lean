/-
Grids: the tables whose rows are filtered.

A grid belongs to its host. Filtering reads the texts, tags and `ignored` marks
of its cells, and writes nothing but two kinds of flags: which rows are visible
and which cells are highlighted.
-/
import GridFilter.Text.Basic

set_option autoImplicit false

namespace GridFilter

/-- One cell of a grid. -/
structure Cell where
  text : Text
  tags : List Text := []
  /-- The host keeps this cell out of matching. -/
  ignored : Bool := false
  highlighted : Bool := false
  deriving DecidableEq, Repr

/-- One row of a grid. -/
structure Row where
  cells : List Cell
  visible : Bool := true
  deriving DecidableEq, Repr

/-- A grid is its rows, from top to bottom. -/
structure Grid where
  rows : List Row
  deriving DecidableEq, Repr

namespace Row

/-- The columns of the highlighted cells, in order. -/
def highlightedColumns (r : Row) : List Nat :=
  (r.cells.zipIdx.filter fun (c, _) => c.highlighted).map (·.2)

/-- Sets the row's visibility and takes back all highlights. -/
def reset (visible : Bool) (r : Row) : Row :=
  { cells := r.cells.map fun c => { c with highlighted := false }, visible }

/-- A reset leaves nothing for a later one to see. -/
theorem reset_reset (a b : Bool) (r : Row) : (r.reset a).reset b = r.reset b := by
  simp [reset]

end Row

namespace Grid

/-- How many rows are visible. -/
def visibleCount (g : Grid) : Nat := g.rows.countP (·.visible)

/-- How many cells are highlighted. -/
def highlightedCount (g : Grid) : Nat :=
  (g.rows.flatMap (·.cells)).countP (·.highlighted)

/-- The visible rows, in order. -/
def visibleRows (g : Grid) : List Row := g.rows.filter (·.visible)

/-- Sets every row's visibility and takes back all highlights. -/
def reset (g : Grid) (visible : Bool) : Grid := ⟨g.rows.map (Row.reset visible)⟩

theorem reset_reset (g : Grid) (a b : Bool) : (g.reset a).reset b = g.reset b := by
  simp [reset, Row.reset_reset]

theorem visibleCount_reset (g : Grid) (visible : Bool) :
    (g.reset visible).visibleCount = if visible then g.rows.length else 0 := by
  cases visible <;> simp [visibleCount, reset, Row.reset, List.countP_map, Function.comp_def]

theorem highlightedCount_reset (g : Grid) (visible : Bool) :
    (g.reset visible).highlightedCount = 0 := by
  simp only [highlightedCount, reset, Row.reset, List.countP_eq_zero, List.flatMap_map,
    List.mem_flatMap, List.mem_map]
  rintro _ ⟨r, _, c, _, rfl⟩
  simp

end Grid

end GridFilter
