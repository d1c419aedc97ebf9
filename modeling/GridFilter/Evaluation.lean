/-
Applying a query to a grid.

An evaluation starts from scratch: it forgets all flags, so what it leaves does
not depend on what was there before. The terms are then applied from left to
right, and each sees the visibility that the ones before it left. A term looks at
one row at a time, so an evaluation treats every row as if it were alone.

When columns are ignored, the query is not taken apart. It is matched as a whole,
as one fragment that reveals, and signs in it mean nothing.
-/
import GridFilter.IgnoreSet
import GridFilter.Matcher

set_option autoImplicit false

namespace GridFilter

/-! ## Results -/

/-- What a host needs to know after an evaluation. -/
structure Summary where
  /-- Whether the query was long enough to filter by. -/
  active : Bool := false
  totalRows : Nat := 0
  visibleRows : Nat := 0
  highlightedCells : Nat := 0
  deriving DecidableEq, Repr

/-- The summary of a grid as it stands. -/
def Summary.ofGrid (g : Grid) (active : Bool) : Summary :=
  { active, totalRows := g.rows.length, visibleRows := g.visibleCount,
    highlightedCells := g.highlightedCount }

/-- The grid after an evaluation, and what there is to tell about it. -/
structure Evaluation where
  grid : Grid
  summary : Summary
  log : List LogLine

/-! ## One row -/

namespace Row

/-- Which cells of the row match: those that are not ignored and whose text does. -/
def hits (ignore : IgnoreSet) (m : Matcher) (r : Row) : List Bool :=
  r.cells.mapIdx fun column c => !ignore.contains column c && m.isMatch c.text

/-- Highlights the cells that match; highlights that are there stay. -/
def highlight (hits : List Bool) (r : Row) : Row :=
  { r with
    cells := r.cells.zipWith (fun c hit => { c with highlighted := c.highlighted || hit }) hits }

/-- Applies a sign to the row. A row that is hidden is only looked at by a term
that reveals. -/
def applySign (sign : Sign) (ignore : IgnoreSet) (m : Matcher) (r : Row) : Row :=
  if sign = .reveal ∨ r.visible then
    -- Every cell is tested, also after one has matched: all matches are highlighted.
    let hits := r.hits ignore m
    let found := hits.any id
    { r.highlight hits with
      visible := match sign with
        | .reveal => r.visible || found
        | .hide => !found
        | .narrow => found }
  else r

/-- Whether a sign counts the row as changed: one that reveals counts what it finds hidden,
and the others count what they take away. -/
def counts (sign : Sign) (ignore : IgnoreSet) (m : Matcher) (r : Row) : Bool :=
  let found := (r.hits ignore m).any id
  match sign with
  | .reveal => !r.visible && found
  | .hide => r.visible && found
  | .narrow => r.visible && !found

end Row

/-! ## All rows -/

namespace Grid

/-- Applies a sign to every row. -/
def applySign (sign : Sign) (ignore : IgnoreSet) (m : Matcher) (g : Grid) : Grid :=
  ⟨g.rows.map (Row.applySign sign ignore m)⟩

/-- How many rows a sign counts as changed. They are counted one after the other with 32 bits
and a sign, so behind the largest number the count goes on with the smallest one. -/
def countChanges (sign : Sign) (ignore : IgnoreSet) (m : Matcher) (g : Grid) : Int32 :=
  g.rows.foldl (fun changed r => if r.counts sign ignore m then changed + 1 else changed) 0

/-- What is counted is the number of these rows, as far as it goes into the counter. -/
theorem countChanges_eq_ofNat (sign : Sign) (ignore : IgnoreSet) (m : Matcher) (g : Grid) :
    g.countChanges sign ignore m = Int32.ofNat (g.rows.countP (Row.counts sign ignore m)) := by
  have go_on (rows : List Row) (n : Nat) :
      rows.foldl (fun changed r => if r.counts sign ignore m then changed + 1 else changed)
          (Int32.ofNat n) =
        Int32.ofNat (n + rows.countP (Row.counts sign ignore m)) := by
    induction rows generalizing n with
    | nil => rfl
    | cons r rows ih =>
      have one_more : Int32.ofNat n + 1 = Int32.ofNat (n + 1) := (Int32.ofNat_add n 1).symm
      rw [List.foldl_cons, List.countP_cons]
      split
      · rw [one_more, ih, Nat.add_right_comm, Nat.add_assoc]
      · rw [ih, Nat.add_zero]
  rw [countChanges, ← Nat.zero_add (g.rows.countP _)]
  exact go_on g.rows 0

/-- Applies one term, and reports how many rows it changed. -/
def applyTerm (mode : MatchMode) (ignore : IgnoreSet) (g : Grid) (t : Term) :
    Grid × List LogLine :=
  let (m, lines) := Matcher.prepare t.fragment mode
  (g.applySign t.sign ignore m,
    lines ++ [.termApplied t (g.countChanges t.sign ignore m)])

/-- Applies terms one after the other. -/
def applyTerms (mode : MatchMode) (ignore : IgnoreSet) (g : Grid) :
    List Term → Grid × List LogLine
  | [] => (g, [])
  | t :: ts =>
    let (g, lines) := g.applyTerm mode ignore t
    let (g, later) := g.applyTerms mode ignore ts
    (g, lines ++ later)

/-- Matches a query as a whole. -/
def applyWhole (mode : MatchMode) (ignore : IgnoreSet) (g : Grid) (query : Text) :
    Grid × List LogLine :=
  let (m, lines) := Matcher.prepare query mode
  let after := g.applySign .reveal ignore m
  (after, lines ++ [.wholeQueryApplied query after.visibleCount])

end Grid

/-- Evaluates a query that has been taken apart on a grid. A query that is too
short shows every row. -/
def evaluateParsed (g : Grid) (query : ParsedQuery) (mode : MatchMode) (ignore : IgnoreSet)
    (minChars : UInt64) : Evaluation :=
  if Query.isDegenerate query.raw minChars then
    let g := g.reset true
    ⟨g, Summary.ofGrid g false, []⟩
  else
    -- Terms reveal and hide from here on, so nothing of an earlier evaluation is seen.
    let hidden := g.reset false
    let (g, log) :=
      if ignore.hasColumns then hidden.applyWhole mode ignore query.raw
      else hidden.applyTerms mode ignore query.terms
    ⟨g, Summary.ofGrid g true, log⟩

/-- Evaluates a query on a grid. -/
def evaluate (g : Grid) (query : Text) (mode : MatchMode) (ignore : IgnoreSet)
    (minChars : UInt64) : Evaluation :=
  evaluateParsed g (.ofText query) mode ignore minChars

end GridFilter
