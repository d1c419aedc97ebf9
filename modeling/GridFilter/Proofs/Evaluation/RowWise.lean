/-
An evaluation, one row at a time.

The engine works through the terms and, for each term, through the rows. Since a
term looks at one row only, the same grid comes out when every row is taken
through all the terms alone. This file proves that (`evaluateParsed_grid`), and
says once what one term does to one row: which visibility it leaves
(`applySign_visible`) and which cells it highlights (`applySign_cells`). Whatever
is proved about evaluations elsewhere is an induction over the terms that uses
these two and never opens `applySign`. Where the induction only carries on what each
term keeps, it has been done here once (`applyTerms_of_step`).

The other thing that every later argument needs is what a term leaves alone. Two
rows have the same content when they differ in flags at most; a term reads
nothing but content and the visibility of the row, and writes no content.
-/
import GridFilter.Evaluation
import Mathlib.Data.List.Forall2
import Mathlib.Data.List.Induction

set_option autoImplicit false

namespace GridFilter

/-! ## Content -/

/-- Two cells that differ at most in whether they are highlighted. -/
structure Cell.SameContent (c d : Cell) : Prop where
  text : c.text = d.text
  tags : c.tags = d.tags
  ignored : c.ignored = d.ignored

/-- Two rows whose cells have the same content, one by one. -/
def Row.SameContent (r s : Row) : Prop := List.Forall₂ Cell.SameContent r.cells s.cells

/-- Two grids whose rows have the same content, one by one: they differ at most
in flags. -/
def Grid.SameContent (g h : Grid) : Prop := List.Forall₂ Row.SameContent g.rows h.rows

namespace Cell

theorem sameContent_iff {c d : Cell} :
    c.SameContent d ↔ { c with highlighted := false } = { d with highlighted := false } := by
  rw [Cell.mk.injEq]
  exact ⟨fun h => ⟨h.text, h.tags, h.ignored, rfl⟩, fun ⟨ht, hg, hi, _⟩ => ⟨ht, hg, hi⟩⟩

/-- Whether a cell is ignored is decided by its content. -/
theorem SameContent.contains_eq {c d : Cell} (h : c.SameContent d) (ignore : IgnoreSet)
    (column : Nat) : ignore.contains column c = ignore.contains column d := by
  simp only [IgnoreSet.contains, h.tags, h.ignored]

end Cell

namespace Row

variable {r s t : Row}

theorem eq_of_fields (cells : r.cells = s.cells) (visible : r.visible = s.visible) : r = s := by
  cases r
  cases s
  exact congrArg₂ Row.mk cells visible

/-- Rows have the same content exactly when a reset makes them equal. -/
theorem sameContent_iff_reset (visible : Bool) :
    r.SameContent s ↔ r.reset visible = s.reset visible := by
  rw [SameContent, reset, reset, Row.mk.injEq, and_iff_left rfl, ← List.forall₂_eq_eq_eq,
    List.forall₂_map_left_iff, List.forall₂_map_right_iff]
  simp only [← Cell.sameContent_iff]

@[refl]
theorem SameContent.refl (r : Row) : r.SameContent r := (sameContent_iff_reset true).2 rfl

theorem SameContent.symm (h : r.SameContent s) : s.SameContent r :=
  (sameContent_iff_reset true).2 ((sameContent_iff_reset true).1 h).symm

theorem SameContent.trans (h : r.SameContent s) (h' : s.SameContent t) : r.SameContent t :=
  (sameContent_iff_reset true).2
    (((sameContent_iff_reset true).1 h).trans ((sameContent_iff_reset true).1 h'))

/-- Cells at the same place correspond. -/
theorem SameContent.getElem? (h : r.SameContent s) {column : Nat} {c : Cell}
    (hc : r.cells[column]? = some c) : ∃ d, s.cells[column]? = some d ∧ c.SameContent d := by
  obtain ⟨hr, rfl⟩ := List.getElem?_eq_some_iff.1 hc
  have hs : column < s.cells.length := List.Forall₂.length_eq h ▸ hr
  exact ⟨s.cells[column], List.getElem?_eq_getElem hs, List.Forall₂.get h hr hs⟩

theorem reset_sameContent (r : Row) (visible : Bool) : (r.reset visible).SameContent r :=
  (sameContent_iff_reset true).2 (r.reset_reset visible true)

end Row

namespace Grid

variable {g h k : Grid}

/-- Grids have the same content exactly when a reset makes them equal. -/
theorem sameContent_iff_reset (visible : Bool) :
    g.SameContent h ↔ g.reset visible = h.reset visible := by
  rw [SameContent, reset, reset, Grid.mk.injEq, ← List.forall₂_eq_eq_eq,
    List.forall₂_map_left_iff, List.forall₂_map_right_iff]
  simp only [← Row.sameContent_iff_reset]

@[refl]
theorem SameContent.refl (g : Grid) : g.SameContent g := (sameContent_iff_reset true).2 rfl

theorem SameContent.trans (e : g.SameContent h) (e' : h.SameContent k) : g.SameContent k :=
  (sameContent_iff_reset true).2
    (((sameContent_iff_reset true).1 e).trans ((sameContent_iff_reset true).1 e'))

/-- A change that keeps the content of every row keeps the content of the grid. -/
theorem sameContent_map {f : Row → Row} (hf : ∀ r, (f r).SameContent r) (g : Grid) :
    SameContent ⟨g.rows.map f⟩ g :=
  List.forall₂_map_left_iff.2 (List.forall₂_same.2 fun r _ => hf r)

end Grid

/-! ## One term on one row -/

/-- Whether a cell counts as a match: it is not ignored, and its text matches. -/
def Cell.isHit (ignore : IgnoreSet) (m : Matcher) (column : Nat) (c : Cell) : Bool :=
  !ignore.contains column c && m.isMatch c.text

theorem Cell.SameContent.isHit_eq {c d : Cell} (h : c.SameContent d) (ignore : IgnoreSet)
    (m : Matcher) (column : Nat) : c.isHit ignore m column = d.isHit ignore m column := by
  rw [isHit, isHit, h.contains_eq, h.text]

namespace Row

variable {ignore : IgnoreSet} {m : Matcher}

/-- Whether some cell of the row counts as a match. -/
def found (ignore : IgnoreSet) (m : Matcher) (r : Row) : Bool := (r.hits ignore m).any id

theorem getElem?_hits (r : Row) (column : Nat) :
    (r.hits ignore m)[column]? = r.cells[column]?.map (Cell.isHit ignore m column) := by
  rw [hits, List.getElem?_mapIdx]
  rfl

theorem found_eq_true_iff {r : Row} :
    r.found ignore m = true ↔
      ∃ column, ∃ c : Cell, r.cells[column]? = some c ∧ c.isHit ignore m column = true := by
  simp only [found, List.any_eq_true, id, List.mem_iff_getElem?, getElem?_hits,
    Option.map_eq_some_iff]
  constructor
  · rintro ⟨b, ⟨column, c, hc, rfl⟩, hb⟩
    exact ⟨column, c, hc, hb⟩
  · rintro ⟨column, c, hc, hb⟩
    exact ⟨_, ⟨column, c, hc, rfl⟩, hb⟩

/-- Which cells match depends on content alone. -/
theorem SameContent.hits_eq {r s : Row} (h : r.SameContent s) :
    r.hits ignore m = s.hits ignore m := by
  refine List.ext_getElem (by simp [hits, List.Forall₂.length_eq h]) fun column hr hs => ?_
  rw [hits, List.length_mapIdx] at hr hs
  simp only [hits, List.getElem_mapIdx]
  exact (List.Forall₂.get h hr hs).isHit_eq ignore m column

theorem SameContent.found_eq {r s : Row} (h : r.SameContent s) :
    r.found ignore m = s.found ignore m := by
  rw [found, found, h.hits_eq]

theorem highlight_hits_cells (r : Row) :
    (r.highlight (r.hits ignore m)).cells = r.cells.mapIdx fun column c =>
      { c with highlighted := c.highlighted || c.isHit ignore m column } := by
  refine List.ext_getElem? fun column => ?_
  rw [highlight, List.getElem?_zipWith, getElem?_hits, List.getElem?_mapIdx]
  cases r.cells[column]? <;> rfl

/-- **What a term leaves of a row's visibility.** A term that reveals only adds
rows, and one that does not only takes rows away. -/
theorem applySign_visible (sign : Sign) (r : Row) :
    (r.applySign sign ignore m).visible =
      match sign with
      | .reveal => r.visible || r.found ignore m
      | .hide => r.visible && !r.found ignore m
      | .narrow => r.visible && r.found ignore m := by
  rw [applySign]
  split
  · rename_i looked
    cases sign with
    | reveal => rfl
    | hide | narrow =>
      obtain hv : r.visible = true := looked.resolve_left (by simp)
      simp [hv, found]
  · rename_i skipped
    obtain ⟨hs, hv⟩ := not_or.1 skipped
    cases sign with
    | reveal => exact absurd rfl hs
    | hide | narrow => simp [Bool.eq_false_iff.2 hv]

/-- **What a term highlights.** A row that a term does not look at keeps its
highlights, and a row that it looks at gains all matches. -/
theorem applySign_cells (sign : Sign) (r : Row) :
    (r.applySign sign ignore m).cells = r.cells.mapIdx fun column c =>
      { c with highlighted := c.highlighted ||
          (decide (sign = .reveal ∨ r.visible = true) && c.isHit ignore m column) } := by
  rw [applySign]
  split
  · rename_i looked
    simp only [looked, decide_true, Bool.true_and]
    exact highlight_hits_cells r
  · rename_i skipped
    refine List.ext_getElem? fun column => ?_
    rw [List.getElem?_mapIdx]
    simp only [skipped, decide_false, Bool.false_and, Bool.or_false]
    cases r.cells[column]? <;> rfl

/-- What a term does to one cell. -/
theorem getElem?_applySign_cells (sign : Sign) {r : Row} {column : Nat} {c : Cell}
    (hc : r.cells[column]? = some c) :
    (r.applySign sign ignore m).cells[column]? = some { c with highlighted :=
      c.highlighted || (decide (sign = .reveal ∨ r.visible = true) &&
        c.isHit ignore m column) } := by
  rw [applySign_cells, List.getElem?_mapIdx, hc, Option.map_some]

/-- A term writes no content. -/
theorem applySign_sameContent (sign : Sign) (r : Row) :
    (r.applySign sign ignore m).SameContent r := by
  rw [SameContent, applySign_cells, List.forall₂_iff_get]
  refine ⟨List.length_mapIdx, fun column _ _ => ?_⟩
  simp only [List.get_eq_getElem, List.getElem_mapIdx]
  exact ⟨rfl, rfl, rfl⟩

/-! ## All terms on one row -/

/-- The row after all terms were applied to it. -/
def applyTerms (mode : MatchMode) (ignore : IgnoreSet) (r : Row) (ts : List Term) : Row :=
  ts.foldl (fun r t => r.applySign t.sign ignore (Matcher.prepare t.fragment mode).1) r

variable {mode : MatchMode}

/-- The last term is applied to what the others leave. -/
theorem applyTerms_append_singleton (r : Row) (ts : List Term) (t : Term) :
    r.applyTerms mode ignore (ts ++ [t]) =
      (r.applyTerms mode ignore ts).applySign t.sign ignore
        (Matcher.prepare t.fragment mode).1 := by
  rw [applyTerms, List.foldl_append]
  rfl

/-- **What every one of some terms keeps is kept by the run of them.** -/
theorem applyTerms_of_step {p : Row → Prop} {ts : List Term}
    (step : ∀ t ∈ ts, ∀ s : Row, p s →
      p (s.applySign t.sign ignore (Matcher.prepare t.fragment mode).1))
    {r : Row} (start : p r) : p (r.applyTerms mode ignore ts) := by
  rw [applyTerms]
  refine List.foldlRecOn ts _ start fun s hs t ht => ?_
  exact step t ht s hs

theorem applyTerms_sameContent (r : Row) (ts : List Term) :
    (r.applyTerms mode ignore ts).SameContent r := by
  refine applyTerms_of_step (p := fun s => s.SameContent r) (fun t _ s same => ?_) (.refl r)
  exact (applySign_sameContent t.sign s).trans same

/-- Evaluates a query on one row. -/
def evaluate (q : ParsedQuery) (mode : MatchMode) (ignore : IgnoreSet) (minChars : UInt64)
    (r : Row) : Row :=
  if Query.isDegenerate q.raw minChars then r.reset true
  else if ignore.hasColumns then
    (r.reset false).applySign .reveal ignore (Matcher.prepare q.raw mode).1
  else (r.reset false).applyTerms mode ignore q.terms

theorem evaluate_sameContent (q : ParsedQuery) (minChars : UInt64) (r : Row) :
    (r.evaluate q mode ignore minChars).SameContent r := by
  unfold evaluate
  split
  · exact r.reset_sameContent true
  · split
    · exact (applySign_sameContent .reveal _).trans (r.reset_sameContent false)
    · exact (applyTerms_sameContent _ _).trans (r.reset_sameContent false)

end Row

/-! ## The whole grid -/

variable {mode : MatchMode} {ignore : IgnoreSet}

/-- A query filters when it is there and has as many characters as are asked for. -/
theorem Query.isDegenerate_eq_false_iff {raw : Text} {minChars : UInt64} :
    isDegenerate raw minChars = false ↔ raw ≠ [] ∧ minChars.toNat ≤ raw.length := by
  rw [isDegenerate, Bool.or_eq_false_iff, List.isEmpty_eq_false_iff, decide_eq_false_iff_not,
    Nat.not_lt]

/-- Going through the terms and then the rows leaves the same as going through the
rows and then the terms. -/
theorem Grid.applyTerms_grid (g : Grid) (ts : List Term) :
    (g.applyTerms mode ignore ts).1 = ⟨g.rows.map (Row.applyTerms mode ignore · ts)⟩ := by
  induction ts generalizing g with
  | nil => simp [Grid.applyTerms, Row.applyTerms]
  | cons t ts ih =>
    simp only [Grid.applyTerms, ih, applyTerm, applySign, List.map_map]
    rfl

/-- **An evaluation treats every row as if it were alone.** -/
theorem evaluateParsed_grid (g : Grid) (q : ParsedQuery) (minChars : UInt64) :
    (evaluateParsed g q mode ignore minChars).grid =
      ⟨g.rows.map (Row.evaluate q mode ignore minChars)⟩ := by
  unfold evaluateParsed Row.evaluate
  by_cases short : Query.isDegenerate q.raw minChars = true
  · simp only [short, if_true]
    rfl
  · by_cases columns : ignore.hasColumns = true
    · simp only [short, columns, if_true, if_false, Bool.false_eq_true, Grid.applyWhole,
        Grid.applySign, Grid.reset, List.map_map]
      rfl
    · simp only [short, columns, if_false, Bool.false_eq_true, Grid.applyTerms_grid,
        Grid.reset, List.map_map]
      rfl

/-- What holds of every row that is evaluated alone holds of every row of an evaluated
grid. -/
theorem forall_rows_evaluateParsed {p : Row → Prop} {q : ParsedQuery} {minChars : UInt64}
    (alone : ∀ r : Row, p (r.evaluate q mode ignore minChars)) (g : Grid) :
    ∀ r ∈ (evaluateParsed g q mode ignore minChars).grid.rows, p r := by
  rw [evaluateParsed_grid]
  exact List.forall_mem_map.2 fun r _ => alone r

/-- The rows after a query whose terms are applied: it is long enough, and no
columns are ignored. -/
theorem evaluate_rows_of_terms {raw : Text} {minChars : UInt64} (g : Grid) (mode : MatchMode)
    (long : Query.isDegenerate raw minChars = false) (no_columns : ignore.hasColumns = false) :
    (evaluate g raw mode ignore minChars).grid.rows =
      g.rows.map fun r => (r.reset false).applyTerms mode ignore (Query.terms raw) := by
  rw [evaluate, evaluateParsed_grid]
  refine List.map_congr_left fun r _ => ?_
  rw [Row.evaluate, ParsedQuery.ofText, long, no_columns]
  rfl

/-- The rows after a query that is matched as a whole: it is long enough, and columns
are ignored. -/
theorem evaluate_rows_of_whole {raw : Text} {minChars : UInt64} (g : Grid) (mode : MatchMode)
    (long : Query.isDegenerate raw minChars = false) (columns : ignore.hasColumns = true) :
    (evaluate g raw mode ignore minChars).grid.rows =
      g.rows.map fun r =>
        (r.reset false).applySign .reveal ignore (Matcher.prepare raw mode).1 := by
  rw [evaluate, evaluateParsed_grid]
  refine List.map_congr_left fun r _ => ?_
  rw [Row.evaluate, ParsedQuery.ofText, long, columns]
  rfl

/-- The summary is that of the grid as the evaluation leaves it. -/
theorem evaluateParsed_summary (g : Grid) (q : ParsedQuery) (minChars : UInt64) :
    (evaluateParsed g q mode ignore minChars).summary =
      Summary.ofGrid (evaluateParsed g q mode ignore minChars).grid
        (!Query.isDegenerate q.raw minChars) := by
  unfold evaluateParsed
  by_cases short : Query.isDegenerate q.raw minChars = true <;> simp [short]

theorem evaluate_summary (g : Grid) (raw : Text) (minChars : UInt64) :
    (evaluate g raw mode ignore minChars).summary =
      Summary.ofGrid (evaluate g raw mode ignore minChars).grid
        (!Query.isDegenerate raw minChars) :=
  evaluateParsed_summary g (.ofText raw) minChars

/-- An evaluation writes no content. -/
theorem evaluateParsed_sameContent (g : Grid) (q : ParsedQuery) (minChars : UInt64) :
    (evaluateParsed g q mode ignore minChars).grid.SameContent g := by
  rw [evaluateParsed_grid]
  exact Grid.sameContent_map (Row.evaluate_sameContent q minChars) g

end GridFilter
