/-
Ignored cells do not interfere.

A cell can be ignored in three ways, by the host's mark, by its column and by its
tag, and naming columns even changes how a query is evaluated. In each case the
text of an ignored cell must not be seen: not in its own highlight, not in the
visibility of its row, and not in what later terms do to the row because of it.

That a text is not seen is said here by taking it away. `mask` empties the ignored
cells and nothing else, and every step of an evaluation commutes with it, from the
hits of one row up to the whole evaluation with its summary and its log
(`evaluateParsed_mask`). Two grids that differ in the texts of ignored cells only
are equal, up to flags, once both are masked, and flags are forgotten anyway
(`evaluateParsed_congr`); so the two runs end with the same flags. The other half,
that no ignored cell is ever highlighted, is an invariant of the row that one sign
keeps and that a run of terms therefore keeps as well.
-/
import GridFilter.Proofs.Evaluation.FreshStart

set_option autoImplicit false

namespace GridFilter

/-! ## Grids that differ in ignored cells -/

/-- Two cells of one column that matching may not tell apart: both are ignored or
neither is, and if they are not, they hold the same text. -/
structure Cell.SameOutside (ignore : IgnoreSet) (column : Nat) (c d : Cell) : Prop where
  tags : c.tags = d.tags
  ignored : c.ignored = d.ignored
  text : ignore.contains column c = false → c.text = d.text

/-- Two rows with as many cells, which may differ in the texts of ignored ones and
in flags. -/
structure Row.SameOutside (ignore : IgnoreSet) (r s : Row) : Prop where
  length_eq : r.cells.length = s.cells.length
  cells : ∀ (column : Nat) (c d : Cell), r.cells[column]? = some c →
    s.cells[column]? = some d → c.SameOutside ignore column d

/-- Two grids of the same shape, which may differ in the texts of ignored cells and
in flags. -/
def Grid.SameOutside (ignore : IgnoreSet) (g h : Grid) : Prop :=
  List.Forall₂ (Row.SameOutside ignore) g.rows h.rows

/-- The flags of a grid: for each row whether it is visible, and which of its cells
are highlighted. -/
def Grid.flags (g : Grid) : List (Bool × List Bool) :=
  g.rows.map fun r => (r.visible, r.cells.map (·.highlighted))

/-- Summaries count flags, and nothing else. -/
theorem Summary.ofGrid_congr {g h : Grid} (same : g.flags = h.flags) (active : Bool) :
    Summary.ofGrid g active = Summary.ofGrid h active := by
  have total : ∀ k : Grid, k.rows.length = k.flags.length := fun k => by
    rw [Grid.flags, List.length_map]
  have visible : ∀ k : Grid, k.visibleCount = k.flags.countP (·.1) := fun k => by
    rw [Grid.visibleCount, Grid.flags, List.countP_map]
    rfl
  have highlighted : ∀ k : Grid, k.highlightedCount = (k.flags.flatMap (·.2)).countP id :=
    fun k => by
      simp only [Grid.highlightedCount, Grid.flags, List.countP_flatMap, List.flatMap_map,
        Function.comp_def, List.countP_map, id]
  rw [ofGrid, ofGrid, total, total, visible, visible, highlighted, highlighted, same]

/-! ## Masks -/

/-- The cell without its text, if it is ignored. -/
def Cell.mask (ignore : IgnoreSet) (column : Nat) (c : Cell) : Cell :=
  { c with text := if ignore.contains column c then [] else c.text }

/-- The row without the texts of its ignored cells. -/
def Row.mask (ignore : IgnoreSet) (r : Row) : Row :=
  { r with cells := r.cells.mapIdx (Cell.mask ignore) }

/-- The grid without the texts of its ignored cells. -/
def Grid.mask (ignore : IgnoreSet) (g : Grid) : Grid := ⟨g.rows.map (Row.mask ignore)⟩

variable {ignore : IgnoreSet} {m : Matcher} {mode : MatchMode}

namespace Cell

/-- A mask reads no flag and writes none. -/
theorem mask_highlight (column : Nat) (c : Cell) (b : Bool) :
    mask ignore column { c with highlighted := b } =
      { mask ignore column c with highlighted := b } := rfl

/-- Only what is ignored anyway is taken away. -/
theorem isHit_mask (column : Nat) (c : Cell) :
    (c.mask ignore column).isHit ignore m column = c.isHit ignore m column := by
  have contains_mask : ignore.contains column (c.mask ignore column) =
      ignore.contains column c := rfl
  rw [isHit, isHit, contains_mask]
  by_cases h : ignore.contains column c = true
  · simp [h] -- no hit with any text
  · simp [mask, h] -- the text is still there

/-- Cells that matching may not tell apart are the same behind the mask. -/
theorem SameOutside.mask_sameContent {column : Nat} {c d : Cell}
    (h : c.SameOutside ignore column d) :
    (c.mask ignore column).SameContent (d.mask ignore column) where
  tags := h.tags
  ignored := h.ignored
  text := by
    have contains_eq : ignore.contains column c = ignore.contains column d := by
      simp only [IgnoreSet.contains, h.tags, h.ignored]
    by_cases hc : ignore.contains column c = true
    · simp [mask, ← contains_eq, hc]
    · simp [mask, ← contains_eq, hc, h.text (by simpa using hc)]

end Cell

namespace Row

theorem getElem?_mask (r : Row) (column : Nat) :
    (r.mask ignore).cells[column]? = r.cells[column]?.map (Cell.mask ignore column) :=
  List.getElem?_mapIdx

theorem hits_mask (r : Row) : (r.mask ignore).hits ignore m = r.hits ignore m := by
  refine List.ext_getElem? fun column => ?_
  rw [getElem?_hits, getElem?_hits, getElem?_mask, Option.map_map]
  exact congrArg (r.cells[column]?.map ·) (funext fun c => c.isHit_mask column)

theorem reset_mask (r : Row) (visible : Bool) :
    (r.mask ignore).reset visible = (r.reset visible).mask ignore := by
  refine eq_of_fields (List.ext_getElem? fun column => ?_) rfl
  rw [getElem?_mask, reset, reset, List.getElem?_map, List.getElem?_map, getElem?_mask]
  cases r.cells[column]? <;> rfl

/-- **A sign does not see what the mask takes away.** -/
theorem applySign_mask (sign : Sign) (r : Row) :
    (r.mask ignore).applySign sign ignore m = (r.applySign sign ignore m).mask ignore := by
  refine eq_of_fields (List.ext_getElem? fun column => ?_) ?_
  · rw [getElem?_mask, applySign_cells, applySign_cells, List.getElem?_mapIdx,
      List.getElem?_mapIdx, getElem?_mask]
    cases r.cells[column]? with
    | none => rfl
    | some c =>
      simp only [Option.map_some, Cell.isHit_mask, Cell.mask_highlight]
      rfl
  · have found_mask : (r.mask ignore).found ignore m = r.found ignore m := by
      rw [found, hits_mask, found]
    calc ((r.mask ignore).applySign sign ignore m).visible
        = (r.applySign sign ignore m).visible := by
          rw [applySign_visible, applySign_visible, found_mask]
          rfl
      _ = ((r.applySign sign ignore m).mask ignore).visible := rfl

theorem counts_mask (sign : Sign) (r : Row) :
    (r.mask ignore).counts sign ignore m = r.counts sign ignore m := by
  simp only [counts, hits_mask]
  rfl

/-- Rows that differ in ignored cells are the same behind the mask, up to flags. -/
theorem SameOutside.mask_sameContent {r s : Row} (h : r.SameOutside ignore s) :
    (r.mask ignore).SameContent (s.mask ignore) := by
  rw [SameContent, List.forall₂_iff_get]
  refine ⟨by simp [mask, h.length_eq], fun column hr hs => ?_⟩
  simp only [mask, List.length_mapIdx] at hr hs
  simp only [mask, List.get_eq_getElem, List.getElem_mapIdx]
  exact (h.cells column _ _ (List.getElem?_eq_getElem hr)
    (List.getElem?_eq_getElem hs)).mask_sameContent

end Row

namespace Grid

/-- Flags are not masked. -/
theorem flags_mask (g : Grid) : (g.mask ignore).flags = g.flags := by
  rw [flags, flags, mask, List.map_map]
  refine List.map_congr_left fun r _ => ?_
  have cells : (r.mask ignore).cells.map (·.highlighted) = r.cells.map (·.highlighted) := by
    refine List.ext_getElem? fun column => ?_
    rw [List.getElem?_map, Row.getElem?_mask, List.getElem?_map]
    cases r.cells[column]? <;> rfl
  exact congrArg (Prod.mk r.visible) cells

theorem reset_mask (g : Grid) (visible : Bool) :
    (g.mask ignore).reset visible = (g.reset visible).mask ignore := by
  simp only [reset, mask, List.map_map, Function.comp_def, Row.reset_mask]

theorem applySign_mask (sign : Sign) (g : Grid) :
    (g.mask ignore).applySign sign ignore m = (g.applySign sign ignore m).mask ignore := by
  simp only [applySign, mask, List.map_map, Function.comp_def, Row.applySign_mask]

theorem countChanges_mask (sign : Sign) (g : Grid) :
    (g.mask ignore).countChanges sign ignore m = g.countChanges sign ignore m := by
  simp only [countChanges_eq_ofNat, mask, List.countP_map, Function.comp_def, Row.counts_mask]

theorem visibleCount_mask (g : Grid) : (g.mask ignore).visibleCount = g.visibleCount := by
  simp only [visibleCount, mask, List.countP_map]
  rfl

theorem applyTerm_mask (g : Grid) (t : Term) :
    (g.mask ignore).applyTerm mode ignore t =
      ((g.applyTerm mode ignore t).1.mask ignore, (g.applyTerm mode ignore t).2) := by
  simp only [applyTerm, applySign_mask, countChanges_mask]

/-- A run of terms does not see what the mask takes away. -/
theorem applyTerms_mask (g : Grid) (ts : List Term) :
    (g.mask ignore).applyTerms mode ignore ts =
      ((g.applyTerms mode ignore ts).1.mask ignore, (g.applyTerms mode ignore ts).2) := by
  induction ts generalizing g with
  | nil => rfl
  | cons t ts ih => simp only [applyTerms, applyTerm_mask, ih]

theorem applyWhole_mask (g : Grid) (query : Text) :
    (g.mask ignore).applyWhole mode ignore query =
      ((g.applyWhole mode ignore query).1.mask ignore, (g.applyWhole mode ignore query).2) := by
  simp only [applyWhole, applySign_mask, visibleCount_mask]

theorem SameOutside.mask_sameContent {g h : Grid} (same : g.SameOutside ignore h) :
    (g.mask ignore).SameContent (h.mask ignore) := by
  rw [SameContent, mask, mask, List.forall₂_map_left_iff, List.forall₂_map_right_iff]
  exact same.imp fun _ _ => Row.SameOutside.mask_sameContent

end Grid

/-- **An evaluation does not see what the mask takes away.** The masked grid is
evaluated to the masked result, with the same summary and the same log. -/
theorem evaluateParsed_mask (g : Grid) (q : ParsedQuery) (minChars : UInt64) :
    evaluateParsed (g.mask ignore) q mode ignore minChars =
      { evaluateParsed g q mode ignore minChars with
        grid := (evaluateParsed g q mode ignore minChars).grid.mask ignore } := by
  have summary_mask : ∀ (k : Grid) (active : Bool),
      Summary.ofGrid (k.mask ignore) active = Summary.ofGrid k active :=
    fun k active => Summary.ofGrid_congr k.flags_mask active
  by_cases short : Query.isDegenerate q.raw minChars = true
  · simp only [evaluateParsed, short, if_true, Grid.reset_mask, summary_mask]
  · by_cases columns : ignore.hasColumns = true
    · simp only [evaluateParsed, short, columns, if_true, if_false, Bool.false_eq_true,
        Grid.reset_mask, Grid.applyWhole_mask, summary_mask]
    · simp only [evaluateParsed, short, columns, if_false, Bool.false_eq_true,
        Grid.reset_mask, Grid.applyTerms_mask, summary_mask]

/-! ## Highlights of ignored cells -/

/-- No ignored cell of the row is highlighted. -/
def Row.IgnoredUnlit (ignore : IgnoreSet) (r : Row) : Prop :=
  ∀ (column : Nat) (c : Cell), r.cells[column]? = some c → ignore.contains column c = true →
    c.highlighted = false

namespace Row

theorem ignoredUnlit_reset (r : Row) (visible : Bool) : (r.reset visible).IgnoredUnlit ignore := by
  intro column c hc _
  rw [reset, List.getElem?_map, Option.map_eq_some_iff] at hc
  obtain ⟨_, _, rfl⟩ := hc
  rfl

/-- One sign highlights no ignored cell. -/
theorem IgnoredUnlit.applySign {r : Row} (h : r.IgnoredUnlit ignore) (sign : Sign) :
    (r.applySign sign ignore m).IgnoredUnlit ignore := by
  intro column c hc hi
  rw [applySign_cells, List.getElem?_mapIdx, Option.map_eq_some_iff] at hc
  obtain ⟨d, hd, rfl⟩ := hc
  -- Whether a cell is ignored does not depend on its highlight.
  have ignored : ignore.contains column d = true := hi
  have no_hit : d.isHit ignore m column = false := by rw [Cell.isHit, ignored]; rfl
  simp [h column d hd ignored, no_hit]

/-- No run of terms highlights an ignored cell. -/
theorem IgnoredUnlit.applyTerms {r : Row} (h : r.IgnoredUnlit ignore) (ts : List Term) :
    (r.applyTerms mode ignore ts).IgnoredUnlit ignore := by
  refine applyTerms_of_step (fun t _ s before => ?_) h
  exact before.applySign t.sign

theorem ignoredUnlit_evaluate (q : ParsedQuery) (minChars : UInt64) (r : Row) :
    (r.evaluate q mode ignore minChars).IgnoredUnlit ignore := by
  unfold evaluate
  split
  · exact r.ignoredUnlit_reset true
  · split
    · exact (r.ignoredUnlit_reset false).applySign .reveal
    · exact (r.ignoredUnlit_reset false).applyTerms q.terms

end Row

/-- **The texts of ignored cells reach nothing.** Two grids that differ in the texts
of ignored cells only, and in flags, are evaluated to the same flags in every row
and every cell, with the same summary and the same log. And an evaluation leaves no
ignored cell highlighted. -/
theorem evaluateParsed_noninterference (q : ParsedQuery) (mode : MatchMode)
    (ignore : IgnoreSet) (minChars : UInt64) :
    (∀ g h : Grid, g.SameOutside ignore h →
      (evaluateParsed g q mode ignore minChars).grid.flags =
        (evaluateParsed h q mode ignore minChars).grid.flags ∧
      (evaluateParsed g q mode ignore minChars).summary =
        (evaluateParsed h q mode ignore minChars).summary ∧
      (evaluateParsed g q mode ignore minChars).log =
        (evaluateParsed h q mode ignore minChars).log) ∧
    ∀ g : Grid, ∀ r ∈ (evaluateParsed g q mode ignore minChars).grid.rows,
      r.IgnoredUnlit ignore := by
  refine ⟨fun g h same => ?_, fun g r hr => ?_⟩
  · -- The masked grids have the same content, so their evaluations are one and the
    -- same, and these are the masked evaluations of `g` and `h`.
    have masked : ({ evaluateParsed g q mode ignore minChars with
          grid := (evaluateParsed g q mode ignore minChars).grid.mask ignore } : Evaluation) =
        { evaluateParsed h q mode ignore minChars with
          grid := (evaluateParsed h q mode ignore minChars).grid.mask ignore } := by
      rw [← evaluateParsed_mask, ← evaluateParsed_mask]
      exact evaluateParsed_congr same.mask_sameContent q mode ignore minChars
    obtain ⟨grid_eq, summary_eq, log_eq⟩ := Evaluation.mk.inj masked
    refine ⟨?_, summary_eq, log_eq⟩
    calc (evaluateParsed g q mode ignore minChars).grid.flags
        = ((evaluateParsed g q mode ignore minChars).grid.mask ignore).flags :=
          (Grid.flags_mask _).symm
      _ = ((evaluateParsed h q mode ignore minChars).grid.mask ignore).flags := by rw [grid_eq]
      _ = (evaluateParsed h q mode ignore minChars).grid.flags := Grid.flags_mask _
  · rw [evaluateParsed_grid] at hr
    obtain ⟨s, _, rfl⟩ := List.mem_map.1 hr
    exact s.ignoredUnlit_evaluate q minChars

/-- A tagged cell that holds what is looked for in one grid and not in the other. -/
theorem evaluateParsed_noninterference_tagged :
    Grid.SameOutside { tag := some ['n'] }
      ⟨[{ cells := [{ text := ['a'] }, { text := ['x'], tags := [['n']] }] }]⟩
      ⟨[{ cells := [{ text := ['a'] }, { text := ['y'], tags := [['n']] }], visible := false }]⟩ ∧
    (evaluateParsed ⟨[{ cells := [{ text := ['a'] }, { text := ['x'], tags := [['n']] }] }]⟩
        (.ofText ['x']) .findAny { tag := some ['n'] } 1).grid.flags =
      (evaluateParsed
        ⟨[{ cells := [{ text := ['a'] }, { text := ['y'], tags := [['n']] }], visible := false }]⟩
        (.ofText ['x']) .findAny { tag := some ['n'] } 1).grid.flags := by
  have same : Grid.SameOutside { tag := some ['n'] }
      ⟨[{ cells := [{ text := ['a'] }, { text := ['x'], tags := [['n']] }] }]⟩
      ⟨[{ cells := [{ text := ['a'] }, { text := ['y'], tags := [['n']] }], visible := false }]⟩ := by
    refine .cons ⟨rfl, fun column c d hc hd => ?_⟩ .nil
    match column with
    | 0 =>
      obtain ⟨rfl, rfl⟩ := And.intro (Option.some.inj hc) (Option.some.inj hd)
      exact ⟨rfl, rfl, fun _ => rfl⟩
    | 1 =>
      obtain ⟨rfl, rfl⟩ := And.intro (Option.some.inj hc) (Option.some.inj hd)
      exact ⟨rfl, rfl, fun kept => absurd kept (by decide)⟩
    | _ + 2 => simp at hc
  exact ⟨same, ((evaluateParsed_noninterference (.ofText ['x']) .findAny _ 1).1 _ _ same).1⟩

end GridFilter
