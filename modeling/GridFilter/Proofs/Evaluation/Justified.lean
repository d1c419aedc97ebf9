/-
Visible rows show why.

While a filter is active, a row is visible because something was found in it, and
what was found is highlighted. A later term may highlight more of the row or hide it,
but it takes no highlight back. So at every point of an evaluation that filters, a
row is hidden or has a highlighted cell (`Row.Justified`), and there are at least as many
highlighted cells as visible rows.

A row with a highlighted cell need not be visible: whatever a term that hides has found
stays highlighted. It is visible as long as nothing but terms that reveal was applied
(`Row.ShownIfLit`), which is so for a query that is matched as a whole, and for a query in
which every term reveals. Both halves are kept by one sign and so by a run of them.
-/
import GridFilter.Proofs.Evaluation.IgnoredCells

set_option autoImplicit false

namespace GridFilter

namespace Row

/-- Some cell of the row is highlighted. -/
def IsLit (r : Row) : Prop :=
  ∃ (column : Nat) (c : Cell), r.cells[column]? = some c ∧ c.highlighted = true

/-- The row is hidden or has a highlighted cell. -/
def Justified (r : Row) : Prop := r.visible = true → r.IsLit

variable {mode : MatchMode} {ignore : IgnoreSet} {m : Matcher} {r : Row}

/-- No sign takes a highlight back. -/
theorem IsLit.applySign (h : r.IsLit) (sign : Sign) : (r.applySign sign ignore m).IsLit := by
  obtain ⟨column, c, hc, lit⟩ := h
  exact ⟨column, _, getElem?_applySign_cells sign hc, by simp [lit]⟩

/-- What a term that reveals has found is highlighted. -/
theorem isLit_of_found (h : r.found ignore m = true) :
    (r.applySign .reveal ignore m).IsLit := by
  obtain ⟨column, c, hc, hit⟩ := found_eq_true_iff.1 h
  exact ⟨column, _, getElem?_applySign_cells .reveal hc, by simp [hit]⟩

theorem justified_reset (r : Row) : (r.reset false).Justified :=
  fun visible => absurd visible Bool.false_ne_true

/-- One sign leaves a row justified. -/
theorem Justified.applySign (h : r.Justified) (sign : Sign) :
    (r.applySign sign ignore m).Justified := by
  intro visible
  by_cases before : r.visible = true
  · exact (h before).applySign sign
  · -- A row that was hidden is only made visible by a find of a term that reveals.
    rw [applySign_visible, Bool.eq_false_iff.2 before] at visible
    cases sign with
    | reveal => exact isLit_of_found (by simpa using visible)
    | hide | narrow => simp at visible

/-- A run of terms leaves a row justified. -/
theorem Justified.applyTerms (h : r.Justified) (ts : List Term) :
    (r.applyTerms mode ignore ts).Justified := by
  refine applyTerms_of_step (fun t _ s before => ?_) h
  exact before.applySign t.sign

/-- **After an evaluation that filters, every visible row has a highlighted cell.** -/
theorem justified_evaluate {q : ParsedQuery} {minChars : UInt64}
    (long : Query.isDegenerate q.raw minChars = false) (r : Row) :
    (r.evaluate q mode ignore minChars).Justified := by
  rw [evaluate, long, if_neg Bool.false_ne_true]
  split
  · exact (justified_reset r).applySign .reveal
  · exact (justified_reset r).applyTerms q.terms

/-- The cell that shows why is one that matching may look at. -/
theorem Justified.exists_seen (h : r.Justified) (unlit : r.IgnoredUnlit ignore)
    (visible : r.visible = true) :
    ∃ (column : Nat) (c : Cell), r.cells[column]? = some c ∧
      ignore.contains column c = false ∧ c.highlighted = true := by
  obtain ⟨column, c, hc, lit⟩ := h visible
  refine ⟨column, c, hc, ?_, lit⟩
  -- If the cell were ignored, it would not be highlighted.
  by_contra kept
  have dark : c.highlighted = false := unlit column c hc (by simpa using kept)
  rw [lit] at dark
  cases dark

/-! ## Rows that are visible because they are highlighted -/

/-- The row is visible if it has a highlighted cell. -/
def ShownIfLit (r : Row) : Prop := r.IsLit → r.visible = true

theorem not_isLit_reset (r : Row) (visible : Bool) : ¬ (r.reset visible).IsLit := by
  rintro ⟨column, c, hc, lit⟩
  rw [reset, List.getElem?_map, Option.map_eq_some_iff] at hc
  obtain ⟨_, _, rfl⟩ := hc
  exact Bool.false_ne_true lit

theorem shownIfLit_reset (r : Row) (visible : Bool) : (r.reset visible).ShownIfLit :=
  fun lit => absurd lit (r.not_isLit_reset visible)

/-- A term that reveals shows every row in which it highlights anything. -/
theorem ShownIfLit.applySign_reveal (h : r.ShownIfLit) :
    (r.applySign .reveal ignore m).ShownIfLit := by
  rintro ⟨column, d, hd, lit⟩
  rw [applySign_cells, List.getElem?_mapIdx, Option.map_eq_some_iff] at hd
  obtain ⟨c, hc, rfl⟩ := hd
  -- The cell was highlighted already, or this term has just found it.
  have before_or_now : c.highlighted = true ∨ c.isHit ignore m column = true := by simpa using lit
  have visible : (r.applySign .reveal ignore m).visible = (r.visible || r.found ignore m) :=
    applySign_visible .reveal r
  rw [visible, Bool.or_eq_true]
  rcases before_or_now with before | hit
  · exact .inl (h ⟨column, c, hc, before⟩)
  · exact .inr (found_eq_true_iff.2 ⟨column, c, hc, hit⟩)

/-- A run of terms that reveal shows every row in which it highlights anything. -/
theorem ShownIfLit.applyTerms_of_reveal (h : r.ShownIfLit) {ts : List Term}
    (reveals : ∀ t ∈ ts, t.sign = .reveal) : (r.applyTerms mode ignore ts).ShownIfLit := by
  refine applyTerms_of_step (fun t ht s before => ?_) h
  rw [reveals t ht]
  exact before.applySign_reveal

/-- **Where nothing takes away, the visible rows are the highlighted ones.** -/
theorem visible_iff_isLit_evaluate {q : ParsedQuery} {minChars : UInt64}
    (long : Query.isDegenerate q.raw minChars = false)
    (reveals : ignore.hasColumns = true ∨ ∀ t ∈ q.terms, t.sign = .reveal) (r : Row) :
    (r.evaluate q mode ignore minChars).visible = true ↔
      (r.evaluate q mode ignore minChars).IsLit := by
  have shown : (r.evaluate q mode ignore minChars).ShownIfLit := by
    rw [evaluate, long, if_neg Bool.false_ne_true]
    split
    · exact (r.shownIfLit_reset false).applySign_reveal
    · rename_i no_columns
      exact (r.shownIfLit_reset false).applyTerms_of_reveal (reveals.resolve_left no_columns)
  exact ⟨justified_evaluate long r, shown⟩

end Row

/-! ## Grids -/

theorem Row.IsLit.one_le_countP {r : Row} (h : r.IsLit) : 1 ≤ r.cells.countP (·.highlighted) := by
  obtain ⟨column, c, hc, lit⟩ := h
  exact List.countP_pos_iff.2 ⟨c, List.mem_of_getElem? hc, lit⟩

/-- Each visible row has a highlighted cell of its own. -/
theorem Grid.visibleCount_le_highlightedCount {g : Grid} (h : ∀ r ∈ g.rows, r.Justified) :
    g.visibleCount ≤ g.highlightedCount := by
  obtain ⟨rows⟩ := g
  simp only [visibleCount, highlightedCount]
  induction rows with
  | nil => exact Nat.le_refl 0
  | cons r rows ih =>
    obtain ⟨first, rest⟩ := List.forall_mem_cons.1 h
    have rest_le := ih rest
    rw [List.countP_cons, List.flatMap_cons, List.countP_append]
    by_cases visible : r.visible = true
    · -- One more row on the left, and at least one more cell on the right.
      have own : 1 ≤ r.cells.countP (·.highlighted) := (first visible).one_le_countP
      rw [if_pos visible]
      omega
    · rw [if_neg visible]
      omega

/-- **Visible rows show why they are visible.** The query is long enough to filter by; the
mode and the cells that are ignored may be any. Every row that is visible afterwards has a
highlighted cell that is not ignored, so the summary counts no more visible rows than
highlighted cells. If columns are ignored, or if every term reveals, the rows that are
visible are exactly those with a highlighted cell. -/
theorem evaluate_justified (g : Grid) (raw : Text) (mode : MatchMode) (ignore : IgnoreSet)
    (minChars : UInt64) (long : Query.isDegenerate raw minChars = false) :
    let after := evaluate g raw mode ignore minChars
    (∀ r ∈ after.grid.rows, r.visible = true →
      ∃ (column : Nat) (c : Cell), r.cells[column]? = some c ∧
        ignore.contains column c = false ∧ c.highlighted = true) ∧
    after.summary.visibleRows ≤ after.summary.highlightedCells ∧
    ((ignore.hasColumns = true ∨ ∀ t ∈ Query.terms raw, t.sign = .reveal) →
      ∀ r ∈ after.grid.rows, (r.visible = true ↔ r.IsLit)) := by
  intro after
  have justified : ∀ r ∈ after.grid.rows, r.Justified :=
    forall_rows_evaluateParsed (Row.justified_evaluate long) g
  have unlit : ∀ r ∈ after.grid.rows, r.IgnoredUnlit ignore :=
    forall_rows_evaluateParsed (Row.ignoredUnlit_evaluate (.ofText raw) minChars) g
  refine ⟨fun r hr visible => ?_, ?_, fun reveals => ?_⟩
  · exact (justified r hr).exists_seen (unlit r hr) visible
  · have counted : after.summary = Summary.ofGrid after.grid _ := evaluate_summary g raw minChars
    rw [counted]
    exact Grid.visibleCount_le_highlightedCount justified
  · exact forall_rows_evaluateParsed (Row.visible_iff_isLit_evaluate long reveals) g

/-- A row that is hidden again keeps the highlight of what revealed it. Where every term
reveals, no row is hidden again. -/
theorem evaluate_justified_hidden_row :
    let g : Grid :=
      ⟨[{ cells := [{ text := ['a', 'b'] }] },
        { cells := [{ text := ['a'] }, { text := ['b'], tags := [['n']] }] },
        { cells := [{ text := ['c'] }] }]⟩
    let run (raw : String) := evaluate g raw.toList .findAny { tag := some ['n'] } 1
    Query.isDegenerate "a -b".toList 1 = false ∧
      (run "a -b").summary.visibleRows ≤ (run "a -b").summary.highlightedCells ∧
      (run "a -b").grid.rows.map (fun r => (r.visible, r.highlightedColumns)) =
        [(false, [0]), (true, [0]), (false, [])] ∧
    Query.isDegenerate "a +b".toList 1 = false ∧
      (∀ t ∈ Query.terms "a +b".toList, t.sign = .reveal) ∧
      (∀ r ∈ (run "a +b").grid.rows, (r.visible = true ↔ r.IsLit)) ∧
      (run "a +b").grid.rows.map (fun r => (r.visible, r.highlightedColumns)) =
        [(true, [0]), (true, [0]), (false, [])] := by
  intro g run
  have long : Query.isDegenerate "a -b".toList 1 = false := by decide
  have long' : Query.isDegenerate "a +b".toList 1 = false := by decide
  have reveals : ∀ t ∈ Query.terms "a +b".toList, t.sign = .reveal := by decide
  obtain ⟨_, counts, _⟩ := evaluate_justified g "a -b".toList .findAny { tag := some ['n'] } 1 long
  obtain ⟨_, _, exact_rows⟩ :=
    evaluate_justified g "a +b".toList .findAny { tag := some ['n'] } 1 long'
  exact ⟨long, counts, by decide, long', reveals, exact_rows (.inr reveals), by decide⟩

end GridFilter
