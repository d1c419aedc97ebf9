/-
Queries that grow at the end.

Whoever types on adds terms behind those that are there, and would like to know what
can change. What the terms before have left of the grid is what the terms that are
added begin with (`evaluate_rows_append`), so this is a question about one row and some
terms, whatever was done to the row before.

Three answers are given for a row, each as a step and as a run. No term takes a
highlight back (`litWithin_applyTerms`). Terms that reveal take no row away
(`applyTerms_visible_mono`). And terms that hide or narrow do not look at a row that
is hidden, so they leave it as it is, highlights included (`applyTerms_of_hidden`).
-/
import GridFilter.Proofs.Evaluation.TermAlgebra

set_option autoImplicit false

namespace GridFilter

namespace Row

/-- The second row has the cells of the first, and every highlight of the first. -/
structure LitWithin (r s : Row) : Prop where
  content : r.SameContent s
  highlighted : ∀ (column : Nat) (c d : Cell), r.cells[column]? = some c →
    s.cells[column]? = some d → c.highlighted = true → d.highlighted = true

variable {mode : MatchMode} {ignore : IgnoreSet} {m : Matcher} {r s t : Row}

namespace LitWithin

theorem refl (r : Row) : r.LitWithin r where
  content := .refl r
  highlighted column c d hc hd lit := by
    rw [hc, Option.some.injEq] at hd
    rwa [← hd]

theorem trans (h : r.LitWithin s) (h' : s.LitWithin t) : r.LitWithin t where
  content := h.content.trans h'.content
  highlighted column c e hc he lit := by
    obtain ⟨d, hd, _⟩ := h.content.getElem? hc
    have lit_between : d.highlighted = true := h.highlighted column c d hc hd lit
    exact h'.highlighted column d e hd he lit_between

end LitWithin

/-! ## No highlight is taken back -/

/-- A term keeps every highlight, whatever its sign is. -/
theorem litWithin_applySign (sign : Sign) (r : Row) :
    r.LitWithin (r.applySign sign ignore m) where
  content := (applySign_sameContent sign r).symm
  highlighted column c d hc hd lit := by
    rw [getElem?_applySign_cells sign hc, Option.some.injEq] at hd
    rw [← hd, lit, Bool.true_or]

/-- **A run of terms keeps every highlight.** -/
theorem litWithin_applyTerms (r : Row) (ts : List Term) :
    r.LitWithin (r.applyTerms mode ignore ts) := by
  refine applyTerms_of_step (fun t _ s within => ?_) (.refl r)
  exact within.trans (litWithin_applySign t.sign s)

/-! ## Terms that reveal take no row away -/

/-- A row that is visible stays visible behind terms that reveal. -/
theorem applyTerms_visible_mono {ts : List Term} (reveals : ∀ t ∈ ts, t.sign = .reveal)
    (visible : r.visible = true) : (r.applyTerms mode ignore ts).visible = true := by
  rw [applyTerms_of_reveal reveals, visible, Bool.true_or]

/-! ## Terms that take away leave a hidden row alone -/

/-- A row that is hidden is looked at by no term but one that reveals. -/
theorem applySign_of_hidden {sign : Sign} (takes : sign ≠ .reveal) (hidden : r.visible = false) :
    r.applySign sign ignore m = r := by
  have skipped : ¬(sign = .reveal ∨ r.visible = true) := by
    rintro (reveals | visible)
    · exact takes reveals
    · exact absurd hidden (by simp [visible])
  rw [applySign, if_neg skipped]

/-- **A hidden row passes through terms that hide or narrow unchanged**, highlights
included. -/
theorem applyTerms_of_hidden {ts : List Term} (takes : ∀ t ∈ ts, t.sign ≠ .reveal)
    (hidden : r.visible = false) : r.applyTerms mode ignore ts = r := by
  refine applyTerms_of_step (p := fun s => s = r) (fun t ht s before => ?_) rfl
  rw [before]
  exact applySign_of_hidden (takes t ht) hidden

/-- So a row that is visible behind such terms was visible in front of them. -/
theorem visible_of_applyTerms_visible {ts : List Term} (takes : ∀ t ∈ ts, t.sign ≠ .reveal)
    (visible : (r.applyTerms mode ignore ts).visible = true) : r.visible = true := by
  by_contra hidden
  have untouched := @applyTerms_of_hidden mode ignore r ts takes (Bool.eq_false_iff.2 hidden)
  rw [untouched] at visible
  exact hidden visible

end Row

/-! ## Queries -/

/-- The terms that are added are applied to what the query without them leaves. -/
theorem evaluate_rows_append {ignore : IgnoreSet} {raw raw' : Text} {minChars : UInt64}
    {ts : List Term} (g : Grid) (mode : MatchMode)
    (long : Query.isDegenerate raw minChars = false)
    (long' : Query.isDegenerate raw' minChars = false) (no_columns : ignore.hasColumns = false)
    (extended : Query.terms raw' = Query.terms raw ++ ts) :
    (evaluate g raw' mode ignore minChars).grid.rows =
      (evaluate g raw mode ignore minChars).grid.rows.map (Row.applyTerms mode ignore · ts) := by
  rw [evaluate_rows_of_terms g mode long' no_columns, evaluate_rows_of_terms g mode long no_columns,
    List.map_map]
  refine List.map_congr_left fun r _ => ?_
  rw [extended, Row.applyTerms_append]
  rfl

/-- **What can change when a query grows.** Both queries are long enough to filter by, no
columns are ignored, and the second has the terms of the first and then some more. Then,
row by row, every highlight that the first leaves is left by the second. If the terms
that are added all reveal, every row that was visible still is. If none of them does, no
row becomes visible, and a row that was hidden is as it was, without a highlight more. -/
theorem evaluate_append_monotone (g : Grid) (mode : MatchMode) (ignore : IgnoreSet)
    (minChars : UInt64) {raw raw' : Text} {ts : List Term}
    (long : Query.isDegenerate raw minChars = false)
    (long' : Query.isDegenerate raw' minChars = false) (no_columns : ignore.hasColumns = false)
    (extended : Query.terms raw' = Query.terms raw ++ ts) :
    let before := (evaluate g raw mode ignore minChars).grid
    let after := (evaluate g raw' mode ignore minChars).grid
    List.Forall₂ Row.LitWithin before.rows after.rows ∧
    ((∀ t ∈ ts, t.sign = .reveal) →
      List.Forall₂ (fun r s => r.visible = true → s.visible = true) before.rows after.rows) ∧
    ((∀ t ∈ ts, t.sign ≠ .reveal) →
      List.Forall₂ (fun r s => (s.visible = true → r.visible = true) ∧
        (r.visible = false → s = r)) before.rows after.rows) := by
  intro before after
  have after_eq : after.rows = before.rows.map (Row.applyTerms mode ignore · ts) :=
    evaluate_rows_append g mode long long' no_columns extended
  rw [after_eq]
  simp only [List.forall₂_map_right_iff, List.forall₂_same]
  refine ⟨fun r _ => Row.litWithin_applyTerms r ts, fun reveals r _ visible => ?_,
    fun takes r _ => ⟨fun visible => ?_, fun hidden => ?_⟩⟩
  · exact Row.applyTerms_visible_mono reveals visible
  · exact Row.visible_of_applyTerms_visible takes visible
  · exact Row.applyTerms_of_hidden takes hidden

/-- A row that was hidden comes back when the query grows by a term that reveals, and is
left alone, a cell that matches included, when it grows by one that narrows. -/
theorem evaluate_append_monotone_hidden_row :
    let g : Grid :=
      ⟨[{ cells := [{ text := ['a'] }, { text := ['c'] }] },
        { cells := [{ text := ['a', 'b'] }, { text := ['c'] }] }]⟩
    let run (raw : String) := (evaluate g raw.toList .findAny {} 1).grid
    (Query.terms "a -b +c".toList = Query.terms "a -b".toList ++ [⟨.reveal, ['c']⟩] ∧
      List.Forall₂ (fun r s : Row => r.visible = true → s.visible = true)
        (run "a -b").rows (run "a -b +c").rows ∧
      (run "a -b +c").rows.map Row.highlightedColumns = [[0, 1], [0, 1]]) ∧
    (Query.terms "a -b c".toList = Query.terms "a -b".toList ++ [⟨.narrow, ['c']⟩] ∧
      List.Forall₂ Row.LitWithin (run "a -b").rows (run "a -b c").rows ∧
      (run "a -b c").rows.map Row.highlightedColumns = [[0, 1], [0]]) := by
  intro g run
  refine ⟨⟨by decide, ?_, by decide⟩, ⟨by decide, ?_, by decide⟩⟩
  · exact (@evaluate_append_monotone g .findAny {} 1 "a -b".toList "a -b +c".toList
      [⟨.reveal, ['c']⟩] (by decide) (by decide) (by decide) (by decide)).2.1 (by decide)
  · exact (@evaluate_append_monotone g .findAny {} 1 "a -b".toList "a -b c".toList
      [⟨.narrow, ['c']⟩] (by decide) (by decide) (by decide) (by decide)).1

end GridFilter
